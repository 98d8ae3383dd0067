/-
**One more field without meaning.**

A document gains a field without meaning when a member whose key is not declared is inserted into an
object that is read as a section, wherever that section lies. The other fields without meaning keep
their key paths and their order, and those behind the new one only move on.

* `Gains`: a value with one more field without meaning than another one.
* `Gains.fieldsGain`, `Gains.fits`: what happens to the fields of its sections.
* `SectionKind.oneMore`: there is exactly one more field without meaning.
-/

import Docsite.Proofs.Declaration.Unknown

namespace Docsite

open Json (Value)

/-- The second value is the first one with one more member, whose key is not declared, in one of its
sections. The member stands at a place of the second value, and a key path leads to it. -/
inductive Gains : SlotForm → SectionKind → Value → Value → Place → KeyPath → Prop
  | here {kind : SectionKind} {front back : List (Option String × Value)} {key : String}
      {value : Value} :
      key ∉ kind.keys.map Prod.fst →
      Gains .plain kind (.object (front ++ back)) (.object (front ++ (some key, value) :: back))
        [front.length] [key]
  | named {kind : SectionKind} {slot : kind.Slot} {front back : List (Option String × Value)}
      {key : String} {inner inner' : Value} {place : Place} {path : KeyPath} :
      kind.slots.lookup key = some slot →
      Gains slot.form slot.inner inner inner' place path →
      Gains .plain kind (.object (front ++ (some key, inner) :: back))
        (.object (front ++ (some key, inner') :: back)) (front.length :: place) (key :: path)
  | positional {kind : SectionKind} {slot : kind.Slot} {front back : List Value} {key : String}
      {leftOut : Bool} {inner inner' : Value} {place : Place} {path : KeyPath} :
      kind.keys[front.length]? = some (key, leftOut) → kind.slots.lookup key = some slot →
      Gains slot.form slot.inner inner inner' place path →
      Gains .plain kind (.array (front ++ inner :: back)) (.array (front ++ inner' :: back))
        (front.length :: place) (toString front.length :: path)
  | optional {kind : SectionKind} {value value' : Value} {place : Place} {path : KeyPath} :
      Gains .plain kind value value' place path →
      Gains .optional kind value value' place ("?" :: path)
  | item {kind : SectionKind} {front back : List Value} {value value' : Value} {place : Place}
      {path : KeyPath} :
      Gains .plain kind value value' place path →
      Gains .list kind (.array (front ++ value :: back)) (.array (front ++ value' :: back))
        (front.length :: place) (toString front.length :: path)

/-! ## Fields of a section that gains a field -/

/-- What happens to the fields of a section that gains a field without meaning: there is one more
field, or one of them gains a field in the sections that it holds. -/
inductive FieldsGain (kind : SectionKind) :
    List (Option (Field Value)) → List (Option (Field Value)) → Place → KeyPath → Prop
  | here {front back : List (Option (Field Value))} {field : Field Value} :
      field.key ∉ kind.keys.map Prod.fst →
      FieldsGain kind (front ++ back) (front ++ some field :: back) [front.length] [field.step]
  | below {slot : kind.Slot} {front back : List (Option (Field Value))} {field : Field Value}
      {inner : Value} {place : Place} {path : KeyPath} :
      kind.slots.lookup field.key = some slot →
      Gains slot.form slot.inner field.value inner place path →
      FieldsGain kind (front ++ some field :: back)
        (front ++ some { field with value := inner } :: back) (front.length :: place)
        (field.step :: path)

section Gains

variable {kind : SectionKind} {value value' : Value} {place : Place} {path : KeyPath}

/-- A field that is listed at its place in the order of the keys. -/
theorem fieldsOf_array_append {keys : SectionKeys} {front : List Value} (back : List Value)
    {key : String} {leftOut : Bool} (isKey : keys[front.length]? = some (key, leftOut)) :
    ∃ before after : List (Option (Field Value)), before.length = front.length ∧
      ∀ inner, fieldsOf keys (.array (front ++ inner :: back)) =
        before ++ some { step := toString front.length, key, value := inner } :: after := by
  obtain ⟨inRange, isKey⟩ := List.getElem?_eq_some_iff.mp isKey
  obtain ⟨earlier, later, rfl, sameLength⟩ : ∃ earlier later,
      keys = earlier ++ (key, leftOut) :: later ∧ earlier.length = front.length := by
    refine ⟨keys.take front.length, keys.drop (front.length + 1), ?_,
      List.length_take_of_le inRange.le⟩
    rw [← isKey, ← List.drop_eq_getElem_cons inRange, List.take_append_drop]
  have zipped : (earlier.zip front).length = front.length := by
    rw [List.length_zip, sameLength, Nat.min_self]
  refine ⟨((earlier.zip front).zipIdx.map Field.ofItem).map some,
    (((later.zip back).zipIdx (front.length + 1)).map Field.ofItem).map some, ?_, fun inner => ?_⟩
  · rw [List.length_map, List.length_map, List.length_zipIdx, zipped]
  · rw [fieldsOf, List.zip_append sameLength, List.zipIdx_append, zipped, Nat.zero_add,
      List.map_append, List.map_append]
    rfl

theorem Gains.fieldsGain (gains : Gains .plain kind value value' place path) :
    FieldsGain kind (fieldsOf kind.keys value) (fieldsOf kind.keys value') place path := by
  cases gains with
  | @here _ front back key value unknown =>
    simp only [fieldsOf, List.map_append, List.map_cons]
    rw [← List.length_map]
    exact .here unknown
  | @named _ _ front back key inner inner' place path isSlot inside =>
    simp only [fieldsOf, List.map_append, List.map_cons]
    rw [← List.length_map]
    exact .below isSlot inside
  | @positional _ _ front back key leftOut inner inner' place path isKey isSlot inside =>
    obtain ⟨before, after, sameLength, all⟩ := fieldsOf_array_append back isKey
    rw [all, all, ← sameLength]
    exact .below isSlot inside

/-- A section that fits still does. -/
theorem Gains.fits (gains : Gains .plain kind value value' place path)
    (fits : Fits kind.keys value) : Fits kind.keys value' := by
  cases gains with
  | @here _ _ _ key _ unknown =>
    cases fits with
    | named once =>
      refine .named fun declared isKey => ?_
      have differs : some key ≠ some declared := fun same =>
        unknown (Option.some.inj same ▸ isKey)
      rw [List.map_append, List.map_cons, List.count_append, List.count_cons_of_ne differs,
        ← List.count_append, ← List.map_append]
      exact once declared isKey
  | named =>
    cases fits with
    | named once =>
      refine .named fun key declared => ?_
      rw [List.map_append, List.map_cons]
      rw [List.map_append, List.map_cons] at once
      exact once key declared
  | @positional _ _ front back _ _ inner inner' =>
    have sameLength : (front ++ inner' :: back).length = (front ++ inner :: back).length := by
      rw [List.length_append, List.length_append, List.length_cons, List.length_cons]
    cases fits with
    | positional few leftOut =>
      rw [← sameLength] at few leftOut
      exact .positional few leftOut

/-- A section that gains a field is not absent. -/
theorem Gains.isThere (gains : Gains .plain kind value value' place path) :
    Json.dialect.isAbsent? value = some false ∧ Json.dialect.isAbsent? value' = some false := by
  cases gains <;> exact ⟨rfl, rfl⟩

/-! ## The fields without meaning -/

/-- A list of fields without meaning has one entry more than another one. Behind it stand the same key
paths, at places that may have moved. -/
def OneMore (found found' : List (Place × KeyPath)) (place : Place) (path : KeyPath) : Prop :=
  ∃ front back back' : List (Place × KeyPath), found = front ++ back ∧
    found' = front ++ (place, path) :: back' ∧ back'.map Prod.snd = back.map Prod.snd

namespace OneMore

variable {found found' : List (Place × KeyPath)}

theorem stepped (more : OneMore found found' place path) (step : String) :
    OneMore (stepped step found) (stepped step found') place (step :: path) := by
  obtain ⟨front, back, back', rfl, rfl, same⟩ := more
  refine ⟨Docsite.stepped step front, Docsite.stepped step back, Docsite.stepped step back',
    ?_, ?_, ?_⟩
  · exact List.map_append
  · exact List.map_append
  · rw [map_snd_stepped, map_snd_stepped, same]

/-- One entry more below one item is one entry more below the list. -/
theorem numbered {α : Type} {below : Nat → α → List (Place × KeyPath)} {front back : List α}
    {item item' : α}
    (more : OneMore (below front.length item) (below front.length item') place path) :
    OneMore (numbered 0 below (front ++ item :: back)) (numbered 0 below (front ++ item' :: back))
      (front.length :: place) path := by
  obtain ⟨before, after, after', isBelow, isBelow', same⟩ := more
  simp only [numbered_append, numbered_cons, Nat.zero_add, isBelow, isBelow', List.map_append,
    List.map_cons, List.append_assoc, List.cons_append]
  refine ⟨_ ++ _, _, _, (List.append_assoc _ _ _).symm, (List.append_assoc _ _ _).symm, ?_⟩
  have moved : ∀ entries : List (Place × KeyPath),
      (entries.map (Prod.map (front.length :: ·) id)).map Prod.snd =
        entries.map Prod.snd := fun entries => by
    rw [List.map_map]
    rfl
  rw [List.map_append, List.map_append, moved, moved, same]

/-- One more entry between the items of a list. -/
theorem insert {α : Type} {below : α → List (Place × KeyPath)} {front back : List α} {item : α}
    (isNew : below item = [(place, path)]) :
    OneMore (Docsite.numbered 0 (fun _ => below) (front ++ back))
      (Docsite.numbered 0 (fun _ => below) (front ++ item :: back)) (front.length :: place) path := by
  refine ⟨_, _, Docsite.numbered (0 + front.length + 1) (fun _ => below) back,
    numbered_append front back, ?_, ?_⟩
  · rw [numbered_append, numbered_cons, isNew, Nat.zero_add]
    rfl
  · rw [map_snd_numbered_const, map_snd_numbered_const]

end OneMore

theorem SlotForm.oneMore {kind : SectionKind}
    (plain : ∀ {value value' place path}, Gains .plain kind value value' place path →
      OneMore (kind.meaningless value) (kind.meaningless value') place path)
    {form : SlotForm} {value value' : Value} {place : Place} {path : KeyPath}
    (gains : Gains form kind value value' place path) :
    OneMore (form.meaningless kind.meaningless value) (form.meaningless kind.meaningless value')
      place path := by
  cases form with
  | plain => exact plain gains
  | optional =>
    cases gains with
    | optional inside => exact (plain inside).stepped "?"
  | list =>
    cases gains with
    | @item _ front back value value' place path inside =>
      have inItem := (plain inside).stepped (toString front.length)
      rw [meaningless, meaningless]
      exact .numbered inItem

/-- **Where a section gains a field without meaning, there is exactly one more of them.** -/
theorem SectionKind.oneMore {kind : SectionKind} {value value' : Value} {place : Place}
    {path : KeyPath} (gains : Gains .plain kind value value' place path) :
    OneMore (kind.meaningless value) (kind.meaningless value') place path := by
  induction kind using byNesting generalizing value value' place path with
  | nest kind ih =>
    rw [meaningless, meaningless]
    have gain := gains.fieldsGain
    generalize fieldsOf kind.keys value = fields at gain ⊢
    generalize fieldsOf kind.keys value' = fields' at gain ⊢
    cases gain with
    | @here front back field unknown =>
      have isNew : kind.meaninglessAt (fun slot inner => slot.inner.meaningless inner) field =
          [([], [field.step])] := by
        have noSlot : kind.slots.lookup field.key = none :=
          Option.eq_none_iff_forall_ne_some.mpr fun slot isSlot =>
            unknown (mem_keys_of_lookup_slots isSlot)
        rw [meaninglessAt, noSlot]
        exact congrArg (stepped field.step) (if_neg unknown)
      exact .insert isNew
    | @below slot front back field inner place path isSlot inside =>
      refine .numbered ?_
      have below := (SlotForm.oneMore (ih slot) inside).stepped field.step
      simp only [Option.elim_some, meaninglessAt, isSlot]
      exact below

end Gains

end Docsite
