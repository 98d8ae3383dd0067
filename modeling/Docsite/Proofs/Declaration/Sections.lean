/-
**Keys without meaning.**

The sections of a declaration lie inside each other: a section has keys of its own, and some of them
hold further sections. A field whose key is not declared where it stands has no meaning. It stands at a
place of the document, and a key path leads to it.

* `SectionKind`, `Slot`: which sections there are and which of their keys hold sections.
* `Meaningless`: a field without meaning, with its place and its key path.
* `SectionKind.meaningless`: all of them, in the order of the document, by `mem_meaningless` and
  `inOrder_meaningless`.
-/

import Mathlib.Data.List.Lex
import Mathlib.Data.List.Zip
import Docsite.Declaration.Reader
import Docsite.Json.Dialect

namespace Docsite

open Json (Value)

/-! ## Sections -/

/-- The sections of a declaration. -/
inductive SectionKind where
  | site
  | headTag
  | docs
  | pages
  | theme
  | themeConfig
  | navbar
  | footer
  | footerGroup
  | logo
  | link
  deriving DecidableEq, Repr

/-- How a field holds sections. -/
inductive SlotForm where
  /-- The field is the section. -/
  | plain
  /-- The field is the section unless it counts as absent. -/
  | optional
  /-- The field lists sections. -/
  | list
  deriving DecidableEq, Repr

namespace SectionKind

/-- How many sections can lie below a section, each inside the one before. -/
def depth : SectionKind → Nat
  | .site => 4
  | .themeConfig => 3
  | .footer => 2
  | .navbar | .footerGroup => 1
  | .headTag | .docs | .pages | .theme | .logo | .link => 0

/-- A field of a section that holds further sections, which are less deep. -/
structure Slot (kind : SectionKind) where
  form : SlotForm
  inner : SectionKind
  isDeeper : inner.depth < kind.depth
  deriving DecidableEq

/-- The keys of a section, in the order in which they are declared. -/
def keys : SectionKind → SectionKeys
  | .site => SiteDeclaration.keys
  | .headTag => [("tagName", false), ("attributes", true)]
  | .docs => [("path", false), ("routeBasePath", false), ("sidebarPath", false), ("editUrl", false)]
  | .pages => [("path", false)]
  | .theme => [("customCss", false)]
  | .themeConfig => [("navbar", true), ("footer", false)]
  | .navbar => [("title", false), ("logo", false), ("items", true)]
  | .footer => [("style", false), ("links", true), ("logo", false), ("copyright", false)]
  | .footerGroup => [("title", false), ("items", true)]
  | .logo => [("alt", false), ("src", false), ("href", false)]
  | .link => [("label", false), ("to", false), ("href", false), ("position", false)]

/-- The keys that hold further sections. -/
def slots : (kind : SectionKind) → List (String × Slot kind)
  | .site => [
    ("headTags", ⟨.list, .headTag, by decide⟩), ("docs", ⟨.plain, .docs, by decide⟩),
    ("pages", ⟨.plain, .pages, by decide⟩), ("theme", ⟨.plain, .theme, by decide⟩),
    ("themeConfig", ⟨.plain, .themeConfig, by decide⟩)]
  | .themeConfig => [
    ("navbar", ⟨.plain, .navbar, by decide⟩), ("footer", ⟨.optional, .footer, by decide⟩)]
  | .navbar => [("logo", ⟨.optional, .logo, by decide⟩), ("items", ⟨.list, .link, by decide⟩)]
  | .footer => [
    ("links", ⟨.list, .footerGroup, by decide⟩), ("logo", ⟨.optional, .logo, by decide⟩)]
  | .footerGroup => [("items", ⟨.list, .link, by decide⟩)]
  | .headTag | .docs | .pages | .theme | .logo | .link => []

/-- What holds of a section if it holds of the sections inside it holds of every section. -/
theorem byNesting {motive : SectionKind → Prop}
    (nest : ∀ kind, (∀ slot : Slot kind, motive slot.inner) → motive kind) (kind : SectionKind) :
    motive kind :=
  nest kind fun slot => byNesting nest slot.inner
termination_by kind.depth
decreasing_by exact slot.isDeeper

end SectionKind

/-! ## Fields without meaning -/

/-- The way from the top of a document to a value inside it: the number of each member or item that is
stepped into, among those of its object or list. Places in ascending order stand in the order of the
document. -/
abbrev Place := List Nat

/-- A field of a section at its number: a member of an object, or an item of an array that lists the
fields as they are declared. -/
inductive FieldAt (keys : SectionKeys) : Value → Nat → Field Value → Prop
  | named {members : List (Option String × Value)} {i : Nat} {key : String} {value : Value} :
      members[i]? = some (some key, value) →
      FieldAt keys (.object members) i { step := key, key, value }
  | positional {items : List Value} {i : Nat} {key : String} {leftOut : Bool} {value : Value} :
      keys[i]? = some (key, leftOut) → items[i]? = some value →
      FieldAt keys (.array items) i { step := toString i, key, value }

/-- A field without meaning, with its place in a value that is read as a section, or as sections in
some form, and the key path that leads to it: a list is stepped through by numbers, and a section that
may be absent by `?`. -/
inductive Meaningless : SlotForm → SectionKind → Value → Place → KeyPath → Prop
  | here {kind : SectionKind} {value : Value} {i : Nat} {field : Field Value} :
      FieldAt kind.keys value i field → field.key ∉ kind.keys.map Prod.fst →
      Meaningless .plain kind value [i] [field.step]
  | field {kind : SectionKind} {slot : kind.Slot} {value : Value} {i : Nat} {field : Field Value}
      {place : Place} {path : KeyPath} :
      FieldAt kind.keys value i field → kind.slots.lookup field.key = some slot →
      Meaningless slot.form slot.inner field.value place path →
      Meaningless .plain kind value (i :: place) (field.step :: path)
  | optional {kind : SectionKind} {value : Value} {place : Place} {path : KeyPath} :
      Meaningless .plain kind value place path → Meaningless .optional kind value place ("?" :: path)
  | item {kind : SectionKind} {items : List Value} {i : Nat} {value : Value} {place : Place}
      {path : KeyPath} :
      items[i]? = some value → Meaningless .plain kind value place path →
      Meaningless .list kind (.array items) (i :: place) (toString i :: path)

/-! ## All of them, in order -/

/-- What lies below the items of a list, with the number of the item in front of every place. -/
def numbered {α : Type} (start : Nat) (below : Nat → α → List (Place × KeyPath)) (items : List α) :
    List (Place × KeyPath) :=
  (items.zipIdx start).flatMap fun item =>
    (below item.2 item.1).map (Prod.map (item.2 :: ·) id)

/-- A step of a key path, and on from there. -/
def stepped (step : String) (below : List (Place × KeyPath)) : List (Place × KeyPath) :=
  below.map (Prod.map id (step :: ·))

/-- A member as a field, if its key is a text. -/
def Field.ofMember? (member : Option String × Value) : Option (Field Value) :=
  member.1.map fun key => { step := key, key, value := member.2 }

/-- An item as a field, with the declared key in its place and its number. -/
def Field.ofItem (item : ((String × Bool) × Value) × Nat) : Field Value :=
  { step := toString item.2, key := item.1.1.1, value := item.1.2 }

/-- The fields of a value, with a gap where a key is no text. -/
def fieldsOf (keys : SectionKeys) : Value → List (Option (Field Value))
  | .object members => members.map Field.ofMember?
  | .array items => ((keys.zip items).zipIdx.map Field.ofItem).map some
  | _ => []

/-- The fields without meaning in a value that holds sections in some form. -/
def SlotForm.meaningless (inside : Value → List (Place × KeyPath)) :
    SlotForm → Value → List (Place × KeyPath)
  | .plain, value => inside value
  | .optional, value => stepped "?" (inside value)
  | .list, .array items => numbered 0 (fun i item => stepped (toString i) (inside item)) items
  | .list, _ => []

namespace SectionKind

/-- The fields without meaning at a field: those in the sections it holds, or the field itself. -/
def meaninglessAt (kind : SectionKind) (inside : kind.Slot → Value → List (Place × KeyPath))
    (field : Field Value) : List (Place × KeyPath) :=
  stepped field.step <| match kind.slots.lookup field.key with
    | some slot => slot.form.meaningless (inside slot) field.value
    | none => if field.key ∈ kind.keys.map Prod.fst then [] else [([], [])]

/-- The fields without meaning in a section, in the order of the document. -/
def meaningless (kind : SectionKind) (value : Value) : List (Place × KeyPath) :=
  numbered 0 (fun _ field => field.elim []
    (kind.meaninglessAt fun slot inner => slot.inner.meaningless inner)) (fieldsOf kind.keys value)
termination_by kind.depth
decreasing_by exact slot.isDeeper

end SectionKind

section Numbered

variable {α : Type} {start : Nat} {below : Nat → α → List (Place × KeyPath)}

theorem numbered_cons (item : α) (items : List α) :
    numbered start below (item :: items) =
      (below start item).map (Prod.map (start :: ·) id) ++
        numbered (start + 1) below items :=
  rfl

theorem numbered_append (front back : List α) :
    numbered start below (front ++ back) =
      numbered start below front ++ numbered (start + front.length) below back := by
  rw [numbered, List.zipIdx_append, List.flatMap_append]
  rfl

theorem map_snd_numbered (items : List α) :
    (numbered start below items).map Prod.snd =
      (items.zipIdx start).flatMap fun item => (below item.2 item.1).map Prod.snd := by
  rw [numbered, List.map_flatMap]
  simp only [List.map_map, Function.comp_def, Prod.map_snd, id]

theorem map_snd_numbered_const (below : α → List (Place × KeyPath)) (items : List α) :
    (numbered start (fun _ => below) items).map Prod.snd =
      items.flatMap fun item => (below item).map Prod.snd := by
  rw [map_snd_numbered]
  conv_rhs => rw [← List.zipIdx_map_fst start items, List.flatMap_map]

theorem map_snd_stepped (step : String) (found : List (Place × KeyPath)) :
    (stepped step found).map Prod.snd = (found.map Prod.snd).map (step :: ·) := by
  rw [stepped, List.map_map, List.map_map]
  rfl

theorem mem_stepped {step : String} {found : List (Place × KeyPath)} {place : Place}
    {path : KeyPath} :
    (place, path) ∈ stepped step found ↔ ∃ rest, path = step :: rest ∧ (place, rest) ∈ found := by
  simp only [stepped, List.mem_map, Prod.exists, Prod.map_apply, id, Prod.mk.injEq]
  constructor
  · rintro ⟨_, rest, member, rfl, rfl⟩
    exact ⟨rest, rfl, member⟩
  · rintro ⟨rest, rfl, member⟩
    exact ⟨_, rest, member, rfl, rfl⟩

theorem mem_numbered {items : List α} {place : Place} {path : KeyPath} :
    (place, path) ∈ numbered start below items ↔
      ∃ i item rest, items[i]? = some item ∧ place = (start + i) :: rest ∧
        (rest, path) ∈ below (start + i) item := by
  simp only [numbered, List.mem_flatMap, List.mem_map, Prod.exists, Prod.map_apply, id,
    Prod.mk.injEq, List.mk_mem_zipIdx_iff_le_and_getElem?_sub]
  constructor
  · rintro ⟨item, i, ⟨isPast, found⟩, rest, _, member, rfl, rfl⟩
    refine ⟨i - start, item, rest, found, ?_⟩
    rw [Nat.add_sub_cancel' isPast]
    exact ⟨rfl, member⟩
  · rintro ⟨i, item, rest, found, rfl, member⟩
    refine ⟨item, start + i, ⟨Nat.le_add_right _ _, ?_⟩, rest, path, member, rfl, rfl⟩
    rwa [Nat.add_sub_cancel_left]

/-- Places in ascending order. -/
def InOrder (found : List (Place × KeyPath)) : Prop :=
  found.Pairwise fun first second => first.1 < second.1

theorem InOrder.stepped {found : List (Place × KeyPath)} (ordered : InOrder found) (step : String) :
    InOrder (stepped step found) :=
  List.pairwise_map.mpr ordered

/-- What is in order below every item is in order below the list. -/
theorem InOrder.numbered {items : List α} (ordered : ∀ i, ∀ item ∈ items, InOrder (below i item)) :
    InOrder (numbered start below items) := by
  induction items generalizing start with
  | nil => exact List.Pairwise.nil
  | cons item items ih =>
    rw [numbered_cons]
    refine List.pairwise_append.mpr ⟨?_, ih fun i later member =>
      ordered i later (List.mem_cons_of_mem _ member), ?_⟩
    · refine List.pairwise_map.mpr ((ordered start item List.mem_cons_self).imp fun before => ?_)
      exact List.cons_lt_cons_iff.mpr (.inr ⟨rfl, before⟩)
    · rintro _ isHere ⟨place, path⟩ isLater
      obtain ⟨⟨rest, _⟩, -, rfl⟩ := List.mem_map.mp isHere
      obtain ⟨i, _, _, -, rfl, -⟩ := mem_numbered.mp isLater
      exact List.cons_lt_cons_iff.mpr (.inl (by omega))

end Numbered

/-! ## Every field without meaning is among them -/

theorem getElem?_fieldsOf {keys : SectionKeys} {value : Value} {i : Nat} {field : Field Value} :
    (fieldsOf keys value)[i]? = some (some field) ↔ FieldAt keys value i field := by
  constructor
  · intro found
    match value with
    | .object members =>
      obtain ⟨⟨key, value⟩, isMember, isField⟩ :=
        Option.map_eq_some_iff.mp (List.getElem?_map.symm.trans found)
      obtain ⟨text, rfl, rfl⟩ := Option.map_eq_some_iff.mp isField
      exact .named isMember
    | .array items =>
      rw [fieldsOf, List.map_map] at found
      obtain ⟨⟨⟨⟨key, leftOut⟩, value⟩, number⟩, isItem, isField⟩ :=
        Option.map_eq_some_iff.mp (List.getElem?_map.symm.trans found)
      obtain ⟨pair, isPair, isNumbered⟩ :=
        Option.map_eq_some_iff.mp (List.getElem?_zipIdx.symm.trans isItem)
      cases isNumbered
      cases isField
      rw [Nat.zero_add]
      obtain ⟨isKey, isValue⟩ := List.getElem?_zip_eq_some.mp isPair
      exact .positional isKey isValue
    | .null | .bool _ | .number _ | .string _ => cases found
  · rintro (@⟨members, _, key, value, found⟩ | @⟨items, _, key, leftOut, value, isKey, found⟩)
    · rw [fieldsOf, List.getElem?_map, found]
      rfl
    · have paired : (keys.zip items)[i]? = some ((key, leftOut), value) :=
        List.getElem?_zip_eq_some.mpr ⟨isKey, found⟩
      rw [fieldsOf, List.getElem?_map, List.getElem?_map, List.getElem?_zipIdx, paired,
        Nat.zero_add]
      rfl

theorem SlotForm.mem_meaningless {kind : SectionKind}
    (plain : ∀ {value place path},
      (place, path) ∈ kind.meaningless value ↔ Meaningless .plain kind value place path)
    {form : SlotForm} {value : Value} {place : Place} {path : KeyPath} :
    (place, path) ∈ form.meaningless kind.meaningless value ↔
      Meaningless form kind value place path := by
  cases form with
  | plain => exact plain
  | optional =>
    constructor
    · intro member
      obtain ⟨rest, rfl, inside⟩ := mem_stepped.mp member
      exact .optional (plain.mp inside)
    · rintro (_ | _ | inside)
      exact mem_stepped.mpr ⟨_, rfl, plain.mpr inside⟩
  | list =>
    constructor
    · intro member
      match value with
      | .array items =>
        rw [meaningless] at member
        obtain ⟨i, item, rest, found, rfl, inItem⟩ := mem_numbered.mp member
        obtain ⟨path, rfl, inside⟩ := mem_stepped.mp inItem
        rw [Nat.zero_add]
        exact .item found (plain.mp inside)
      | .null | .bool _ | .number _ | .string _ | .object _ => cases member
    · rintro (_ | _ | _ | @⟨_, items, i, item, place, path, found, inside⟩)
      rw [meaningless, ← Nat.zero_add i]
      refine mem_numbered.mpr ⟨i, item, place, found, rfl, ?_⟩
      exact mem_stepped.mpr ⟨path, rfl, plain.mpr inside⟩

theorem SlotForm.inOrder_meaningless {kind : SectionKind}
    (plain : ∀ value, InOrder (kind.meaningless value)) (form : SlotForm) (value : Value) :
    InOrder (form.meaningless kind.meaningless value) := by
  cases form with
  | plain => exact plain value
  | optional => exact (plain value).stepped "?"
  | list =>
    match value with
    | .array items => exact .numbered fun i item _ => (plain item).stepped (toString i)
    | .null | .bool _ | .number _ | .string _ | .object _ => exact List.Pairwise.nil

namespace SectionKind

/-- Every key that holds sections is declared. -/
theorem mem_keys_of_lookup_slots {kind : SectionKind} {key : String} {slot : kind.Slot}
    (isSlot : kind.slots.lookup key = some slot) : key ∈ kind.keys.map Prod.fst := by
  have declared : (kind.slots.map Prod.fst).Sublist (kind.keys.map Prod.fst) := by
    cases kind <;> decide
  obtain ⟨front, back, same, -⟩ := List.lookup_eq_some_iff.mp isSlot
  refine declared.subset (List.mem_map.mpr ⟨(key, slot), ?_, rfl⟩)
  rw [same]
  exact List.mem_append_right _ List.mem_cons_self

theorem mem_meaninglessAt {kind : SectionKind}
    (below : ∀ (slot : kind.Slot) {value place path},
      (place, path) ∈ slot.inner.meaningless value ↔
        Meaningless .plain slot.inner value place path)
    {field : Field Value} {place : Place} {path : KeyPath} :
    (place, path) ∈ kind.meaninglessAt (fun slot inner => slot.inner.meaningless inner) field ↔
      ∃ rest, path = field.step :: rest ∧
        (field.key ∉ kind.keys.map Prod.fst ∧ place = [] ∧ rest = [] ∨
          ∃ slot, kind.slots.lookup field.key = some slot ∧
            Meaningless slot.form slot.inner field.value place rest) := by
  rw [meaninglessAt, mem_stepped]
  refine exists_congr fun rest => and_congr_right fun _ => ?_
  cases isSlot : kind.slots.lookup field.key with
  | some slot =>
    have declared := mem_keys_of_lookup_slots isSlot
    simp only [SlotForm.mem_meaningless (below slot), declared, not_true_eq_false, false_and,
      false_or, Option.some.injEq, exists_eq_left']
  | none =>
    simp only [reduceCtorEq, false_and, exists_false, or_false]
    split
    · next declared => simp [declared]
    · next unknown => simp [unknown]

/-- **Exactly the fields without meaning are listed.** -/
theorem mem_meaningless {kind : SectionKind} {value : Value} {place : Place} {path : KeyPath} :
    (place, path) ∈ kind.meaningless value ↔ Meaningless .plain kind value place path := by
  induction kind using byNesting generalizing value place path with
  | nest kind ih =>
    have below : ∀ (slot : kind.Slot) {value place path},
        (place, path) ∈ slot.inner.meaningless value ↔
          Meaningless .plain slot.inner value place path := fun slot => ih slot
    rw [meaningless, mem_numbered]
    constructor
    · rintro ⟨i, _ | field, rest, found, rfl, member⟩
      · cases member
      · rw [Nat.zero_add]
        have isField := getElem?_fieldsOf.mp found
        obtain ⟨path, rfl, ⟨unknown, rfl, rfl⟩ | ⟨slot, isSlot, inside⟩⟩ :=
          (mem_meaninglessAt below).mp member
        · exact .here isField unknown
        · exact .field isField isSlot inside
    · rintro (@⟨_, _, i, field, isField, unknown⟩ |
        @⟨_, slot, _, i, field, place, path, isField, isSlot, inside⟩)
      · refine ⟨i, some field, [], getElem?_fieldsOf.mpr isField, by rw [Nat.zero_add], ?_⟩
        exact (mem_meaninglessAt below).mpr ⟨[], rfl, .inl ⟨unknown, rfl, rfl⟩⟩
      · refine ⟨i, some field, place, getElem?_fieldsOf.mpr isField, by rw [Nat.zero_add], ?_⟩
        exact (mem_meaninglessAt below).mpr ⟨path, rfl, .inr ⟨slot, isSlot, inside⟩⟩

/-- **The fields without meaning are listed in the order of the document.** -/
theorem inOrder_meaningless (kind : SectionKind) (value : Value) :
    InOrder (kind.meaningless value) := by
  induction kind using byNesting generalizing value with
  | nest kind ih =>
    rw [meaningless]
    refine .numbered fun _ field _ => ?_
    cases field with
    | none => exact List.Pairwise.nil
    | some field =>
      refine InOrder.stepped ?_ field.step
      split
      · next slot _ => exact slot.form.inOrder_meaningless (ih slot) field.value
      · split
        · exact List.Pairwise.nil
        · exact List.pairwise_singleton _ _

end SectionKind

end Docsite
