/-
**Sections that are written with their declared keys.**

An object whose keys are declared, in the order in which they are declared, has exactly its members as
fields, and no key in it is without meaning.

* `Fields.bind_ofMembers`: what is read from such an object.
* `Fields.Lists.text?`, `Fields.section?_of_map`, `Fields.list?_of_map`: what is read from a field.
-/

import Mathlib.Data.List.Nodup
import Docsite.Declaration.Dialect
import Docsite.Json.Dialect
import Docsite.Proofs.Declaration.Attributes

namespace Docsite

namespace Fields

variable {α β : Type}

/-- The fields of a section with named members. -/
def named (keys : SectionKeys) (members : List (String × α)) : Fields α where
  keys
  list := members.map fun member => { step := member.1, key := member.1, value := member.2 }

section Named

variable {keys : SectionKeys} {members : List (String × α)}

theorem mapM_named (keys : SectionKeys) (members : List (String × α)) :
    (members.map fun (key, value) => (some key, value)).mapM
      (fun (key, value) => key.map fun key => ({ step := key, key, value } : Field α)) =
        some (named keys members).list := by
  rw [mapM_eq_some_iff, named, List.forall₂_map_left_iff, List.forall₂_map_right_iff,
    List.forall₂_same]
  exact fun _ _ => rfl

/-- A key that is declared once names one field at most. -/
theorem once_named (declared : (members.map Prod.fst).Sublist (keys.map Prod.fst))
    (distinct : (keys.map Prod.fst).Nodup) :
    keys.all (fun (key, _) =>
      ((named keys members).list.filter (·.key == key)).length ≤ 1) = true := by
  rw [List.all_eq_true]
  rintro ⟨key, leftOut⟩ -
  show decide (((named keys members).list.filter (·.key == key)).length ≤ 1) = true
  have counted : ((named keys members).list.filter (·.key == key)).length =
      (members.map Prod.fst).count key := by
    rw [named, List.filter_map, List.length_map, List.count_eq_countP,
      List.countP_map, List.countP_eq_length_filter]
    rfl
  rw [counted, decide_eq_true_eq]
  exact List.nodup_iff_count_le_one.mp (declared.nodup distinct) key

/-- Declared keys in order, each at most once, are accepted. -/
theorem ofNamed?_eq (declared : (members.map Prod.fst).Sublist (keys.map Prod.fst))
    (distinct : (keys.map Prod.fst).Nodup) :
    ofNamed? keys (members.map fun (key, value) => (some key, value)) =
      some (named keys members) := by
  rw [ofNamed?, mapM_named keys members]
  show Option.bind (if _ then some () else none) _ = _
  rw [if_pos (once_named declared distinct)]
  rfl

theorem get?_named (key : String) : (named keys members).get? key = members.lookup key := by
  rw [get?, named]
  induction members with
  | nil => rfl
  | cons member members ih =>
    rw [List.map_cons, List.find?_cons, List.lookup_cons]
    by_cases same : member.1 = key
    · simp [same]
    · have differs : (key == member.1) = false := beq_eq_false_iff_ne.mpr (Ne.symm same)
      simp only [beq_eq_false_iff_ne.mpr same, differs]
      exact ih

/-- Declared keys all have a meaning. -/
theorem unknownKeys_named (declared : (members.map Prod.fst).Sublist (keys.map Prod.fst))
    {below : List (String × List KeyPath)} (known : ∀ entry ∈ below, entry.2 = []) :
    (named keys members).unknownKeys below = [] := by
  rw [unknownKeys, List.flatMap_eq_nil_iff]
  intro field member
  obtain ⟨⟨key, value⟩, isMember, rfl⟩ := List.mem_map.mp member
  split
  · next paths found =>
    obtain ⟨front, back, rfl, -⟩ := List.lookup_eq_some_iff.mp found
    have empty : paths = [] := known _ (List.mem_append_right _ List.mem_cons_self)
    rw [empty, List.map_nil]
  · obtain ⟨⟨_, leftOut⟩, isKey, rfl⟩ := List.mem_map.mp
      (declared.subset (List.mem_map.mpr ⟨_, isMember, rfl⟩))
    exact if_pos (List.lookup_isSome_iff.mpr ⟨_, isKey, beq_self_eq_true _⟩)

end Named

/-! ## What is read from a field of a JSON object -/

section Json

open Json (Value)

variable {keys : SectionKeys} {members : List (String × Value)}

/-- The fields of a section are some members, and no key among them is without meaning. -/
structure Lists (fields : Fields Value) (members : List (String × Value)) : Prop where
  get? (key : String) : fields.get? key = members.lookup key
  unknownKeys {below : List (String × List KeyPath)} :
    (∀ entry ∈ below, entry.2 = []) → fields.unknownKeys below = []

/-- **What is read from an object with declared keys is read from its members.** -/
theorem bind_ofMembers {next : Fields Value → Option β} {result : β}
    (declared : (members.map Prod.fst).Sublist (keys.map Prod.fst))
    (distinct : (keys.map Prod.fst).Nodup)
    (rest : ∀ fields : Fields Value, fields.Lists members → next fields = some result) :
    (of? Json.dialect keys (.ofMembers members)).bind next = some result := by
  have isNamed : of? Json.dialect keys (.ofMembers members) = some (named keys members) :=
    ofNamed?_eq declared distinct
  rw [isNamed, Option.bind_some]
  exact rest (named keys members) ⟨get?_named, unknownKeys_named declared⟩

/-- The text that a field stands for, if it is there. -/
def textOf? : Option Value → Option (Option String)
  | none => some none
  | some .null => some none
  | some (.string text) => text.map some
  | some _ => none

theorem Lists.text? {fields : Fields Value} (lists : fields.Lists members) (key : String) :
    fields.text? Json.dialect key = textOf? (members.lookup key) := by
  rw [Fields.text?, optional?, lists.get?]
  match members.lookup key with
  | none => rfl
  | some .null => rfl
  | some (.bool _) => rfl
  | some (.number _) => rfl
  | some (.string text) => rfl
  | some (.array _) => rfl
  | some (.object _) => rfl

@[simp] theorem textOf?_none : textOf? none = some none :=
  rfl

@[simp] theorem textOf?_text (text : String) : textOf? (some (.ofText text)) = some (some text) :=
  rfl

/-- A text that was written unless it is missing. -/
@[simp] theorem textOf?_map (text : Option String) :
    textOf? (text.map Value.ofText) = some text := by
  cases text with
  | none => rfl
  | some text => rfl

/-- A text that was written as `null` where it is missing. -/
@[simp] theorem textOf?_optional (text : Option String) :
    textOf? (some (.ofOptional text)) = some text := by
  cases text with
  | none => rfl
  | some text => rfl

/-- A section that was written unless it is missing. -/
theorem section?_of_map {γ : Type} {fields : Fields Value} {key : String} {write : γ → Value}
    {read : Value → Option (Reading β)} {declared : γ → β}
    (back : ∀ c, read (write c) = some { value := declared c })
    (isThere : ∀ c, Json.dialect.isAbsent? (write c) = some false) {written : Option γ}
    (found : fields.get? key = written.map write) :
    fields.section? Json.dialect read key = some { value := written.map declared } := by
  rw [section?, optional?, found]
  cases written with
  | none => rfl
  | some c =>
    rw [Option.map_some]
    dsimp only
    rw [isThere c, back c]
    rfl

/-- Items without unknown keys make a list without unknown keys. -/
theorem unknown_of_map {γ : Type} (declared : γ → β) (items : List γ) :
    ((items.map fun c => ({ value := declared c } : Reading β)).zipIdx.flatMap
      fun (inner, i) => inner.unknown.map (toString i :: ·)) = [] := by
  rw [List.flatMap_eq_nil_iff]
  rintro ⟨inner, i⟩ member
  obtain ⟨c, -, rfl⟩ := List.mem_map.mp (List.fst_mem_of_mem_zipIdx member)
  rfl

/-- A list whose items were written one after the other. -/
theorem list?_of_map {γ : Type} {fields : Fields Value} {key : String} {write : γ → Value}
    {read : Value → Option (Reading β)} {declared : γ → β} {items : List γ}
    (back : ∀ c ∈ items, read (write c) = some { value := declared c })
    (found : fields.get? key = some (.array (items.map write))) :
    fields.list? Json.dialect read key = some { value := items.map declared } := by
  have readings : (items.map write).mapM read =
      some (items.map fun c => { value := declared c }) := by
    rw [mapM_eq_some_iff, List.forall₂_map_left_iff, List.forall₂_map_right_iff, List.forall₂_same]
    exact back
  have values : (items.map fun c => ({ value := declared c } : Reading β)).map Reading.value =
      items.map declared := by
    rw [List.map_map]
    rfl
  rw [list?, found]
  show ((items.map write).mapM read).bind _ = _
  rw [readings, Option.bind_some, values, unknown_of_map]
  rfl

end Json

end Fields

end Docsite
