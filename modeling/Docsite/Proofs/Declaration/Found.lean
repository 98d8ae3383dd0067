/-
**Which fields are found in a section.**

An object has its members as fields, and an array its items, in the order in which the keys are
declared. They are found if the section fits: no declared key is named twice, and no field is left out
that must be there.

* `Fits`: a section whose fields can be found.
* `Fields.of?_eq_some_iff`: the fields that are found are all of them, in their order.
* `Fields.get?_eq_some`: a declared key has the value of the one field with that key.
-/

import Mathlib.Data.List.Count
import Mathlib.Data.List.Nodup
import Mathlib.Data.Option.Basic
import Docsite.Proofs.Declaration.Sections
import Docsite.Proofs.List.Correspondence

namespace Docsite

open Json (Value)

namespace Json

theorem items?_eq_some_iff {value : Value} {items : List Value} :
    dialect.items? value = some items ↔ value = .array items := by
  cases value with
  | array => exact Option.some_inj.trans (Value.array.injEq _ _).to_iff.symm
  | _ => simp only [dialect, reduceCtorEq]

/-- Only `null` counts as absent. -/
theorem null_or_isThere (value : Value) : value = .null ∨ dialect.isAbsent? value = some false := by
  cases value with
  | null => exact .inl rfl
  | _ => exact .inr rfl

end Json

/-- A value whose fields can be found: no declared key is named twice, and a list of fields leaves out
only what may be left out. -/
inductive Fits (keys : SectionKeys) : Value → Prop
  | named {members : List (Option String × Value)} :
      (∀ key ∈ keys.map Prod.fst, (members.map Prod.fst).count (some key) ≤ 1) →
      Fits keys (.object members)
  | positional {items : List Value} :
      items.length ≤ keys.length → (∀ declared ∈ keys.drop items.length, declared.2 = true) →
      Fits keys (.array items)

namespace Fields

section Named

variable {keys : SectionKeys} {members : List (Option String × Value)} {list : List (Field Value)}

theorem mapM_eq_some_iff_fieldsOf :
    members.mapM Field.ofMember? = some list ↔
      fieldsOf keys (.object members) = list.map some := by
  rw [mapM_eq_some_iff, fieldsOf, ← List.forall₂_eq_eq_eq, List.forall₂_map_left_iff,
    List.forall₂_map_right_iff]

theorem keys_of_fieldsOf (all : fieldsOf keys (.object members) = list.map some) :
    members.map Prod.fst = (list.map Field.key).map some := by
  rw [← mapM_eq_some_iff_fieldsOf, mapM_eq_some_iff] at all
  rw [List.map_map, ← List.forall₂_eq_eq_eq, List.forall₂_map_left_iff, List.forall₂_map_right_iff]
  refine all.imp ?_
  rintro ⟨key, value⟩ field isField
  obtain ⟨text, rfl, rfl⟩ := Option.map_eq_some_iff.mp isField
  rfl

theorem count_keys (list : List (Field Value)) (key : String) :
    (list.map Field.key).count key = (list.filter (·.key == key)).length := by
  rw [List.count, List.countP_map, List.countP_eq_length_filter]
  rfl

/-- No declared key is named twice if each of them is found once. -/
theorem once_iff_fits (all : fieldsOf keys (.object members) = list.map some) :
    (keys.all fun declared => (list.filter (·.key == declared.1)).length ≤ 1) = true ↔
      Fits keys (.object members) := by
  have counted : ∀ key, (members.map Prod.fst).count (some key) =
      (list.filter (·.key == key)).length := fun key => by
    rw [keys_of_fieldsOf all, List.count_map_of_injective _ _ (Option.some_injective _), count_keys]
  constructor
  · intro accepted
    refine .named fun key isDeclared => ?_
    obtain ⟨declared, isKey, rfl⟩ := List.mem_map.mp isDeclared
    rw [counted]
    exact of_decide_eq_true (List.all_eq_true.mp accepted _ isKey)
  · rintro ⟨once⟩
    refine List.all_eq_true.mpr fun declared isKey => decide_eq_true ?_
    rw [← counted]
    exact once declared.1 (List.mem_map_of_mem isKey)

theorem ofNamed?_eq_some_iff {fields : Fields Value} :
    ofNamed? keys members = some fields ↔
      fields.keys = keys ∧ fieldsOf keys (.object members) = fields.list.map some ∧
        Fits keys (.object members) := by
  constructor
  · intro found
    obtain ⟨list, isRead, rest⟩ := Option.bind_eq_some_iff.mp found
    obtain ⟨_, accepted, ⟨⟩⟩ := Option.bind_eq_some_iff.mp rest
    have all : fieldsOf keys (.object members) = list.map some :=
      mapM_eq_some_iff_fieldsOf.mp isRead
    exact ⟨rfl, all, (once_iff_fits all).mp ((Option.guard_eq_some' _).mp accepted)⟩
  · rintro ⟨rfl, all, fits⟩
    refine Option.bind_eq_some_iff.mpr ⟨fields.list, mapM_eq_some_iff_fieldsOf.mpr all, ?_⟩
    exact Option.bind_eq_some_iff.mpr
      ⟨(), (Option.guard_eq_some' _).mpr ((once_iff_fits all).mpr fits), rfl⟩

end Named

/-- The fields that some values stand for in the order of the keys. -/
theorem fieldsOf_array_eq {keys : SectionKeys} {items : List Value} {list : List (Field Value)} :
    fieldsOf keys (.array items) = list.map some ↔
      (keys.zip items).zipIdx.map Field.ofItem = list :=
  (List.map_injective_iff.mpr (Option.some_injective _)).eq_iff

theorem ofPositional?_eq_some_iff {keys : SectionKeys} {items : List Value}
    {fields : Fields Value} :
    ofPositional? true keys items = some fields ↔
      fields.keys = keys ∧ fieldsOf keys (.array items) = fields.list.map some ∧
        Fits keys (.array items) := by
  constructor
  · intro found
    obtain ⟨_, leftOut, rest⟩ := Option.bind_eq_some_iff.mp found
    obtain ⟨_, few, ⟨⟩⟩ := Option.bind_eq_some_iff.mp rest
    have fewer : items.length ≤ keys.length := of_decide_eq_true ((Option.guard_eq_some' _).mp few)
    exact ⟨rfl, fieldsOf_array_eq.mpr rfl, .positional fewer
      (List.all_eq_true.mp ((Option.guard_eq_some' _).mp leftOut))⟩
  · obtain ⟨own, list⟩ := fields
    rintro ⟨same, isAll, fits⟩
    obtain ⟨few, leftOut⟩ : items.length ≤ keys.length ∧
        ∀ declared ∈ keys.drop items.length, declared.2 = true := by
      cases fits with
      | positional few leftOut => exact ⟨few, leftOut⟩
    obtain rfl : own = keys := same
    obtain rfl := fieldsOf_array_eq.mp isAll
    refine Option.bind_eq_some_iff.mpr
      ⟨(), (Option.guard_eq_some' _).mpr (List.all_eq_true.mpr leftOut), ?_⟩
    exact Option.bind_eq_some_iff.mpr
      ⟨(), (Option.guard_eq_some' _).mpr (decide_eq_true few), rfl⟩

/-- **The fields of a value that fits are found, in their order.** -/
theorem of?_eq_some_iff {keys : SectionKeys} {value : Value} {fields : Fields Value} :
    of? Json.dialect keys value = some fields ↔
      fields.keys = keys ∧ fieldsOf keys value = fields.list.map some ∧ Fits keys value := by
  match value with
  | .object members => exact ofNamed?_eq_some_iff
  | .array items => exact ofPositional?_eq_some_iff
  | .null | .bool _ | .number _ | .string _ =>
    constructor
    · rintro ⟨⟩
    · rintro ⟨-, -, ⟨⟩⟩

theorem fst_zip_sublist (keys : SectionKeys) (items : List Value) :
    ((keys.zip items).map Prod.fst).Sublist keys := by
  induction keys generalizing items with
  | nil => exact .slnil
  | cons key keys ih =>
    cases items with
    | nil => exact List.nil_sublist _
    | cons item items => exact (ih items).cons_cons key

/-- A declared key occurs once. -/
theorem count_keys_le_one {keys : SectionKeys} (distinct : (keys.map Prod.fst).Nodup)
    {value : Value} {list : List (Field Value)} (all : fieldsOf keys value = list.map some)
    (fits : Fits keys value) {key : String} (declared : key ∈ keys.map Prod.fst) :
    (list.map Field.key).count key ≤ 1 := by
  cases fits with
  | named once =>
    have counted := once key declared
    rwa [keys_of_fieldsOf all, List.count_map_of_injective _ _ (Option.some_injective _)] at counted
  | @positional items =>
    have inOrder : list.map Field.key = ((keys.zip items).map Prod.fst).map Prod.fst := by
      rw [← fieldsOf_array_eq.mp all, List.map_map, List.map_map]
      conv_rhs => rw [← List.zipIdx_map_fst 0 (keys.zip items), List.map_map]
      rfl
    rw [inOrder]
    exact List.nodup_iff_count_le_one.mp
      (((fst_zip_sublist keys items).map Prod.fst).nodup distinct) key

/-- A declared key has the value of the one field with that key. -/
theorem get?_eq_some {keys : SectionKeys} (distinct : (keys.map Prod.fst).Nodup) {value : Value}
    {fields : Fields Value} (found : of? Json.dialect keys value = some fields)
    {field : Field Value} (member : field ∈ fields.list) (declared : field.key ∈ keys.map Prod.fst) :
    fields.get? field.key = some field.value := by
  obtain ⟨rfl, all, fits⟩ := of?_eq_some_iff.mp found
  have once := count_keys_le_one distinct all fits declared
  have inFilter : field ∈ fields.list.filter (·.key == field.key) :=
    List.mem_filter.mpr ⟨member, beq_self_eq_true _⟩
  have isOnly : fields.list.filter (·.key == field.key) = [field] := by
    rw [count_keys] at once
    obtain ⟨only, isOnly⟩ := List.length_eq_one_iff.mp
      (le_antisymm once (List.length_pos_of_mem inFilter))
    rw [isOnly] at inFilter ⊢
    rw [List.mem_singleton.mp inFilter]
  rw [get?, ← List.head?_filter, isOnly]
  rfl

end Fields

end Docsite
