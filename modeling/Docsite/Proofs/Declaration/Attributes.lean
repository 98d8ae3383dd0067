/-
**Attributes stand in the order of their names.**

Whatever the data format, the attributes of a head tag are read into ascending order, with one value
for a name. Attributes in that order are read as they stand.

* `Ascending`: the order of attributes.
* `SiteDeclaration.read?_ascending`: every head tag that is read has its attributes in order.
* `foldl_insertAttribute`: attributes in order stay as they are.
-/

import Mathlib.Data.String.Basic
import Docsite.Declaration.Reader
import Docsite.Proofs.List.Correspondence

namespace Docsite

/-- Pairs in ascending order of their names, each name once. -/
def Ascending (attributes : List (String × String)) : Prop :=
  attributes.Pairwise fun first second => first.1 < second.1

section Insertion

variable {name value : String}

theorem mem_insertAttribute {attributes : List (String × String)} {pair : String × String}
    (member : pair ∈ insertAttribute name value attributes) :
    pair = (name, value) ∨ pair ∈ attributes := by
  induction attributes with
  | nil => exact .inl (List.mem_singleton.mp member)
  | cons first attributes ih =>
    rw [insertAttribute] at member
    split at member
    · exact List.mem_cons.mp member
    · split at member
      · rcases List.mem_cons.mp member with same | inRest
        · exact .inl same
        · exact .inr (List.mem_cons_of_mem _ inRest)
      · rcases List.mem_cons.mp member with rfl | inRest
        · exact .inr List.mem_cons_self
        · exact (ih inRest).imp_right (List.mem_cons_of_mem _)

/-- One more attribute keeps the order. -/
theorem Ascending.insertAttribute {attributes : List (String × String)}
    (ascending : Ascending attributes) : Ascending (insertAttribute name value attributes) := by
  induction attributes with
  | nil => exact List.pairwise_singleton _ _
  | cons first attributes ih =>
    obtain ⟨firstLess, rest⟩ := List.pairwise_cons.mp ascending
    rw [Docsite.insertAttribute]
    split
    · next before =>
      refine List.pairwise_cons.mpr ⟨fun pair member => ?_, ascending⟩
      rcases List.mem_cons.mp member with rfl | inRest
      · exact before
      · exact lt_trans before (firstLess pair inRest)
    · next notBefore =>
      split
      · next same =>
        refine List.pairwise_cons.mpr ⟨fun pair member => ?_, rest⟩
        rw [same]
        exact firstLess pair member
      · next different =>
        refine List.pairwise_cons.mpr ⟨fun pair member => ?_, ih rest⟩
        rcases mem_insertAttribute member with rfl | inRest
        · exact lt_of_le_of_ne (not_lt.mp notBefore) (Ne.symm different)
        · exact firstLess pair inRest

/-- An attribute behind all others in order goes to the end. -/
theorem insertAttribute_of_last {attributes : List (String × String)}
    (last : ∀ pair ∈ attributes, pair.1 < name) :
    insertAttribute name value attributes = attributes ++ [(name, value)] := by
  induction attributes with
  | nil => rfl
  | cons first attributes ih =>
    have before := last first List.mem_cons_self
    rw [insertAttribute, if_neg before.not_gt, if_neg before.ne',
      ih fun pair member => last pair (List.mem_cons_of_mem _ member), List.cons_append]

end Insertion

theorem Ascending.foldl_insertAttribute {sorted : List (String × String)}
    (ascending : Ascending sorted) (pairs : List (String × String)) :
    Ascending (pairs.foldl (fun sorted (name, text) => Docsite.insertAttribute name text sorted)
      sorted) := by
  induction pairs generalizing sorted with
  | nil => exact ascending
  | cons pair pairs ih => exact ih ascending.insertAttribute

/-- **Attributes in order are read as they stand.** -/
theorem foldl_insertAttribute {attributes : List (String × String)}
    (ascending : Ascending attributes) :
    attributes.foldl (fun sorted (name, text) => insertAttribute name text sorted) [] =
      attributes := by
  suffices fromFront : ∀ front back : List (String × String), Ascending (front ++ back) →
      back.foldl (fun sorted (name, text) => insertAttribute name text sorted) front =
        front ++ back from
    fromFront [] attributes ascending
  intro front back
  induction back generalizing front with
  | nil => exact fun _ => (List.append_nil front).symm
  | cons pair back ih =>
    intro ordered
    have last : ∀ earlier ∈ front, earlier.1 < pair.1 := fun earlier member =>
      (List.pairwise_append.mp ordered).2.2 earlier member pair List.mem_cons_self
    rw [List.foldl_cons]
    dsimp only
    rw [insertAttribute_of_last last, ih _ (by simpa using ordered), List.append_assoc]
    rfl

/-! ## What is read -/

section Readings

variable {α : Type} {dialect : Dialect α} {value : α}

theorem readAttributes?_ascending {attributes : List (String × String)}
    (read : readAttributes? dialect value = some attributes) : Ascending attributes := by
  unfold readAttributes? at read
  split at read
  · obtain ⟨pairs, -, same⟩ := Option.bind_eq_some_iff.mp read
    cases same
    exact Ascending.foldl_insertAttribute List.Pairwise.nil pairs
  · cases read

theorem HeadTagDeclaration.read?_ascending {reading : Reading HeadTagDeclaration}
    (read : HeadTagDeclaration.read? dialect value = some reading) :
    Ascending reading.value.attributes := by
  simp only [HeadTagDeclaration.read?, Option.bind_eq_bind, Option.bind_eq_some_iff] at read
  obtain ⟨fields, -, tagName, -, found⟩ := read
  split at found
  · cases found
    exact List.Pairwise.nil
  · obtain ⟨attributes, read, same⟩ := Option.bind_eq_some_iff.mp found
    cases same
    exact readAttributes?_ascending read

/-- What holds of every item that can be read holds of every item of a list that is read. -/
theorem Fields.list?_forall {β : Type} {fields : Fields α} {read : α → Option (Reading β)}
    {key : String} {holds : β → Prop}
    (each : ∀ value reading, read value = some reading → holds reading.value)
    {reading : Reading (List β)} (found : fields.list? dialect read key = some reading) :
    ∀ item ∈ reading.value, holds item := by
  unfold Fields.list? at found
  split at found
  · cases found
    simp
  · simp only [Option.bind_eq_bind, Option.bind_eq_some_iff] at found
    obtain ⟨values, -, readings, mapped, same⟩ := found
    cases same
    intro item member
    obtain ⟨inner, isInner, rfl⟩ := List.mem_map.mp member
    obtain ⟨value, -, isRead⟩ := exists_of_mem_forall₂ (mapM_eq_some_iff.mp mapped) isInner
    exact each value inner isRead

/-- **Every head tag that is read has its attributes in order.** -/
theorem SiteDeclaration.read?_ascending {reading : Reading SiteDeclaration}
    (read : SiteDeclaration.read? dialect value = some reading) :
    ∀ tag ∈ reading.value.headTags, Ascending tag.attributes := by
  unfold SiteDeclaration.read? at read
  obtain ⟨fields, -, read⟩ := Option.bind_eq_some_iff.mp read
  -- The eleven fields in front of the head tags and the five behind them do not matter.
  iterate 11 obtain ⟨_, -, read⟩ := Option.bind_eq_some_iff.mp read
  obtain ⟨headTags, readTags, read⟩ := Option.bind_eq_some_iff.mp read
  iterate 5 obtain ⟨_, -, read⟩ := Option.bind_eq_some_iff.mp read
  cases read
  exact Fields.list?_forall (fun _ _ => HeadTagDeclaration.read?_ascending) readTags

end Readings

end Docsite
