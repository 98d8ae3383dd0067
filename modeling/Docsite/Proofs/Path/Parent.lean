/-
**The directory that a path is in.**

A path without its last component is spelled without what stands behind its last slash that counts.
However it is spelled, the names above its last component are the names among its other components.

* `Path.componentsOf`: the components that pieces between slashes stand for.
* `Path.ofPieces_eq`, `Path.names_ofPieces`: a path that is spelled by the first pieces of another one.
* `Path.names_parent`: the names above the last component of a path.
-/

import Docsite.Proofs.Path.Collapse

namespace Docsite.Path

/-! ## Pieces -/

/-- The name that a component is. -/
def Component.name? : Component → Option String
  | .name text => some text
  | .root | .current | .parent => none

theorem names_eq (p : Path) : p.names = p.components.filterMap Component.name? := by
  rw [names]
  congr 1
  funext component
  cases component <;> rfl

/-- The components that pieces between slashes stand for. -/
def componentsOf (absolute : Bool) : List String → List Component
  | [] => []
  | first :: rest => (firstComponent? absolute first).toList ++ rest.filterMap componentOf?

theorem components_eq (p : Path) : p.components = componentsOf p.isAbsolute p.pieces := by
  rw [components]
  cases p.pieces with
  | nil => rfl
  | cons first rest => rfl

section Spelled

variable {absolute : Bool} {pieces : List String}

/-- Pieces behind the first one stand for the same components wherever they are. -/
theorem componentsOf_append (some : pieces ≠ []) (back : List String) :
    componentsOf absolute (pieces ++ back) =
      componentsOf absolute pieces ++ back.filterMap componentOf? := by
  obtain ⟨first, rest, rfl⟩ := List.exists_cons_of_ne_nil some
  rw [List.cons_append, componentsOf, componentsOf, List.filterMap_append, List.append_assoc]

theorem componentsOf_concat (some : pieces ≠ []) (last : String) :
    componentsOf absolute (pieces ++ [last]) =
      componentsOf absolute pieces ++ (componentOf? last).toList := by
  rw [componentsOf_append some, List.filterMap_cons, List.filterMap_nil]
  cases componentOf? last <;> rfl

/-- What is trimmed at the end of a path is no component. -/
theorem componentsOf_trimPieces (absolute : Bool) (reversed : List String) :
    componentsOf absolute (trimPieces absolute reversed).reverse =
      componentsOf absolute reversed.reverse := by
  fun_induction trimPieces absolute reversed with
  | case1 => rfl
  | case2 first counts => rfl
  | case3 first counts =>
    have isNone : firstComponent? absolute first = none := by simpa using counts
    rw [List.reverse_singleton, componentsOf, isNone]
    rfl
  | case4 piece more _ counts => rfl
  | case5 piece more several counts ih =>
    have isNone : componentOf? piece = none := by simpa using counts
    have some : more.reverse ≠ [] := fun nothing =>
      several (List.reverse_eq_nil_iff.mp nothing)
    rw [ih, List.reverse_cons, componentsOf_concat some, isNone]
    exact (List.append_nil _).symm

/-- What is left after trimming are the first pieces. -/
theorem trimPieces_suffix (absolute : Bool) (reversed : List String) :
    trimPieces absolute reversed <:+ reversed := by
  fun_induction trimPieces absolute reversed with
  | case1 => exact List.suffix_rfl
  | case2 first counts => exact List.suffix_rfl
  | case3 first counts => exact List.nil_suffix
  | case4 piece more _ counts => exact List.suffix_rfl
  | case5 piece more several counts ih => exact ih.trans (List.suffix_cons piece more)

/-- Where more than one piece is left, the last one is a component. -/
theorem exists_component_of_trimPieces {reversed : List String} {piece : String} {more : List String}
    (trimmed : trimPieces absolute reversed = piece :: more) (several : more ≠ []) :
    ∃ component, componentOf? piece = some component := by
  fun_induction trimPieces absolute reversed with
  | case1 => cases trimmed
  | case2 first counts =>
    obtain ⟨-, rfl⟩ := List.cons.inj trimmed
    exact absurd rfl several
  | case3 first counts => cases trimmed
  | case4 first rest _ counts =>
    obtain ⟨rfl, -⟩ := List.cons.inj trimmed
    exact Option.isSome_iff_exists.mp counts
  | case5 first rest _ counts ih => exact ih trimmed

/-! ## Paths that are spelled by pieces -/

/-- A path is spelled by its pieces. -/
theorem ofNames_pieces (p : Path) : ofNames p.pieces = p := by
  have same : String.toList ∘ String.ofList = id := funext fun _ => String.toList_ofList
  obtain ⟨text⟩ := p
  rw [ofNames, Path.pieces, Path.mk.injEq, ← String.toList_inj, toList_joinWith_slash, List.map_map,
    same, List.map_id, Text.intercalate_splitOn]

/-- A path through the first pieces is the front of the path through all of them. -/
theorem prefix_ofNames (front back : List String) :
    (ofNames front).text.toList <+: (ofNames (front ++ back)).text.toList := by
  rw [ofNames, ofNames, toList_joinWith_slash, toList_joinWith_slash]
  induction front with
  | nil => exact List.nil_prefix
  | cons first rest ih =>
    cases rest with
    | nil =>
      cases back with
      | nil => exact List.prefix_rfl
      | cons second back =>
        rw [List.singleton_append, List.map_cons, List.map_cons, List.map_cons,
          List.intercalate_cons_cons, List.map_nil, List.intercalate_singleton, List.append_assoc]
        exact List.prefix_append _ _
    | cons second rest =>
      rw [List.cons_append, List.cons_append, List.map_cons, List.map_cons, List.map_cons,
        List.map_cons, List.intercalate_cons_cons, List.intercalate_cons_cons, List.append_assoc,
        List.append_assoc]
      exact (List.prefix_append_right_inj _).mpr ((List.prefix_append_right_inj _).mpr ih)

end Spelled

section FirstPieces

variable {p : Path} {front : List String}

/-- The first pieces of a path spell the front of it. -/
theorem prefix_of_pieces (within : front <+: p.pieces) :
    (ofNames front).text.toList <+: p.text.toList := by
  obtain ⟨back, split⟩ := within
  have inPath := prefix_ofNames front back
  rwa [split, ofNames_pieces] at inPath

/-- Where they spell any text, they start where the path does. -/
theorem isAbsolute_of_pieces (within : front <+: p.pieces) (named : (ofNames front).text ≠ "") :
    (ofNames front).isAbsolute = p.isAbsolute := by
  obtain ⟨back, split⟩ := prefix_of_pieces within
  cases text : (ofNames front).text.toList with
  | nil => exact absurd (String.toList_eq_nil_iff.mp text) named
  | cons c rest =>
    rw [isAbsolute, isAbsolute, ← split, text]
    rfl

/-- The first piece of an absolute path is empty. -/
theorem first_of_isAbsolute {first : String} {rest : List String} (rooted : p.isAbsolute = true)
    (split : p.pieces = first :: rest) : first = "" := by
  obtain ⟨more, text⟩ := List.head?_eq_some_iff.mp (eq_of_beq rooted)
  rw [pieces, text, Text.splitOn, if_pos (beq_self_eq_true '/')] at split
  exact (List.cons.inj split).1.symm

end FirstPieces

/-! ## The last component -/

section Parent

variable {p : Path}

/-- Pieces spell no text exactly if there is none but an empty one. -/
theorem ofNames_text_eq_empty {texts : List String} (noSlash : ∀ text ∈ texts, '/' ∉ text.toList) :
    (ofNames texts).text = "" ↔ texts = [] ∨ texts = [""] := by
  constructor
  · intro nothing
    have isEmpty : ofNames texts = ⟨""⟩ := congrArg Path.mk nothing
    rw [or_iff_not_imp_left]
    intro some
    rw [← pieces_ofTexts noSlash some, isEmpty]
    decide
  · rintro (rfl | rfl) <;> rfl

/-- The first pieces of a path spell a path through them; where that has no text, an absolute path is the
root. -/
theorem ofPieces_eq {reversed : List String} (front : reversed.reverse <+: p.pieces) :
    ofPieces p.isAbsolute reversed =
      if p.isAbsolute = true ∧ (ofNames reversed.reverse).text = "" then ⟨"/"⟩
      else ofNames reversed.reverse := by
  have noSlash : ∀ piece ∈ reversed.reverse, '/' ∉ piece.toList := fun piece member =>
    noSlash_of_mem_pieces (front.subset member)
  have few (rooted : p.isAbsolute = true) :
      reversed.length ≤ 1 ↔ (ofNames reversed.reverse).text = "" := by
    rw [ofNames_text_eq_empty noSlash, ← List.length_reverse]
    cases spelled : reversed.reverse with
    | nil => simp
    | cons first rest =>
      obtain ⟨behind, whole⟩ := front
      rw [spelled] at whole
      simp [first_of_isAbsolute rooted whole.symm]
  rw [ofPieces]
  cases rooted : p.isAbsolute with
  | false => simp [ofNames]
  | true => simp [few rooted, ofNames]

/-- **The names of a path that is spelled by the first pieces of another one** are the names that these
pieces stand for there. -/
theorem names_ofPieces {reversed : List String} (front : reversed.reverse <+: p.pieces) :
    (ofPieces p.isAbsolute reversed).names =
      (componentsOf p.isAbsolute reversed.reverse).filterMap Component.name? := by
  have noSlash : ∀ piece ∈ reversed.reverse, '/' ∉ piece.toList := fun piece member =>
    noSlash_of_mem_pieces (front.subset member)
  rw [ofPieces_eq front]
  by_cases nothing : (ofNames reversed.reverse).text = ""
  · -- Neither without pieces nor with an empty one are there any names.
    have few := (ofNames_text_eq_empty noSlash).mp nothing
    cases rooted : p.isAbsolute with
    | true =>
      rw [if_pos ⟨rfl, nothing⟩]
      rcases few with few | few <;> rw [few] <;> rfl
    | false =>
      rw [if_neg fun both => Bool.false_ne_true both.1]
      rcases few with few | few <;> rw [few] <;> rfl
  · have some : reversed.reverse ≠ [] := fun none => nothing (congrArg (text ∘ ofNames) none)
    rw [if_neg fun both => nothing both.2, names_eq, components_eq, pieces_ofTexts noSlash some,
      isAbsolute_of_pieces front nothing]

/-- The parent of a path whose last piece is a name is spelled by the pieces before it. -/
theorem parent?_of_name {before : List String} {last : String} (split : p.pieces = before ++ [last])
    (isName : componentOf? last = some (.name last)) :
    p.parent? = some (ofPieces p.isAbsolute (trimPieces p.isAbsolute before.reverse)) := by
  rw [parent?, split, List.reverse_concat]
  cases reversed : before.reverse with
  | nil =>
    rw [List.reverse_eq_nil_iff.mp reversed] at split
    have relative : p.isAbsolute = false := by
      by_contra rooted
      rw [first_of_isAbsolute (eq_true_of_ne_false rooted) split] at isName
      cases isName
    have notCurrent : ¬ (last == ".") = true := by
      intro same
      rw [eq_of_beq same] at isName
      cases isName
    have counts : (firstComponent? false last).isSome = true := by
      rw [firstComponent?, if_neg Bool.false_ne_true, if_neg notCurrent, isName]
      rfl
    simp [relative, trimPieces, counts, ofPieces, Text.joinWith]
  | cons piece more => simp [trimPieces, isName]

/-- **The names above the last component of a path** are the names among the others. -/
theorem names_parent (p : Path) :
    ((p.parent?).getD ⟨""⟩).names = p.components.dropLast.filterMap Component.name? := by
  have trimmedSame := componentsOf_trimPieces p.isAbsolute p.pieces.reverse
  rw [List.reverse_reverse, ← components_eq] at trimmedSame
  have within := trimPieces_suffix p.isAbsolute p.pieces.reverse
  rw [parent?, ← trimmedSame]
  cases trimmed : trimPieces p.isAbsolute p.pieces.reverse with
  | nil => rfl
  | cons piece more =>
    cases more with
    | nil =>
      have single : (componentsOf p.isAbsolute [piece].reverse).dropLast = [] := by
        rw [List.reverse_singleton, componentsOf, List.filterMap_nil, List.append_nil]
        cases firstComponent? p.isAbsolute piece <;> rfl
      rw [single]
      cases p.isAbsolute <;> rfl
    | cons second rest =>
      obtain ⟨component, counts⟩ :=
        exists_component_of_trimPieces trimmed (List.cons_ne_nil second rest)
      have some : (second :: rest).reverse ≠ [] := by simp
      have front : (trimPieces p.isAbsolute (second :: rest)).reverse <+: p.pieces := by
        rw [← List.reverse_suffix, List.reverse_reverse]
        rw [trimmed] at within
        exact (trimPieces_suffix _ _).trans ((List.suffix_cons piece _).trans within)
      have split : (piece :: second :: rest).reverse = (second :: rest).reverse ++ [piece] :=
        List.reverse_cons
      dsimp only
      rw [Option.getD_some, names_ofPieces front, componentsOf_trimPieces, split,
        componentsOf_concat some, counts, Option.toList_some, List.dropLast_concat]

end Parent

end Docsite.Path
