/-
**Paths that are spelled by names.**

Names that are joined with slashes are read back as these names, and a path below another one has the
pieces of both.

* `Path.pieces_ofSteps`, `Path.components_of_pieces`: what a path consists of that is spelled by steps.
* `Path.pieces_ofNames`, `Path.components_ofNames`: what a path through names consists of.
* `Path.pieces_join`: the pieces of a path below another one.
* `Path.cutExtension_eq_some`: the extension of a file name.
-/

import Mathlib.Data.List.Basic
import Docsite.Path

namespace Docsite

/-! ## Splitting -/

/-- Splitting is that of the standard library. -/
theorem Text.splitOn_eq (sep : Char) (cs : List Char) : Text.splitOn sep cs = cs.splitOn sep := by
  induction cs with
  | nil => rfl
  | cons c rest ih =>
    rw [Text.splitOn, ih, List.splitOn_cons_eq_if_modifyHead]
    split
    · rfl
    · cases found : rest.splitOn sep with
      | nil => exact absurd found (List.splitOn_ne_nil sep rest)
      | cons piece pieces => rfl

/-- No piece of a split has the character at which it was split. -/
theorem Text.sep_notMem_of_mem_splitOn {sep : Char} {cs piece : List Char}
    (member : piece ∈ Text.splitOn sep cs) : sep ∉ piece := by
  induction cs generalizing piece with
  | nil =>
    obtain rfl := List.mem_singleton.mp member
    exact List.not_mem_nil
  | cons c rest ih =>
    rw [Text.splitOn] at member
    split at member
    · rcases List.mem_cons.mp member with rfl | member
      · exact List.not_mem_nil
      · exact ih member
    · next other =>
      cases found : Text.splitOn sep rest with
      | nil => exact absurd found (Text.splitOn_ne_nil sep rest)
      | cons first others =>
        rw [found] at ih member
        rcases List.mem_cons.mp member with rfl | member
        · rw [List.mem_cons, not_or]
          exact ⟨fun same => other (beq_iff_eq.mpr same.symm), ih List.mem_cons_self⟩
        · exact ih (List.mem_cons_of_mem first member)

namespace Path

/-- A text that stands for one name in a path. -/
structure IsName (name : String) : Prop where
  ne_empty : name ≠ ""
  ne_current : name ≠ "."
  ne_parent : name ≠ ".."
  noSlash : '/' ∉ name.toList

/-- A text that stands for one step in a path: a name, or `..`. -/
structure IsStep (step : String) : Prop where
  ne_empty : step ≠ ""
  ne_current : step ≠ "."
  noSlash : '/' ∉ step.toList

theorem IsName.isStep {name : String} (isName : IsName name) : IsStep name :=
  ⟨isName.ne_empty, isName.ne_current, isName.noSlash⟩

theorem isStep_parent : IsStep ".." :=
  ⟨by decide, by decide, by decide⟩

/-! ## Pieces -/

section Pieces

variable {names steps : List String}

theorem toList_joinWith_slash :
    (Text.joinWith "/" names).toList = ['/'].intercalate (names.map String.toList) := by
  rw [Text.joinWith, String.toList_intercalate]
  rfl

/-- **The pieces of a path that is spelled by texts without slashes are these texts.** -/
theorem pieces_ofTexts {texts : List String} (noSlash : ∀ text ∈ texts, '/' ∉ text.toList)
    (some : texts ≠ []) : (ofNames texts).pieces = texts := by
  rw [pieces, ofNames, toList_joinWith_slash, Text.splitOn_eq, List.splitOn_intercalate,
    List.map_map]
  · exact List.map_id'' (fun _ => String.ofList_toList) texts
  · intro piece member
    obtain ⟨text, isText, rfl⟩ := List.mem_map.mp member
    exact noSlash text isText
  · exact fun nothing => some (List.map_eq_nil_iff.mp nothing)

/-- **The pieces of a path that is spelled by steps are these steps.** -/
theorem pieces_ofSteps (areSteps : ∀ step ∈ steps, IsStep step) (some : steps ≠ []) :
    (ofNames steps).pieces = steps :=
  pieces_ofTexts (fun step member => (areSteps step member).noSlash) some

/-- **The pieces of a path through names are these names.** -/
theorem pieces_ofNames (areNames : ∀ name ∈ names, IsName name) (some : names ≠ []) :
    (ofNames names).pieces = names :=
  pieces_ofSteps (fun name member => (areNames name member).isStep) some

/-- Every path has a piece. -/
theorem pieces_ne_nil (path : Path) : path.pieces ≠ [] := by
  rw [pieces]
  exact fun nothing => Text.splitOn_ne_nil _ _ (List.map_eq_nil_iff.mp nothing)

/-- The pieces of two texts with a slash between them. -/
theorem pieces_append_slash (front back : String) :
    pieces ⟨front ++ "/" ++ back⟩ = pieces ⟨front⟩ ++ pieces ⟨back⟩ := by
  have split : (front ++ "/" ++ back).toList = front.toList ++ '/' :: back.toList := by simp
  rw [pieces, pieces, pieces, split, Text.splitOn_eq, Text.splitOn_eq, Text.splitOn_eq,
    List.splitOn_append_cons_self, List.map_append]

/-- A path through names holds their characters and slashes. -/
theorem mem_ofNames {names : List String} {c : Char} (member : c ∈ (ofNames names).text.toList) :
    c = '/' ∨ ∃ name ∈ names, c ∈ name.toList := by
  rw [ofNames, toList_joinWith_slash, List.intercalate] at member
  obtain ⟨piece, isPiece, inPiece⟩ := List.mem_flatten.mp member
  clear member
  induction names with
  | nil => cases isPiece
  | cons first rest ih =>
    cases rest with
    | nil =>
      obtain rfl := List.mem_singleton.mp isPiece
      exact .inr ⟨first, List.mem_cons_self, inPiece⟩
    | cons second rest =>
      rw [List.map_cons, List.map_cons, List.intersperse_cons_cons, ← List.map_cons] at isPiece
      rcases List.mem_cons.mp isPiece with rfl | isPiece
      · exact .inr ⟨first, List.mem_cons_self, inPiece⟩
      rcases List.mem_cons.mp isPiece with rfl | isPiece
      · exact .inl (List.mem_singleton.mp inPiece)
      rcases ih isPiece with isSlash | ⟨name, isName, inName⟩
      · exact .inl isSlash
      · exact .inr ⟨name, List.mem_cons_of_mem first isName, inName⟩

/-- What holds of a slash and of every character of some names holds of every character of the path
through them, also if a slash closes it. -/
theorem forall_mem_closed {holds : Char → Prop} {names : List String} {closing : String}
    (slash : holds '/') (inNames : ∀ name ∈ names, ∀ c ∈ name.toList, holds c)
    (closed : closing = "" ∨ closing = "/") :
    ∀ c ∈ (Text.joinWith "/" names ++ closing).toList, holds c := by
  intro c member
  rw [String.toList_append] at member
  rcases List.mem_append.mp member with inPath | inClosing
  · rcases mem_ofNames inPath with rfl | ⟨name, isName, inName⟩
    · exact slash
    · exact inNames name isName c inName
  · rcases closed with rfl | rfl
    · cases inClosing
    · exact List.mem_singleton.mp inClosing ▸ slash

/-- A path ends in its last step. -/
theorem suffix_ofNames (steps : List String) (last : String) :
    last.toList <:+ (ofNames (steps ++ [last])).text.toList := by
  rw [ofNames, toList_joinWith_slash]
  induction steps with
  | nil => simp
  | cons step steps ih =>
    obtain ⟨second, others, split⟩ := List.exists_cons_of_ne_nil (List.concat_ne_nil last steps)
    rw [split] at ih
    rw [List.cons_append, split, List.map_cons, List.map_cons, List.intercalate_cons_cons]
    exact ih.trans (List.suffix_append _ _)

/-- **An ending without a slash is an ending of the last step.** -/
theorem suffix_ofNames_iff {ending : List Char} (noSlash : '/' ∉ ending) (steps : List String)
    (last : String) :
    ending <:+ (ofNames (steps ++ [last])).text.toList ↔ ending <:+ last.toList := by
  refine ⟨fun ends => ?_, fun ends => ends.trans (suffix_ofNames steps last)⟩
  rw [ofNames, toList_joinWith_slash] at ends
  induction steps with
  | nil => simpa using ends
  | cons step steps ih =>
    obtain ⟨second, others, split⟩ := List.exists_cons_of_ne_nil (List.concat_ne_nil last steps)
    rw [split] at ih
    rw [List.cons_append, split, List.map_cons, List.map_cons, List.intercalate_cons_cons,
      List.append_assoc, List.singleton_append] at ends
    refine ih ?_
    rcases List.suffix_or_suffix_of_suffix ends (List.suffix_append step.toList _) with short | long
    · exact (List.suffix_cons_iff.mp short).resolve_left fun whole =>
        noSlash (whole ▸ List.mem_cons_self)
    · exact absurd (long.subset List.mem_cons_self) noSlash

theorem head?_ofSteps (areSteps : ∀ step ∈ steps, IsStep step) :
    (ofNames steps).text.toList.head? ≠ Option.some '/' := by
  cases steps with
  | nil => simp [ofNames, Text.joinWith]
  | cons first rest =>
    have isStep := areSteps first List.mem_cons_self
    rw [ofNames, toList_joinWith_slash, List.map_cons]
    match spelled : first.toList with
    | [] => exact absurd (String.toList_eq_nil_iff.mp spelled) isStep.ne_empty
    | c :: more =>
      have noSlash : c ≠ '/' := by
        rintro rfl
        exact isStep.noSlash (spelled ▸ List.mem_cons_self)
      cases rest with
      | nil => simpa using noSlash
      | cons second rest =>
        rw [List.map_cons, List.intercalate_cons_cons]
        simpa using noSlash

theorem isAbsolute_ofSteps (areSteps : ∀ step ∈ steps, IsStep step) :
    (ofNames steps).isAbsolute = false :=
  beq_eq_false_iff_ne.mpr (head?_ofSteps areSteps)

theorem isAbsolute_ofNames (areNames : ∀ name ∈ names, IsName name) :
    (ofNames names).isAbsolute = false :=
  isAbsolute_ofSteps fun name member => (areNames name member).isStep

/-! ## Components -/

theorem componentOf?_name {name : String} (isName : IsName name) :
    componentOf? name = some (.name name) := by
  rw [componentOf?, if_neg (by simp [isName.ne_empty, isName.ne_current]),
    if_neg (by simp [isName.ne_parent])]

theorem filterMap_componentOf? (areNames : ∀ name ∈ names, IsName name) :
    names.filterMap componentOf? = names.map Component.name :=
  List.filterMap_eq_map_iff_forall_eq_some.mpr fun name member =>
    componentOf?_name (areNames name member)

/-- The components of a relative path whose pieces are steps. -/
theorem components_of_pieces {p : Path} (relative : p.isAbsolute = false) (spelled : p.pieces = steps)
    (areSteps : ∀ step ∈ steps, IsStep step) : p.components = steps.filterMap componentOf? := by
  rw [components, spelled, relative]
  cases steps with
  | nil => rfl
  | cons first rest =>
    have notCurrent : ¬ (first == ".") = true := by
      simp [(areSteps first List.mem_cons_self).ne_current]
    dsimp only
    rw [firstComponent?, if_neg Bool.false_ne_true, if_neg notCurrent, List.filterMap_cons]
    cases componentOf? first with
    | none => rfl
    | some component => rfl

/-- The components of a path that is spelled by steps. -/
theorem components_ofSteps (areSteps : ∀ step ∈ steps, IsStep step) :
    (ofNames steps).components = steps.filterMap componentOf? := by
  cases steps with
  | nil => rfl
  | cons first rest =>
    exact components_of_pieces (isAbsolute_ofSteps areSteps)
      (pieces_ofSteps areSteps (List.cons_ne_nil first rest)) areSteps

/-- **The components of a path through names are these names.** -/
theorem components_ofNames (areNames : ∀ name ∈ names, IsName name) :
    (ofNames names).components = names.map Component.name := by
  rw [components_ofSteps fun name member => (areNames name member).isStep]
  exact filterMap_componentOf? areNames

theorem names_ofNames (areNames : ∀ name ∈ names, IsName name) : (ofNames names).names = names := by
  rw [Path.names, components_ofNames areNames, List.filterMap_map]
  exact List.filterMap_some

theorem fileName?_ofNames (areNames : ∀ name ∈ names, IsName name) :
    (ofNames names).fileName? = names.getLast? := by
  rw [fileName?, components_ofNames areNames, List.getLast?_map]
  cases names.getLast? with
  | none => rfl
  | some name => rfl

end Pieces

/-! ## Extensions -/

/-- A file name ends in an extension: it is what follows the last dot, and that dot does not open the
name. -/
def HasExtension (name extension : String) : Prop :=
  ∃ stem : List Char, stem ≠ [] ∧ name.toList = stem ++ '.' :: extension.toList ∧
    '.' ∉ extension.toList

/-- A file name is cut at its last dot. -/
theorem cutExtension_append {name : String} {stem extension : List Char}
    (spelled : name.toList = stem ++ '.' :: extension) (noDot : '.' ∉ extension) :
    cutExtension name =
      if stem = [] then (name, none) else (String.ofList stem, some (String.ofList extension)) := by
  have pieces : (Text.splitOn '.' name.toList).reverse =
      extension :: (stem.splitOn '.').reverse := by
    rw [Text.splitOn_eq, spelled, List.splitOn_append_cons_self, List.splitOn_eq_singleton noDot,
      List.reverse_append]
    rfl
  rw [cutExtension, pieces]
  match found : (stem.splitOn '.').reverse with
  | [] => exact absurd (List.reverse_eq_nil_iff.mp found) (List.splitOn_ne_nil '.' stem)
  | last :: before =>
    have joined : ['.'].intercalate (last :: before).reverse = stem := by
      rw [← found, List.reverse_reverse, List.intercalate_splitOn]
    dsimp only
    rw [joined]
    cases stem with
    | nil => rfl
    | cons c rest => rfl

theorem cutExtension_noDot {name : String} (noDot : '.' ∉ name.toList) :
    (cutExtension name).2 = none := by
  rw [cutExtension, Text.splitOn_eq, List.splitOn_eq_singleton noDot]
  rfl

/-- **What is cut off is the extension.** -/
theorem cutExtension_eq_some {name extension : String} :
    (cutExtension name).2 = some extension ↔ HasExtension name extension := by
  constructor
  · intro cut
    by_cases dot : '.' ∈ name.toList
    · obtain ⟨after, stem, reversed, notAfter⟩ :=
        List.eq_append_cons_of_mem (List.mem_reverse.mpr dot)
      have spelled : name.toList = stem.reverse ++ '.' :: after.reverse := by
        rw [← List.reverse_reverse name.toList, reversed]
        simp
      have noDot : '.' ∉ after.reverse := fun member => notAfter (List.mem_reverse.mp member)
      rw [cutExtension_append spelled noDot] at cut
      split at cut
      · cases cut
      · next nonempty =>
        obtain rfl := Option.some.inj cut
        exact ⟨stem.reverse, nonempty, by rw [String.toList_ofList, spelled],
          by rwa [String.toList_ofList]⟩
    · rw [cutExtension_noDot dot] at cut
      cases cut
  · rintro ⟨stem, nonempty, spelled, noDot⟩
    rw [cutExtension_append spelled noDot, if_neg nonempty, String.ofList_toList]

/-! ## Paths below other paths -/

/-- A relative path below another one holds the characters of both and slashes. -/
theorem mem_join {base below : Path} (relative : below.isAbsolute = false) {c : Char}
    (member : c ∈ (base.join below).text.toList) :
    c ∈ base.text.toList ∨ c = '/' ∨ c ∈ below.text.toList := by
  rw [join, if_neg (by rw [relative]; exact Bool.false_ne_true)] at member
  split at member
  · rw [String.toList_append, List.mem_append] at member
    exact member.imp_right .inr
  · rw [String.toList_append, String.toList_append, List.mem_append, List.mem_append] at member
    rcases member with (inBase | isSlash) | inBelow
    · exact .inl inBase
    · exact .inr (.inl (List.mem_singleton.mp isSlash))
    · exact .inr (.inr inBelow)

/-- A relative path below a relative path is relative. -/
theorem isAbsolute_join {base below : Path} (relative : below.isAbsolute = false)
    (named : base.text ≠ "") : (base.join below).isAbsolute = base.isAbsolute := by
  match spelled : base.text.toList with
  | [] => exact absurd (String.toList_eq_nil_iff.mp spelled) named
  | c :: rest =>
    rw [join, if_neg (by rw [relative]; exact Bool.false_ne_true)]
    split
    · rw [isAbsolute, isAbsolute, String.toList_append, spelled]
      rfl
    · rw [isAbsolute, isAbsolute, String.toList_append, String.toList_append, spelled]
      rfl

/-- **A path below another one has the pieces of both**; a slash at the end of the other one counts
for nothing. -/
theorem pieces_join {base below : Path} (relative : below.isAbsolute = false)
    (named : base.text ≠ "") :
    (∃ front : String, base.text = front ++ "/" ∧
        (base.join below).pieces = pieces ⟨front⟩ ++ below.pieces) ∨
      (base.join below).pieces = base.pieces ++ below.pieces := by
  have notEmpty : (base.text == "") = false := beq_eq_false_iff_ne.mpr named
  rw [join, if_neg (by rw [relative]; exact Bool.false_ne_true), notEmpty, Bool.false_or]
  split
  · next ends =>
    left
    obtain ⟨front, spelled⟩ := List.getLast?_eq_some_iff.mp (eq_of_beq ends)
    refine ⟨String.ofList front, ?_, ?_⟩
    · rw [← String.toList_inj, spelled]
      simp
    · have same : base.text ++ below.text = String.ofList front ++ "/" ++ below.text := by
        rw [← String.toList_inj, String.toList_append, spelled]
        simp
      rw [same, pieces_append_slash]
  · right
    rw [pieces_append_slash]

end Path

end Docsite
