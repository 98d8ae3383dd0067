/-
**Paths from one place to another.**

A relative path climbs from a directory to one above it and goes down from there. Put below the
directory and resolved by its spelling, it is the path of the place that it leads to.

* `Path.parent?_ofNames`: the directory of a path through names.
* `Path.collapse_join_relative`: a relative path leads to its place.
* `Path.collapse_composes`: what resolved paths are, and how resolving goes with putting paths together.
-/

import Mathlib.Data.List.Induction
import Docsite.Proofs.Path.Composition

namespace Docsite.Path

variable {names common above below : List String} {steps : List String}

/-! ## Directories -/

/-- Where every piece is a name, there is nothing to trim. -/
theorem trimPieces_names (areNames : ∀ name ∈ names, IsName name) : trimPieces false names = names := by
  cases names with
  | nil => rfl
  | cons first rest =>
    have isName := areNames first List.mem_cons_self
    cases rest with
    | nil =>
      have notCurrent : ¬ (first == ".") = true := by simp [isName.ne_current]
      rw [trimPieces, firstComponent?, if_neg Bool.false_ne_true, if_neg notCurrent,
        componentOf?_name isName]
      rfl
    | cons second rest =>
      rw [trimPieces, componentOf?_name isName]
      · rfl
      · exact List.cons_ne_nil second rest

/-- **The directory of a path through names is the path through all of them but the last.** -/
theorem parent?_ofNames {name : String} (areNames : ∀ other ∈ names ++ [name], IsName other) :
    (ofNames (names ++ [name])).parent? = some (ofNames names) := by
  have areBefore : ∀ other ∈ names.reverse, IsName other := fun other member =>
    areNames other (List.mem_append_left _ (List.mem_reverse.mp member))
  have reversed : (names ++ [name]).reverse = name :: names.reverse := by simp
  have areAll : ∀ other ∈ name :: names.reverse, IsName other := fun other member =>
    areNames other (List.mem_reverse.mp (reversed ▸ member))
  rw [parent?, pieces_ofNames areNames (by simp), isAbsolute_ofNames areNames, reversed,
    trimPieces_names areAll]
  cases found : names.reverse with
  | nil =>
    obtain rfl := List.reverse_eq_nil_iff.mp found
    rfl
  | cons last before =>
    dsimp only
    rw [← found, trimPieces_names areBefore, ofPieces, Bool.false_and, if_neg Bool.false_ne_true,
      List.reverse_reverse]
    rfl

/-- A resolved path is the path through its names. -/
theorem eq_ofNames_of_collapse {p : Path} (resolved : p.collapse = p) :
    p = ofNames p.names ∧ ∀ name ∈ p.names, IsName name := by
  have areNames : ∀ name ∈ p.collapseNames, IsName name := fun name => isName_of_mem_collapseNames
  have same : p.names = p.collapseNames := by
    have ofCollapsed := names_ofNames areNames
    rwa [← collapse, resolved] at ofCollapsed
  rw [same]
  exact ⟨resolved.symm, areNames⟩

/-! ## Relative paths -/

/-- The steps that climb above some names and go down through others. -/
def relativeSteps (above below : List String) : List String :=
  List.replicate above.length ".." ++ below

theorem isStep_relativeSteps (areNames : ∀ name ∈ below, IsName name) :
    ∀ step ∈ relativeSteps above below, IsStep step := by
  intro step member
  rcases List.mem_append.mp member with climbs | descends
  · rw [List.eq_of_mem_replicate climbs]
    exact isStep_parent
  · exact (areNames step descends).isStep

/-- Climbing takes as many names away as there are steps. -/
theorem foldl_follow_parents (kept above : List String) :
    (List.replicate above.length Component.parent).foldl follow (kept ++ above) = kept := by
  induction above using List.reverseRecOn with
  | nil => exact List.append_nil kept
  | append_singleton above last ih =>
    rw [List.length_append, List.length_singleton, List.replicate_succ, List.foldl_cons, follow,
      ← List.append_assoc, List.dropLast_concat, ih]

/-- Climbing above some names and going down through others leaves these names below those in front. -/
theorem foldl_follow_relativeSteps (common above : List String)
    (areBelow : ∀ name ∈ below, IsName name) :
    ((relativeSteps above below).filterMap componentOf?).foldl follow (common ++ above) =
      common ++ below := by
  have climbs : (List.replicate above.length "..").filterMap componentOf? =
      List.replicate above.length Component.parent :=
    List.filterMap_replicate_of_some rfl
  rw [relativeSteps, List.filterMap_append, climbs, filterMap_componentOf? areBelow,
    List.foldl_append, foldl_follow_parents, foldl_follow_names]

/-- **A relative path leads to its place**: below the directory that it starts from, it is resolved to
the path of that place. -/
theorem collapse_join_relative (areAbove : ∀ name ∈ common ++ above, IsName name)
    (areBelow : ∀ name ∈ below, IsName name) :
    ((ofNames (common ++ above)).join (ofNames (relativeSteps above below))).collapse =
      ofNames (common ++ below) := by
  have areSteps : ∀ step ∈ relativeSteps above below, IsStep step := isStep_relativeSteps areBelow
  rw [collapse, collapseNames_join (isAbsolute_ofSteps areSteps), collapseNames_ofNames areAbove,
    components_ofSteps areSteps, foldl_follow_relativeSteps common above areBelow]

/-- The steps from one place to another: what both have in front is left out, and from there they climb
above the rest of the one and go down through the rest of the other. -/
def stepsBetween : List String → List String → List String
  | name :: above, other :: below =>
    if name = other then stepsBetween above below
    else relativeSteps (name :: above) (other :: below)
  | above, below => relativeSteps above below

theorem exists_stepsBetween (source target : List String) : ∃ common above below,
    source = common ++ above ∧ target = common ++ below ∧
      stepsBetween source target = relativeSteps above below := by
  fun_induction stepsBetween source target with
  | case1 above name below ih =>
    obtain ⟨common, left, right, rfl, rfl, steps⟩ := ih
    exact ⟨name :: common, left, right, rfl, rfl, steps⟩
  | case2 name above other below different => exact ⟨[], _, _, rfl, rfl, rfl⟩
  | case3 above below => exact ⟨[], above, below, rfl, rfl, rfl⟩

/-- **Resolving paths by their spelling composes.** A resolved path consists of names, one slash between
each two of them and nothing else, and is resolved already. A relative path below another one leads to the
same place whether the other one is resolved first or not. And the steps from one place to another lead
there. -/
theorem collapse_composes :
    (∀ p : Path, (∀ component ∈ p.collapse.components, ∃ name, component = .name name ∧ IsName name) ∧
      p.collapse = ofNames p.collapse.names ∧ p.collapse.collapse = p.collapse) ∧
    (∀ base below : Path, below.isAbsolute = false →
      (base.join below).collapse = (base.collapse.join below).collapse) ∧
    ∀ source target : List String, (∀ name ∈ source, IsName name) → (∀ name ∈ target, IsName name) →
      ((ofNames source).join (ofNames (stepsBetween source target))).collapse = ofNames target := by
  refine ⟨fun p => ?_, fun base below relative => collapse_join relative base,
    fun source target areSource areTarget => ?_⟩
  · obtain ⟨spelled, areNames⟩ := eq_ofNames_of_collapse (collapse_collapse p)
    refine ⟨fun component member => ?_, spelled, collapse_collapse p⟩
    rw [spelled, components_ofNames areNames] at member
    obtain ⟨name, isName, rfl⟩ := List.mem_map.mp member
    exact ⟨name, rfl, areNames name isName⟩
  · obtain ⟨common, above, below, rfl, rfl, steps⟩ := exists_stepsBetween source target
    rw [steps]
    exact collapse_join_relative areSource fun name member =>
      areTarget name (List.mem_append_right common member)

/-- A path that climbs above the root before it goes on, and the steps from a directory to one beside the
directory above it. -/
theorem collapse_composes_climbing :
    (Path.mk "./../x//y/..").isAbsolute = false ∧
      ((Path.mk "/a//./../../b/c/").join ⟨"./../x//y/.."⟩).collapse =
        ((Path.mk "/a//./../../b/c/").collapse.join ⟨"./../x//y/.."⟩).collapse ∧
      ((Path.mk "/a//./../../b/c/").join ⟨"./../x//y/.."⟩).collapse = ⟨"b/x"⟩ ∧
      (∀ name ∈ ["docs", "a b", "..."], IsName name) ∧ (∀ name ∈ ["docs", "api"], IsName name) ∧
      stepsBetween ["docs", "a b", "..."] ["docs", "api"] = ["..", "..", "api"] ∧
      ((ofNames ["docs", "a b", "..."]).join (ofNames ["..", "..", "api"])).collapse =
        ofNames ["docs", "api"] := by
  have relative : (Path.mk "./../x//y/..").isAbsolute = false := by decide
  have source : ∀ name ∈ ["docs", "a b", "..."], IsName name := by
    simp only [List.forall_mem_cons]
    exact ⟨⟨by decide, by decide, by decide, by decide⟩, ⟨by decide, by decide, by decide, by decide⟩,
      ⟨by decide, by decide, by decide, by decide⟩, nofun⟩
  have target : ∀ name ∈ ["docs", "api"], IsName name := by
    simp only [List.forall_mem_cons]
    exact ⟨⟨by decide, by decide, by decide, by decide⟩, ⟨by decide, by decide, by decide, by decide⟩,
      nofun⟩
  have steps : stepsBetween ["docs", "a b", "..."] ["docs", "api"] = ["..", "..", "api"] := by
    decide +kernel
  have leads := collapse_composes.2.2 _ _ source target
  rw [steps] at leads
  exact ⟨relative, collapse_composes.2.1 _ _ relative, by decide +kernel, source, target, steps, leads⟩

end Docsite.Path
