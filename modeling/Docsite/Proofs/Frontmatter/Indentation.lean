/-
**Indentation of a block.**

A block is trimmed before it is read, and so its first line loses its indentation while the others keep
theirs. Where there is only one line nothing else happens. Any other line is indented deeper than the
first one then, and a mapping that starts with a scalar cannot go on there.

* `Frontmatter.Member`, `Frontmatter.ScalarMember`: a key and a value on a line of their own.
* `Frontmatter.indented`: the block in which each line is indented by the same number of spaces.
* `Frontmatter.split_indented`: what a page with such a block comes to.
-/

import Docsite.Proofs.Frontmatter.Recovery
import Docsite.Proofs.Path.Names
import Docsite.Proofs.Yaml.Mapping

namespace Docsite.Frontmatter

/-- A member of a mapping, on a line of its own. -/
structure Member where
  key : List Char
  /-- What stands behind the colon. -/
  rest : List Char
  isKey : Yaml.IsKey key
  /-- White space, or nothing at all, sets the value off from the colon. -/
  setOff : Yaml.atWordEnd rest = true
  inLine : '\n' ∉ rest

/-- A member whose value is a scalar, with spaces in front of it and blanks or a comment behind it. -/
structure ScalarMember extends Member where
  spaces : Nat
  value : List Char
  trailer : List Char
  isValue : Yaml.IsValue value
  isTrailer : Yaml.IsTrailer trailer
  spelled : rest = List.replicate (spaces + 1) ' ' ++ (value ++ trailer)

/-- The line of a member behind a number of spaces. -/
def Member.line (width : Nat) (member : Member) : List Char :=
  List.replicate width ' ' ++ (member.key ++ ':' :: member.rest)

/-- The block of some members, each indented by the same number of spaces. -/
def indented (width : Nat) (members : List Member) : String :=
  String.ofList (['\n'].intercalate (members.map (Member.line width)))

section Blocks

variable {width : Nat}

/-! ## Lines -/

theorem Member.not_newline_mem (width : Nat) (member : Member) : '\n' ∉ member.line width := by
  intro inLine
  have isBreak : Yaml.isBreak '\n' = true := rfl
  simp only [Member.line, List.mem_append, List.mem_cons, List.mem_replicate] at inLine
  rcases inLine with ⟨-, isSpace⟩ | inKey | isColon | inRest
  · cases isSpace
  · exact absurd isBreak (by simp [Yaml.isBreak_of_staysPlain member.isKey.stays _ inKey])
  · cases isColon
  · exact member.inLine inRest

theorem Member.not_mark_prefix (width : Nat) (member : Member) : ¬ mark <+: member.line width := by
  cases width with
  | zero =>
    intro marked
    have noColon : ':' ∉ mark := by decide
    exact member.isKey.unmarked '-' (by simp) (Text.prefix_of_prefix_append noColon marked)
  | succ width =>
    rintro ⟨rest, spelled⟩
    cases spelled

/-- **No line of the block starts with the mark.** -/
theorem isUnmarked_indented (width : Nat) (members : List Member) (some : members ≠ []) :
    IsUnmarked (indented width members) := by
  intro line isLine
  rw [indented, String.toList_ofList, Text.splitOn_eq, List.splitOn_intercalate] at isLine
  · obtain ⟨member, -, rfl⟩ := List.mem_map.mp isLine
    exact member.not_mark_prefix width
  · intro line isLine
    obtain ⟨member, -, rfl⟩ := List.mem_map.mp isLine
    exact member.not_newline_mem width
  · exact fun nothing => some (List.map_eq_nil_iff.mp nothing)

/-- The first line and the others, each behind the end of a line. -/
theorem toList_indented_cons (width : Nat) (first : Member) (others : List Member) :
    (indented width (first :: others)).toList =
      first.line width ++ others.flatMap fun member => '\n' :: member.line width := by
  rw [indented, String.toList_ofList]
  induction others generalizing first with
  | nil => simp
  | cons second others ih =>
    rw [List.map_cons, List.map_cons, List.intercalate_cons_cons, ← List.map_cons, ih]
    simp

/-! ## Trimming -/

/-- **Trimming takes the indentation off the first line only.** -/
theorem toList_trim_indented_cons (width : Nat) (first : Member) (others : List Member) :
    (Text.trim (indented width (first :: others))).toList =
      Text.dropEndWhile Text.isBlank
        (first.line 0 ++ others.flatMap fun member => '\n' :: member.line width) := by
  have spaces : ∀ c ∈ List.replicate width ' ', Text.isBlank c = true := by
    intro c member
    rw [List.eq_of_mem_replicate member]
    rfl
  obtain ⟨c, rest, spelled⟩ := List.exists_cons_of_ne_nil first.isKey.ne_nil
  have starts : Text.isBlank c = false := (first.isKey.solid c (by simp [spelled])).1
  rw [Text.toList_trim, toList_indented_cons, Text.dropBothWhile]
  congr 1
  rw [Member.line, Member.line, List.append_assoc, List.dropWhile_append_of_pos spaces, spelled]
  exact List.dropWhile_cons_of_neg (by simp [starts])

theorem trim_indented_singleton (width : Nat) (member : Member) :
    Text.trim (indented width [member]) = Text.trim (indented 0 [member]) := by
  rw [← String.toList_inj, toList_trim_indented_cons, toList_trim_indented_cons, List.flatMap_nil,
    List.flatMap_nil]

/-- What is set off from a colon is so when other lines stand behind it and white space is taken off. -/
theorem Member.setOff_trimmed (width : Nat) (member : Member) (others : List Member) :
    Yaml.atWordEnd (Text.dropEndWhile Text.isBlank
      (member.rest ++ others.flatMap fun other => '\n' :: other.line width)) = true := by
  cases left : Text.dropEndWhile Text.isBlank
      (member.rest ++ others.flatMap fun other => '\n' :: other.line width) with
  | nil => rfl
  | cons c rest =>
    have isFirst := Text.head?_dropEndWhile (Option.mem_def.mpr (congrArg List.head? left))
    have setOff := member.setOff
    cases behind : member.rest with
    | cons d more =>
      rw [behind] at isFirst setOff
      obtain rfl := Option.some.inj isFirst
      exact setOff
    | nil =>
      cases others with
      | nil => rw [behind] at isFirst; cases isFirst
      | cons other others =>
        rw [behind] at isFirst
        obtain rfl := Option.some.inj isFirst
        rfl

/-- **A second line that is indented deeper than the first one is an error.** -/
theorem ofBlock?_indented (deeper : 0 < width) (first : ScalarMember) (second : Member)
    (others : List Member) :
    ofBlock? (Text.trim (indented width (first.toMember :: second :: others))) = none := by
  let behind := second.rest ++ others.flatMap fun member => '\n' :: member.line width
  have block : Text.trim (indented width (first.toMember :: second :: others)) =
      String.ofList (first.key ++ ':' :: (List.replicate (first.spaces + 1) ' ' ++ (first.value ++
        (first.trailer ++ Yaml.nextKey width second.key (Text.dropEndWhile Text.isBlank behind))))) := by
    -- Nothing is taken off in front of the colon of the second line.
    have stays := Text.dropEndWhile_append_cons (p := Text.isBlank) (c := ':') rfl
      (first.line 0 ++ '\n' :: (List.replicate width ' ' ++ second.key)) behind
    rw [← String.toList_inj, toList_trim_indented_cons, String.toList_ofList]
    simpa [Member.line, Yaml.nextKey, behind, first.spelled] using stays
  have some : ¬ (Text.trim (indented width (first.toMember :: second :: others)) == "") = true := by
    simp [block, first.isKey.ne_nil, ← String.toList_inj]
  rw [ofBlock?, if_neg some, block, Yaml.Document.read?_deeper first.isKey first.spaces first.isValue
    first.isTrailer second.isKey deeper (second.setOff_trimmed width others)]
  rfl

/-- **What indentation does to a block.** A mapping on one line is read as without indentation. Where a
mapping starts with a scalar and has more lines, whatever they are, any indentation makes it an error. -/
theorem split_indented (width : Nat) (body : String) :
    (∀ member, split (front (indented width [member]) ++ body) =
      split (front (indented 0 [member]) ++ body)) ∧
    ∀ (first : ScalarMember) (second : Member) (others : List Member),
      split (front (indented (width + 1) (first.toMember :: second :: others)) ++ body) =
        .error .invalidYaml := by
  have splits {members : List Member} (some : members ≠ []) (width : Nat) :=
    split_front "" body rfl (isUnmarked_indented width members some)
  simp only [String.empty_append] at splits
  refine ⟨fun member => ?_, fun first second others => ?_⟩
  · rw [splits (List.cons_ne_nil _ _), splits (List.cons_ne_nil _ _), trim_indented_singleton]
  · rw [splits (List.cons_ne_nil _ _), ofBlock?_indented (Nat.succ_pos width)]

end Blocks

/-! ## A title and a slug -/

/-- The member `title: A`. -/
def titleMember : Member where
  key := ['t', 'i', 't', 'l', 'e']
  rest := [' ', 'A']
  isKey := by decide
  setOff := rfl
  inLine := by decide

/-- The member `slug: b`. -/
def slugMember : Member where
  key := ['s', 'l', 'u', 'g']
  rest := [' ', 'b']
  isKey := by decide
  setOff := rfl
  inLine := by decide

/-- The value of `title: A` is a plain word. -/
def titleScalar : ScalarMember where
  toMember := titleMember
  spaces := 0
  value := ['A']
  trailer := []
  isValue := .plain (by decide)
  isTrailer := .blanks (by simp)
  spelled := rfl

/-- The title on its own is read behind two spaces, and with the slug below it the page is an error. -/
theorem split_indented_title :
    indented 2 [titleScalar.toMember] = "  title: A" ∧
      split (front (indented 2 [titleMember]) ++ "# Notes") =
        .ok (some { title := some "A" }, "# Notes") ∧
      indented 2 [titleScalar.toMember, slugMember] = "  title: A\n  slug: b" ∧
      split (front (indented 2 [titleScalar.toMember, slugMember]) ++ "# Notes") =
        .error .invalidYaml := by
  refine ⟨by decide +kernel, ?_, by decide +kernel, ?_⟩
  · rw [(split_indented 2 "# Notes").1 titleMember]
    decide +kernel
  · exact (split_indented 1 "# Notes").2 titleScalar slugMember []

/-- **Indentation matters.** A block that is read without it is an error with it. -/
theorem split_indented_slug :
    indented 2 [titleMember, slugMember] = "  title: A\n  slug: b" ∧
      split (front (indented 0 [titleMember, slugMember])) =
        .ok (some { title := some "A", slug := some "b" }, "") ∧
      split (front (indented 2 [titleMember, slugMember])) = .error .invalidYaml := by
  decide +kernel

end Docsite.Frontmatter
