/-
**References from the root.**

A text that starts with a slash names a path of its base, from the root on. Two slashes name another
host, but its path is read in the same way, so only segments that stay as they are come out of it.

* `IsRooted`: the texts that start with a single slash.
* `path_of_join`: the path that a text with a slash in front names.
* `join_single`, `join_rooted`: a single slash is enough.
* `join_chars`: segments that stay are read back.
-/

import Docsite.Proofs.Text.Trim
import Docsite.Proofs.Url.Segments
import Docsite.Url.Reader

namespace Docsite.Url

/-! ## Characters that count -/

/-- What counts behind a slash. -/
def behindSlash (rest : List Char) : List Char :=
  (Text.dropEndWhile isControlOrSpace rest).filter fun c => !(c == '\t' || c == '\n' || c == '\r')

theorem significant_slash (rest : List Char) :
    significant ('/' :: rest) = '/' :: behindSlash rest := by
  have visible : isControlOrSpace '/' = false := by decide
  rw [significant, Text.dropBothWhile, List.dropWhile_cons_of_neg (by rw [visible]; decide),
    Text.dropEndWhile_cons visible, List.filter_cons_of_pos (by decide), behindSlash]

/-- Where the last character counts, only tabs and line breaks are left out. -/
theorem behindSlash_eq_filter {rest : List Char}
    (last : ∀ c ∈ rest.getLast?, isControlOrSpace c = false) :
    behindSlash rest = rest.filter fun c => !(c == '\t' || c == '\n' || c == '\r') := by
  rw [behindSlash, Text.dropEndWhile_eq_self last]

/-! ## Reading against a base -/

section Joining

variable {base : Url} {list : List Segment} {rest : List Char}

/-- A text with a slash in front has no scheme. -/
theorem join_slash (web : base.kind = .web) (isPath : base.path = .segments list) :
    base.join (String.ofList ('/' :: rest)) = readRelative base list ('/' :: behindSlash rest) := by
  have noScheme : cutScheme? ('/' :: behindSlash rest) = none := by
    rw [cutScheme?, List.dropWhile_cons_of_neg (by decide)]
    rfl
  unfold join Url.read
  rw [String.toList_ofList, significant_slash]
  dsimp only
  rw [noScheme]
  dsimp only
  rw [isPath, web]
  rfl

theorem readAuthority_path {scheme : String} {input : List Char} {url : Url}
    (read : readAuthority .web scheme input = .ok url) :
    ∃ behind, url.path = readPath .web [] behind := by
  unfold readAuthority at read
  simp only [bind, Except.bind] at read
  split at read
  · cases read
  · split at read
    · cases read
    · split at read
      · cases read
      · cases read
        dsimp only
        generalize List.drop _ input = path
        match path with
        | [] => exact ⟨[], rfl⟩
        | c :: more =>
          show ∃ behind, (if isPathSlash .web c then readPath .web [] more
            else readPath .web [] (c :: more)) = _
          split
          · exact ⟨more, rfl⟩
          · exact ⟨c :: more, rfl⟩

/-- **The path that a text with a slash in front names is read from the root on.** -/
theorem path_of_join (web : base.kind = .web) (isPath : base.path = .segments list) {url : Url}
    (joined : base.join (String.ofList ('/' :: rest)) = .ok url) :
    ∃ behind, url.path = readPath .web [] behind := by
  rw [join_slash web isPath] at joined
  cases behind : behindSlash rest with
  | nil =>
    rw [behind, readRelative, if_neg (by decide), if_pos (by decide), web] at joined
    cases joined
    exact ⟨[], rfl⟩
  | cons second more =>
    rw [behind, readRelative, if_neg (by decide), if_pos (by decide), web] at joined
    dsimp only at joined
    split at joined
    · exact readAuthority_path joined
    · cases joined
      exact ⟨second :: more, rfl⟩

/-- A text does not continue the slash in front of it: it starts with no slash, nor with a character
that does not count. -/
def LeavesSlash (rest : List Char) : Prop :=
  ∀ c ∈ rest.head?, c ∉ ['/', '\\', '\t', '\n', '\r']

instance (rest : List Char) : Decidable (LeavesSlash rest) :=
  match rest with
  | [] => isTrue fun _ first => nomatch first
  | c :: _ => decidable_of_iff (c ∉ ['/', '\\', '\t', '\n', '\r'])
    ⟨fun counts _ first => Option.some.inj first ▸ counts, fun single => single c rfl⟩

/-- A text starts with a single slash. -/
def IsRooted (path : String) : Prop :=
  ∃ rest, path.toList = '/' :: rest ∧ LeavesSlash rest

theorem isRooted_iff {path : String} :
    IsRooted path ↔ path.toList.head? = some '/' ∧ LeavesSlash path.toList.tail := by
  constructor
  · rintro ⟨rest, spelled, single⟩
    rw [spelled]
    exact ⟨rfl, single⟩
  · rintro ⟨slash, single⟩
    match spelled : path.toList with
    | [] =>
      rw [spelled] at slash
      cases slash
    | c :: rest =>
      rw [spelled] at slash single
      obtain rfl := Option.some.inj slash
      exact ⟨rest, spelled, single⟩
instance (path : String) : Decidable (IsRooted path) :=
  decidable_of_iff _ isRooted_iff.symm

/-- No slash counts behind a single one. -/
theorem head?_behindSlash (single : LeavesSlash rest) :
    ∀ c ∈ (behindSlash rest).head?, isEitherSlash c = false := by
  rw [behindSlash]
  match kept : Text.dropEndWhile isControlOrSpace rest with
  | [] => exact fun c first => by cases first
  | d :: more =>
    have first : d ∈ (Text.dropEndWhile isControlOrSpace rest).head? := by
      rw [kept]
      rfl
    have counts := single d (Text.head?_dropEndWhile first)
    simp only [List.mem_cons, List.not_mem_nil, or_false, not_or] at counts
    obtain ⟨noSlash, noBackslash, noTab, noFeed, noReturn⟩ := counts
    rw [List.filter_cons_of_pos (by simp [noTab, noFeed, noReturn])]
    intro c first
    obtain rfl := Option.some.inj first
    simp [isEitherSlash, noSlash, noBackslash]

/-- A text names a path of its base if no slash that counts stands behind the one in front of it. -/
theorem join_single (web : base.kind = .web) (isPath : base.path = .segments list)
    (noSlash : ∀ c ∈ (behindSlash rest).head?, isEitherSlash c = false) :
    base.join (String.ofList ('/' :: rest)) =
      .ok { base with path := readPath .web [] (behindSlash rest) } := by
  rw [join_slash web isPath]
  cases behind : behindSlash rest with
  | nil =>
    rw [readRelative, if_neg (by decide), if_pos (by decide), web]
  | cons second more =>
    rw [behind] at noSlash
    rw [readRelative, if_neg (by decide), if_pos (by decide)]
    dsimp only
    rw [if_neg (by rw [noSlash second rfl]; decide), web]

/-- **A text that starts with a single slash names a path of its base.** -/
theorem join_rooted (web : base.kind = .web) (isPath : base.path = .segments list)
    (single : LeavesSlash rest) :
    base.join (String.ofList ('/' :: rest)) =
      .ok { base with path := readPath .web [] (behindSlash rest) } :=
  join_single web isPath (head?_behindSlash single)

/-! ## Segments that are read back -/

/-- A character that is kept in paths counts wherever it stands. -/
theorem counts_of_keepsInPath {c : Char} (kept : keepsInPath c = true) :
    isControlOrSpace c = false ∧ (!(c == '\t' || c == '\n' || c == '\r')) = true := by
  have notSpace : c.toNat ≠ 0x20 := by
    intro space
    obtain rfl : c = ' ' := Char.toNat_inj.mp space
    exact absurd kept (by decide)
  rw [keepsInPath, isPlainAscii, Bool.and_eq_true, Bool.and_eq_true, decide_eq_true_eq] at kept
  have notBreak : c ≠ '\t' ∧ c ≠ '\n' ∧ c ≠ '\r' := by
    refine ⟨?_, ?_, ?_⟩ <;>
      · rintro rfl
        exact absurd kept.1.1 (by decide)
  rw [isControlOrSpace, decide_eq_false_iff_not]
  refine ⟨by omega, ?_⟩
  simp [notBreak]

/-- Characters that are kept in paths all count. -/
theorem behindSlash_plain {cs : List Char} (plain : ∀ c ∈ cs, keepsInPath c = true) :
    behindSlash cs = cs := by
  rw [behindSlash_eq_filter, List.filter_eq_self]
  · exact fun c member => (counts_of_keepsInPath (plain c member)).2
  · exact fun c last => (counts_of_keepsInPath (plain c (List.mem_of_getLast? last))).1

/-- Characters that are kept count behind others, too. -/
theorem behindSlash_append {front back : List Char} (plain : ∀ c ∈ back, keepsInPath c = true)
    (last : ∀ c ∈ front.getLast?, isControlOrSpace c = false) :
    behindSlash (front ++ back) = behindSlash front ++ back := by
  have noPadding : ∀ c ∈ (front ++ back).getLast?, isControlOrSpace c = false := by
    intro c isLast
    rw [List.getLast?_append] at isLast
    cases found : back.getLast? with
    | none =>
      rw [found] at isLast
      exact last c isLast
    | some d =>
      rw [found] at isLast
      obtain rfl := Option.some.inj isLast
      exact (counts_of_keepsInPath (plain d (List.mem_of_getLast? found))).1
  have whole : back.filter (fun c => !(c == '\t' || c == '\n' || c == '\r')) = back :=
    List.filter_eq_self.mpr fun c member => (counts_of_keepsInPath (plain c member)).2
  rw [behindSlash_eq_filter noPadding, behindSlash_eq_filter last, List.filter_append, whole]

theorem significant_plain {cs : List Char} (plain : ∀ c ∈ cs, keepsInPath c = true) :
    significant cs = cs := by
  have visible (c : Char) (member : c ∈ cs) := counts_of_keepsInPath (plain c member)
  rw [significant, Text.dropBothWhile_eq_self, List.filter_eq_self]
  · exact fun c member => (visible c member).2
  · exact fun c first => (visible c (List.mem_of_head? first)).1
  · exact fun c last => (visible c (List.mem_of_getLast? last)).1

/-- **Kept segments, each behind a slash, are read back, unless they start with two slashes.** -/
theorem join_chars (web : base.kind = .web) (isPath : base.path = .segments list)
    {first : Segment} {others : List Segment} (kept : ∀ segment ∈ first :: others, IsKept segment)
    (single : LeavesSlash (first ++ others.flatMap ('/' :: ·))) :
    base.join (String.ofList ((first :: others).flatMap ('/' :: ·))) =
      .ok { base with path := .segments (first :: others) } := by
  have plain : ∀ c ∈ first ++ others.flatMap ('/' :: ·), keepsInPath c = true := by
    intro c member
    exact chars_plain kept c (List.mem_cons_of_mem '/' member)
  rw [List.flatMap_cons, List.cons_append, join_rooted web isPath single, behindSlash_plain plain,
    readPath_chars kept]

end Joining

end Docsite.Url
