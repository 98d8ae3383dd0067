/-
**References and the host of a page.**

A reference is resolved against the URL of the page that it stands on. It keeps the scheme, the host and
the port of that page, unless it names a place of its own: it has another scheme, or two slashes stand
where a host is named. A reference of this kind leads to the same place from every page.

* `IsPage`, `Keeps`: pages of the web, and references that stay on the host of one.
* `NamesPlace`: references that name a place of their own.
* `keeps_iff`: the other references are those that stay, whatever the page.
-/

import Docsite.Proofs.Url.Padding
import Docsite.Proofs.Url.Rooted

namespace Docsite.Url

/-! ## Pages -/

/-- A URL of a page of the web. -/
structure IsPage (page : Url) : Prop where
  scheme : page.scheme = "http"
  path : ∃ list, page.path = .segments list

/-- A reference on a page leads to a URL with the scheme, the host and the port of the page. -/
def Keeps (page : Url) (reference : String) : Prop :=
  ∃ path, page.join reference = .ok { page with path }

theorem IsPage.kind_eq {page : Url} (isPage : page.IsPage) : page.kind = .web := by
  rw [kind, isPage.scheme]
  rfl

/-- **Where a text with a slash in front leads on a page is a page of the web.** -/
theorem IsPage.of_join {base page : Url} (isPage : base.IsPage) {reference : String}
    (slash : ['/'] <+: reference.toList) (joined : base.join reference = .ok page) : page.IsPage := by
  obtain ⟨list, isPath⟩ := isPage.path
  obtain ⟨rest, spelled⟩ := slash
  rw [← String.ofList_toList (s := reference), ← spelled, List.singleton_append] at joined
  obtain ⟨behind, read⟩ := path_of_join isPage.kind_eq isPath joined
  refine ⟨?_, _, read⟩
  rw [join_slash isPage.kind_eq isPath, readRelative.eq_def] at joined
  dsimp only at joined
  rw [if_neg (by decide), if_pos (by decide)] at joined
  split at joined
  · split at joined
    · exact (readAuthority_scheme joined).trans isPage.scheme
    · cases joined
      exact isPage.scheme
  · cases joined
    exact isPage.scheme

/-! ## Places -/

/-- Two slashes of either kind stand in front of a text, as in front of a host. -/
def NamesHost (input : List Char) : Prop :=
  2 ≤ (input.takeWhile isEitherSlash).length

/-- What stands behind the scheme of a text, if it has one. -/
def behindScheme (input : List Char) : List Char :=
  ((cutScheme? input).map Prod.snd).getD input

/-- A reference on a page of the web names a place of its own: its scheme is another one, or it names
a host. -/
def NamesPlace (input : List Char) : Prop :=
  (∃ scheme ∈ (cutScheme? input).map Prod.fst, scheme ≠ "http") ∨ NamesHost (behindScheme input)

instance (input : List Char) : Decidable (NamesHost input) :=
  inferInstanceAs (Decidable (_ ≤ _))

instance (input : List Char) : Decidable (NamesPlace input) :=
  inferInstanceAs (Decidable (_ ∨ _))

/-- With a scheme, a text names a place by it or by what stands behind it. -/
theorem namesPlace_scheme {input rest : List Char} {scheme : String}
    (cut : cutScheme? input = some (scheme, rest)) :
    NamesPlace input ↔ scheme ≠ "http" ∨ NamesHost rest := by
  rw [NamesPlace, behindScheme, cut, Option.map_some, Option.map_some, Option.getD_some]
  simp only [Option.mem_some_iff, exists_eq_left']

/-- Without a scheme, a text names a place by a host. -/
theorem namesPlace_relative {input : List Char} (noScheme : cutScheme? input = none) :
    NamesPlace input ↔ NamesHost input := by
  rw [NamesPlace, behindScheme, noScheme, Option.map_none, Option.map_none, Option.getD_none]
  simp only [Option.not_mem_none, false_and, exists_false, false_or]

theorem namesHost_iff {input : List Char} : NamesHost input ↔ ∃ first second rest,
    input = first :: second :: rest ∧ isEitherSlash first = true ∧ isEitherSlash second = true := by
  rw [NamesHost]
  constructor
  · intro two
    match input with
    | [] => exact absurd two (by decide)
    | [first] =>
      have few := two.trans (List.takeWhile_prefix isEitherSlash).length_le
      exact absurd few (Nat.lt_irrefl 1)
    | first :: second :: rest =>
      rw [List.takeWhile_cons] at two
      split at two
      · next isFirst =>
        rw [List.takeWhile_cons] at two
        split at two
        · next isSecond => exact ⟨first, second, rest, rfl, isFirst, isSecond⟩
        · exact absurd two (Nat.lt_irrefl 1)
      · exact absurd two (by decide)
  · rintro ⟨first, second, rest, rfl, isFirst, isSecond⟩
    rw [List.takeWhile_cons_of_pos isFirst, List.takeWhile_cons_of_pos isSecond, List.length_cons,
      List.length_cons]
    omega

/-! ## Resolving -/

section Resolving

variable {page other : Url} {list : List Segment} {input : List Char} {reference : String}

/-- A text that names no host is resolved on the host of the page. -/
theorem readRelative_keeps (noHost : ¬ NamesHost input) :
    ∃ path, readRelative page list input = .ok { page with path } := by
  unfold readRelative
  split
  · exact ⟨page.path, rfl⟩
  · next first rest =>
    split
    · exact ⟨page.path, rfl⟩
    · split
      · next isFirst =>
        split
        · next second more =>
          split
          · next isSecond =>
            exact absurd (namesHost_iff.mpr ⟨first, second, more, rfl, isFirst, isSecond⟩) noHost
          · exact ⟨_, rfl⟩
        · exact ⟨_, rfl⟩
      · exact ⟨_, rfl⟩

/-- A text that names a host is resolved alike on every page. -/
theorem readRelative_congr (isPage : page.IsPage) (isOther : other.IsPage) (namesHost : NamesHost input)
    (others : List Segment) : readRelative page list input = readRelative other others input := by
  obtain ⟨first, second, rest, rfl, isFirst, isSecond⟩ := namesHost_iff.mp namesHost
  have noEnd : ¬ endsPath first = true := by
    rcases (by simpa [isEitherSlash] using isFirst : first = '/' ∨ first = '\\') with rfl | rfl <;>
      decide
  simp only [readRelative, if_neg noEnd, if_pos isFirst, if_pos isSecond, isPage.kind_eq,
    isOther.kind_eq, isPage.scheme, isOther.scheme]

/-- A text behind the scheme of pages is resolved on the host of the page if it names no host. -/
theorem readWithScheme_keeps (isPage : page.IsPage) (noHost : ¬ NamesHost input) :
    ∃ path, readWithScheme (some page) "http" input = .ok { page with path } := by
  obtain ⟨list, isPath⟩ := isPage.path
  rw [NamesHost, Nat.not_le] at noHost
  have kept : ∃ path, readRelative page list input = .ok { page with path } :=
    readRelative_keeps (Nat.not_le.mpr noHost)
  have web : SchemeKind.of "http" = .web := by decide
  simpa only [readWithScheme, web, isPath, noHost, isPage.scheme, decide_true, beq_self_eq_true,
    Bool.and_true, if_true] using kept

/-- A text behind another scheme, or that names a host, is resolved alike on every page. -/
theorem readWithScheme_congr (isPage : page.IsPage) (isOther : other.IsPage) {scheme : String}
    (place : scheme ≠ "http" ∨ NamesHost input) :
    readWithScheme (some page) scheme input = readWithScheme (some other) scheme input := by
  have alone {page : Url} (isPage : page.IsPage) :
      readWithScheme (some page) scheme input = readWithScheme none scheme input := by
    obtain ⟨list, isPath⟩ := isPage.path
    have noFile : (some page).filter (·.scheme == "file") = none := by
      rw [Option.filter_some, isPage.scheme]
      rfl
    have notRelative :
        (decide ((input.takeWhile isEitherSlash).length < 2) && page.scheme == scheme) = false := by
      rw [Bool.and_eq_false_iff, decide_eq_false_iff_not, Nat.not_lt, beq_eq_false_iff_ne,
        isPage.scheme]
      exact place.symm.imp id Ne.symm
    unfold readWithScheme
    rw [noFile]
    cases SchemeKind.of scheme with
    | file => rfl
    | other => rfl
    | web =>
      dsimp only
      rw [isPath]
      dsimp only
      rw [notRelative]
      rfl
  rw [alone isPage, alone isOther]

/-- A reference is read by its scheme if it has one, and else by what it starts with. -/
theorem IsPage.join_eq (isPage : page.IsPage) (isPath : page.path = .segments list)
    (reference : String) :
    page.join reference = match cutScheme? (significant reference.toList) with
      | some (scheme, rest) => readWithScheme (some page) scheme rest
      | none =>
        if (significant reference.toList).head? == some '#' then .ok page
        else readRelative page list (significant reference.toList) := by
  unfold join Url.read
  dsimp only
  cases cutScheme? (significant reference.toList) with
  | some parts => rfl
  | none =>
    dsimp only
    rw [isPath, isPage.kind_eq]
    rfl

/-- **A reference that names no place of its own stays on the host of the page.** -/
theorem IsPage.keeps (isPage : page.IsPage) (noPlace : ¬ NamesPlace (significant reference.toList)) :
    page.Keeps reference := by
  obtain ⟨list, isPath⟩ := isPage.path
  rw [Keeps, isPage.join_eq isPath]
  match cut : cutScheme? (significant reference.toList) with
  | some (scheme, rest) =>
    rw [namesPlace_scheme cut, not_or, not_not] at noPlace
    obtain ⟨rfl, noHost⟩ := noPlace
    exact readWithScheme_keeps isPage noHost
  | none =>
    rw [namesPlace_relative cut] at noPlace
    dsimp only
    split
    · exact ⟨page.path, rfl⟩
    · exact readRelative_keeps noPlace

/-- **A reference that names a place of its own leads to the same place from every page.** -/
theorem IsPage.join_congr (isPage : page.IsPage) (isOther : other.IsPage)
    (place : NamesPlace (significant reference.toList)) :
    page.join reference = other.join reference := by
  obtain ⟨list, isPath⟩ := isPage.path
  obtain ⟨others, isOtherPath⟩ := isOther.path
  rw [isPage.join_eq isPath, isOther.join_eq isOtherPath]
  match cut : cutScheme? (significant reference.toList) with
  | some (scheme, rest) =>
    exact readWithScheme_congr isPage isOther ((namesPlace_scheme cut).mp place)
  | none =>
    have namesHost := (namesPlace_relative cut).mp place
    have noMark : ¬ ((significant reference.toList).head? == some '#') = true := by
      obtain ⟨first, second, rest, spelled, isFirst, -⟩ := namesHost_iff.mp namesHost
      rw [spelled, List.head?_cons, beq_iff_eq, Option.some_inj]
      rintro rfl
      exact absurd isFirst (by decide)
    dsimp only
    rw [if_neg noMark, if_neg noMark]
    exact readRelative_congr isPage isOther namesHost others

/-- The start page of a host that is named by one letter. -/
def startPage (letter : Char) : Url :=
  { scheme := "http", host := some (.domain [letter]), path := .segments [[]] }

theorem isPage_startPage (letter : Char) : (startPage letter).IsPage :=
  ⟨rfl, [[]], rfl⟩

/-- **The references that stay on the host of every page are those that name no place of their own.** -/
theorem keeps_iff : (∀ page : Url, page.IsPage → page.Keeps reference) ↔
    ¬ NamesPlace (significant reference.toList) := by
  constructor
  · intro keeps place
    -- Such a reference would stay on two hosts at once.
    obtain ⟨path, onFirst⟩ := keeps (startPage 'a') (isPage_startPage 'a')
    obtain ⟨path', onSecond⟩ := keeps (startPage 'b') (isPage_startPage 'b')
    rw [(isPage_startPage 'a').join_congr (isPage_startPage 'b') place, onSecond] at onFirst
    have sameHost : some (Host.domain ['b']) = some (Host.domain ['a']) :=
      congrArg Url.host (Except.ok.inj onFirst)
    exact absurd sameHost (by decide)
  · exact fun noPlace page isPage => isPage.keeps noPlace

end Resolving

end Docsite.Url
