/-
**What single texts of a declaration stand for.**

Blank texts are treated in three ways: an optional text counts as missing, a required one is a fault,
and a word is looked at without the blanks around it. The rules are given here without saying how they
are followed, and every check of a single text is shown to follow its rule.

* `Given`, `Kept`: texts that count unless they are blank.
* `Names`: words that stand for a choice.
* `IsWebAddress`, `ServedBelow`: the address of a site and the path below which it is served.
-/

import Docsite.Proofs.Config.Gives

namespace Docsite

/-! ## Texts -/

/-- A text that is there and not blank. -/
def Given (value : Option String) (text : String) : Prop :=
  value = some text ∧ Text.trim text ≠ ""

/-- Of a text that may be missing exactly one that is given is kept, as it was written. -/
def Kept (value kept : Option String) : Prop :=
  ∀ text, kept = some text ↔ Given value text

/-- A text that is given counts, and where none is given another one does. -/
inductive Defaulted (value : Option String) (missing : String) : String → Prop
  | given {text : String} : Given value text → Defaulted value missing text
  | missing : (∀ text, ¬ Given value text) → Defaulted value missing missing

section Texts

variable {value : Option String}

theorem Given.unique {text other : String} (left : Given value text) (right : Given value other) :
    text = other :=
  Option.some.inj (left.1.symm.trans right.1)

theorem present_eq_some {text : String} : present value = some text ↔ Given value text := by
  rw [present, Option.filter_eq_some_iff, Given, Ne, Text.trim_eq_empty_iff, Bool.not_eq_true',
    Bool.not_eq_true]

theorem present_eq_none : present value = none ↔ ∀ text, ¬ Given value text := by
  rw [Option.eq_none_iff_forall_ne_some]
  exact forall_congr' fun text => not_congr present_eq_some

theorem kept_iff {kept : Option String} : Kept value kept ↔ present value = kept := by
  constructor
  · intro isKept
    ext text
    rw [present_eq_some, isKept text]
  · rintro rfl text
    exact present_eq_some

theorem defaulted_iff {missing text : String} :
    Defaulted value missing text ↔ (present value).getD missing = text := by
  constructor
  · rintro (found | nowhere)
    · rw [present_eq_some.mpr found, Option.getD_some]
    · rw [present_eq_none.mpr nowhere, Option.getD_none]
  · rintro rfl
    match found : present value with
    | some text => exact .given (present_eq_some.mp found)
    | none => exact .missing (present_eq_none.mp found)

theorem gives_required {field text : String} :
    (required field value).Gives text ↔ Given value text := by
  unfold required
  rw [← present_eq_some]
  cases present value with
  | some other => rw [Check.gives_pure, Option.some.injEq]
  | none => simp only [Check.not_gives_throw, reduceCtorEq]

end Texts

/-! ## Words -/

/-- The choice that a text stands for: the one whose word it is, blanks around it aside, and where
there is no text a choice of its own. -/
inductive Names {α : Type} (word : α → String) (missing : α) : Option String → α → Prop
  | missing : Names word missing none missing
  | named {text : String} {choice : α} :
      Text.trim text = word choice → Names word missing (some text) choice

section Words

variable {α : Type} {word : α → String} {missing choice : α}

@[simp] theorem names_none : Names word missing none choice ↔ missing = choice := by
  constructor
  · rintro ⟨⟩
    rfl
  · rintro rfl
    exact .missing

@[simp] theorem names_some {text : String} :
    Names word missing (some text) choice ↔ Text.trim text = word choice := by
  constructor
  · rintro (_ | same)
    exact same
  · exact .named

end Words

theorem gives_validatePolicy {field : String} {missing policy : LinkPolicy}
    {value : Option String} :
    (validatePolicy field missing value).Gives policy ↔
      Names LinkPolicy.name missing value policy := by
  cases value with
  | none => rw [validatePolicy, Check.gives_pure, names_none]
  | some text =>
    have named : LinkPolicy.ofText? text = some policy ↔ Text.trim text = policy.name := by
      rw [LinkPolicy.ofText?]
      constructor
      · intro found
        rw [LinkPolicy.ofWord?] at found
        have isWord := List.find?_some found
        exact (beq_iff_eq.mp isWord).symm
      · intro same
        rw [same, LinkPolicy.ofWord?_name]
    rw [names_some, ← named, validatePolicy]
    cases LinkPolicy.ofText? text with
    | some other => rw [Check.gives_pure, Option.some.injEq]
    | none => simp only [Check.not_gives_throw, reduceCtorEq]

theorem gives_validatePosition {field : String} {value : Option String}
    {position : NavbarPosition} :
    (validatePosition field value).Gives position ↔
      Names NavbarPosition.name .left value position := by
  cases value with
  | none => rw [validatePosition, Option.map_none, Check.gives_pure, names_none]
  | some text =>
    unfold validatePosition
    simp only [Option.map_some, beq_iff_eq, names_some]
    split
    · next left => cases position <;> simp [left, NavbarPosition.name]
    · next notLeft =>
      split
      · next right => cases position <;> simp [right, NavbarPosition.name]
      · next notRight => cases position <;> simp [notLeft, notRight, NavbarPosition.name]

theorem gives_validateStyle {value : Option String} {style : FooterStyle} :
    (validateStyle value).Gives style ↔ Names FooterStyle.name .light value style := by
  cases value with
  | none => rw [validateStyle, Option.map_none, Check.gives_pure, names_none]
  | some text =>
    unfold validateStyle
    simp only [Option.map_some, beq_iff_eq, names_some]
    split
    · next light => cases style <;> simp [light, FooterStyle.name]
    · next notLight =>
      split
      · next dark => cases style <;> simp [dark, FooterStyle.name]
      · next notDark => cases style <;> simp [notLight, notDark, FooterStyle.name]

/-! ## Addresses -/

/-- The text that is kept of an address: without the blanks around it and then without the slashes at
its end. -/
def strippedUrl (text : String) : String :=
  Text.trimEndOf '/' (Text.trim text)

/-- A text that is the address of a host on the web, blanks around it aside. -/
def IsWebAddress (text : String) : Prop :=
  ∃ url, Url.parse (Text.trim text) = .ok url ∧ (url.scheme = "http" ∨ url.scheme = "https") ∧
    url.host ≠ none

/-- The path that a text spells: without the blanks around it, and with a slash at its end. It must
start with one. -/
inductive ServedBelow (text : String) : String → Prop
  | closed : ['/'] <+: (Text.trim text).toList → ['/'] <:+ (Text.trim text).toList →
      ServedBelow text (Text.trim text)
  | opened : ['/'] <+: (Text.trim text).toList → ¬ ['/'] <:+ (Text.trim text).toList →
      ServedBelow text (Text.trim text ++ "/")

theorem gives_validateUrl {text address : String} :
    (validateUrl text).Gives address ↔
      IsWebAddress text ∧ address = strippedUrl text := by
  unfold validateUrl IsWebAddress strippedUrl
  dsimp only
  cases Url.parse (Text.trim text) with
  | error error => simp
  | ok url =>
    dsimp only
    split
    · next other =>
      have notWeb : ¬ (url.scheme = "http" ∨ url.scheme = "https") := by simpa using other
      simp [notWeb]
    · next web =>
      have isWeb : url.scheme = "http" ∨ url.scheme = "https" := by
        simpa [or_iff_not_imp_left] using web
      split
      · next noHost =>
        simp [Option.isNone_iff_eq_none.mp noHost]
      · next host =>
        have hasHost : url.host ≠ none := fun missing => host (Option.isNone_iff_eq_none.mpr missing)
        simp only [Check.gives_bind, Check.gives_pure, Except.ok.injEq, exists_eq_left', isWeb,
          hasHost, ne_eq, not_false_eq_true, and_self, true_and]
        constructor
        · rintro ⟨_, _, rfl⟩
          rfl
        · rintro rfl
          exact ⟨(), Check.gives_giveIf, rfl⟩

theorem gives_validateBaseUrl {text path : String} :
    (validateBaseUrl text).Gives path ↔ ServedBelow text path := by
  unfold validateBaseUrl
  dsimp only
  split
  · next notRooted =>
    have away : ¬ ['/'] <+: (Text.trim text).toList := by
      rw [List.singleton_prefix_iff_head?_eq_some]
      exact bne_iff_ne.mp notRooted
    simp only [Check.not_gives_invalid, false_iff]
    rintro (⟨rooted, _⟩ | ⟨rooted, _⟩)
    · exact away rooted
    · exact away rooted
  · next rooted =>
    have start : ['/'] <+: (Text.trim text).toList := by
      rw [List.singleton_prefix_iff_head?_eq_some]
      simpa using rooted
    split
    · next slash =>
      have finish := List.singleton_suffix_iff_getLast?_eq_some.mpr (beq_iff_eq.mp slash)
      rw [Check.gives_pure]
      constructor
      · rintro rfl
        exact .closed start finish
      · rintro (_ | ⟨_, noSlash⟩)
        · rfl
        · exact absurd finish noSlash
    · next noSlash =>
      have unfinished : ¬ ['/'] <:+ (Text.trim text).toList := fun finish =>
        noSlash (beq_iff_eq.mpr (List.singleton_suffix_iff_getLast?_eq_some.mp finish))
      rw [Check.gives_pure]
      constructor
      · rintro rfl
        exact .opened start unfinished
      · rintro (⟨_, finish⟩ | _)
        · exact absurd finish unfinished
        · rfl

/-! ## Names of elements -/

/-- A letter of the English alphabet. -/
def IsLetter (c : Char) : Prop :=
  ('A' ≤ c ∧ c ≤ 'Z') ∨ ('a' ≤ c ∧ c ≤ 'z')

/-- A letter and then letters, digits and hyphens. -/
def IsElementName (name : String) : Prop :=
  ∃ first rest, name.toList = first :: rest ∧ IsLetter first ∧
    ∀ c ∈ rest, IsLetter c ∨ ('0' ≤ c ∧ c ≤ '9') ∨ c = '-'

theorem isAlpha_iff {c : Char} : c.isAlpha = true ↔ IsLetter c := by
  have isUpper : c.isUpper = true ↔ 'A' ≤ c ∧ c ≤ 'Z' := by
    show decide ('A' ≤ c ∧ c ≤ 'Z') = true ↔ _
    rw [decide_eq_true_eq]
  have isLower : c.isLower = true ↔ 'a' ≤ c ∧ c ≤ 'z' := by
    show (decide ('a' ≤ c) && decide (c ≤ 'z')) = true ↔ _
    rw [Bool.and_eq_true, decide_eq_true_eq, decide_eq_true_eq]
  show (c.isUpper || c.isLower) = true ↔ _
  rw [Bool.or_eq_true, isUpper, isLower, IsLetter]

theorem isElementName_iff {name : String} : isElementName name = true ↔ IsElementName name := by
  have isDigit (c : Char) : c.isDigit = true ↔ '0' ≤ c ∧ c ≤ '9' := by
    simp only [Char.isDigit, Char.le_def, Bool.and_eq_true, decide_eq_true_eq, ge_iff_le]
  unfold isElementName IsElementName
  cases name.toList with
  | nil => simp
  | cons first rest =>
    simp [Char.isAlphanum, isAlpha_iff, isDigit, or_assoc]

end Docsite
