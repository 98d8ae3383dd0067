/-
**What stands behind a URL of the web.**

If a text with slashes, control characters and white space at its end is read as a URL of the web, so is
the text without them, and it has the same scheme, host and port: they are settled by the authority,
and no authority ends in a control character or white space.

* `IsPadding`: the characters at the end that do not matter.
* `parse_of_padded`: a text and the text with such characters behind it.
-/

import Docsite.Proofs.Text.Trim
import Docsite.Proofs.Url.Authority

namespace Docsite.Url

/-- A slash, a control character or white space. -/
def IsPadding (c : Char) : Prop :=
  IsFiller c ∨ c = '/'

instance (c : Char) : Decidable (IsPadding c) :=
  inferInstanceAs (Decidable (_ ∨ _))

/-- The letters, digits and signs of a scheme, with a letter in front. -/
structure IsSchemeName (name : List Char) (scheme : String) : Prop where
  first : ∃ c ∈ name.head?, c.isAlpha = true
  every : ∀ c ∈ name, isSchemeChar c = true
  scheme : scheme = String.ofList (name.map Char.toLower)

/-- **A scheme is a name with a colon behind it.** -/
theorem cutScheme?_eq_some {input rest : List Char} {scheme : String} :
    cutScheme? input = some (scheme, rest) ↔
      ∃ name, IsSchemeName name scheme ∧ input = name ++ ':' :: rest := by
  constructor
  · intro cut
    unfold cutScheme? at cut
    split at cut
    · cases cut
    · next first more =>
      split at cut
      · next behind dropped =>
        split at cut
        · next letter =>
          cases cut
          have isScheme : isSchemeChar first = true := by
            simp [isSchemeChar, Char.isAlphanum, letter]
          refine ⟨(first :: more).takeWhile isSchemeChar, ⟨⟨first, ?_, letter⟩, fun c => ?_, rfl⟩, ?_⟩
          · rw [List.takeWhile_cons_of_pos isScheme]
            rfl
          · exact List.mem_takeWhile_imp
          · rw [← dropped, List.takeWhile_append_dropWhile]
        · cases cut
      · cases cut
  · rintro ⟨name, ⟨⟨first, isFirst, letter⟩, every, rfl⟩, rfl⟩
    have noMore : isSchemeChar ':' = false := by decide
    have taken : (name ++ ':' :: rest).takeWhile isSchemeChar = name := by
      rw [List.takeWhile_append_of_pos every, List.takeWhile_cons_of_neg (by simp [noMore]),
        List.append_nil]
    have dropped : (name ++ ':' :: rest).dropWhile isSchemeChar = ':' :: rest := by
      rw [List.dropWhile_append_of_pos every, List.dropWhile_cons_of_neg (by simp [noMore])]
    cases name with
    | nil => cases isFirst
    | cons c more =>
      obtain rfl : c = first := Option.some.inj isFirst
      rw [List.cons_append] at taken dropped
      simp only [cutScheme?, List.cons_append, taken, dropped, letter, if_true]

section Padding

variable {text padding : List Char}

theorem significant_append (text : List Char) (padded : ∀ c ∈ padding, IsPadding c) :
    ∃ behind, significant (text ++ padding) = significant text ++ behind ∧
      ∀ c ∈ behind, IsPadding c := by
  obtain ⟨behind, split, ofKind⟩ := Text.dropBothWhile_append isControlOrSpace text padding
  refine ⟨behind.filter fun c => !(c == '\t' || c == '\n' || c == '\r'), ?_, fun c member => ?_⟩
  · rw [significant, split, List.filter_append]
    rfl
  · rcases ofKind c (List.mem_of_mem_filter member) with control | inPadding
    · exact .inl (.inl (by simpa [isControlOrSpace] using control))
    · exact padded c inPadding

/-- A text has the scheme that it has with more behind it, unless there are colons behind it. -/
theorem cutScheme?_append {rest : List Char} {scheme : String} (noColon : ':' ∉ padding)
    (cut : cutScheme? (text ++ padding) = some (scheme, rest)) :
    ∃ before, cutScheme? text = some (scheme, before) ∧ rest = before ++ padding := by
  obtain ⟨name, isName, split⟩ := cutScheme?_eq_some.mp cut
  rcases List.append_eq_append_iff.mp split with ⟨more, -, inPadding⟩ | ⟨more, isText, behind⟩
  · refine absurd ?_ noColon
    rw [inPadding]
    exact List.mem_append_right _ List.mem_cons_self
  · cases more with
    | nil =>
      refine absurd ?_ noColon
      rw [← List.nil_append padding, ← behind]
      exact List.mem_cons_self
    | cons colon before =>
      obtain ⟨rfl, rfl⟩ := List.cons.inj behind
      exact ⟨before, cutScheme?_eq_some.mpr ⟨name, isName, isText⟩, rfl⟩

theorem takeWhile_append_split (p : Char → Bool) (front back : List Char) :
    ∃ behind, (front ++ back).takeWhile p = front.takeWhile p ++ behind ∧
      ∀ c ∈ behind, c ∈ back ∧ p c = true := by
  rw [List.takeWhile_append]
  split
  · next whole =>
    have all : front.takeWhile p = front := (List.takeWhile_prefix p).eq_of_length whole
    refine ⟨back.takeWhile p, by rw [all], fun c member => ?_⟩
    exact ⟨(List.takeWhile_prefix p).subset member, List.mem_takeWhile_imp member⟩
  · exact ⟨[], (List.append_nil _).symm, fun _ member => absurd member List.not_mem_nil⟩

/-- The authority of a text with more behind it goes on with characters that do not end it. -/
theorem authorityOf_append (text padding : List Char) :
    ∃ behind, authorityOf (text ++ padding) = authorityOf text ++ behind ∧
      ∀ c ∈ behind, c ∈ padding ∧ (!endsAuthority .web c) = true := by
  unfold authorityOf
  rw [List.dropWhile_append]
  split
  · next nothing =>
    rw [List.isEmpty_iff.mp nothing]
    refine ⟨_, rfl, fun c member => ⟨?_, ?_⟩⟩
    · exact (List.dropWhile_suffix _).subset ((List.takeWhile_prefix _).subset member)
    · exact List.mem_takeWhile_imp (p := (!endsAuthority .web ·)) member
  · exact takeWhile_append_split _ _ _

/-- An authority that names something is not continued by padding. -/
theorem AuthorityNames.of_append {scheme : String} {host : Option Host} {port : Option Nat}
    (padded : ∀ c ∈ padding, IsPadding c)
    (names : AuthorityNames scheme (authorityOf (text ++ padding)) host port) :
    AuthorityNames scheme (authorityOf text) host port := by
  obtain ⟨behind, split, goesOn⟩ := authorityOf_append text padding
  rcases List.eq_nil_or_concat behind with rfl | ⟨before, c, rfl⟩
  · rwa [split, List.append_nil] at names
  · -- The last character would be one that no authority ends in.
    obtain ⟨inPadding, inAuthority⟩ := goesOn c (by simp)
    have filler : IsFiller c := by
      rcases padded c inPadding with filler | rfl
      · exact filler
      · exact absurd inAuthority (by decide)
    have noSlash : ∀ d ∈ authorityOf (text ++ padding), d ≠ '\\' := by
      rintro d member rfl
      exact absurd (List.mem_takeWhile_imp member) (by decide)
    rw [split, List.concat_eq_append, ← List.append_assoc] at names noSlash
    exact absurd names (AuthorityNames.not_concat filler noSlash)

/-- **A text is read as a URL of the web if it is one with slashes, control characters and white
space behind it.** Its scheme, host and port are the same. -/
theorem parse_of_padded {scheme : String} (web : SchemeKind.of scheme = .web)
    {host : Option Host} {port : Option Nat} (padded : ∀ c ∈ padding, IsPadding c)
    (parsed : ∃ path, parse (String.ofList (text ++ padding)) = .ok { scheme, host, port, path }) :
    ∃ path, parse (String.ofList text) = .ok { scheme, host, port, path } := by
  rw [parse_web_iff web, String.toList_ofList] at parsed ⊢
  obtain ⟨rest, cut, names⟩ := parsed
  obtain ⟨behind, split, paddedBehind⟩ := significant_append text padded
  rw [split] at cut
  have noColon : ':' ∉ behind := by
    intro member
    have noPadding : ¬ IsPadding ':' := by decide
    exact noPadding (paddedBehind _ member)
  obtain ⟨before, cutBefore, rfl⟩ := cutScheme?_append noColon cut
  exact ⟨before, cutBefore, names.of_append paddedBehind⟩

end Padding

end Docsite.Url
