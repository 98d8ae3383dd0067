/-
**The address of a site is the address of the same host.**

An address is kept without the blanks around it and without the slashes at its end. What is kept is
again an address, with the scheme, the host and the port of the text that was declared.

* `parse_stripped`: what is kept is read as a URL with the same scheme, host and port.
* `IsWebAddress.stripped`: what is kept is an address.
* `ServedBelow.again`: a path below which a site is served stands for itself.
-/

import Docsite.Proofs.Config.Text
import Docsite.Proofs.Url.Padding

namespace Docsite

/-! ## Addresses -/

/-- **What is kept of an address is read as a URL with the same scheme, host and port.** -/
theorem parse_stripped {text scheme : String} {host : Option Url.Host} {port : Option Nat}
    (web : Url.SchemeKind.of scheme = .web)
    (parsed : ∃ path, Url.parse (Text.trim text) = .ok { scheme, host, port, path }) :
    ∃ path, Url.parse (Text.trim (strippedUrl text)) = .ok { scheme, host, port, path } := by
  -- The text is what is kept of it with slashes and blanks behind it.
  have front : ∀ c ∈ (Text.trim text).toList.head?, Text.isBlank c = false := by
    rw [Text.toList_trim]
    exact fun _ => Text.head?_dropBothWhile
  obtain ⟨padding, split, ofKind⟩ := Text.exists_padding (p := Text.isBlank) (q := (· == '/')) front
  have padded : ∀ c ∈ padding, Url.IsPadding c := by
    intro c member
    rcases ofKind c member with blank | slash
    · exact .inl (.inr blank)
    · exact .inr (beq_iff_eq.mp slash)
  have kept : Text.trim (strippedUrl text) = String.ofList
      (Text.dropBothWhile Text.isBlank (Text.dropEndWhile (· == '/') (Text.trim text).toList)) := by
    rw [Text.trim, strippedUrl, Text.toList_trimEndOf]
  rw [kept]
  refine Url.parse_of_padded web padded ?_
  rwa [← split, String.ofList_toList]

theorem IsWebAddress.stripped {text : String} (isAddress : IsWebAddress text) :
    IsWebAddress (strippedUrl text) := by
  obtain ⟨⟨scheme, host, port, path⟩, parsed, web, hasHost⟩ := isAddress
  have kind : Url.SchemeKind.of scheme = .web := by
    rcases web with rfl | rfl
    · rfl
    · rfl
  obtain ⟨path, parsed⟩ := parse_stripped kind ⟨path, parsed⟩
  exact ⟨_, parsed, web, hasHost⟩

/-- An address is not blank. -/
theorem IsWebAddress.trim_ne_empty {text : String} (isAddress : IsWebAddress text) :
    Text.trim text ≠ "" := by
  obtain ⟨url, parsed, -, -⟩ := isAddress
  intro blank
  rw [blank] at parsed
  cases parsed

/-- What is kept of an address is kept again as it is, unless it ends in a blank. -/
theorem strippedUrl_idem {text : String}
    (back : ∀ c ∈ (strippedUrl text).toList.getLast?, Text.isBlank c = false) :
    strippedUrl (strippedUrl text) = strippedUrl text := by
  have front : ∀ c ∈ (strippedUrl text).toList.head?, Text.isBlank c = false := by
    intro c first
    rw [strippedUrl, Text.toList_trimEndOf, Text.toList_trim] at first
    exact Text.head?_dropBothWhile (Text.head?_dropEndWhile first)
  calc strippedUrl (strippedUrl text)
      = Text.trimEndOf '/' (strippedUrl text) := by
        rw [strippedUrl, Text.trim_eq_self front back]
    _ = strippedUrl text := Text.trimEndOf_idem _ _

/-! ## Paths below which sites are served -/

section ServedBelow

variable {text path : String}

theorem ServedBelow.head?_eq (below : ServedBelow text path) : path.toList.head? = some '/' := by
  rcases below with ⟨start, -⟩ | ⟨start, -⟩
  · exact List.singleton_prefix_iff_head?_eq_some.mp start
  · rw [String.toList_append, List.head?_append,
      List.singleton_prefix_iff_head?_eq_some.mp start]
    rfl

theorem ServedBelow.getLast?_eq (below : ServedBelow text path) :
    path.toList.getLast? = some '/' := by
  rcases below with ⟨-, finish⟩ | -
  · exact List.singleton_suffix_iff_getLast?_eq_some.mp finish
  · rw [String.toList_append]
    exact List.getLast?_concat

theorem ServedBelow.trim_eq (below : ServedBelow text path) : Text.trim path = path := by
  have noBlank : ∀ c ∈ some '/', Text.isBlank c = false := by
    rintro c ⟨⟩
    decide
  refine Text.trim_eq_self ?_ ?_
  · rwa [below.head?_eq]
  · rwa [below.getLast?_eq]

/-- A path below which a site is served stands for itself. -/
theorem ServedBelow.again (below : ServedBelow text path) : ServedBelow path path := by
  have closed : ServedBelow path (Text.trim path) := by
    refine .closed ?_ ?_
    · rw [below.trim_eq, List.singleton_prefix_iff_head?_eq_some, below.head?_eq]
    · rw [below.trim_eq, List.singleton_suffix_iff_getLast?_eq_some, below.getLast?_eq]
  rwa [below.trim_eq] at closed

end ServedBelow

end Docsite
