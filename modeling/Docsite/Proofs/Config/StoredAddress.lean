/-
**Which address is stored.**

The address of a site is stored without the blanks around it and then without the slashes at its end. It
starts with no blank, ends in no slash, and names the scheme, the host and the port that were declared.
Declared again, it is accepted. It is stored as it is unless it ends in a blank, and it does so where a
blank stood in front of those slashes.

* `HidesBlank`: a blank stands in front of the slashes at the end.
* `strippedUrl_eq_self_iff`: what is stored is stored again as it is, unless such a blank was hidden.
* `validate_storedUrl`: what is stored of the address of any site.
-/

import Docsite.Proofs.Config.Address
import Docsite.Proofs.Config.Meaning
import Docsite.Proofs.Config.Navigation

namespace Docsite

/-! ## Blanks in front of slashes -/

/-- Without the blanks around it, a text ends in a blank with slashes behind it. -/
def HidesBlank (text : String) : Prop :=
  ∃ front blank slashes, (Text.trim text).toList = front ++ blank :: slashes ∧
    Text.isBlank blank = true ∧ ∀ c ∈ slashes, c = '/'

section Stripping

variable {text : String}

/-- No blank stands in front of what is kept of an address. -/
theorem head?_strippedUrl {c : Char} (first : c ∈ (strippedUrl text).toList.head?) :
    Text.isBlank c = false := by
  rw [strippedUrl, Text.toList_trimEndOf, Text.toList_trim] at first
  exact Text.head?_dropBothWhile (Text.head?_dropEndWhile first)

/-- What is kept of an address ends in no slash. -/
theorem getLast?_strippedUrl : (strippedUrl text).toList.getLast? ≠ some '/' := by
  rw [strippedUrl, Text.toList_trimEndOf]
  exact fun last => absurd (Text.getLast?_dropEndWhile last) (by decide)

/-- What is kept of an address stands in front of slashes. -/
theorem exists_slashes_strippedUrl (text : String) :
    ∃ slashes, (Text.trim text).toList = (strippedUrl text).toList ++ slashes ∧
      ∀ c ∈ slashes, c = '/' := by
  obtain ⟨slashes, split, areSlashes⟩ :=
    Text.exists_dropEndWhile_append (· == '/') (Text.trim text).toList
  rw [strippedUrl, Text.toList_trimEndOf]
  exact ⟨slashes, split, fun c member => eq_of_beq (areSlashes c member)⟩

/-- **What is kept of an address ends in a blank exactly if the address hides one.** -/
theorem getLast?_isBlank_iff :
    (∃ c ∈ (strippedUrl text).toList.getLast?, Text.isBlank c = true) ↔ HidesBlank text := by
  constructor
  · rintro ⟨blank, last, isBlank⟩
    obtain ⟨front, kept⟩ := List.getLast?_eq_some_iff.mp last
    obtain ⟨slashes, split, areSlashes⟩ := exists_slashes_strippedUrl text
    refine ⟨front, blank, slashes, ?_, isBlank, areSlashes⟩
    rw [split, kept, List.append_assoc]
    rfl
  · rintro ⟨front, blank, slashes, split, isBlank, areSlashes⟩
    have notSlash : (blank == '/') = false := by
      rw [beq_eq_false_iff_ne]
      rintro rfl
      exact absurd isBlank (by decide)
    have kept : (strippedUrl text).toList = front ++ [blank] := by
      have spelled : front ++ blank :: slashes =
          front ++ [blank] ++ List.replicate slashes.length '/' := by
        rw [← List.eq_replicate_iff.mpr ⟨rfl, areSlashes⟩, List.append_assoc]
        rfl
      rw [strippedUrl, Text.toList_trimEndOf, split, spelled,
        Text.dropEndWhile_replicate (p := (· == '/')) (beq_self_eq_true '/'),
        Text.dropEndWhile_concat, notSlash, if_neg Bool.false_ne_true]
    exact ⟨blank, by rw [kept, List.getLast?_concat]; rfl, isBlank⟩

/-- **What is kept of an address is kept again as it is, unless the address hides a blank.** -/
theorem strippedUrl_eq_self_iff :
    strippedUrl (strippedUrl text) = strippedUrl text ↔ ¬ HidesBlank text := by
  rw [← getLast?_isBlank_iff]
  constructor
  · rintro same ⟨blank, last, isBlank⟩
    -- The second time, the blank goes, and nothing is added.
    obtain ⟨front, kept⟩ := List.getLast?_eq_some_iff.mp last
    have lengths : (strippedUrl (strippedUrl text)).toList.length =
        (strippedUrl text).toList.length := by rw [same]
    have opened : (front ++ [blank]).dropWhile Text.isBlank = front ++ [blank] := by
      rw [← kept]
      exact Text.dropWhile_eq_self fun c => head?_strippedUrl
    have shorter : (strippedUrl (strippedUrl text)).toList.length ≤ front.length := by
      rw [strippedUrl, Text.toList_trimEndOf, Text.toList_trim, kept, Text.dropBothWhile, opened,
        Text.dropEndWhile_concat, if_pos isBlank]
      exact (List.rdropWhile_prefix _ _).length_le.trans (List.rdropWhile_prefix _ _).length_le
    rw [lengths, kept, List.length_append, List.length_singleton] at shorter
    omega
  · intro noBlank
    refine strippedUrl_idem fun c last => ?_
    rw [Bool.eq_false_iff]
    exact fun isBlank => noBlank ⟨c, last, isBlank⟩

/-- **What is kept of an address is read as it is, to the same scheme, host and port.** -/
theorem exists_parse_strippedUrl (isAddress : IsWebAddress text) :
    ∃ url path, Url.parse (Text.trim text) = .ok url ∧
      Url.parse (strippedUrl text) = .ok { url with path } := by
  obtain ⟨⟨scheme, host, port, path⟩, parsed, web, -⟩ := isAddress
  have kind : Url.SchemeKind.of scheme = .web := by
    rcases web with rfl | rfl
    · rfl
    · rfl
  obtain ⟨slashes, split, areSlashes⟩ := exists_slashes_strippedUrl text
  have padded : ∀ c ∈ slashes, Url.IsPadding c := fun c member => .inr (areSlashes c member)
  have whole : Text.trim text = String.ofList ((strippedUrl text).toList ++ slashes) := by
    rw [← split, String.ofList_toList]
  obtain ⟨stored, read⟩ := Url.parse_of_padded kind padded ⟨path, whole ▸ parsed⟩
  rw [String.ofList_toList] at read
  exact ⟨_, stored, parsed, read⟩

end Stripping

/-! ## Sites -/

/-- What is stored as the address of a site, declared as its address, is accepted. -/
theorem SiteDeclaration.StandsFor.storedUrl {declared : SiteDeclaration} {config : SiteConfig}
    (stands : declared.StandsFor config) :
    SiteDeclaration.StandsFor { declared with url := some config.url }
      { config with url := strippedUrl config.url } := by
  obtain ⟨address, -, isAddress, stored⟩ := stands.url
  have again : IsWebAddress config.url := stored ▸ isAddress.stripped
  exact { stands with url := ⟨config.url, ⟨rfl, again.trim_ne_empty⟩, again, rfl⟩ }

/-- **The stored address of a site.** It starts with no blank, ends in no slash and is read as a URL with
the scheme, the host and the port that were declared. Declared as the address of the site, it is accepted.
If no blank stood in front of the slashes at the end of the declared address, it ends in no blank, and
every site that declares it stores it as it is; otherwise it ends in a blank and is stored without it. -/
theorem validate_storedUrl {declared : SiteDeclaration} {config : SiteConfig}
    (given : (validate declared).Gives config) :
    ∃ address, declared.url = some address ∧
      (∀ c ∈ config.url.toList.head?, Text.isBlank c = false) ∧
      config.url.toList.getLast? ≠ some '/' ∧
      (∃ url path, Url.parse (Text.trim address) = .ok url ∧
        Url.parse config.url = .ok { url with path }) ∧
      (validate { declared with url := some config.url }).Gives
        { config with url := strippedUrl config.url } ∧
      ((∃ c ∈ config.url.toList.getLast?, Text.isBlank c = true) ↔ HidesBlank address) ∧
      ((∀ other stored, other.url = some config.url → (validate other).Gives stored →
        stored.url = config.url) ↔ ¬ HidesBlank address) := by
  have stands := gives_validate.mp given
  obtain ⟨address, ⟨declares, -⟩, isAddress, stored⟩ := stands.url
  have again := gives_validate.mpr stands.storedUrl
  have start : ∀ c ∈ config.url.toList.head?, Text.isBlank c = false := by
    rw [stored]
    exact fun c => head?_strippedUrl
  have finish : config.url.toList.getLast? ≠ some '/' := by
    rw [stored]
    exact getLast?_strippedUrl
  have read := exists_parse_strippedUrl isAddress
  have blank : (∃ c ∈ (strippedUrl address).toList.getLast?, Text.isBlank c = true) ↔
      HidesBlank address := getLast?_isBlank_iff
  rw [← stored] at read blank
  refine ⟨address, declares, start, finish, read, again, blank, ?_⟩
  rw [← strippedUrl_eq_self_iff, ← stored]
  constructor
  · intro stable
    have same := stable { declared with url := some config.url } _ rfl again
    exact same
  · intro same other result declaresStored gives
    obtain ⟨text, ⟨isText, -⟩, -, resultStored⟩ := (gives_validate.mp gives).url
    obtain rfl : config.url = text := Option.some.inj (declaresStored.symm.trans isText)
    exact resultStored.trans same

/-- A bare site with a port, a path and slashes in its address, and blanks around it. -/
theorem validate_storedUrl_path :
    let declared : SiteDeclaration :=
      { title := some "Site", url := some " http://x.org:81/a b//\t", baseUrl := some "/" }
    let config : SiteConfig := { SiteConfig.bare with url := "http://x.org:81/a b" }
    (validate declared).Gives config ∧
      (validate { declared with url := some config.url }).Gives config := by
  intro declared config
  have given : (validate declared).Gives config := by decide +kernel
  obtain ⟨address, declares, -, -, -, again, -, -⟩ := validate_storedUrl given
  refine ⟨given, ?_⟩
  have same : strippedUrl config.url = config.url := by decide
  rwa [same] at again

/-- An address with a blank in front of its last slash is stored with the blank, and without it the next
time. -/
theorem validate_storedUrl_blank :
    let declared : SiteDeclaration :=
      { title := some "Site", url := some "https://x.org/a /", baseUrl := some "/" }
    let config : SiteConfig := { SiteConfig.bare with url := "https://x.org/a " }
    (validate declared).Gives config ∧
      (validate { declared with url := some config.url }).Gives
        { config with url := "https://x.org/a" } := by
  decide +kernel

end Docsite
