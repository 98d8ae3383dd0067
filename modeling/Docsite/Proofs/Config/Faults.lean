/-
**What is wrong with a declaration first.**

A declaration is checked value by value, and the first fault is the error. Every fault is given here by a
rule for its value alone, beside the key that the error names. The values of a site come in the order in
which its keys are declared, except for the items of the navigation bar: the side on which an item stands
is looked at before its label and its target.

* `SiteDeclaration.values`: the values of a site that may have a fault, in order.
* `looksAt_validate`: the check of a site looks at these values.
* `validate_firstFault`: the error is that of the first value with a fault.
-/

import Docsite.Proofs.Config.Acceptance
import Docsite.Proofs.Config.Fails

namespace Docsite

/-! ## Faults of single values -/

/-- A text that has to be there is missing or blank. -/
inductive IsMissing (value : Option String) : Fault → Prop
  | missing : (∀ text, ¬ Given value text) → IsMissing value .missing

/-- An address is no URL, or not one of a host on the web. -/
inductive IsBadAddress (value : Option String) : Fault → Prop
  | unreadable {text : String} {cause : UrlError} : Given value text →
      Url.parse (Text.trim text) = .error cause →
      IsBadAddress value (.invalid (.notAUrl (Text.trim text) cause))
  | otherScheme {text : String} {url : Url} : Given value text →
      Url.parse (Text.trim text) = .ok url → url.scheme ≠ "http" → url.scheme ≠ "https" →
      IsBadAddress value (.invalid (.schemeNotSupported url.scheme))
  | noHost {text : String} {url : Url} : Given value text →
      Url.parse (Text.trim text) = .ok url → url.scheme = "http" ∨ url.scheme = "https" →
      url.host = none → IsBadAddress value (.invalid .urlWithoutHost)

/-- A base URL does not start at the root. -/
inductive IsNotRooted (value : Option String) : Fault → Prop
  | notRooted {text : String} : Given value text → ¬ ['/'] <+: (Text.trim text).toList →
      IsNotRooted value (.invalid (.notRooted (Text.trim text)))

/-- A text is, blanks around it aside, none of some words. -/
inductive IsNotAmong (words : List String) (faultOf : String → Fault) (value : Option String) :
    Fault → Prop
  | unknown {text : String} : value = some text → Text.trim text ∉ words →
      IsNotAmong words faultOf value (faultOf (Text.trim text))

/-- A text names no policy. -/
def IsNoPolicy : Option String → Fault → Prop :=
  IsNotAmong ["throw", "warn", "log", "ignore"] .noPolicy

/-- A text is none of the words that its key allows. -/
def IsOtherWord (words : List String) : Option String → Fault → Prop :=
  IsNotAmong words fun word => .invalid (.notOneOf word words)

/-- A name is not that of an element. -/
inductive IsNoElementName (value : Option String) : Fault → Prop
  | notElement {name : String} : Given value name → ¬ IsElementName name →
      IsNoElementName value (.invalid (.notAnElementName name))

/-- An entry points to two targets. -/
inductive LinkDeclaration.HasBoth (link : LinkDeclaration) : Fault → Prop
  | both {path href : String} : Given link.path path → Given link.href href →
      HasBoth link (.invalid .bothTargets)

/-- An entry points nowhere. -/
inductive LinkDeclaration.HasNeither (link : LinkDeclaration) : Fault → Prop
  | neither : (∀ text, ¬ Given link.path text) → (∀ text, ¬ Given link.href text) →
      HasNeither link .missing

/-! ## Values in order -/

/-- The name of a head tag. -/
def HeadTagDeclaration.values (key : String) (tag : HeadTagDeclaration) : List CheckedValue :=
  [⟨key ++ ".tagName", IsMissing tag.tagName⟩, ⟨key ++ ".tagName", IsNoElementName tag.tagName⟩]

/-- The source of a logo that may be missing. -/
def LogoDeclaration.values? (key : String) (logo : Option LogoDeclaration) : List CheckedValue :=
  logo.toList.map fun logo => ⟨key ++ ".src", IsMissing logo.src⟩

/-- The label of an entry, then its target. Two targets are a fault of the whole entry; a missing target
is missing where a path of the site would be declared. -/
def LinkDeclaration.values (key : String) (link : LinkDeclaration) : List CheckedValue :=
  [⟨key ++ ".label", IsMissing link.label⟩, ⟨key, link.HasBoth⟩, ⟨key ++ ".to", link.HasNeither⟩]

/-- The side on which an item of the navigation bar stands. -/
def LinkDeclaration.side (key : String) (item : LinkDeclaration) : CheckedValue :=
  ⟨key ++ ".position", IsOtherWord ["left", "right"] item.position⟩

/-- An item of the navigation bar in the order in which its keys are declared: its side comes last. -/
def LinkDeclaration.sideLast (key : String) (item : LinkDeclaration) : List CheckedValue :=
  item.values key ++ [item.side key]

/-- An item of the navigation bar in the order in which it is checked: its side comes first. -/
def LinkDeclaration.sideFirst (key : String) (item : LinkDeclaration) : List CheckedValue :=
  [item.side key] ++ item.values key

/-- The title of a column of the footer, then its items. -/
def FooterGroupDeclaration.values (key : String) (group : FooterGroupDeclaration) :
    List CheckedValue :=
  ⟨key ++ ".title", IsMissing group.title⟩ ::
    Check.listed (key ++ ".items") LinkDeclaration.values group.items

/-- The logo of the navigation bar, then its items. -/
def NavbarDeclaration.values (ofItem : String → LinkDeclaration → List CheckedValue)
    (navbar : NavbarDeclaration) : List CheckedValue :=
  LogoDeclaration.values? "themeConfig.navbar.logo" navbar.logo ++
    Check.listed "themeConfig.navbar.items" ofItem navbar.items

/-- The style of the footer, its columns and its logo. -/
def FooterDeclaration.values (footer : FooterDeclaration) : List CheckedValue :=
  ⟨"themeConfig.footer.style", IsOtherWord ["dark", "light"] footer.style⟩ ::
    (Check.listed "themeConfig.footer.links" FooterGroupDeclaration.values footer.links ++
      LogoDeclaration.values? "themeConfig.footer.logo" footer.logo)

/-- **The values of a site that may have a fault, in order,** given the order for the items of its
navigation bar. -/
def SiteDeclaration.values (ofItem : String → LinkDeclaration → List CheckedValue)
    (site : SiteDeclaration) : List CheckedValue :=
  [⟨"title", IsMissing site.title⟩, ⟨"url", IsMissing site.url⟩,
    ⟨"baseUrl", IsMissing site.baseUrl⟩, ⟨"url", IsBadAddress site.url⟩,
    ⟨"baseUrl", IsNotRooted site.baseUrl⟩, ⟨"onBrokenLinks", IsNoPolicy site.onBrokenLinks⟩,
    ⟨"onBrokenMarkdownLinks", IsNoPolicy site.onBrokenMarkdownLinks⟩] ++
  (Check.listed "headTags" HeadTagDeclaration.values site.headTags ++
    (site.themeConfig.navbar.values ofItem ++
      site.themeConfig.footer.toList.flatMap FooterDeclaration.values))

/-! ## Checks of single values -/

section Values

open Check

variable {value : Option String} {text key : String}

theorem looksAt_required (key : String) (value : Option String) :
    (required key value).LooksAt [⟨key, IsMissing value⟩] := by
  unfold required
  cases found : present value with
  | some text =>
    refine looksAt_clean (fun _ => not_fails_pure) (isClean_one fun _ => ?_)
    rintro ⟨nowhere⟩
    exact nowhere text (present_eq_some.mp found)
  | none =>
    refine looksAt_throw .missing fun other => ?_
    constructor
    · rintro ⟨_⟩
      rfl
    · rintro rfl
      exact .missing (present_eq_none.mp found)

/-- A text that is given has the fault of an address exactly if it has it itself. -/
theorem isBadAddress_iff (given : Given value text) {fault : Fault} :
    IsBadAddress value fault ↔ match Url.parse (Text.trim text) with
      | .error cause => fault = .invalid (.notAUrl (Text.trim text) cause)
      | .ok url =>
        if url.scheme = "http" ∨ url.scheme = "https" then
          url.host = none ∧ fault = .invalid .urlWithoutHost
        else fault = .invalid (.schemeNotSupported url.scheme) := by
  constructor
  · rintro (⟨other, unread⟩ | ⟨other, read, notHttp, notHttps⟩ | ⟨other, read, web, noHost⟩)
    · obtain rfl := given.unique other
      rw [unread]
    · obtain rfl := given.unique other
      simp [read, notHttp, notHttps]
    · obtain rfl := given.unique other
      simp [read, web, noHost]
  · cases parsed : Url.parse (Text.trim text) with
    | error cause =>
      rintro rfl
      exact .unreadable given parsed
    | ok url =>
      dsimp only
      split
      · next web =>
        rintro ⟨noHost, rfl⟩
        exact .noHost given parsed web noHost
      · next other =>
        rintro rfl
        exact .otherScheme given parsed (not_or.mp other).1 (not_or.mp other).2

theorem looksAt_validateUrl (given : Given value text) :
    (validateUrl text).LooksAt [⟨"url", IsBadAddress value⟩] := by
  have faults (fault : Fault) := @isBadAddress_iff value text given fault
  unfold validateUrl
  dsimp only
  cases parsed : Url.parse (Text.trim text) with
  | error cause =>
    simp only [parsed] at faults
    exact looksAt_throw (.invalid _) faults
  | ok url =>
    simp only [parsed] at faults
    dsimp only
    split
    · next other =>
      have notWeb : ¬ (url.scheme = "http" ∨ url.scheme = "https") := by simpa using other
      simp only [notWeb, if_false] at faults
      exact looksAt_throw (.invalid _) faults
    · next web =>
      have isWeb : url.scheme = "http" ∨ url.scheme = "https" := by
        simpa [or_iff_not_imp_left] using web
      simp only [isWeb, if_true] at faults
      split
      · next noHost =>
        have noHost := Option.isNone_iff_eq_none.mp noHost
        simp only [noHost, true_and] at faults
        exact looksAt_throw (.invalid _) faults
      · next host =>
        have hasHost : url.host ≠ none := fun missing => host (Option.isNone_iff_eq_none.mpr missing)
        refine looksAt_clean (fun _ fails => ?_)
          (isClean_one fun fault bad => hasHost ((faults fault).mp bad).1)
        rcases fails_bind.mp fails with fails | ⟨_, _, fails⟩
        · exact not_fails_giveIf fails
        · exact not_fails_pure fails

theorem looksAt_validateBaseUrl (given : Given value text) :
    (validateBaseUrl text).LooksAt [⟨"baseUrl", IsNotRooted value⟩] := by
  have rooted : ['/'] <+: (Text.trim text).toList ↔ (Text.trim text).toList.head? = some '/' :=
    List.singleton_prefix_iff_head?_eq_some
  unfold validateBaseUrl
  dsimp only
  split
  · next away =>
    refine looksAt_throw (.invalid _) fun fault => ?_
    constructor
    · rintro ⟨other, _⟩
      rw [given.unique other]
    · rintro rfl
      exact .notRooted given (mt rooted.mp (bne_iff_ne.mp away))
  · next start =>
    refine looksAt_clean (fun _ => by split <;> exact not_fails_pure) (isClean_one fun _ => ?_)
    rintro ⟨other, away⟩
    obtain rfl := given.unique other
    exact away (rooted.mpr (by simpa using start))

/-- A check that accepts exactly some words, and names what it was given otherwise, looks at whether a
text is one of them. -/
theorem looksAt_words {α : Type} {check : Check α} {words : List String} {faultOf : String → Fault}
    (accepts : (∃ a, check.Gives a) ↔ OneOf words value)
    (names : ∀ text error, value = some text → check.Fails error →
      error = (faultOf (Text.trim text)).error key) :
    check.LooksAt [⟨key, IsNotAmong words faultOf value⟩] := by
  refine looksAt_one fun error => ?_
  rw [exists_gives_iff] at accepts
  constructor
  · intro fails
    have refused : ¬ OneOf words value := fun isOne => accepts.mpr isOne error fails
    simp only [OneOf, not_forall] at refused
    obtain ⟨text, isText, unknown⟩ := refused
    exact ⟨_, .unknown isText unknown, names text error isText fails⟩
  · rintro ⟨_, ⟨isText, unknown⟩, rfl⟩
    have refused : ¬ OneOf words value := fun isOne => unknown (isOne _ isText)
    obtain ⟨other, fails⟩ := not_forall_not.mp (mt accepts.mp refused)
    rw [← names _ other isText fails]
    exact fails

theorem looksAt_validatePolicy (key : String) (missing : LinkPolicy) (value : Option String) :
    (validatePolicy key missing value).LooksAt [⟨key, IsNoPolicy value⟩] := by
  refine looksAt_words ?_ fun text error isText fails => ?_
  · simp only [gives_validatePolicy]
    exact exists_policy
  · subst isText
    unfold validatePolicy at fails
    dsimp only at fails
    split at fails
    · exact absurd fails not_fails_pure
    · exact fails_throw.mp fails

theorem looksAt_validatePosition (key : String) (value : Option String) :
    (validatePosition key value).LooksAt
      [⟨key ++ ".position", IsOtherWord ["left", "right"] value⟩] := by
  refine looksAt_words ?_ fun text error isText fails => ?_
  · simp only [gives_validatePosition]
    exact exists_position
  · subst isText
    unfold validatePosition at fails
    rw [Option.map_some] at fails
    dsimp only at fails
    split at fails
    · exact absurd fails not_fails_pure
    · split at fails
      · exact absurd fails not_fails_pure
      · exact fails_invalid.mp fails

theorem looksAt_validateStyle (value : Option String) :
    (validateStyle value).LooksAt
      [⟨"themeConfig.footer.style", IsOtherWord ["dark", "light"] value⟩] := by
  refine looksAt_words ?_ fun text error isText fails => ?_
  · simp only [gives_validateStyle]
    exact exists_style
  · subst isText
    unfold validateStyle at fails
    rw [Option.map_some] at fails
    dsimp only at fails
    split at fails
    · exact absurd fails not_fails_pure
    · split at fails
      · exact absurd fails not_fails_pure
      · exact fails_invalid.mp fails

end Values

/-! ## Checks of sections -/

section Sections

open Check

theorem looksAt_validateHeadTag (key : String) (tag : HeadTagDeclaration) :
    (validateHeadTag key tag).LooksAt (tag.values key) := by
  refine (looksAt_required _ _).bind fun name named => ?_
  have given := gives_required.mp named
  split
  · next other =>
    have notElement : ¬ IsElementName name := by
      rw [← isElementName_iff]
      simpa using other
    refine looksAt_throw (.invalid _) fun fault => ?_
    constructor
    · rintro ⟨isGiven, _⟩
      rw [given.unique isGiven]
    · rintro rfl
      exact .notElement given notElement
  · next isElement =>
    have element : IsElementName name := by
      rw [← isElementName_iff]
      simpa using isElement
    refine looksAt_clean (fun _ => not_fails_pure) (isClean_one fun _ => ?_)
    rintro ⟨isGiven, notElement⟩
    obtain rfl := given.unique isGiven
    exact notElement element

theorem looksAt_validateLogo? (key : String) (logo : Option LogoDeclaration) :
    (validateLogo? key logo).LooksAt (LogoDeclaration.values? key logo) := by
  cases logo with
  | none => exact looksAt_pure none
  | some logo => exact ((looksAt_required _ _).bind_pure _).map some

/-- The label of an entry is looked at before its target. -/
theorem looksAt_validateLink (key : String) (link : LinkDeclaration) :
    (validateLink key link).LooksAt (link.values key) := by
  refine (looksAt_required _ _).bind fun label _ => ?_
  show Check.LooksAt ([⟨key, link.HasBoth⟩] ++ [⟨key ++ ".to", link.HasNeither⟩]) _
  have notNeither {text : String} (given : Given link.path text ∨ Given link.href text) :
      IsClean [⟨key ++ ".to", link.HasNeither⟩] := by
    refine isClean_one fun fault => ?_
    rintro ⟨noPath, noHref⟩
    exact given.elim (noPath text) (noHref text)
  have notBoth (missing : present link.path = none ∨ present link.href = none) :
      IsClean [⟨key, link.HasBoth⟩] := by
    refine isClean_one fun fault => ?_
    rintro ⟨isPath, isHref⟩
    rcases missing with missing | missing
    · exact present_eq_none.mp missing _ isPath
    · exact present_eq_none.mp missing _ isHref
  match isPath : present link.path, isHref : present link.href with
  | some path, some href =>
    refine LooksAt.append_clean ?_ (notNeither (.inl (present_eq_some.mp isPath)))
    refine looksAt_throw (.invalid .bothTargets) fun fault => ?_
    constructor
    · rintro ⟨_⟩
      rfl
    · rintro rfl
      exact .both (present_eq_some.mp isPath) (present_eq_some.mp isHref)
  | some path, none =>
    refine LooksAt.append_clean ?_ (notNeither (.inl (present_eq_some.mp isPath)))
    exact looksAt_clean (fun _ => not_fails_pure) (notBoth (.inr isHref))
  | none, some href =>
    refine LooksAt.append_clean ?_ (notNeither (.inr (present_eq_some.mp isHref)))
    refine looksAt_clean (fun _ fails => ?_) (notBoth (.inl isPath))
    rcases fails_bind.mp fails with fails | ⟨_, _, fails⟩
    · exact not_fails_giveIf fails
    · exact not_fails_pure fails
  | none, none =>
    refine LooksAt.clean_append ?_ (notBoth (.inl isPath))
    refine looksAt_throw .missing fun fault => ?_
    constructor
    · rintro ⟨_⟩
      rfl
    · rintro rfl
      exact .neither (present_eq_none.mp isPath) (present_eq_none.mp isHref)

/-- The side of an item is looked at first. -/
theorem looksAt_sideFirst (key : String) (item : LinkDeclaration) :
    (validateNavbarItem key item).LooksAt (item.sideFirst key) :=
  (looksAt_validatePosition key item.position).bind fun _ _ =>
    (looksAt_validateLink key item).bind_pure _

/-- It does not matter when the side of an item is looked at if that, or everything else about the item,
has no fault. -/
theorem looksAt_sideLast {item : LinkDeclaration} (key : String)
    (clean : OneOf ["left", "right"] item.position ∨ item.Acceptable) :
    (validateNavbarItem key item).LooksAt (item.sideLast key) := by
  intro error
  rw [looksAt_sideFirst key item error, LinkDeclaration.sideFirst, LinkDeclaration.sideLast]
  refine firstOf_swap (clean.imp (fun isSide => isClean_one fun fault => ?_) fun acceptable => ?_)
  · rintro ⟨isText, unknown⟩
    exact unknown (isSide _ isText)
  · intro other first
    obtain ⟨link, stands⟩ := LinkDeclaration.exists_standsForLink.mpr acceptable
    have given : (validateLink key item).Gives (link.label, link.target) :=
      gives_validateLink.mpr ⟨stands.label, stands.target⟩
    exact exists_gives_iff.mp ⟨_, given⟩ other ((looksAt_validateLink key item other).mpr first)

theorem looksAt_validateFooterGroup (key : String) (group : FooterGroupDeclaration) :
    (validateFooterGroup key group).LooksAt (group.values key) := by
  refine (looksAt_required _ _).bind fun title _ => LooksAt.bind_pure ?_ _
  exact LooksAt.validateItems fun key item _ => (looksAt_validateLink key item).bind_pure _

theorem looksAt_validateFooter (footer : FooterDeclaration) :
    (validateFooter footer).LooksAt footer.values := by
  refine (looksAt_validateStyle _).bind fun style _ => LooksAt.bind ?_ fun links _ =>
    (looksAt_validateLogo? _ _).bind_pure _
  exact LooksAt.validateItems fun key group _ => looksAt_validateFooterGroup key group

theorem looksAt_validateFooter? (footer : Option FooterDeclaration) :
    (validateFooter? footer).LooksAt (footer.toList.flatMap FooterDeclaration.values) := by
  cases footer with
  | none => exact looksAt_pure none
  | some footer =>
    rw [Option.toList_some, List.flatMap_singleton]
    exact (looksAt_validateFooter footer).map some

end Sections

/-! ## Whole sites -/

section Sites

open Check

variable {ofItem : String → LinkDeclaration → List CheckedValue}

theorem looksAt_validateNavbar {navbar : NavbarDeclaration}
    (looks : ∀ key, ∀ item ∈ navbar.items, (validateNavbarItem key item).LooksAt (ofItem key item)) :
    (validateNavbar navbar).LooksAt (navbar.values ofItem) :=
  (looksAt_validateLogo? _ _).bind fun _ _ => (LooksAt.validateItems looks).bind_pure _

/-- **The check of a site looks at its values in order,** where the items of the navigation bar are
looked at in the given order. -/
theorem looksAt_validate {declared : SiteDeclaration}
    (looks : ∀ key, ∀ item ∈ declared.themeConfig.navbar.items,
      (validateNavbarItem key item).LooksAt (ofItem key item)) :
    (validate declared).LooksAt (declared.values ofItem) := by
  refine (looksAt_required _ _).bind fun title _ => ?_
  refine (looksAt_required _ _).bind fun url isUrl => ?_
  refine (looksAt_required _ _).bind fun baseUrl isBaseUrl => ?_
  refine (looksAt_validateUrl (gives_required.mp isUrl)).bind fun address _ => ?_
  refine (looksAt_validateBaseUrl (gives_required.mp isBaseUrl)).bind fun below _ => ?_
  refine (looksAt_validatePolicy _ _ _).bind fun onBrokenLinks _ => ?_
  refine (looksAt_validatePolicy _ _ _).bind fun onBrokenMarkdownLinks _ => ?_
  refine LooksAt.bind (LooksAt.validateItems fun key tag _ => looksAt_validateHeadTag key tag)
    fun headTags _ => ?_
  exact (looksAt_validateNavbar looks).bind fun navbar _ =>
    (looksAt_validateFooter? _).bind_pure _

/-- **The first fault is the error.** A check fails exactly if some value has a fault, and then with the
error of the first such value in order, which names the key of that value. An item of the navigation bar
is checked with its side first. Unless some item has a fault of its side together with another one, the
error is that of the first value in the order of declaration, with the side of every item last. -/
theorem validate_firstFault (declared : SiteDeclaration) :
    (∀ error, (validate declared).Fails error ↔
        FirstOf (declared.values LinkDeclaration.sideFirst) error) ∧
      ((∃ error, (validate declared).Fails error) ↔
        ∃ value ∈ declared.values LinkDeclaration.sideFirst, ∃ fault, value.has fault) ∧
      (∀ error, (validate declared).Fails error →
        ∃ value ∈ declared.values LinkDeclaration.sideFirst,
          value.Raises error ∧ error.field? = some value.key) ∧
      ((∀ item ∈ declared.themeConfig.navbar.items,
          OneOf ["left", "right"] item.position ∨ item.Acceptable) →
        ∀ error, (validate declared).Fails error ↔
          FirstOf (declared.values LinkDeclaration.sideLast) error) := by
  have asChecked : (validate declared).LooksAt (declared.values LinkDeclaration.sideFirst) :=
    looksAt_validate fun key item _ => looksAt_sideFirst key item
  refine ⟨asChecked, ?_, fun error fails => ?_, fun clean => ?_⟩
  · rw [← exists_firstOf]
    exact exists_congr asChecked
  · obtain ⟨value, member, fault, has, rfl⟩ := ((asChecked error).mp fails).exists_mem
    exact ⟨value, member, ⟨fault, has, rfl⟩, fault.field?_error value.key⟩
  · exact looksAt_validate fun key item member => looksAt_sideLast key (clean item member)

end Sites

/-! ## Entries with several faults -/

/-- A site with some entries in its navigation bar. -/
def SiteDeclaration.withItems (items : List LinkDeclaration) : SiteDeclaration where
  title := some "Site"
  url := some "https://example.org"
  baseUrl := some "/"
  themeConfig := { navbar := { items } }

/-- Of a blank label, two targets and a bad style of the footer, the label is the error. -/
theorem validate_firstFault_label :
    let item : LinkDeclaration := { label := some " ", path := some "/", href := some "/" }
    let declared := { SiteDeclaration.withItems [item] with
      themeConfig.footer := some { style := some "grey" } }
    FirstOf (declared.values LinkDeclaration.sideLast)
      (.missingField "themeConfig.navbar.items[0].label") := by
  intro item declared
  have fails : (validate declared).Fails (.missingField "themeConfig.navbar.items[0].label") := by
    decide +kernel
  refine ((validate_firstFault declared).2.2.2 (fun item member => ?_) _).mp fails
  obtain rfl := List.mem_singleton.mp member
  exact .inl nofun

/-- An entry without a label that stands on neither side: its label is declared first and has a fault,
and the error is that of its side. -/
theorem validate_sideFirst :
    let declared := SiteDeclaration.withItems [{ position := some "top" }]
    FirstOf (declared.values LinkDeclaration.sideLast)
        (.missingField "themeConfig.navbar.items[0].label") ∧
      ¬ (validate declared).Fails (.missingField "themeConfig.navbar.items[0].label") ∧
      (validate declared).Fails (.invalidValue "themeConfig.navbar.items[0].position"
        (.notOneOf "top" ["left", "right"])) := by
  intro declared
  refine ⟨?_, by decide +kernel, by decide +kernel⟩
  -- Without the entry the site is accepted, so nothing before the entry has a fault.
  have looks : (validate (.withItems [])).LooksAt
      ((SiteDeclaration.withItems []).values LinkDeclaration.sideLast) := looksAt_validate nofun
  have accepted : (validate (.withItems [])).run.value.isOk = true := by decide +kernel
  have before : IsClean ((SiteDeclaration.withItems []).values LinkDeclaration.sideLast) := by
    intro error first
    rw [(looks error).mpr first] at accepted
    cases accepted
  have row : declared.values LinkDeclaration.sideLast =
      (SiteDeclaration.withItems []).values LinkDeclaration.sideLast ++
        LinkDeclaration.sideLast "themeConfig.navbar.items[0]" { position := some "top" } := rfl
  rw [row, before.append_iff]
  exact .here ⟨.missing, .missing nofun, rfl⟩

end Docsite
