/-
**Exported configurations are loaded again.**

Every value of a configuration is one that may be declared, and declared again it stands for itself;
only an address that ends in a blank may lose more at its end. So a configuration that was loaded, from
whatever format, is loaded again from its export.

* `SiteDeclaration.StandsFor.again`: what a configuration stands for when it is declared.
* `SiteConfig.ReloadsFrom`: texts that are loaded to a configuration again.
* `ofSource_exported`: loading, exporting and loading again.
-/

import Docsite.Proofs.Config.Address
import Docsite.Proofs.Config.Export
import Docsite.Proofs.Config.Meaning
import Docsite.Proofs.Config.Navigation
import Docsite.Proofs.Config.Notices

namespace Docsite

/-! ## Single values -/

section Values

variable {value : Option String} {text : String}

theorem Given.again (given : Given value text) : Given (some text) text :=
  ⟨rfl, given.2⟩

theorem Kept.again {kept : Option String} (isKept : Kept value kept) : Kept kept kept := by
  intro text
  constructor
  · intro same
    exact ⟨same, ((isKept text).mp same).2⟩
  · exact And.left

theorem Defaulted.again {missing : String} (notBlank : Text.trim missing ≠ "")
    (defaulted : Defaulted value missing text) : Defaulted (some text) missing text := by
  rcases defaulted with given | -
  · exact .given given.again
  · exact .given ⟨rfl, notBlank⟩

end Values

/-! ## Sections -/

theorem HeadTagDeclaration.StandsFor.again {declared : HeadTagDeclaration} {tag : HeadTag}
    (stands : declared.StandsFor tag) : tag.declared.StandsFor tag where
  tagName := stands.tagName.again
  isElementName := stands.isElementName
  attributes := rfl

theorem LogoDeclaration.StandsFor.again {declared : LogoDeclaration} {logo : Logo}
    (stands : declared.StandsFor logo) : logo.declared.StandsFor logo where
  alt := stands.alt.again
  src := stands.src.again
  href := stands.href.again

theorem not_given_none (text : String) : ¬ Given none text := by
  rintro ⟨impossible, -⟩
  cases impossible

/-- A target points to itself wherever it is declared. -/
theorem LinkDeclaration.PointsTo.again {declared other : LinkDeclaration} {target : LinkTarget}
    (points : declared.PointsTo target) (path : other.path = target.path?)
    (href : other.href = target.href?) : other.PointsTo target := by
  rcases points with ⟨given, -⟩ | ⟨-, given⟩
  · refine .path ?_ ?_
    · rw [path]
      exact given.again
    · rw [href]
      exact not_given_none
  · refine .href ?_ ?_
    · rw [path]
      exact not_given_none
    · rw [href]
      exact given.again

theorem LinkDeclaration.StandsForItem.again {declared : LinkDeclaration} {item : NavbarItem}
    (stands : declared.StandsForItem item) : item.declared.StandsForItem item where
  label := stands.label.again
  target := stands.target.again rfl rfl
  position := .named (by cases item.position <;> decide)

theorem LinkDeclaration.StandsForLink.again {declared : LinkDeclaration} {link : FooterLink}
    (stands : declared.StandsForLink link) : link.declared.StandsForLink link where
  label := stands.label.again
  target := stands.target.again rfl rfl

theorem NavbarDeclaration.StandsFor.again {declared : NavbarDeclaration} {navbar : Navbar}
    (stands : declared.StandsFor navbar) : navbar.declared.StandsFor navbar where
  title := stands.title.again
  logo := rel_again LogoDeclaration.StandsFor.again stands.logo
  items := forall₂_again LinkDeclaration.StandsForItem.again stands.items

theorem FooterGroupDeclaration.StandsFor.again {declared : FooterGroupDeclaration}
    {group : FooterLinkGroup} (stands : declared.StandsFor group) :
    group.declared.StandsFor group where
  title := stands.title.again
  items := forall₂_again LinkDeclaration.StandsForLink.again stands.items

theorem FooterDeclaration.StandsFor.again {declared : FooterDeclaration} {footer : Footer}
    (stands : declared.StandsFor footer) : footer.declared.StandsFor footer where
  style := .named (by cases footer.style <;> decide)
  links := forall₂_again FooterGroupDeclaration.StandsFor.again stands.links
  logo := rel_again LogoDeclaration.StandsFor.again stands.logo
  copyright := stands.copyright.again

theorem DocsDeclaration.StandsFor.again {declared : DocsDeclaration} {docs : DocsOptions}
    (stands : declared.StandsFor docs) : docs.declared.StandsFor docs where
  path := stands.path.again (by decide)
  routeBasePath := by
    have stable : Text.trimOf '/' docs.routeBasePath = docs.routeBasePath := by
      have routed := stands.routeBasePath
      generalize docs.routeBasePath = path at routed
      rcases routed with ⟨-⟩ | -
      · exact Text.trimOf_idem _ _
      · decide
    have routed : docs.declared.RoutedAt (Text.trimOf '/' docs.routeBasePath) := .declared rfl
    rwa [stable] at routed
  sidebarPath := stands.sidebarPath.again
  editUrl := stands.editUrl.again

/-! ## Whole sites -/

/-- **A configuration that is declared again stands for itself, with its address stripped once
more.** -/
theorem SiteDeclaration.StandsFor.again {declared : SiteDeclaration} {config : SiteConfig}
    (stands : declared.StandsFor config) :
    config.declared.StandsFor { config with url := strippedUrl config.url } := by
  obtain ⟨address, -, isAddress, sameUrl⟩ := stands.url
  obtain ⟨below, isBelow, servedBelow⟩ := stands.baseUrl
  have isAddressAgain : IsWebAddress config.url := by
    rw [sameUrl]
    exact isAddress.stripped
  have notBlank : Text.trim config.baseUrl ≠ "" := by
    intro blank
    have start := servedBelow.head?_eq
    rw [← servedBelow.trim_eq, blank] at start
    cases start
  exact {
    title := stands.title.again
    tagline := stands.tagline.again
    url := ⟨config.url, ⟨rfl, isAddressAgain.trim_ne_empty⟩, isAddressAgain, rfl⟩
    baseUrl := ⟨config.baseUrl, ⟨rfl, notBlank⟩, servedBelow.again⟩
    favicon := stands.favicon.again
    onBrokenLinks := .named (by cases config.onBrokenLinks <;> decide)
    onBrokenMarkdownLinks := .named (by cases config.onBrokenMarkdownLinks <;> decide)
    trailingSlash := rfl
    organizationName := stands.organizationName.again
    projectName := stands.projectName.again
    deploymentBranch := stands.deploymentBranch.again
    headTags := forall₂_again HeadTagDeclaration.StandsFor.again stands.headTags
    docs := stands.docs.again
    pagesPath := stands.pagesPath.again (by decide)
    staticDirectories := rfl
    customCss := stands.customCss.again
    navbar := stands.navbar.again
    footer := rel_again FooterDeclaration.StandsFor.again stands.footer }

/-! ## Source texts -/

theorem gives_warnOfUnknown (unknown : List KeyPath) : (warnOfUnknown unknown).Gives () :=
  Check.gives_lift.mpr rfl

/-- **A text is loaded as the configuration that its declaration stands for.** -/
theorem gives_ofSource {format : ConfigFormat} {source : String} {config : SiteConfig} :
    (SiteConfig.ofSource format source).Gives config ↔
      ∃ reading, declaration? format source = some reading ∧ reading.value.StandsFor config := by
  unfold SiteConfig.ofSource
  match found : declaration? format source with
  | none => simp only [Check.not_gives_throw, reduceCtorEq, false_and, exists_false]
  | some reading =>
    simp only [Check.gives_bind, Check.gives_pure, gives_validate, Option.some.injEq,
      exists_eq_left']
    constructor
    · rintro ⟨_, _, _, stands, _, _, rfl⟩
      exact stands
    · exact fun stands => ⟨(), gives_warnOfUnknown _, config, stands, (), Check.gives_giveIf, rfl⟩

theorem declaration?_ascending {format : ConfigFormat} {source : String}
    {reading : Reading SiteDeclaration} (found : declaration? format source = some reading) :
    ∀ tag ∈ reading.value.headTags, Ascending tag.attributes := by
  cases format with
  | json =>
    obtain ⟨value, -, read⟩ := Option.bind_eq_some_iff.mp found
    exact SiteDeclaration.read?_ascending read
  | toml =>
    obtain ⟨value, -, read⟩ := Option.bind_eq_some_iff.mp found
    exact SiteDeclaration.read?_ascending read
  | yaml =>
    obtain ⟨document, -, read⟩ := Option.bind_eq_some_iff.mp found
    exact SiteDeclaration.read?_ascending read

/-- The attributes of a loaded configuration stand in the order of their names. -/
theorem ascending_of_ofSource {format : ConfigFormat} {source : String} {config : SiteConfig}
    (loaded : (SiteConfig.ofSource format source).Gives config) :
    ∀ tag ∈ config.headTags, Ascending tag.attributes := by
  obtain ⟨reading, found, stands⟩ := gives_ofSource.mp loaded
  intro tag member
  obtain ⟨declared, isDeclared, standsFor⟩ := exists_of_mem_forall₂ stands.headTags member
  rw [standsFor.attributes]
  exact declaration?_ascending found declared isDeclared

/-- A text without unknown keys is loaded without a warning of one. -/
theorem says_ofSource {format : ConfigFormat} {source : String} {declared : SiteDeclaration}
    (found : declaration? format source = some { value := declared }) :
    (SiteConfig.ofSource format source).Says fun notice => ∀ key, notice ≠ .unknownKey key := by
  have ofCheck : (validate declared).Says fun notice => ∀ key, notice ≠ .unknownKey key := by
    rintro notice member key rfl
    cases says_validate declared _ member
  unfold SiteConfig.ofSource
  rw [found]
  refine Check.Says.bind ?_ fun _ => ofCheck.bind fun config => ?_
  · exact fun _ member => absurd member List.not_mem_nil
  · exact (Check.says_giveIf fun _ => nofun).bind fun _ => Check.says_pure _

/-- A text is loaded as JSON to a configuration again, without an unknown key. Every value is the same; only
an address that ends in a blank may be stripped further. -/
def SiteConfig.ReloadsFrom (config : SiteConfig) (text : String) : Prop :=
  ∃ reloaded, (SiteConfig.ofSource .json text).Gives reloaded ∧
    { reloaded with url := config.url } = config ∧
    ((∀ c ∈ config.url.toList.getLast?, Text.isBlank c = false) → reloaded.url = config.url) ∧
    ∀ key, .unknownKey key ∉ (SiteConfig.ofSource .json text).run.notices

theorem SiteConfig.reloadsFrom_exported {format : ConfigFormat} {source : String} {config : SiteConfig}
    (loaded : (SiteConfig.ofSource format source).Gives config) :
    config.ReloadsFrom config.exported := by
  obtain ⟨reading, -, stands⟩ := gives_ofSource.mp loaded
  have exported := SiteConfig.declaration?_exported (ascending_of_ofSource loaded)
  refine ⟨{ config with url := strippedUrl config.url }, ?_, rfl, fun back => ?_, fun key given => ?_⟩
  · exact gives_ofSource.mpr ⟨_, exported, stands.again⟩
  · obtain ⟨address, -, -, sameUrl⟩ := stands.url
    show strippedUrl config.url = config.url
    rw [sameUrl] at back ⊢
    exact strippedUrl_idem back
  · exact says_ofSource exported _ given key rfl

/-- **What was loaded in any format is loaded again from its export.** No key of the export is
unknown, and every value is the same; only an address that ends in a blank may be stripped further. -/
theorem ofSource_exported {format : ConfigFormat} {source : String} {config : SiteConfig}
    (loaded : (SiteConfig.ofSource format source).Gives config) :
    ∃ reloaded, (SiteConfig.ofSource .json config.exported).Gives reloaded ∧
      { reloaded with url := config.url } = config ∧
      ((∀ c ∈ config.url.toList.getLast?, Text.isBlank c = false) → reloaded.url = config.url) ∧
      ∀ key, .unknownKey key ∉ (SiteConfig.ofSource .json config.exported).run.notices :=
  SiteConfig.reloadsFrom_exported loaded

/-- A site of which nothing is declared but what must be, in TOML. -/
theorem ofSource_exported_bare :
    let source := "title = \"Site\"\nurl = \"https://example.org/\"\nbaseUrl = \"/\"\n"
    (SiteConfig.ofSource .toml source).Gives .bare ∧
      ∃ reloaded, (SiteConfig.ofSource .json SiteConfig.bare.exported).Gives reloaded ∧
        { reloaded with url := SiteConfig.bare.url } = SiteConfig.bare ∧
        ((∀ c ∈ SiteConfig.bare.url.toList.getLast?, Text.isBlank c = false) →
          reloaded.url = SiteConfig.bare.url) ∧
        ∀ key, .unknownKey key ∉
          (SiteConfig.ofSource .json SiteConfig.bare.exported).run.notices := by
  intro source
  have loaded : (SiteConfig.ofSource .toml source).Gives .bare := by decide +kernel
  exact ⟨loaded, ofSource_exported loaded⟩

end Docsite
