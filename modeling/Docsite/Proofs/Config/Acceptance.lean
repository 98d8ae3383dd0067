/-
**Which declarations are accepted.**

A declaration is accepted if every value in it that has to be there is, and if every value with a form
of its own has it. What it then stands for is settled by every value alone.

* `SiteDeclaration.Acceptable`: the conditions for whole sites.
* `validate_accepts`: a check accepts exactly these declarations, and gives what they stand for.
-/

import Docsite.Proofs.Config.Meaning

namespace Docsite

/-! ## Conditions -/

/-- A text that is missing or, blanks around it aside, one of some words. -/
def OneOf (words : List String) (value : Option String) : Prop :=
  ∀ text, value = some text → Text.trim text ∈ words

/-- A head tag has the name of an element. -/
def HeadTagDeclaration.Acceptable (declared : HeadTagDeclaration) : Prop :=
  ∃ name, Given declared.tagName name ∧ IsElementName name

/-- A logo has a source. -/
def LogoDeclaration.Acceptable (declared : LogoDeclaration) : Prop :=
  ∃ source, Given declared.src source

/-- An entry has a label and exactly one target. -/
structure LinkDeclaration.Acceptable (declared : LinkDeclaration) : Prop where
  label : ∃ text, Given declared.label text
  oneTarget : Xor (∃ text, Given declared.path text) (∃ text, Given declared.href text)

/-- The entries of the navigation bar are also on one of its sides. -/
structure NavbarDeclaration.Acceptable (declared : NavbarDeclaration) : Prop where
  logo : ∀ logo, declared.logo = some logo → logo.Acceptable
  items : ∀ item ∈ declared.items, item.Acceptable ∧ OneOf ["left", "right"] item.position

/-- A column of the footer has a title. -/
structure FooterGroupDeclaration.Acceptable (declared : FooterGroupDeclaration) : Prop where
  title : ∃ text, Given declared.title text
  items : ∀ item ∈ declared.items, item.Acceptable

/-- The footer has one of its two styles. -/
structure FooterDeclaration.Acceptable (declared : FooterDeclaration) : Prop where
  style : OneOf ["dark", "light"] declared.style
  links : ∀ group ∈ declared.links, group.Acceptable
  logo : ∀ logo, declared.logo = some logo → logo.Acceptable

/-- **The conditions for a whole site.** -/
structure SiteDeclaration.Acceptable (declared : SiteDeclaration) : Prop where
  title : ∃ text, Given declared.title text
  url : ∃ text, Given declared.url text ∧ IsWebAddress text
  baseUrl : ∃ text, Given declared.baseUrl text ∧ ['/'] <+: (Text.trim text).toList
  onBrokenLinks : OneOf ["throw", "warn", "log", "ignore"] declared.onBrokenLinks
  onBrokenMarkdownLinks : OneOf ["throw", "warn", "log", "ignore"] declared.onBrokenMarkdownLinks
  headTags : ∀ tag ∈ declared.headTags, tag.Acceptable
  navbar : declared.themeConfig.navbar.Acceptable
  footer : ∀ footer, declared.themeConfig.footer = some footer → footer.Acceptable

/-! ## Values that exist -/

/-- A text stands for a choice if it is one of the words for all choices. -/
theorem exists_names {α : Type} {word : α → String} {missing : α} (choices : List α)
    (complete : ∀ choice, choice ∈ choices) {value : Option String} :
    (∃ choice, Names word missing value choice) ↔ OneOf (choices.map word) value := by
  cases value with
  | none => simp [OneOf]
  | some text =>
    simp only [names_some, OneOf, Option.some.injEq, forall_eq', List.mem_map]
    constructor
    · rintro ⟨choice, same⟩
      exact ⟨choice, complete choice, same.symm⟩
    · rintro ⟨choice, -, same⟩
      exact ⟨choice, same.symm⟩

theorem exists_kept (value : Option String) : ∃ kept, Kept value kept :=
  ⟨present value, kept_iff.mpr rfl⟩

theorem exists_servedBelow {text : String} :
    (∃ path, ServedBelow text path) ↔ ['/'] <+: (Text.trim text).toList := by
  constructor
  · rintro ⟨_, ⟨start, _⟩ | ⟨start, _⟩⟩
    · exact start
    · exact start
  · intro start
    by_cases finish : ['/'] <:+ (Text.trim text).toList
    · exact ⟨_, .closed start finish⟩
    · exact ⟨_, .opened start finish⟩

theorem exists_policy {missing : LinkPolicy} {value : Option String} :
    (∃ policy, Names LinkPolicy.name missing value policy) ↔
      OneOf ["throw", "warn", "log", "ignore"] value :=
  exists_names LinkPolicy.all fun policy => by cases policy <;> decide

theorem exists_position {value : Option String} :
    (∃ position, Names NavbarPosition.name .left value position) ↔
      OneOf ["left", "right"] value :=
  exists_names [NavbarPosition.left, .right] fun position => by cases position <;> decide

theorem exists_style {value : Option String} :
    (∃ style, Names FooterStyle.name .light value style) ↔ OneOf ["dark", "light"] value :=
  exists_names [FooterStyle.dark, .light] fun style => by cases style <;> decide

/-! ## Sections that stand for something -/

theorem HeadTagDeclaration.exists_standsFor {declared : HeadTagDeclaration} :
    (∃ tag, declared.StandsFor tag) ↔ declared.Acceptable := by
  constructor
  · rintro ⟨tag, stands⟩
    exact ⟨tag.tagName, stands.tagName, stands.isElementName⟩
  · rintro ⟨name, given, isName⟩
    exact ⟨{ tagName := name, attributes := declared.attributes }, given, isName, rfl⟩

theorem LogoDeclaration.exists_standsFor {declared : LogoDeclaration} :
    (∃ logo, declared.StandsFor logo) ↔ declared.Acceptable := by
  constructor
  · rintro ⟨logo, stands⟩
    exact ⟨logo.src, stands.src⟩
  · rintro ⟨src, given⟩
    obtain ⟨alt, isAlt⟩ := exists_kept declared.alt
    obtain ⟨href, isHref⟩ := exists_kept declared.href
    exact ⟨{ alt, src, href }, isAlt, given, isHref⟩

theorem LinkDeclaration.exists_pointsTo {declared : LinkDeclaration} :
    (∃ target, declared.PointsTo target) ↔
      Xor (∃ text, Given declared.path text) (∃ text, Given declared.href text) := by
  constructor
  · rintro ⟨_, ⟨given, nowhere⟩ | ⟨nowhere, given⟩⟩
    · exact .inl ⟨⟨_, given⟩, not_exists.mpr nowhere⟩
    · exact .inr ⟨⟨_, given⟩, not_exists.mpr nowhere⟩
  · rintro (⟨⟨target, given⟩, nowhere⟩ | ⟨⟨target, given⟩, nowhere⟩)
    · exact ⟨.path target, .path given (not_exists.mp nowhere)⟩
    · exact ⟨.href target, .href (not_exists.mp nowhere) given⟩

theorem LinkDeclaration.exists_standsForLink {declared : LinkDeclaration} :
    (∃ link, declared.StandsForLink link) ↔ declared.Acceptable := by
  constructor
  · rintro ⟨link, label, target⟩
    exact ⟨⟨_, label⟩, exists_pointsTo.mp ⟨_, target⟩⟩
  · rintro ⟨⟨label, isLabel⟩, oneTarget⟩
    obtain ⟨target, isTarget⟩ := exists_pointsTo.mpr oneTarget
    exact ⟨{ label, target }, isLabel, isTarget⟩

theorem LinkDeclaration.exists_standsForItem {declared : LinkDeclaration} :
    (∃ item, declared.StandsForItem item) ↔
      declared.Acceptable ∧ OneOf ["left", "right"] declared.position := by
  rw [← exists_position, ← exists_standsForLink]
  constructor
  · rintro ⟨item, label, target, position⟩
    exact ⟨⟨{ label := item.label, target := item.target }, label, target⟩, _, position⟩
  · rintro ⟨⟨link, label, target⟩, position, isPosition⟩
    exact ⟨{ label := link.label, target := link.target, position }, label, target, isPosition⟩

theorem NavbarDeclaration.exists_standsFor {declared : NavbarDeclaration} :
    (∃ navbar, declared.StandsFor navbar) ↔ declared.Acceptable := by
  constructor
  · rintro ⟨navbar, _, logo, items⟩
    refine ⟨fun logo' same => ?_, fun item member => ?_⟩
    · exact LogoDeclaration.exists_standsFor.mp (exists_rel.mp ⟨_, logo⟩ logo' same)
    · exact LinkDeclaration.exists_standsForItem.mp (exists_forall₂.mp ⟨_, items⟩ item member)
  · rintro ⟨logos, items⟩
    obtain ⟨title, isTitle⟩ := exists_kept declared.title
    obtain ⟨logo, isLogo⟩ := exists_rel.mpr fun logo same =>
      LogoDeclaration.exists_standsFor.mpr (logos logo same)
    obtain ⟨items, areItems⟩ := exists_forall₂.mpr fun item member =>
      LinkDeclaration.exists_standsForItem.mpr (items item member)
    exact ⟨{ title, logo, items }, isTitle, isLogo, areItems⟩

theorem FooterGroupDeclaration.exists_standsFor {declared : FooterGroupDeclaration} :
    (∃ group, declared.StandsFor group) ↔ declared.Acceptable := by
  constructor
  · rintro ⟨group, title, items⟩
    refine ⟨⟨_, title⟩, fun item member => ?_⟩
    exact LinkDeclaration.exists_standsForLink.mp (exists_forall₂.mp ⟨_, items⟩ item member)
  · rintro ⟨⟨title, isTitle⟩, items⟩
    obtain ⟨items, areItems⟩ := exists_forall₂.mpr fun item member =>
      LinkDeclaration.exists_standsForLink.mpr (items item member)
    exact ⟨{ title, items }, isTitle, areItems⟩

theorem FooterDeclaration.exists_standsFor {declared : FooterDeclaration} :
    (∃ footer, declared.StandsFor footer) ↔ declared.Acceptable := by
  constructor
  · rintro ⟨footer, style, links, logo, _⟩
    refine ⟨exists_style.mp ⟨_, style⟩, fun group member => ?_, fun logo' same => ?_⟩
    · exact FooterGroupDeclaration.exists_standsFor.mp (exists_forall₂.mp ⟨_, links⟩ group member)
    · exact LogoDeclaration.exists_standsFor.mp (exists_rel.mp ⟨_, logo⟩ logo' same)
  · rintro ⟨oneOf, links, logos⟩
    obtain ⟨style, isStyle⟩ := exists_style.mpr oneOf
    obtain ⟨links, areLinks⟩ := exists_forall₂.mpr fun group member =>
      FooterGroupDeclaration.exists_standsFor.mpr (links group member)
    obtain ⟨logo, isLogo⟩ := exists_rel.mpr fun logo same =>
      LogoDeclaration.exists_standsFor.mpr (logos logo same)
    obtain ⟨copyright, isCopyright⟩ := exists_kept declared.copyright
    exact ⟨{ style, links, logo, copyright }, isStyle, areLinks, isLogo, isCopyright⟩

/-! ## Whole sites -/

theorem SiteDeclaration.exists_standsFor {declared : SiteDeclaration} :
    (∃ config, declared.StandsFor config) ↔ declared.Acceptable := by
  constructor
  · rintro ⟨config, stands⟩
    obtain ⟨address, isAddress, isWeb, _⟩ := stands.url
    obtain ⟨below, isBelow, servedBelow⟩ := stands.baseUrl
    exact {
      title := ⟨_, stands.title⟩
      url := ⟨address, isAddress, isWeb⟩
      baseUrl := ⟨below, isBelow, exists_servedBelow.mp ⟨_, servedBelow⟩⟩
      onBrokenLinks := exists_policy.mp ⟨_, stands.onBrokenLinks⟩
      onBrokenMarkdownLinks := exists_policy.mp ⟨_, stands.onBrokenMarkdownLinks⟩
      headTags := fun tag member =>
        HeadTagDeclaration.exists_standsFor.mp (exists_forall₂.mp ⟨_, stands.headTags⟩ tag member)
      navbar := NavbarDeclaration.exists_standsFor.mp ⟨_, stands.navbar⟩
      footer := fun footer same =>
        FooterDeclaration.exists_standsFor.mp (exists_rel.mp ⟨_, stands.footer⟩ footer same) }
  · intro acceptable
    obtain ⟨title, isTitle⟩ := acceptable.title
    obtain ⟨address, isAddress, isWeb⟩ := acceptable.url
    obtain ⟨below, isBelow, rooted⟩ := acceptable.baseUrl
    obtain ⟨baseUrl, servedBelow⟩ := exists_servedBelow.mpr rooted
    obtain ⟨onBrokenLinks, isPolicy⟩ := exists_policy.mpr acceptable.onBrokenLinks
    obtain ⟨onBrokenMarkdownLinks, isMarkdownPolicy⟩ :=
      exists_policy.mpr acceptable.onBrokenMarkdownLinks
    obtain ⟨headTags, areTags⟩ := exists_forall₂.mpr fun tag member =>
      HeadTagDeclaration.exists_standsFor.mpr (acceptable.headTags tag member)
    obtain ⟨navbar, isNavbar⟩ := NavbarDeclaration.exists_standsFor.mpr acceptable.navbar
    obtain ⟨footer, isFooter⟩ := exists_rel.mpr fun footer same =>
      FooterDeclaration.exists_standsFor.mpr (acceptable.footer footer same)
    exact ⟨{
      title
      tagline := present declared.tagline
      url := strippedUrl address
      baseUrl
      favicon := present declared.favicon
      onBrokenLinks
      onBrokenMarkdownLinks
      trailingSlash := declared.trailingSlash
      organizationName := present declared.organizationName
      projectName := present declared.projectName
      deploymentBranch := present declared.deploymentBranch
      headTags
      docs := docsOptions declared.docs
      pagesPath := (present declared.pages.path).getD "src/pages"
      staticDirectories := declared.staticDirectories.getD ["static"]
      customCss := present declared.theme.customCss
      navbar
      footer }, {
      title := isTitle
      tagline := kept_iff.mpr rfl
      url := ⟨address, isAddress, isWeb, rfl⟩
      baseUrl := ⟨below, isBelow, servedBelow⟩
      favicon := kept_iff.mpr rfl
      onBrokenLinks := isPolicy
      onBrokenMarkdownLinks := isMarkdownPolicy
      trailingSlash := rfl
      organizationName := kept_iff.mpr rfl
      projectName := kept_iff.mpr rfl
      deploymentBranch := kept_iff.mpr rfl
      headTags := areTags
      docs := DocsDeclaration.standsFor_iff.mpr rfl
      pagesPath := defaulted_iff.mpr rfl
      staticDirectories := rfl
      customCss := kept_iff.mpr rfl
      navbar := isNavbar
      footer := isFooter }⟩

/-- **A check accepts exactly the declarations whose values can be used.** It then gives the one
configuration that the declaration stands for. -/
theorem validate_accepts (declared : SiteDeclaration) :
    ((∃ config, (validate declared).Gives config) ↔ declared.Acceptable) ∧
      ∀ config, (validate declared).Gives config ↔ declared.StandsFor config := by
  refine ⟨?_, fun config => gives_validate⟩
  rw [← SiteDeclaration.exists_standsFor]
  exact exists_congr fun config => gives_validate

end Docsite
