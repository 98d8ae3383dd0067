/-
**What a declaration stands for.**

A declaration of a site and a configuration belong together if every value of the configuration is the
one that the declaration gives there. Each section has a relation of its own; lists correspond item by
item, in their order.

* `SiteDeclaration.StandsFor`: the relation for whole sites.
* `gives_validate`: a check gives exactly the configuration that its declaration stands for.
-/

import Docsite.Proofs.Config.Text

namespace Docsite

/-! ## Sections -/

/-- A head tag. -/
structure HeadTagDeclaration.StandsFor (declared : HeadTagDeclaration) (tag : HeadTag) : Prop where
  tagName : Given declared.tagName tag.tagName
  isElementName : IsElementName tag.tagName
  attributes : tag.attributes = declared.attributes

/-- A logo. -/
structure LogoDeclaration.StandsFor (declared : LogoDeclaration) (logo : Logo) : Prop where
  alt : Kept declared.alt logo.alt
  src : Given declared.src logo.src
  href : Kept declared.href logo.href

/-- The one target of an entry. -/
inductive LinkDeclaration.PointsTo (declared : LinkDeclaration) : LinkTarget → Prop
  | path {target : String} : Given declared.path target → (∀ text, ¬ Given declared.href text) →
      PointsTo declared (.path target)
  | href {target : String} : (∀ text, ¬ Given declared.path text) → Given declared.href target →
      PointsTo declared (.href target)

/-- An entry of the navigation bar. -/
structure LinkDeclaration.StandsForItem (declared : LinkDeclaration) (item : NavbarItem) : Prop where
  label : Given declared.label item.label
  target : declared.PointsTo item.target
  position : Names NavbarPosition.name .left declared.position item.position

/-- An entry of the footer. -/
structure LinkDeclaration.StandsForLink (declared : LinkDeclaration) (link : FooterLink) : Prop where
  label : Given declared.label link.label
  target : declared.PointsTo link.target

/-- The navigation bar. -/
structure NavbarDeclaration.StandsFor (declared : NavbarDeclaration) (navbar : Navbar) : Prop where
  title : Kept declared.title navbar.title
  logo : Option.Rel LogoDeclaration.StandsFor declared.logo navbar.logo
  items : List.Forall₂ LinkDeclaration.StandsForItem declared.items navbar.items

/-- A column of the footer. -/
structure FooterGroupDeclaration.StandsFor (declared : FooterGroupDeclaration)
    (group : FooterLinkGroup) : Prop where
  title : Given declared.title group.title
  items : List.Forall₂ LinkDeclaration.StandsForLink declared.items group.items

/-- The footer. -/
structure FooterDeclaration.StandsFor (declared : FooterDeclaration) (footer : Footer) : Prop where
  style : Names FooterStyle.name .light declared.style footer.style
  links : List.Forall₂ FooterGroupDeclaration.StandsFor declared.links footer.links
  logo : Option.Rel LogoDeclaration.StandsFor declared.logo footer.logo
  copyright : Kept declared.copyright footer.copyright

/-- The segment in front of the routes of documentation; an empty one counts. -/
inductive DocsDeclaration.RoutedAt (declared : DocsDeclaration) : String → Prop
  | declared {text : String} : declared.routeBasePath = some text →
      RoutedAt declared (Text.trimOf '/' text)
  | missing : declared.routeBasePath = none → RoutedAt declared "docs"

/-- The documentation section. -/
structure DocsDeclaration.StandsFor (declared : DocsDeclaration) (docs : DocsOptions) : Prop where
  path : Defaulted declared.path "docs" docs.path
  routeBasePath : declared.RoutedAt docs.routeBasePath
  sidebarPath : Kept declared.sidebarPath docs.sidebarPath
  editUrl : Kept declared.editUrl docs.editUrl

/-- **A whole site.** -/
structure SiteDeclaration.StandsFor (declared : SiteDeclaration) (config : SiteConfig) : Prop where
  title : Given declared.title config.title
  tagline : Kept declared.tagline config.tagline
  url : ∃ text, Given declared.url text ∧ IsWebAddress text ∧ config.url = strippedUrl text
  baseUrl : ∃ text, Given declared.baseUrl text ∧ ServedBelow text config.baseUrl
  favicon : Kept declared.favicon config.favicon
  onBrokenLinks : Names LinkPolicy.name .throw declared.onBrokenLinks config.onBrokenLinks
  onBrokenMarkdownLinks :
    Names LinkPolicy.name .warn declared.onBrokenMarkdownLinks config.onBrokenMarkdownLinks
  trailingSlash : config.trailingSlash = declared.trailingSlash
  organizationName : Kept declared.organizationName config.organizationName
  projectName : Kept declared.projectName config.projectName
  deploymentBranch : Kept declared.deploymentBranch config.deploymentBranch
  headTags : List.Forall₂ HeadTagDeclaration.StandsFor declared.headTags config.headTags
  docs : declared.docs.StandsFor config.docs
  pagesPath : Defaulted declared.pages.path "src/pages" config.pagesPath
  staticDirectories : config.staticDirectories = declared.staticDirectories.getD ["static"]
  customCss : Kept declared.theme.customCss config.customCss
  navbar : declared.themeConfig.navbar.StandsFor config.navbar
  footer : Option.Rel FooterDeclaration.StandsFor declared.themeConfig.footer config.footer

/-! ## Checks of sections -/

theorem gives_validateHeadTag (field : String) (declared : HeadTagDeclaration) (tag : HeadTag) :
    (validateHeadTag field declared).Gives tag ↔ declared.StandsFor tag := by
  unfold validateHeadTag
  simp only [Check.gives_bind, gives_required]
  constructor
  · rintro ⟨tagName, given, checked⟩
    split at checked
    · exact absurd checked Check.not_gives_invalid
    · next isName =>
      obtain rfl := Check.gives_pure.mp checked
      exact ⟨given, isElementName_iff.mp (by simpa using isName), rfl⟩
  · rintro ⟨given, isName, attributes⟩
    refine ⟨tag.tagName, given, ?_⟩
    rw [isElementName_iff.mpr isName]
    refine Check.gives_pure.mpr ?_
    rw [← attributes]

theorem gives_validateLogo (field : String) (declared : LogoDeclaration) (logo : Logo) :
    (validateLogo field declared).Gives logo ↔ declared.StandsFor logo := by
  unfold validateLogo
  simp only [Check.gives_bind, gives_required, Check.gives_pure]
  constructor
  · rintro ⟨src, given, rfl⟩
    exact ⟨kept_iff.mpr rfl, given, kept_iff.mpr rfl⟩
  · rintro ⟨alt, src, href⟩
    refine ⟨logo.src, src, ?_⟩
    rw [kept_iff.mp alt, kept_iff.mp href]

theorem gives_validateLogo? {field : String} {declared : Option LogoDeclaration}
    {logo : Option Logo} :
    (validateLogo? field declared).Gives logo ↔
      Option.Rel LogoDeclaration.StandsFor declared logo :=
  Check.gives_optional (gives_validateLogo field) rfl fun _ => rfl

theorem gives_validateLink {field : String} {declared : LinkDeclaration} {label : String}
    {target : LinkTarget} :
    (validateLink field declared).Gives (label, target) ↔
      Given declared.label label ∧ declared.PointsTo target := by
  unfold validateLink
  simp only [Check.gives_bind, gives_required]
  cases isPath : present declared.path with
  | some path =>
    cases isHref : present declared.href with
    | none =>
      simp only [Check.gives_pure, Prod.mk.injEq]
      constructor
      · rintro ⟨_, given, rfl, rfl⟩
        exact ⟨given, .path (present_eq_some.mp isPath) (present_eq_none.mp isHref)⟩
      · rintro ⟨given, ⟨pointed, _⟩ | ⟨nowhere, _⟩⟩
        · exact ⟨label, given, rfl, congrArg _ ((present_eq_some.mp isPath).unique pointed)⟩
        · exact absurd (present_eq_some.mp isPath) (nowhere path)
    | some href =>
      simp only [Check.not_gives_invalid, and_false, exists_false, false_iff]
      rintro ⟨_, ⟨_, nowhere⟩ | ⟨nowhere, _⟩⟩
      · exact nowhere href (present_eq_some.mp isHref)
      · exact nowhere path (present_eq_some.mp isPath)
  | none =>
    cases isHref : present declared.href with
    | some href =>
      simp only [Check.gives_bind, Check.gives_pure, Prod.mk.injEq]
      constructor
      · rintro ⟨_, given, _, _, rfl, rfl⟩
        exact ⟨given, .href (present_eq_none.mp isPath) (present_eq_some.mp isHref)⟩
      · rintro ⟨given, ⟨_, nowhere⟩ | ⟨_, pointed⟩⟩
        · exact absurd (present_eq_some.mp isHref) (nowhere href)
        · exact ⟨label, given, (), Check.gives_giveIf, rfl,
            congrArg _ ((present_eq_some.mp isHref).unique pointed)⟩
    | none =>
      simp only [Check.not_gives_throw, and_false, exists_false, false_iff]
      rintro ⟨_, ⟨pointed, _⟩ | ⟨_, pointed⟩⟩
      · exact present_eq_none.mp isPath _ pointed
      · exact present_eq_none.mp isHref _ pointed

theorem gives_validateNavbarItem (field : String) (declared : LinkDeclaration)
    (item : NavbarItem) :
    (validateNavbarItem field declared).Gives item ↔ declared.StandsForItem item := by
  unfold validateNavbarItem
  simp only [Check.gives_bind, gives_validatePosition, Check.gives_pure]
  constructor
  · rintro ⟨position, named, ⟨label, target⟩, link, rfl⟩
    obtain ⟨given, pointed⟩ := gives_validateLink.mp link
    exact ⟨given, pointed, named⟩
  · rintro ⟨label, target, position⟩
    exact ⟨item.position, position, (item.label, item.target),
      gives_validateLink.mpr ⟨label, target⟩, rfl⟩

theorem gives_validateNavbar {declared : NavbarDeclaration} {navbar : Navbar} :
    (validateNavbar declared).Gives navbar ↔ declared.StandsFor navbar := by
  unfold validateNavbar
  simp only [Check.gives_bind, gives_validateLogo?, Check.gives_pure,
    Check.gives_validateItems gives_validateNavbarItem]
  constructor
  · rintro ⟨logo, isLogo, items, areItems, rfl⟩
    exact ⟨kept_iff.mpr rfl, isLogo, areItems⟩
  · rintro ⟨title, isLogo, areItems⟩
    refine ⟨navbar.logo, isLogo, navbar.items, areItems, ?_⟩
    rw [kept_iff.mp title]

theorem gives_validateFooterLink (field : String) (declared : LinkDeclaration)
    (link : FooterLink) :
    (validateFooterLink field declared).Gives link ↔ declared.StandsForLink link := by
  unfold validateFooterLink
  simp only [Check.gives_bind, Check.gives_pure]
  constructor
  · rintro ⟨⟨label, target⟩, isLink, rfl⟩
    obtain ⟨given, pointed⟩ := gives_validateLink.mp isLink
    exact ⟨given, pointed⟩
  · rintro ⟨label, target⟩
    exact ⟨(link.label, link.target), gives_validateLink.mpr ⟨label, target⟩, rfl⟩

theorem gives_validateFooterGroup (field : String) (declared : FooterGroupDeclaration)
    (group : FooterLinkGroup) :
    (validateFooterGroup field declared).Gives group ↔ declared.StandsFor group := by
  unfold validateFooterGroup
  simp only [Check.gives_bind, gives_required, Check.gives_pure,
    Check.gives_validateItems gives_validateFooterLink]
  constructor
  · rintro ⟨title, given, items, areItems, rfl⟩
    exact ⟨given, areItems⟩
  · rintro ⟨title, items⟩
    exact ⟨group.title, title, group.items, items, rfl⟩

theorem gives_validateFooter (declared : FooterDeclaration) (footer : Footer) :
    (validateFooter declared).Gives footer ↔ declared.StandsFor footer := by
  unfold validateFooter
  simp only [Check.gives_bind, gives_validateStyle, gives_validateLogo?, Check.gives_pure,
    Check.gives_validateItems gives_validateFooterGroup]
  constructor
  · rintro ⟨style, named, links, areLinks, logo, isLogo, rfl⟩
    exact ⟨named, areLinks, isLogo, kept_iff.mpr rfl⟩
  · rintro ⟨style, links, logo, copyright⟩
    refine ⟨footer.style, style, footer.links, links, footer.logo, logo, ?_⟩
    rw [kept_iff.mp copyright]

theorem gives_validateFooter? {declared : Option FooterDeclaration} {footer : Option Footer} :
    (validateFooter? declared).Gives footer ↔
      Option.Rel FooterDeclaration.StandsFor declared footer :=
  Check.gives_optional gives_validateFooter rfl fun _ => rfl

theorem DocsDeclaration.standsFor_iff {declared : DocsDeclaration} {docs : DocsOptions} :
    declared.StandsFor docs ↔ docsOptions declared = docs := by
  have routed : declared.RoutedAt docs.routeBasePath ↔
      (declared.routeBasePath.map (Text.trimOf '/')).getD "docs" = docs.routeBasePath := by
    match found : declared.routeBasePath with
    | some text =>
      rw [Option.map_some, Option.getD_some]
      constructor
      · generalize docs.routeBasePath = path
        rintro (same | missing)
        · rw [Option.some.inj (found.symm.trans same)]
        · cases found.symm.trans missing
      · intro same
        rw [← same]
        exact .declared found
    | none =>
      rw [Option.map_none, Option.getD_none]
      constructor
      · generalize docs.routeBasePath = path
        rintro (same | _)
        · cases found.symm.trans same
        · rfl
      · intro same
        rw [← same]
        exact .missing found
  constructor
  · rintro ⟨path, routeBasePath, sidebarPath, editUrl⟩
    rw [docsOptions, defaulted_iff.mp path, routed.mp routeBasePath, kept_iff.mp sidebarPath,
      kept_iff.mp editUrl]
  · rintro rfl
    exact ⟨defaulted_iff.mpr rfl, routed.mpr rfl, kept_iff.mpr rfl, kept_iff.mpr rfl⟩

/-! ## The check of a whole site -/

/-- **A check gives exactly the configuration that its declaration stands for.** -/
theorem gives_validate {declared : SiteDeclaration} {config : SiteConfig} :
    (validate declared).Gives config ↔ declared.StandsFor config := by
  unfold validate
  simp only [Check.gives_bind, gives_required, gives_validateUrl, gives_validateBaseUrl,
    gives_validatePolicy, gives_validateNavbar, gives_validateFooter?, Check.gives_pure,
    Check.gives_validateItems gives_validateHeadTag]
  constructor
  · rintro ⟨title, isTitle, address, isAddress, below, isBelow, url, isUrl, baseUrl, isBaseUrl,
      onBrokenLinks, isPolicy, onBrokenMarkdownLinks, isMarkdownPolicy, headTags, areTags,
      navbar, isNavbar, footer, isFooter, rfl⟩
    exact {
      title := isTitle
      tagline := kept_iff.mpr rfl
      url := ⟨address, isAddress, isUrl.1, isUrl.2⟩
      baseUrl := ⟨below, isBelow, isBaseUrl⟩
      favicon := kept_iff.mpr rfl
      onBrokenLinks := isPolicy
      onBrokenMarkdownLinks := isMarkdownPolicy
      trailingSlash := rfl
      organizationName := kept_iff.mpr rfl
      projectName := kept_iff.mpr rfl
      deploymentBranch := kept_iff.mpr rfl
      headTags := areTags
      docs := DocsDeclaration.standsFor_iff.mpr rfl
      pagesPath := defaulted_iff.mpr rfl
      staticDirectories := rfl
      customCss := kept_iff.mpr rfl
      navbar := isNavbar
      footer := isFooter }
  · intro stands
    obtain ⟨address, isAddress, isWeb, sameUrl⟩ := stands.url
    obtain ⟨below, isBelow, servedBelow⟩ := stands.baseUrl
    refine ⟨config.title, stands.title, address, isAddress, below, isBelow, config.url,
      ⟨isWeb, sameUrl⟩, config.baseUrl, servedBelow, config.onBrokenLinks, stands.onBrokenLinks,
      config.onBrokenMarkdownLinks, stands.onBrokenMarkdownLinks, config.headTags,
      stands.headTags, config.navbar, stands.navbar, config.footer, stands.footer, ?_⟩
    rw [kept_iff.mp stands.tagline, kept_iff.mp stands.favicon,
      kept_iff.mp stands.organizationName, kept_iff.mp stands.projectName,
      kept_iff.mp stands.deploymentBranch, kept_iff.mp stands.customCss,
      DocsDeclaration.standsFor_iff.mp stands.docs, defaulted_iff.mp stands.pagesPath,
      ← stands.trailingSlash, ← stands.staticDirectories]

end Docsite
