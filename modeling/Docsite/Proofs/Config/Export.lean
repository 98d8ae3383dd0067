/-
**An exported configuration is declared as it is.**

The object that a configuration is exported as is read as a declaration in which every value of the
configuration is declared, and no key of it is without meaning.

* `SiteConfig.declared`: the declaration of a configuration.
* `SiteConfig.declaration?_exported`: what the text of an exported configuration spells.
-/

import Docsite.Config.Export
import Docsite.Config.Source
import Docsite.Proofs.Declaration.Fields
import Docsite.Proofs.Json.RoundTrip

namespace Docsite

open Json (Value)

/-! ## Declarations of checked values -/

/-- The declaration of a head tag. -/
def HeadTag.declared (tag : HeadTag) : HeadTagDeclaration where
  tagName := some tag.tagName
  attributes := tag.attributes

/-- The declaration of the documentation section. -/
def DocsOptions.declared (docs : DocsOptions) : DocsDeclaration where
  path := some docs.path
  routeBasePath := some docs.routeBasePath
  sidebarPath := docs.sidebarPath
  editUrl := docs.editUrl

/-- The declaration of a logo. -/
def Logo.declared (logo : Logo) : LogoDeclaration where
  alt := logo.alt
  src := some logo.src
  href := logo.href

/-- The declaration of a target that is a path of the site. -/
def LinkTarget.path? : LinkTarget → Option String
  | .path target => some target
  | .href _ => none

/-- The declaration of a target that is passed on. -/
def LinkTarget.href? : LinkTarget → Option String
  | .path _ => none
  | .href target => some target

/-- The declaration of an entry of the navigation bar. -/
def NavbarItem.declared (item : NavbarItem) : LinkDeclaration where
  label := some item.label
  path := item.target.path?
  href := item.target.href?
  position := some item.position.name

/-- The declaration of an entry of the footer. -/
def FooterLink.declared (link : FooterLink) : LinkDeclaration where
  label := some link.label
  path := link.target.path?
  href := link.target.href?

/-- The declaration of the navigation bar. -/
def Navbar.declared (navbar : Navbar) : NavbarDeclaration where
  title := navbar.title
  logo := navbar.logo.map Logo.declared
  items := navbar.items.map NavbarItem.declared

/-- The declaration of a column of the footer. -/
def FooterLinkGroup.declared (group : FooterLinkGroup) : FooterGroupDeclaration where
  title := some group.title
  items := group.items.map FooterLink.declared

/-- The declaration of the footer. -/
def Footer.declared (footer : Footer) : FooterDeclaration where
  style := some footer.style.name
  links := footer.links.map FooterLinkGroup.declared
  logo := footer.logo.map Logo.declared
  copyright := footer.copyright

/-- **The declaration of a whole configuration.** -/
def SiteConfig.declared (config : SiteConfig) : SiteDeclaration where
  title := some config.title
  tagline := config.tagline
  url := some config.url
  baseUrl := some config.baseUrl
  favicon := config.favicon
  onBrokenLinks := some config.onBrokenLinks.name
  onBrokenMarkdownLinks := some config.onBrokenMarkdownLinks.name
  trailingSlash := config.trailingSlash
  organizationName := config.organizationName
  projectName := config.projectName
  deploymentBranch := config.deploymentBranch
  headTags := config.headTags.map HeadTag.declared
  docs := config.docs.declared
  pages := { path := some config.pagesPath }
  staticDirectories := some config.staticDirectories
  theme := { customCss := config.customCss }
  themeConfig := {
    navbar := config.navbar.declared
    footer := config.footer.map Footer.declared }

/-! ## Sections -/

theorem map_fst_optionalMember (key : String) (value : Option String) :
    (optionalMember key value).map Prod.fst = if value.isSome then [key] else [] := by
  cases value with
  | none => rfl
  | some text => rfl

theorem lookup_optionalMember (key other : String) (value : Option String) :
    (optionalMember key value).lookup other =
      if other == key then value.map Value.ofText else none := by
  cases value with
  | none => simp [optionalMember]
  | some text =>
    rw [optionalMember, Option.map_some, Option.toList_some, List.lookup_cons]
    cases other == key <;> rfl

theorem DocsOptions.read?_toJson (docs : DocsOptions) :
    DocsDeclaration.read? Json.dialect docs.toJson = some { value := docs.declared } := by
  refine Fields.bind_ofMembers ?declared (by decide) fun fields lists => ?_
  case declared =>
    simp only [List.map_append, List.map_cons, List.map_nil, map_fst_optionalMember]
    cases docs.sidebarPath.isSome <;> cases docs.editUrl.isSome <;> decide
  simp [lists.text?, lists.unknownKeys, List.lookup_append, List.lookup_cons,
    lookup_optionalMember, DocsOptions.declared]

theorem Logo.read?_toJson (logo : Logo) :
    LogoDeclaration.read? Json.dialect logo.toJson = some { value := logo.declared } := by
  refine Fields.bind_ofMembers ?declared (by decide) fun fields lists => ?_
  case declared =>
    simp only [List.map_append, List.map_cons, List.map_nil, map_fst_optionalMember]
    cases logo.alt.isSome <;> cases logo.href.isSome <;> decide
  simp [lists.text?, lists.unknownKeys, List.lookup_append, List.lookup_cons,
    lookup_optionalMember, Logo.declared]

theorem mapM_attributes (attributes : List (String × String)) :
    ((attributes.map fun (name, value) => (name, Value.ofText value)).map
      fun (key, value) => (some key, value)).mapM (fun (key, value) => do
        return (← key, ← Json.dialect.text? value)) = some attributes := by
  rw [mapM_eq_some_iff, List.forall₂_map_left_iff, List.forall₂_map_left_iff, List.forall₂_same]
  exact fun _ _ => rfl

theorem readAttributes?_ofMembers {attributes : List (String × String)}
    (ascending : Ascending attributes) :
    readAttributes? Json.dialect (.ofMembers (attributes.map fun (name, value) =>
      (name, .ofText value))) = some attributes := by
  unfold readAttributes? Value.ofMembers
  show Option.bind (List.mapM _ _) _ = _
  rw [mapM_attributes, Option.bind_some]
  exact congrArg some (foldl_insertAttribute ascending)

theorem HeadTag.read?_toJson {tag : HeadTag} (ascending : Ascending tag.attributes) :
    HeadTagDeclaration.read? Json.dialect tag.toJson = some { value := tag.declared } := by
  unfold HeadTagDeclaration.read? HeadTag.toJson
  refine Fields.bind_ofMembers ?declared (by decide) fun fields lists => ?_
  case declared => exact List.Sublist.refl _
  simp [lists.text?, lists.get?, lists.unknownKeys, List.lookup_cons,
    readAttributes?_ofMembers ascending, HeadTag.declared]

theorem NavbarItem.read?_toJson (item : NavbarItem) :
    LinkDeclaration.read? Json.dialect item.toJson = some { value := item.declared } := by
  refine Fields.bind_ofMembers ?declared (by decide) fun fields lists => ?_
  case declared =>
    simp only [List.map_cons, List.map_nil]
    cases item.target <;> simp only [LinkTarget.member] <;> decide
  cases target : item.target <;>
    simp [lists.text?, lists.unknownKeys, List.lookup_cons, target, LinkTarget.member,
      NavbarItem.declared, LinkTarget.path?, LinkTarget.href?]

theorem FooterLink.read?_toJson (link : FooterLink) :
    LinkDeclaration.read? Json.dialect link.toJson = some { value := link.declared } := by
  refine Fields.bind_ofMembers ?declared (by decide) fun fields lists => ?_
  case declared =>
    simp only [List.map_cons, List.map_nil]
    cases link.target <;> simp only [LinkTarget.member] <;> decide
  cases target : link.target <;>
    simp [lists.text?, lists.unknownKeys, List.lookup_cons, target, LinkTarget.member,
      FooterLink.declared, LinkTarget.path?, LinkTarget.href?]

theorem map_fst_logoMember (logo : Option Logo) :
    (logoMember logo).map Prod.fst = if logo.isSome then ["logo"] else [] := by
  cases logo with
  | none => rfl
  | some logo => rfl

theorem lookup_logoMember (key : String) (logo : Option Logo) :
    (logoMember logo).lookup key = if key == "logo" then logo.map Logo.toJson else none := by
  cases logo with
  | none => simp [logoMember]
  | some logo =>
    rw [logoMember, Option.map_some, Option.toList_some, List.lookup_cons]
    cases key == "logo" <;> rfl

theorem Navbar.read?_toJson (navbar : Navbar) :
    NavbarDeclaration.read? Json.dialect navbar.toJson = some { value := navbar.declared } := by
  refine Fields.bind_ofMembers ?declared (by decide) fun fields lists => ?_
  case declared =>
    simp only [List.map_append, List.map_cons, List.map_nil, map_fst_optionalMember,
      map_fst_logoMember]
    cases navbar.title.isSome <;> cases navbar.logo.isSome <;> decide
  have logo : fields.section? Json.dialect (LogoDeclaration.read? Json.dialect) "logo" =
      some { value := navbar.logo.map Logo.declared } := by
    refine Fields.section?_of_map Logo.read?_toJson (fun _ => rfl) ?_
    simp [lists.get?, List.lookup_append, List.lookup_cons, lookup_optionalMember,
      lookup_logoMember]
  have items : fields.list? Json.dialect (LinkDeclaration.read? Json.dialect) "items" =
      some { value := navbar.items.map NavbarItem.declared } := by
    refine Fields.list?_of_map (fun item _ => NavbarItem.read?_toJson item) ?_
    simp [lists.get?, List.lookup_append, lookup_optionalMember, lookup_logoMember]
  simp [lists.text?, lists.unknownKeys, List.lookup_append, List.lookup_cons,
    lookup_optionalMember, lookup_logoMember, logo, items, Navbar.declared]

theorem FooterLinkGroup.read?_toJson (group : FooterLinkGroup) :
    FooterGroupDeclaration.read? Json.dialect group.toJson = some { value := group.declared } := by
  unfold FooterGroupDeclaration.read? FooterLinkGroup.toJson
  refine Fields.bind_ofMembers ?declared (by decide) fun fields lists => ?_
  case declared => exact List.Sublist.refl _
  have items : fields.list? Json.dialect (LinkDeclaration.read? Json.dialect) "items" =
      some { value := group.items.map FooterLink.declared } := by
    refine Fields.list?_of_map (fun link _ => FooterLink.read?_toJson link) ?_
    simp [lists.get?, List.lookup_cons]
  simp [lists.text?, lists.unknownKeys, items, FooterLinkGroup.declared]

theorem Footer.read?_toJson (footer : Footer) :
    FooterDeclaration.read? Json.dialect footer.toJson = some { value := footer.declared } := by
  refine Fields.bind_ofMembers ?declared (by decide) fun fields lists => ?_
  case declared =>
    simp only [List.map_append, List.map_cons, List.map_nil, map_fst_optionalMember,
      map_fst_logoMember]
    cases footer.logo.isSome <;> cases footer.copyright.isSome <;> decide
  have links : fields.list? Json.dialect (FooterGroupDeclaration.read? Json.dialect) "links" =
      some { value := footer.links.map FooterLinkGroup.declared } := by
    refine Fields.list?_of_map (fun group _ => FooterLinkGroup.read?_toJson group) ?_
    simp [lists.get?, List.lookup_cons]
  have logo : fields.section? Json.dialect (LogoDeclaration.read? Json.dialect) "logo" =
      some { value := footer.logo.map Logo.declared } := by
    refine Fields.section?_of_map Logo.read?_toJson (fun _ => rfl) ?_
    simp [lists.get?, List.lookup_append, List.lookup_cons, lookup_optionalMember,
      lookup_logoMember]
  simp [lists.text?, lists.unknownKeys, List.lookup_append, List.lookup_cons,
    lookup_optionalMember, lookup_logoMember, links, logo, Footer.declared]

theorem SiteConfig.read?_themeConfigJson (config : SiteConfig) :
    ThemeConfigDeclaration.read? Json.dialect config.themeConfigJson =
      some { value := config.declared.themeConfig } := by
  refine Fields.bind_ofMembers ?declared (by decide) fun fields lists => ?_
  case declared =>
    cases config.footer with
    | none => exact List.sublist_append_left ["navbar"] ["footer"]
    | some footer => exact List.Sublist.refl _
  have navbar : fields.sectionOr? {} (NavbarDeclaration.read? Json.dialect) "navbar" =
      some { value := config.navbar.declared } := by
    simp [Fields.sectionOr?, lists.get?, Navbar.read?_toJson]
  have footer : fields.section? Json.dialect (FooterDeclaration.read? Json.dialect) "footer" =
      some { value := config.footer.map Footer.declared } := by
    refine Fields.section?_of_map Footer.read?_toJson (fun _ => rfl) ?_
    cases written : config.footer <;> simp [lists.get?, List.lookup_cons, written]
  simp [lists.unknownKeys, navbar, footer, SiteConfig.declared]

theorem PagesDeclaration.read?_ofMembers (path : String) :
    PagesDeclaration.read? Json.dialect (.ofMembers [("path", .ofText path)]) =
      some { value := { path := some path } } := by
  unfold PagesDeclaration.read?
  refine Fields.bind_ofMembers ?declared (by decide) fun fields lists => ?_
  case declared => exact List.Sublist.refl _
  simp [lists.text?, lists.unknownKeys]

theorem ThemeDeclaration.read?_ofMembers (customCss : Option String) :
    ThemeDeclaration.read? Json.dialect (.ofMembers (optionalMember "customCss" customCss)) =
      some { value := { customCss } } := by
  unfold ThemeDeclaration.read?
  refine Fields.bind_ofMembers ?declared (by decide) fun fields lists => ?_
  case declared =>
    rw [map_fst_optionalMember]
    cases customCss.isSome <;> decide
  simp [lists.text?, lists.unknownKeys, lookup_optionalMember]

theorem readTexts?_map (texts : List String) :
    readTexts? Json.dialect (.array (texts.map Value.ofText)) = some texts := by
  show (texts.map Value.ofText).mapM Json.dialect.text? = some texts
  rw [mapM_eq_some_iff, List.forall₂_map_left_iff, List.forall₂_same]
  exact fun _ _ => rfl

/-! ## Whole sites -/

/-- **The exported object declares every value of the configuration.** -/
theorem SiteConfig.read?_toJson {config : SiteConfig}
    (ascending : ∀ tag ∈ config.headTags, Ascending tag.attributes) :
    SiteDeclaration.read? Json.dialect config.toJson = some { value := config.declared } := by
  unfold SiteDeclaration.read? SiteConfig.toJson
  refine Fields.bind_ofMembers ?declared (by decide) fun fields lists => ?_
  case declared => exact List.Sublist.refl _
  have headTags : fields.list? Json.dialect (HeadTagDeclaration.read? Json.dialect) "headTags" =
      some { value := config.headTags.map HeadTag.declared } := by
    refine Fields.list?_of_map (fun tag member => HeadTag.read?_toJson (ascending tag member)) ?_
    simp [lists.get?, List.lookup_cons]
  have docs : fields.sectionOr? {} (DocsDeclaration.read? Json.dialect) "docs" =
      some { value := config.docs.declared } := by
    simp [Fields.sectionOr?, lists.get?, List.lookup_cons, DocsOptions.read?_toJson]
  have pages : fields.sectionOr? {} (PagesDeclaration.read? Json.dialect) "pages" =
      some { value := { path := some config.pagesPath } } := by
    simp [Fields.sectionOr?, lists.get?, List.lookup_cons, PagesDeclaration.read?_ofMembers]
  have theme : fields.sectionOr? {} (ThemeDeclaration.read? Json.dialect) "theme" =
      some { value := { customCss := config.customCss } } := by
    simp [Fields.sectionOr?, lists.get?, List.lookup_cons, ThemeDeclaration.read?_ofMembers]
  have themeConfig : fields.sectionOr? {} (ThemeConfigDeclaration.read? Json.dialect)
      "themeConfig" = some { value := config.declared.themeConfig } := by
    simp [Fields.sectionOr?, lists.get?, List.lookup_cons, SiteConfig.read?_themeConfigJson]
  have trailingSlash : fields.optional? Json.dialect Json.dialect.flag? "trailingSlash" =
      some config.trailingSlash := by
    cases written : config.trailingSlash <;>
      simp [Fields.optional?, lists.get?, List.lookup_cons, written, Json.dialect]
  have staticDirectories : fields.optional? Json.dialect (readTexts? Json.dialect)
      "staticDirectories" = some (some config.staticDirectories) := by
    have isThere : Json.dialect.isAbsent? (.array (config.staticDirectories.map Value.ofText)) =
        some false := rfl
    simp [Fields.optional?, lists.get?, List.lookup_cons, isThere, readTexts?_map]
  simp [lists.text?, lists.unknownKeys, List.lookup_cons, headTags, docs, pages, theme, themeConfig,
    trailingSlash, staticDirectories]
  rfl

/-! ## The exported text -/

section Plain

open Json.Value (IsPlain)

theorem isPlain_optional (text : Option String) : (Value.ofOptional text).IsPlain := by
  cases text with
  | none => exact .null
  | some text => exact .text text

theorem isPlain_optionalMember {key : String} {value : Option String} :
    ∀ member ∈ optionalMember key value, IsPlain member.2 := by
  cases value with
  | none => simp [optionalMember]
  | some text => exact List.forall_mem_singleton.mpr (.text text)

theorem isPlain_map {β : Type} {write : β → Value} (plain : ∀ b, (write b).IsPlain)
    (items : List β) : (Value.array (items.map write)).IsPlain := by
  refine .array fun value member => ?_
  obtain ⟨b, -, rfl⟩ := List.mem_map.mp member
  exact plain b

theorem HeadTag.isPlain_toJson (tag : HeadTag) : tag.toJson.IsPlain := by
  have attributes : (Value.ofMembers (tag.attributes.map fun (name, value) =>
      (name, .ofText value))).IsPlain := by
    refine .members fun member inside => ?_
    obtain ⟨pair, -, rfl⟩ := List.mem_map.mp inside
    exact .text pair.2
  refine .members ?_
  simp only [List.forall_mem_cons, List.not_mem_nil, false_imp_iff, implies_true, and_true]
  exact ⟨.text _, attributes⟩

theorem DocsOptions.isPlain_toJson (docs : DocsOptions) : docs.toJson.IsPlain := by
  refine .members ?_
  simp only [List.forall_mem_append, List.forall_mem_cons, List.not_mem_nil, false_imp_iff,
    implies_true, and_true]
  exact ⟨⟨⟨.text _, .text _⟩, isPlain_optionalMember⟩, isPlain_optionalMember⟩

theorem Logo.isPlain_toJson (logo : Logo) : logo.toJson.IsPlain := by
  refine .members ?_
  simp only [List.forall_mem_append, List.forall_mem_cons, List.not_mem_nil, false_imp_iff,
    implies_true, and_true]
  exact ⟨⟨isPlain_optionalMember, .text _⟩, isPlain_optionalMember⟩

theorem isPlain_logoMember {logo : Option Logo} :
    ∀ member ∈ logoMember logo, IsPlain member.2 := by
  cases logo with
  | none => simp [logoMember]
  | some logo => exact List.forall_mem_singleton.mpr logo.isPlain_toJson

theorem LinkTarget.isPlain_member (target : LinkTarget) : target.member.2.IsPlain := by
  cases target with
  | path target => exact .text target
  | href target => exact .text target

theorem NavbarItem.isPlain_toJson (item : NavbarItem) : item.toJson.IsPlain := by
  refine .members ?_
  simp only [List.forall_mem_cons, List.not_mem_nil, false_imp_iff, implies_true, and_true]
  exact ⟨.text _, item.target.isPlain_member, .text _⟩

theorem Navbar.isPlain_toJson (navbar : Navbar) : navbar.toJson.IsPlain := by
  refine .members ?_
  simp only [List.forall_mem_append, List.forall_mem_cons, List.not_mem_nil, false_imp_iff,
    implies_true, and_true]
  exact ⟨⟨isPlain_optionalMember, isPlain_logoMember⟩,
    isPlain_map NavbarItem.isPlain_toJson _⟩

theorem FooterLink.isPlain_toJson (link : FooterLink) : link.toJson.IsPlain := by
  refine .members ?_
  simp only [List.forall_mem_cons, List.not_mem_nil, false_imp_iff, implies_true, and_true]
  exact ⟨.text _, link.target.isPlain_member⟩

theorem FooterLinkGroup.isPlain_toJson (group : FooterLinkGroup) : group.toJson.IsPlain := by
  refine .members ?_
  simp only [List.forall_mem_cons, List.not_mem_nil, false_imp_iff, implies_true, and_true]
  exact ⟨.text _, isPlain_map FooterLink.isPlain_toJson _⟩

theorem Footer.isPlain_toJson (footer : Footer) : footer.toJson.IsPlain := by
  refine .members ?_
  simp only [List.forall_mem_append, List.forall_mem_cons, List.not_mem_nil, false_imp_iff,
    implies_true, and_true]
  exact ⟨⟨⟨.text _, isPlain_map FooterLinkGroup.isPlain_toJson _⟩, isPlain_logoMember⟩,
    isPlain_optionalMember⟩

theorem SiteConfig.isPlain_themeConfigJson (config : SiteConfig) :
    config.themeConfigJson.IsPlain := by
  refine .members ?_
  simp only [List.forall_mem_append, List.forall_mem_cons, List.not_mem_nil, false_imp_iff,
    implies_true, and_true]
  refine ⟨config.navbar.isPlain_toJson, ?_⟩
  cases config.footer with
  | none => simp
  | some footer => exact List.forall_mem_singleton.mpr footer.isPlain_toJson

theorem SiteConfig.isPlain_toJson (config : SiteConfig) : config.toJson.IsPlain := by
  have trailingSlash : IsPlain ((config.trailingSlash.map Value.bool).getD .null) := by
    cases config.trailingSlash with
    | none => exact .null
    | some flag => exact .bool flag
  have pages : (Value.ofMembers [("path", .ofText config.pagesPath)]).IsPlain :=
    .members (List.forall_mem_singleton.mpr (.text _))
  refine .members ?_
  simp only [List.forall_mem_cons, List.not_mem_nil, false_imp_iff, implies_true, and_true]
  exact ⟨.text _, isPlain_optional _, .text _, .text _, isPlain_optional _, .text _, .text _,
    trailingSlash, isPlain_optional _, isPlain_optional _, isPlain_optional _,
    isPlain_map HeadTag.isPlain_toJson _, config.docs.isPlain_toJson, pages,
    isPlain_map Value.IsPlain.text _, .members isPlain_optionalMember,
    config.isPlain_themeConfigJson⟩

end Plain

/-- **The exported text spells the declaration of the configuration.** -/
theorem SiteConfig.declaration?_exported {config : SiteConfig}
    (ascending : ∀ tag ∈ config.headTags, Ascending tag.attributes) :
    declaration? .json config.exported = some { value := config.declared } := by
  have spelled : Json.read? config.exported = some config.toJson :=
    Json.read?_pretty config.isPlain_toJson
  simp only [declaration?, spelled, Option.bind_eq_bind, Option.bind_some]
  exact SiteConfig.read?_toJson ascending

end Docsite
