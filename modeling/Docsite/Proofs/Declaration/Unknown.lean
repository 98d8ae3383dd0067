/-
**A reader tells of every field without meaning.**

A reader finds the fields of a section, reads the declared ones, and gives the key paths to the
others. Those are the key paths to the fields without meaning, in the order of the document.

* `TellsOf`: a reader that gives the key path to every field without meaning.
* `SiteDeclaration.tellsOf`: the reader of a whole site does so.
-/

import Docsite.Proofs.Declaration.Found

namespace Docsite

open Json (Value)

/-! ## Sections and their fields -/

/-- The key paths to the fields without meaning in what a field holds, if the field is there. -/
def SlotForm.unknown (form : SlotForm) (kind : SectionKind) : Option Value → List KeyPath
  | none => []
  | some value => (form.meaningless kind.meaningless value).map Prod.snd

theorem lookup_map {α β : Type} (give : String → α → β) (entries : List (String × α))
    (key : String) :
    (entries.map fun entry => (entry.1, give entry.1 entry.2)).lookup key =
      (entries.lookup key).map (give key) := by
  induction entries with
  | nil => rfl
  | cons entry entries ih =>
    rw [List.map_cons, List.lookup_cons, List.lookup_cons, ih]
    by_cases same : key = entry.1
    · simp [same]
    · simp [beq_eq_false_iff_ne.mpr same]

/-- The key paths below the items of a list, each with the number of its item in front. -/
theorem flatMap_zipIdx {α : Type} (paths : α → List KeyPath) (items : List α) :
    (items.zipIdx.flatMap fun item => (paths item.1).map (toString item.2 :: ·)) =
      (items.map paths).zipIdx.flatMap fun item => item.1.map (toString item.2 :: ·) := by
  rw [List.zipIdx_map, List.flatMap_map]
  rfl

namespace SectionKind

theorem nodup_keys (kind : SectionKind) : (kind.keys.map Prod.fst).Nodup := by
  cases kind <;> decide

/-- **The unknown keys of a section and of the sections below it are those of the fields without
meaning.** -/
theorem unknownKeys_eq (kind : SectionKind) {value : Value} {fields : Fields Value}
    (found : Fields.of? Json.dialect kind.keys value = some fields) :
    fields.unknownKeys (kind.slots.map fun entry =>
      (entry.1, entry.2.form.unknown entry.2.inner (fields.get? entry.1))) =
        (kind.meaningless value).map Prod.snd := by
  obtain ⟨isKeys, all, -⟩ := Fields.of?_eq_some_iff.mp found
  rw [meaningless, all, map_snd_numbered_const, List.flatMap_map, Fields.unknownKeys]
  refine List.flatMap_congr fun field member => ?_
  rw [Option.elim_some, meaninglessAt, map_snd_stepped, isKeys,
    lookup_map fun key (slot : kind.Slot) => slot.form.unknown slot.inner (fields.get? key)]
  cases isSlot : kind.slots.lookup field.key with
  | some slot =>
    rw [Fields.get?_eq_some kind.nodup_keys found member (mem_keys_of_lookup_slots isSlot)]
    rfl
  | none =>
    have isDeclared : (kind.keys.lookup field.key).isSome ↔ field.key ∈ kind.keys.map Prod.fst := by
      rw [List.lookup_isSome_iff, List.mem_map]
      exact exists_congr fun _ => and_congr_right fun _ => beq_iff_eq.trans eq_comm
    by_cases declared : field.key ∈ kind.keys.map Prod.fst
    · simp only [Option.map_none, isDeclared.mpr declared, declared, if_true]
      rfl
    · simp only [Option.map_none, mt isDeclared.mp declared, declared, if_false]
      rfl

end SectionKind

/-! ## Readers -/

section Readers

variable {β : Type} {kind : SectionKind} {read : Value → Option (Reading β)}

/-- A reader gives the key path to every field without meaning, in the order of the document. -/
def TellsOf (kind : SectionKind) (read : Value → Option (Reading β)) : Prop :=
  ∀ {value reading}, read value = some reading →
    reading.unknown = (kind.meaningless value).map Prod.snd

variable {fields : Fields Value} {key : String}

theorem TellsOf.sectionOr? (tells : TellsOf kind read) {missing : β} {reading : Reading β}
    (found : fields.sectionOr? missing read key = some reading) :
    reading.unknown = SlotForm.plain.unknown kind (fields.get? key) := by
  rw [Fields.sectionOr?] at found
  cases isThere : fields.get? key with
  | none =>
    rw [isThere] at found
    cases found
    rfl
  | some value =>
    rw [isThere] at found
    exact tells found

theorem TellsOf.section? (tells : TellsOf kind read) {reading : Reading (Option β)}
    (found : fields.section? Json.dialect read key = some reading) :
    reading.unknown = SlotForm.optional.unknown kind (fields.get? key) := by
  obtain ⟨inner?, isInner, rfl⟩ := Option.map_eq_some_iff.mp found
  rw [Fields.optional?] at isInner
  cases isThere : fields.get? key with
  | none =>
    rw [isThere] at isInner
    cases isInner
    rfl
  | some value =>
    rw [isThere] at isInner
    rcases Json.null_or_isThere value with rfl | isThere
    · cases isInner
      rw [SlotForm.unknown, SlotForm.meaningless, SectionKind.meaningless]
      rfl
    · dsimp only at isInner
      rw [isThere] at isInner
      obtain ⟨inner, isRead, rfl⟩ := Option.map_eq_some_iff.mp isInner
      rw [SlotForm.unknown, SlotForm.meaningless, map_snd_stepped, ← tells isRead]

theorem TellsOf.list? (tells : TellsOf kind read) {reading : Reading (List β)}
    (found : fields.list? Json.dialect read key = some reading) :
    reading.unknown = SlotForm.list.unknown kind (fields.get? key) := by
  rw [Fields.list?] at found
  cases isThere : fields.get? key with
  | none =>
    rw [isThere] at found
    cases found
    rfl
  | some value =>
    rw [isThere] at found
    obtain ⟨items, isList, rest⟩ := Option.bind_eq_some_iff.mp found
    obtain ⟨readings, isRead, ⟨⟩⟩ := Option.bind_eq_some_iff.mp rest
    obtain rfl := Json.items?_eq_some_iff.mp isList
    have told : readings.map Reading.unknown =
        items.map fun item => (kind.meaningless item).map Prod.snd := by
      rw [← List.forall₂_eq_eq_eq, List.forall₂_map_left_iff, List.forall₂_map_right_iff]
      exact (mapM_eq_some_iff.mp isRead).flip.imp fun _ _ isRead => tells isRead
    calc (readings.zipIdx.flatMap fun item => item.1.unknown.map (toString item.2 :: ·))
      _ = items.zipIdx.flatMap fun item =>
            ((kind.meaningless item.1).map Prod.snd).map (toString item.2 :: ·) := by
        rw [flatMap_zipIdx Reading.unknown, told,
          flatMap_zipIdx fun item => (kind.meaningless item).map Prod.snd]
      _ = SlotForm.list.unknown kind (some (.array items)) := by
        simp only [SlotForm.unknown, SlotForm.meaningless, map_snd_numbered, map_snd_stepped]

end Readers

/-! ## Every section -/

theorem HeadTagDeclaration.tellsOf : TellsOf .headTag (HeadTagDeclaration.read? Json.dialect) := by
  intro value reading read
  simp only [HeadTagDeclaration.read?, Option.bind_eq_bind, Option.bind_eq_some_iff] at read
  obtain ⟨fields, found, tagName, -, rest⟩ := read
  split at rest
  · cases rest
    exact SectionKind.unknownKeys_eq .headTag found
  · obtain ⟨attributes, -, ⟨⟩⟩ := Option.bind_eq_some_iff.mp rest
    exact SectionKind.unknownKeys_eq .headTag found

theorem DocsDeclaration.tellsOf : TellsOf .docs (DocsDeclaration.read? Json.dialect) := by
  intro value reading read
  simp only [DocsDeclaration.read?, Option.bind_eq_bind, Option.bind_eq_some_iff] at read
  obtain ⟨fields, found, path, -, routeBasePath, -, sidebarPath, -, editUrl, -, ⟨⟩⟩ := read
  exact SectionKind.unknownKeys_eq .docs found

theorem PagesDeclaration.tellsOf : TellsOf .pages (PagesDeclaration.read? Json.dialect) := by
  intro value reading read
  simp only [PagesDeclaration.read?, Option.bind_eq_bind, Option.bind_eq_some_iff] at read
  obtain ⟨fields, found, path, -, ⟨⟩⟩ := read
  exact SectionKind.unknownKeys_eq .pages found

theorem ThemeDeclaration.tellsOf : TellsOf .theme (ThemeDeclaration.read? Json.dialect) := by
  intro value reading read
  simp only [ThemeDeclaration.read?, Option.bind_eq_bind, Option.bind_eq_some_iff] at read
  obtain ⟨fields, found, customCss, -, ⟨⟩⟩ := read
  exact SectionKind.unknownKeys_eq .theme found

theorem LogoDeclaration.tellsOf : TellsOf .logo (LogoDeclaration.read? Json.dialect) := by
  intro value reading read
  simp only [LogoDeclaration.read?, Option.bind_eq_bind, Option.bind_eq_some_iff] at read
  obtain ⟨fields, found, alt, -, src, -, href, -, ⟨⟩⟩ := read
  exact SectionKind.unknownKeys_eq .logo found

theorem LinkDeclaration.tellsOf : TellsOf .link (LinkDeclaration.read? Json.dialect) := by
  intro value reading read
  simp only [LinkDeclaration.read?, Option.bind_eq_bind, Option.bind_eq_some_iff] at read
  obtain ⟨fields, found, label, -, path, -, href, -, position, -, ⟨⟩⟩ := read
  exact SectionKind.unknownKeys_eq .link found

theorem NavbarDeclaration.tellsOf : TellsOf .navbar (NavbarDeclaration.read? Json.dialect) := by
  intro value reading read
  simp only [NavbarDeclaration.read?, Option.bind_eq_bind, Option.bind_eq_some_iff] at read
  obtain ⟨fields, found, title, -, logo, isLogo, items, isItems, ⟨⟩⟩ := read
  rw [LogoDeclaration.tellsOf.section? isLogo, LinkDeclaration.tellsOf.list? isItems]
  exact SectionKind.unknownKeys_eq .navbar found

theorem FooterGroupDeclaration.tellsOf :
    TellsOf .footerGroup (FooterGroupDeclaration.read? Json.dialect) := by
  intro value reading read
  simp only [FooterGroupDeclaration.read?, Option.bind_eq_bind, Option.bind_eq_some_iff] at read
  obtain ⟨fields, found, title, -, items, isItems, ⟨⟩⟩ := read
  rw [LinkDeclaration.tellsOf.list? isItems]
  exact SectionKind.unknownKeys_eq .footerGroup found

theorem FooterDeclaration.tellsOf : TellsOf .footer (FooterDeclaration.read? Json.dialect) := by
  intro value reading read
  simp only [FooterDeclaration.read?, Option.bind_eq_bind, Option.bind_eq_some_iff] at read
  obtain ⟨fields, found, style, -, links, isLinks, logo, isLogo, copyright, -, ⟨⟩⟩ := read
  rw [FooterGroupDeclaration.tellsOf.list? isLinks, LogoDeclaration.tellsOf.section? isLogo]
  exact SectionKind.unknownKeys_eq .footer found

theorem ThemeConfigDeclaration.tellsOf :
    TellsOf .themeConfig (ThemeConfigDeclaration.read? Json.dialect) := by
  intro value reading read
  simp only [ThemeConfigDeclaration.read?, Option.bind_eq_bind, Option.bind_eq_some_iff] at read
  obtain ⟨fields, found, navbar, isNavbar, footer, isFooter, ⟨⟩⟩ := read
  rw [NavbarDeclaration.tellsOf.sectionOr? isNavbar, FooterDeclaration.tellsOf.section? isFooter]
  exact SectionKind.unknownKeys_eq .themeConfig found

/-- **The reader of a whole site tells of every field without meaning, in the order of the
document.** -/
theorem SiteDeclaration.tellsOf : TellsOf .site (SiteDeclaration.read? Json.dialect) := by
  intro value reading read
  unfold SiteDeclaration.read? at read
  obtain ⟨fields, found, read⟩ := Option.bind_eq_some_iff.mp read
  -- The eleven fields in front of the head tags and the static directories hold no sections.
  iterate 11 obtain ⟨_, -, read⟩ := Option.bind_eq_some_iff.mp read
  obtain ⟨headTags, isHeadTags, read⟩ := Option.bind_eq_some_iff.mp read
  obtain ⟨docs, isDocs, read⟩ := Option.bind_eq_some_iff.mp read
  obtain ⟨pages, isPages, read⟩ := Option.bind_eq_some_iff.mp read
  obtain ⟨staticDirectories, -, read⟩ := Option.bind_eq_some_iff.mp read
  obtain ⟨theme, isTheme, read⟩ := Option.bind_eq_some_iff.mp read
  obtain ⟨themeConfig, isThemeConfig, ⟨⟩⟩ := Option.bind_eq_some_iff.mp read
  rw [HeadTagDeclaration.tellsOf.list? isHeadTags, DocsDeclaration.tellsOf.sectionOr? isDocs,
    PagesDeclaration.tellsOf.sectionOr? isPages, ThemeDeclaration.tellsOf.sectionOr? isTheme,
    ThemeConfigDeclaration.tellsOf.sectionOr? isThemeConfig]
  exact SectionKind.unknownKeys_eq .site found

end Docsite
