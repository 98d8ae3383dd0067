/-
**Fields without meaning are overlooked.**

Whatever is read from a document is read from it with one more field without meaning, too. The fields
with declared keys are found as before, up to what happened in the sections that they hold.

* `Follows`: what was found before is found again.
* `Overlooks`: a reader to which one more field without meaning makes no difference.
* `SiteDeclaration.overlooks`: the reader of a whole site is one.
-/

import Docsite.Proofs.Declaration.Extension

namespace Docsite

open Json (Value)

/-! ## Found again -/

section Follows

variable {β γ : Type} {agree : β → β → Prop}

/-- Whatever was found before is found again, up to agreement. -/
def Follows (agree : β → β → Prop) (before after : Option β) : Prop :=
  ∀ found, before = some found → ∃ again, after = some again ∧ agree found again

theorem Follows.some {found again : β} (agrees : agree found again) :
    Follows agree (.some found) (.some again) := by
  rintro _ ⟨⟩
  exact ⟨again, rfl, agrees⟩

theorem Follows.refl (agrees : ∀ found, agree found found) (before : Option β) :
    Follows agree before before :=
  fun found isFound => ⟨found, isFound, agrees found⟩

/-- Steps that are followed one by one are followed together. -/
theorem Follows.bind {before after : Option β} {agreeNext : γ → γ → Prop}
    {next next' : β → Option γ} (first : Follows agree before after)
    (rest : ∀ found again, agree found again → Follows agreeNext (next found) (next' again)) :
    Follows agreeNext (before >>= next) (after >>= next') := by
  intro result isResult
  obtain ⟨found, isFound, isNext⟩ := Option.bind_eq_some_iff.mp isResult
  obtain ⟨again, isAgain, agrees⟩ := first found isFound
  obtain ⟨result', isResult', agreesNext⟩ := rest found again agrees result isNext
  exact ⟨result', Option.bind_eq_some_iff.mpr ⟨again, isAgain, isResult'⟩, agreesNext⟩

theorem Follows.map {before after : Option β} {agreeNext : γ → γ → Prop} {f : β → γ}
    (first : Follows agree before after)
    (agrees : ∀ found again, agree found again → agreeNext (f found) (f again)) :
    Follows agreeNext (before.map f) (after.map f) := by
  intro result isResult
  obtain ⟨found, isFound, rfl⟩ := Option.map_eq_some_iff.mp isResult
  obtain ⟨again, isAgain, isAgreed⟩ := first found isFound
  exact ⟨f again, Option.map_eq_some_iff.mpr ⟨again, isAgain, rfl⟩, agrees found again isAgreed⟩

theorem Follows.bind_same {before after : Option β} {agreeNext : γ → γ → Prop}
    {next next' : β → Option γ} (same : after = before)
    (rest : ∀ found, Follows agreeNext (next found) (next' found)) :
    Follows agreeNext (before >>= next) (after >>= next') := by
  rw [same]
  cases before with
  | none => exact fun _ impossible => absurd impossible.symm (Option.some_ne_none _)
  | some found => exact rest found

end Follows

/-! ## Fields -/

/-- The declared fields of a section that gains a field without meaning: each is as it was, or gains a
field in the sections that it holds. -/
def Fields.Gain (kind : SectionKind) (fields fields' : Fields Value) : Prop :=
  ∀ key ∈ kind.keys.map Prod.fst, fields'.get? key = fields.get? key ∨
    ∃ slot, kind.slots.lookup key = some slot ∧
      ∃ inner inner', fields.get? key = some inner ∧ fields'.get? key = some inner' ∧
        ∃ place path, Gains slot.form slot.inner inner inner' place path

variable {kind : SectionKind} {value value' : Value} {place : Place} {path : KeyPath}

/-- A field is found past a field with another key. -/
theorem Fields.get?_append_cons {keys : SectionKeys} {front back : List (Field Value)}
    {field : Field Value} {key : String} (differs : field.key ≠ key) :
    ({ keys, list := front ++ field :: back } : Fields Value).get? key =
      ({ keys, list := front ++ back } : Fields Value).get? key := by
  have skipped : (field.key == key) = false := beq_eq_false_iff_ne.mpr differs
  rw [get?, get?, List.find?_append, List.find?_append, List.find?_cons, skipped]

/-- **The fields of a section are found after it has gained a field without meaning.** -/
theorem Fields.of?_gains (gains : Gains .plain kind value value' place path) :
    Follows (Fields.Gain kind) (Fields.of? Json.dialect kind.keys value)
      (Fields.of? Json.dialect kind.keys value') := by
  intro fields found
  obtain ⟨isKeys, all, fits⟩ := Fields.of?_eq_some_iff.mp found
  obtain ⟨keys, list⟩ := fields
  obtain rfl : keys = kind.keys := isKeys
  have gain := gains.fieldsGain
  generalize before : fieldsOf kind.keys value = entries at gain
  generalize after : fieldsOf kind.keys value' = entries' at gain
  cases gain with
  | @here _ _ field unknown =>
    obtain ⟨front, back, rfl, rfl, rfl⟩ := List.map_eq_append_iff.mp (all.symm.trans before)
    refine ⟨{ keys := kind.keys, list := front ++ field :: back }, ?_, fun key declared => .inl ?_⟩
    · refine Fields.of?_eq_some_iff.mpr ⟨rfl, ?_, gains.fits fits⟩
      rw [after, List.map_append, List.map_cons]
    · exact Fields.get?_append_cons fun same => unknown (same ▸ declared)
  | @below slot _ _ field inner place path isSlot inside =>
    obtain ⟨front, rest, rfl, rfl, isRest⟩ := List.map_eq_append_iff.mp (all.symm.trans before)
    obtain ⟨_, back, rfl, ⟨⟩, rfl⟩ := List.map_eq_cons_iff.mp isRest
    let field' : Field Value := { field with value := inner }
    have found' : Fields.of? Json.dialect kind.keys value' =
        some { keys := kind.keys, list := front ++ field' :: back } := by
      refine Fields.of?_eq_some_iff.mpr ⟨rfl, ?_, gains.fits fits⟩
      rw [after, List.map_append, List.map_cons]
    refine ⟨_, found', fun key declared => ?_⟩
    -- The key is declared, so the field that has changed is the only one with it.
    by_cases same : field.key = key
    · subst same
      refine .inr ⟨slot, isSlot, field.value, inner, ?_, ?_, place, path, inside⟩
      · exact Fields.get?_eq_some kind.nodup_keys found
          (List.mem_append_right _ List.mem_cons_self) declared
      · have isField : field' ∈ front ++ field' :: back :=
          List.mem_append_right _ List.mem_cons_self
        have isThere := Fields.get?_eq_some kind.nodup_keys found' isField declared
        exact isThere
    · have same' : field'.key ≠ key := same
      exact .inl ((Fields.get?_append_cons same').trans (Fields.get?_append_cons same).symm)

/-! ## Readers -/

section Readers

variable {β : Type} {inner : SectionKind} {read : Value → Option (Reading β)}
  {fields fields' : Fields Value} {key : String}

/-- Readings with the same value. -/
def SameValue (reading reading' : Reading β) : Prop :=
  reading'.value = reading.value

/-- Lists of readings with the same values. -/
def SameValues (readings readings' : List (Reading β)) : Prop :=
  readings'.map Reading.value = readings.map Reading.value

/-- A reader overlooks fields without meaning if one more of them makes no difference to the value. -/
def Overlooks (kind : SectionKind) (read : Value → Option (Reading β)) : Prop :=
  ∀ {value value' place path}, Gains .plain kind value value' place path →
    Follows SameValue (read value) (read value')

theorem SameValue.refl (reading : Reading β) : SameValue reading reading :=
  rfl

theorem Fields.Gain.get?_eq (gain : Fields.Gain kind fields fields')
    (isPlain : key ∈ kind.keys.map Prod.fst ∧ kind.slots.lookup key = none) :
    fields'.get? key = fields.get? key := by
  rcases gain key isPlain.1 with same | ⟨slot, isSlot, -⟩
  · exact same
  · rw [isPlain.2] at isSlot
    cases isSlot

theorem Fields.Gain.optional?_eq (gain : Fields.Gain kind fields fields')
    (isPlain : key ∈ kind.keys.map Prod.fst ∧ kind.slots.lookup key = none)
    (read : Value → Option β) :
    fields'.optional? Json.dialect read key = fields.optional? Json.dialect read key := by
  rw [Fields.optional?, Fields.optional?, gain.get?_eq isPlain]

theorem Fields.Gain.text?_eq (gain : Fields.Gain kind fields fields')
    (isPlain : key ∈ kind.keys.map Prod.fst ∧ kind.slots.lookup key = none) :
    fields'.text? Json.dialect key = fields.text? Json.dialect key :=
  gain.optional?_eq isPlain _

theorem Fields.Gain.slot (gain : Fields.Gain kind fields fields') {slot : kind.Slot}
    (isSlot : kind.slots.lookup key = some slot) :
    fields'.get? key = fields.get? key ∨
      ∃ inner inner', fields.get? key = some inner ∧ fields'.get? key = some inner' ∧
        ∃ place path, Gains slot.form slot.inner inner inner' place path := by
  refine (gain key (SectionKind.mem_keys_of_lookup_slots isSlot)).imp_right ?_
  rintro ⟨slot', isSlot', gained⟩
  obtain rfl := Option.some.inj (isSlot.symm.trans isSlot')
  exact gained

theorem Fields.Gain.sectionOr? (gain : Fields.Gain kind fields fields')
    (overlooks : Overlooks inner read) {isDeeper : inner.depth < kind.depth}
    (isSlot : kind.slots.lookup key = some ⟨.plain, inner, isDeeper⟩) (missing : β) :
    Follows SameValue (fields.sectionOr? missing read key) (fields'.sectionOr? missing read key) := by
  rw [Fields.sectionOr?, Fields.sectionOr?]
  rcases gain.slot isSlot with same | ⟨value, value', isThere, isThere', place, path, gains⟩
  · rw [same]
    exact .refl SameValue.refl _
  · rw [isThere, isThere']
    exact overlooks gains

theorem Fields.Gain.section? (gain : Fields.Gain kind fields fields')
    (overlooks : Overlooks inner read) {isDeeper : inner.depth < kind.depth}
    (isSlot : kind.slots.lookup key = some ⟨.optional, inner, isDeeper⟩) :
    Follows SameValue (fields.section? Json.dialect read key)
      (fields'.section? Json.dialect read key) := by
  rw [Fields.section?, Fields.section?, Fields.optional?, Fields.optional?]
  rcases gain.slot isSlot with same | ⟨value, value', isThere, isThere', place, path, gains⟩
  · rw [same]
    exact .refl SameValue.refl _
  · cases gains with
    | optional inside =>
      rw [isThere, isThere']
      dsimp only
      rw [inside.isThere.1, inside.isThere.2, Option.map_map, Option.map_map]
      exact (overlooks inside).map fun _ _ same => congrArg Option.some same

/-- Items of which one gains a field without meaning are read as before. -/
theorem Overlooks.mapM (overlooks : Overlooks kind read) {item item' : Value}
    (gains : Gains .plain kind item item' place path) (front back : List Value) :
    Follows SameValues ((front ++ item :: back).mapM read) ((front ++ item' :: back).mapM read) := by
  have fromItem : Follows SameValues ((item :: back).mapM read) ((item' :: back).mapM read) := by
    rw [List.mapM_cons, List.mapM_cons]
    refine (overlooks gains).bind fun reading reading' same => .bind_same rfl fun after => .some ?_
    rw [SameValues, List.map_cons, List.map_cons, same]
  rw [List.mapM_append, List.mapM_append]
  refine .bind_same rfl fun before => fromItem.bind fun rest rest' same => .some ?_
  rw [SameValues, List.map_append, List.map_append, same]

theorem Fields.Gain.list? (gain : Fields.Gain kind fields fields')
    (overlooks : Overlooks inner read) {isDeeper : inner.depth < kind.depth}
    (isSlot : kind.slots.lookup key = some ⟨.list, inner, isDeeper⟩) :
    Follows SameValue (fields.list? Json.dialect read key)
      (fields'.list? Json.dialect read key) := by
  rw [Fields.list?, Fields.list?]
  rcases gain.slot isSlot with same | ⟨value, value', isThere, isThere', place, path, gains⟩
  · rw [same]
    exact .refl SameValue.refl _
  · cases gains with
    | @item _ front back item item' place path inside =>
      rw [isThere, isThere']
      exact (overlooks.mapM inside front back).bind fun _ _ same => .some same

end Readers

/-! ## Every section -/

theorem HeadTagDeclaration.overlooks :
    Overlooks .headTag (HeadTagDeclaration.read? Json.dialect) := by
  intro value value' place path gains
  refine (Fields.of?_gains gains).bind fun fields fields' gain => ?_
  refine .bind_same (gain.text?_eq (by decide)) fun tagName => ?_
  rw [gain.get?_eq (by decide)]
  cases fields.get? "attributes" with
  | none => exact .some rfl
  | some inner => exact .bind_same rfl fun attributes => .some rfl

theorem DocsDeclaration.overlooks : Overlooks .docs (DocsDeclaration.read? Json.dialect) := by
  intro value value' place path gains
  refine (Fields.of?_gains gains).bind fun fields fields' gain => ?_
  refine .bind_same (gain.text?_eq (by decide)) fun path => ?_
  refine .bind_same (gain.text?_eq (by decide)) fun routeBasePath => ?_
  refine .bind_same (gain.text?_eq (by decide)) fun sidebarPath => ?_
  exact .bind_same (gain.text?_eq (by decide)) fun editUrl => .some rfl

theorem PagesDeclaration.overlooks : Overlooks .pages (PagesDeclaration.read? Json.dialect) := by
  intro value value' place path gains
  refine (Fields.of?_gains gains).bind fun fields fields' gain => ?_
  exact .bind_same (gain.text?_eq (by decide)) fun path => .some rfl

theorem ThemeDeclaration.overlooks : Overlooks .theme (ThemeDeclaration.read? Json.dialect) := by
  intro value value' place path gains
  refine (Fields.of?_gains gains).bind fun fields fields' gain => ?_
  exact .bind_same (gain.text?_eq (by decide)) fun customCss => .some rfl

theorem LogoDeclaration.overlooks : Overlooks .logo (LogoDeclaration.read? Json.dialect) := by
  intro value value' place path gains
  refine (Fields.of?_gains gains).bind fun fields fields' gain => ?_
  refine .bind_same (gain.text?_eq (by decide)) fun alt => ?_
  refine .bind_same (gain.text?_eq (by decide)) fun src => ?_
  exact .bind_same (gain.text?_eq (by decide)) fun href => .some rfl

theorem LinkDeclaration.overlooks : Overlooks .link (LinkDeclaration.read? Json.dialect) := by
  intro value value' place path gains
  refine (Fields.of?_gains gains).bind fun fields fields' gain => ?_
  refine .bind_same (gain.text?_eq (by decide)) fun label => ?_
  refine .bind_same (gain.text?_eq (by decide)) fun path => ?_
  refine .bind_same (gain.text?_eq (by decide)) fun href => ?_
  exact .bind_same (gain.text?_eq (by decide)) fun position => .some rfl

theorem NavbarDeclaration.overlooks : Overlooks .navbar (NavbarDeclaration.read? Json.dialect) := by
  intro value value' place path gains
  refine (Fields.of?_gains gains).bind fun fields fields' gain => ?_
  refine .bind_same (gain.text?_eq (by decide)) fun title => ?_
  refine (gain.section? LogoDeclaration.overlooks rfl).bind fun logo logo' sameLogo => ?_
  refine (gain.list? LinkDeclaration.overlooks rfl).bind fun items items' sameItems => .some ?_
  rw [SameValue, sameLogo, sameItems]

theorem FooterGroupDeclaration.overlooks :
    Overlooks .footerGroup (FooterGroupDeclaration.read? Json.dialect) := by
  intro value value' place path gains
  refine (Fields.of?_gains gains).bind fun fields fields' gain => ?_
  refine .bind_same (gain.text?_eq (by decide)) fun title => ?_
  refine (gain.list? LinkDeclaration.overlooks rfl).bind fun items items' sameItems => .some ?_
  rw [SameValue, sameItems]

theorem FooterDeclaration.overlooks : Overlooks .footer (FooterDeclaration.read? Json.dialect) := by
  intro value value' place path gains
  refine (Fields.of?_gains gains).bind fun fields fields' gain => ?_
  refine .bind_same (gain.text?_eq (by decide)) fun style => ?_
  refine (gain.list? FooterGroupDeclaration.overlooks rfl).bind fun links links' sameLinks => ?_
  refine (gain.section? LogoDeclaration.overlooks rfl).bind fun logo logo' sameLogo => ?_
  refine .bind_same (gain.text?_eq (by decide)) fun copyright => .some ?_
  rw [SameValue, sameLinks, sameLogo]

theorem ThemeConfigDeclaration.overlooks :
    Overlooks .themeConfig (ThemeConfigDeclaration.read? Json.dialect) := by
  intro value value' place path gains
  refine (Fields.of?_gains gains).bind fun fields fields' gain => ?_
  refine (gain.sectionOr? NavbarDeclaration.overlooks rfl {}).bind
    fun navbar navbar' sameNavbar => ?_
  refine (gain.section? FooterDeclaration.overlooks rfl).bind
    fun footer footer' sameFooter => .some ?_
  rw [SameValue, sameNavbar, sameFooter]

/-- **The reader of a whole site overlooks fields without meaning.** -/
theorem SiteDeclaration.overlooks : Overlooks .site (SiteDeclaration.read? Json.dialect) := by
  intro value value' place path gains
  refine (Fields.of?_gains gains).bind fun fields fields' gain => ?_
  refine .bind_same (gain.text?_eq (by decide)) fun title => ?_
  refine .bind_same (gain.text?_eq (by decide)) fun tagline => ?_
  refine .bind_same (gain.text?_eq (by decide)) fun url => ?_
  refine .bind_same (gain.text?_eq (by decide)) fun baseUrl => ?_
  refine .bind_same (gain.text?_eq (by decide)) fun favicon => ?_
  refine .bind_same (gain.text?_eq (by decide)) fun onBrokenLinks => ?_
  refine .bind_same (gain.text?_eq (by decide)) fun onBrokenMarkdownLinks => ?_
  refine .bind_same (gain.optional?_eq (by decide) _) fun trailingSlash => ?_
  refine .bind_same (gain.text?_eq (by decide)) fun organizationName => ?_
  refine .bind_same (gain.text?_eq (by decide)) fun projectName => ?_
  refine .bind_same (gain.text?_eq (by decide)) fun deploymentBranch => ?_
  refine (gain.list? HeadTagDeclaration.overlooks rfl).bind fun headTags headTags' sameTags => ?_
  refine (gain.sectionOr? DocsDeclaration.overlooks rfl {}).bind fun docs docs' sameDocs => ?_
  refine (gain.sectionOr? PagesDeclaration.overlooks rfl {}).bind fun pages pages' samePages => ?_
  refine .bind_same (gain.optional?_eq (by decide) _) fun staticDirectories => ?_
  refine (gain.sectionOr? ThemeDeclaration.overlooks rfl {}).bind fun theme theme' sameTheme => ?_
  refine (gain.sectionOr? ThemeConfigDeclaration.overlooks rfl {}).bind
    fun themeConfig themeConfig' sameConfig => .some ?_
  rw [SameValue, sameTags, sameDocs, samePages, sameTheme, sameConfig]

end Docsite
