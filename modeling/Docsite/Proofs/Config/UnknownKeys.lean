/-
**Unknown keys are harmless.**

A key without meaning is warned of and otherwise overlooked. The warnings stand in front of everything
that the check of the declaration has to say, in the order of the document.

* `ListsMeaningless`: all fields without meaning in a document, in its order.
* `warningOf`: what is said of one of them.
* `run_ofSource`: they are warned of in that order, and then the declaration is checked.
* `ofSource_gains`: one more field without meaning is one more warning, and nothing else.
-/

import Docsite.Config.Source
import Docsite.Proofs.Config.Notices
import Docsite.Proofs.Declaration.Overlooked
import Docsite.Proofs.Json.RoundTrip

namespace Docsite

open Json (Value)

/-! ## Warnings -/

/-- All fields without meaning in a document, in its order. -/
structure ListsMeaningless (document : Value) (found : List (Place × KeyPath)) : Prop where
  inOrder : InOrder found
  mem_iff {place : Place} {path : KeyPath} :
    (place, path) ∈ found ↔ Meaningless .plain .site document place path

theorem listsMeaningless (document : Value) :
    ListsMeaningless document (SectionKind.site.meaningless document) :=
  ⟨SectionKind.inOrder_meaningless _ _, SectionKind.mem_meaningless⟩

/-- The warning of a field without meaning, which names the steps to it with dots in between. -/
def warningOf (path : KeyPath) : Notice :=
  .unknownKey (String.intercalate "." path)

theorem level_warningOf (path : KeyPath) : (warningOf path).level = .warn :=
  rfl

theorem message_warningOf (path : KeyPath) : (warningOf path).message =
    "Ignoring unknown config key `" ++ String.intercalate "." path ++ "`" :=
  rfl

/-- The warnings of some fields without meaning. -/
def warningsOf (found : List (Place × KeyPath)) : List Notice :=
  (found.map Prod.snd).map warningOf

theorem warningsOf_append (front back : List (Place × KeyPath)) :
    warningsOf (front ++ back) = warningsOf front ++ warningsOf back := by
  rw [warningsOf, List.map_append, List.map_append]
  rfl

/-- The check of a declaration, without the warnings of keys. -/
def SiteDeclaration.checked (declared : SiteDeclaration) : Check SiteConfig := do
  let config ← validate declared
  Check.giveIf true
    (.configValidated config.title config.navbar.items.length config.headTags.length)
  return config

/-- The check of a declaration does not warn of keys. -/
theorem says_checked (declared : SiteDeclaration) :
    declared.checked.Says fun notice => ∀ key, notice ≠ .unknownKey key := by
  have ofCheck : (validate declared).Says fun notice => ∀ key, notice ≠ .unknownKey key := by
    rintro notice member key rfl
    cases says_validate declared _ member
  refine ofCheck.bind fun config => ?_
  refine (Check.says_giveIf fun key same => ?_).bind fun _ => Check.says_pure _
  cases same

section Sources

variable {source : String} {document : Value} {reading : Reading SiteDeclaration}

/-- **A text is warned of the fields without meaning in its document, in their order, and then
checked.** -/
theorem run_ofSource (isRead : Json.read? source = some document)
    (declares : SiteDeclaration.read? Json.dialect document = some reading) :
    (SiteConfig.ofSource .json source).run.value = reading.value.checked.run.value ∧
      (SiteConfig.ofSource .json source).run.notices =
        warningsOf (SectionKind.site.meaningless document) ++ reading.value.checked.run.notices := by
  have found : declaration? .json source = some reading := by
    rw [declaration?, isRead]
    exact declares
  have steps : SiteConfig.ofSource .json source =
      warnOfUnknown reading.unknown >>= fun _ => reading.value.checked := by
    unfold SiteConfig.ofSource
    rw [found]
    rfl
  rw [steps, ExceptT.run_bind, Logged.notices_bind, warningsOf, ← SiteDeclaration.tellsOf declares]
  exact ⟨rfl, congrArg (· ++ _) (Check.notices_lift _)⟩

/-- **One more field without meaning is one more warning, and nothing else.** -/
theorem ofSource_gains {extended : String} {document' : Value} {place : Place} {path : KeyPath}
    (isRead : Json.read? source = some document)
    (isRead' : Json.read? extended = some document')
    (declares : (SiteDeclaration.read? Json.dialect document).isSome)
    (gains : Gains .plain .site document document' place path) :
    (SiteConfig.ofSource .json extended).run.value = (SiteConfig.ofSource .json source).run.value ∧
      ∃ (before after : List (Place × KeyPath)) (rest : List Notice),
        ListsMeaningless document' (before ++ (place, path) :: after) ∧
        (∀ key, .unknownKey key ∉ rest) ∧
        (SiteConfig.ofSource .json source).run.notices =
          warningsOf before ++ warningsOf after ++ rest ∧
        (SiteConfig.ofSource .json extended).run.notices =
          warningsOf before ++ warningOf path :: warningsOf after ++ rest ∧
        (warningOf path).level = .warn ∧
        (warningOf path).message =
          "Ignoring unknown config key `" ++ String.intercalate "." path ++ "`" := by
  obtain ⟨reading, declares⟩ := Option.isSome_iff_exists.mp declares
  obtain ⟨reading', declares', sameValue⟩ := SiteDeclaration.overlooks gains reading declares
  obtain ⟨value, notices⟩ := run_ofSource isRead declares
  obtain ⟨value', notices'⟩ := run_ofSource isRead' declares'
  obtain ⟨before, after, after', all, all', samePaths⟩ := SectionKind.oneMore gains
  have isListed := listsMeaningless document'
  have sameWarnings : warningsOf after' = warningsOf after := by
    rw [warningsOf, samePaths, warningsOf]
  rw [sameValue] at value' notices'
  refine ⟨value'.trans value.symm, before, after', reading.value.checked.run.notices, ?_, ?_, ?_, ?_,
    level_warningOf path, message_warningOf path⟩
  · rwa [all'] at isListed
  · exact fun key given => says_checked reading.value _ given key rfl
  · rw [notices, all, sameWarnings, warningsOf_append]
  · rw [notices', all', warningsOf_append]
    rfl

end Sources

/-! ## A field in an entry of the footer -/

/-- A site with one entry in the footer, between two keys without meaning. -/
def withFooterLink (link : Value) : Value :=
  .ofMembers [("title", .ofText "Site"), ("url", .ofText "https://example.org"),
    ("baseUrl", .ofText "/"), ("plugins", .array []),
    ("themeConfig", .ofMembers [("footer", .ofMembers [("links", .array [
      .ofMembers [("title", .ofText "Docs"), ("items", .array [link])]])])]),
    ("presets", .null)]

open Json.Value (IsPlain) in
theorem isPlain_withFooterLink {link : Value} (plain : link.IsPlain) :
    (withFooterLink link).IsPlain := by
  have group : (Value.ofMembers [("title", .ofText "Docs"), ("items", .array [link])]).IsPlain := by
    refine .members ?_
    simp only [List.forall_mem_cons, List.not_mem_nil, false_imp_iff, implies_true, and_true]
    exact ⟨.text _, .array (List.forall_mem_singleton.mpr plain)⟩
  have themeConfig : (Value.ofMembers [("footer", .ofMembers [("links", .array [
      .ofMembers [("title", .ofText "Docs"), ("items", .array [link])]])])]).IsPlain :=
    .members (List.forall_mem_singleton.mpr
      (.members (List.forall_mem_singleton.mpr (.array (List.forall_mem_singleton.mpr group)))))
  refine .members ?_
  simp only [List.forall_mem_cons, List.not_mem_nil, false_imp_iff, implies_true, and_true]
  exact ⟨.text _, .text _, .text _, .array (by simp), themeConfig, .null⟩

theorem gains_withFooterLink {link link' : Value} {place : Place} {path : KeyPath}
    (gains : Gains .plain .link link link' place path) :
    Gains .plain .site (withFooterLink link) (withFooterLink link')
      (4 :: 0 :: 0 :: 0 :: 1 :: 0 :: place)
      ("themeConfig" :: "footer" :: "?" :: "links" :: "0" :: "items" :: "0" :: path) := by
  refine @Gains.named .site _ [(some "title", .ofText "Site"),
    (some "url", .ofText "https://example.org"), (some "baseUrl", .ofText "/"),
    (some "plugins", .array [])] [(some "presets", .null)] "themeConfig" _ _ _ _ rfl ?_
  refine @Gains.named .themeConfig _ [] [] "footer" _ _ _ _ rfl (.optional ?_)
  refine @Gains.named .footer _ [] [] "links" _ _ _ _ rfl ?_
  refine @Gains.item .footerGroup [] [] _ _ _ _ ?_
  refine @Gains.named .footerGroup _ [(some "title", .ofText "Docs")] [] "items" _ _ _ _ rfl ?_
  exact @Gains.item .link [] [] _ _ _ _ gains

/-- An icon in the entry is warned of between the two other keys, and nothing else changes. -/
theorem ofSource_gains_icon :
    let link := Value.ofMembers [("label", .ofText "Guide"), ("to", .ofText "/guide")]
    let link' := Value.ofMembers
      [("label", .ofText "Guide"), ("icon", .array [.null]), ("to", .ofText "/guide")]
    let source := Json.pretty (withFooterLink link)
    let extended := Json.pretty (withFooterLink link')
    let place : Place := [4, 0, 0, 0, 1, 0, 1]
    let path : KeyPath :=
      ["themeConfig", "footer", "?", "links", "0", "items", "0", "icon"]
    let warning : Notice := .unknownKey "themeConfig.footer.?.links.0.items.0.icon"
    Json.read? source = some (withFooterLink link) ∧
      Json.read? extended = some (withFooterLink link') ∧
      (SiteDeclaration.read? Json.dialect (withFooterLink link)).isSome ∧
      Gains .plain .site (withFooterLink link) (withFooterLink link') place path ∧
      (SiteConfig.ofSource .json extended).run.value =
        (SiteConfig.ofSource .json source).run.value ∧
      ∃ (before after : List (Place × KeyPath)) (rest : List Notice),
        ListsMeaningless (withFooterLink link') (before ++ (place, path) :: after) ∧
        (∀ key, .unknownKey key ∉ rest) ∧
        (SiteConfig.ofSource .json source).run.notices =
          warningsOf before ++ warningsOf after ++ rest ∧
        (SiteConfig.ofSource .json extended).run.notices =
          warningsOf before ++ warning :: warningsOf after ++ rest ∧
        warning.level = .warn ∧
        warning.message =
          "Ignoring unknown config key `themeConfig.footer.?.links.0.items.0.icon`" := by
  intro link link' source extended place path warning
  have isPlain : link.IsPlain := by
    refine .members ?_
    simp only [List.forall_mem_cons, List.not_mem_nil, false_imp_iff, implies_true, and_true]
    exact ⟨.text _, .text _⟩
  have isPlain' : link'.IsPlain := by
    refine .members ?_
    simp only [List.forall_mem_cons, List.not_mem_nil, false_imp_iff, implies_true, and_true]
    exact ⟨.text _, .array (List.forall_mem_singleton.mpr .null), .text _⟩
  have isRead : Json.read? source = some (withFooterLink link) :=
    Json.read?_pretty (isPlain_withFooterLink isPlain)
  have isRead' : Json.read? extended = some (withFooterLink link') :=
    Json.read?_pretty (isPlain_withFooterLink isPlain')
  have declares : (SiteDeclaration.read? Json.dialect (withFooterLink link)).isSome := by
    decide +kernel
  have gains : Gains .plain .site (withFooterLink link) (withFooterLink link') place path :=
    gains_withFooterLink (@Gains.here .link [(some "label", .ofText "Guide")]
      [(some "to", .ofText "/guide")] "icon" (.array [.null]) (by decide))
  have isWarning : warningOf path = warning := by decide
  obtain ⟨sameValue, before, after, rest, found, free, said, said', level, -⟩ :=
    ofSource_gains isRead isRead' declares gains
  rw [isWarning] at said' level
  exact ⟨isRead, isRead', declares, gains, sameValue, before, after, rest, found, free, said, said',
    level, rfl⟩

end Docsite
