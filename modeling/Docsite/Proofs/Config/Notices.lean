/-
**What a check has to say.**

While a declaration is checked, notices are given of two things only: of an address with a path and of
targets that are passed on although they are no absolute URLs.

* `Check.Says`: the notices that a check may give.
* `says_validate`: the notices of the check of a whole site.
-/

import Docsite.Config.Validate

namespace Docsite

namespace Check

variable {α β : Type} {allowed : Notice → Prop}

/-- Every notice of a check is an allowed one. -/
def Says (allowed : Notice → Prop) (check : Check α) : Prop :=
  ∀ notice ∈ check.run.notices, allowed notice

theorem says_pure (a : α) : (pure a : Check α).Says allowed :=
  fun _ member => absurd member List.not_mem_nil

theorem says_throw (error : ConfigError) : (throw error : Check α).Says allowed :=
  fun _ member => absurd member List.not_mem_nil

theorem says_invalid (field : String) (fault : ValueFault) :
    (invalid field fault : Check α).Says allowed :=
  says_throw _

/-- The notices of one check come before those of the next one. -/
theorem Says.bind {first : Check α} {next : α → Check β} (spoken : first.Says allowed)
    (spokenNext : ∀ a, (next a).Says allowed) : (first >>= next).Says allowed := by
  unfold Says at *
  rw [ExceptT.run_bind, Logged.notices_bind]
  intro notice member
  rcases List.mem_append.mp member with isFirst | isNext
  · exact spoken notice isFirst
  · cases given : first.run.value with
    | ok a =>
      rw [given] at isNext
      exact spokenNext a notice isNext
    | error error =>
      rw [given] at isNext
      exact absurd isNext List.not_mem_nil

theorem Says.map {check : Check α} (spoken : check.Says allowed) (f : α → β) :
    (f <$> check).Says allowed := by
  rw [map_eq_pure_bind]
  exact spoken.bind fun a => says_pure _

theorem notices_lift (logged : Logged α) :
    (ExceptT.lift logged : Check α).run.notices = logged.notices :=
  List.append_nil logged.notices

theorem says_giveIf {condition : Bool} {notice : Notice} (isAllowed : allowed notice) :
    (giveIf condition notice).Says allowed := by
  unfold Says giveIf
  rw [notices_lift, Logged.giveIf]
  intro other member
  dsimp only at member
  split at member
  · rwa [List.mem_singleton.mp member]
  · exact absurd member List.not_mem_nil

theorem says_validateItems {list : String} {validateItem : String → α → Check β}
    (spoken : ∀ field item, (validateItem field item).Says allowed) (items : List α) :
    (validateItems list validateItem items).Says allowed := by
  unfold validateItems
  induction items.zipIdx with
  | nil => exact says_pure _
  | cons item items ih =>
    rw [List.mapM_cons]
    exact (spoken _ _).bind fun _ => ih.bind fun _ => says_pure _

end Check

/-! ## Sections -/

section Sections

variable {allowed : Notice → Prop}

theorem says_required (field : String) (value : Option String) :
    (required field value).Says allowed := by
  unfold required
  split
  · exact Check.says_pure _
  · exact Check.says_throw _

theorem says_validateBaseUrl (raw : String) : (validateBaseUrl raw).Says allowed := by
  unfold validateBaseUrl
  dsimp only
  split
  · exact Check.says_invalid _ _
  · split
    · exact Check.says_pure _
    · exact Check.says_pure _

theorem says_validatePolicy (field : String) (missing : LinkPolicy) (value : Option String) :
    (validatePolicy field missing value).Says allowed := by
  unfold validatePolicy
  split
  · exact Check.says_pure _
  · split
    · exact Check.says_pure _
    · exact Check.says_throw _

theorem says_validatePosition (field : String) (value : Option String) :
    (validatePosition field value).Says allowed := by
  unfold validatePosition
  split
  · exact Check.says_pure _
  · split
    · exact Check.says_pure _
    · split
      · exact Check.says_pure _
      · exact Check.says_invalid _ _

theorem says_validateStyle (value : Option String) : (validateStyle value).Says allowed := by
  unfold validateStyle
  split
  · exact Check.says_pure _
  · split
    · exact Check.says_pure _
    · split
      · exact Check.says_pure _
      · exact Check.says_invalid _ _

theorem says_validateHeadTag (field : String) (tag : HeadTagDeclaration) :
    (validateHeadTag field tag).Says allowed := by
  refine (says_required _ _).bind fun tagName => ?_
  split
  · exact Check.says_invalid _ _
  · exact Check.says_pure _

theorem says_validateLogo? (field : String) (logo : Option LogoDeclaration) :
    (validateLogo? field logo).Says allowed := by
  cases logo with
  | none => exact Check.says_pure _
  | some logo => exact ((says_required _ _).bind fun _ => Check.says_pure _).map _

variable (spokenHref : ∀ field target, allowed (.hrefNotChecked field target))

include spokenHref

theorem says_validateLink (field : String) (link : LinkDeclaration) :
    (validateLink field link).Says allowed := by
  refine (says_required _ _).bind fun label => ?_
  split
  · exact Check.says_pure _
  · exact (Check.says_giveIf (spokenHref _ _)).bind fun _ => Check.says_pure _
  · exact Check.says_invalid _ _
  · exact Check.says_throw _

theorem says_validateNavbar (navbar : NavbarDeclaration) :
    (validateNavbar navbar).Says allowed := by
  refine (says_validateLogo? _ _).bind fun logo => ?_
  refine (Check.says_validateItems (fun field item => ?_) _).bind fun items => Check.says_pure _
  refine (says_validatePosition _ _).bind fun position => ?_
  exact (says_validateLink spokenHref _ _).bind fun _ => Check.says_pure _

theorem says_validateFooter? (footer : Option FooterDeclaration) :
    (validateFooter? footer).Says allowed := by
  cases footer with
  | none => exact Check.says_pure _
  | some footer =>
    refine Check.Says.map ?_ _
    refine (says_validateStyle _).bind fun style => ?_
    refine (Check.says_validateItems (fun field group => ?_) _).bind fun links => ?_
    · refine (says_required _ _).bind fun title => ?_
      refine (Check.says_validateItems (fun field item => ?_) _).bind fun items => Check.says_pure _
      exact (says_validateLink spokenHref _ _).bind fun _ => Check.says_pure _
    · exact (says_validateLogo? _ _).bind fun logo => Check.says_pure _

end Sections

/-! ## Whole sites -/

/-- A notice that may be given while a declaration is checked. -/
inductive Notice.OfCheck : Notice → Prop
  | urlHasPath (url : String) : OfCheck (.urlHasPath url)
  | hrefNotChecked (field target : String) : OfCheck (.hrefNotChecked field target)

theorem says_validateUrl (raw : String) : (validateUrl raw).Says Notice.OfCheck := by
  unfold validateUrl
  dsimp only
  split
  · exact Check.says_invalid _ _
  · split
    · exact Check.says_invalid _ _
    · split
      · exact Check.says_invalid _ _
      · exact (Check.says_giveIf (.urlHasPath _)).bind fun _ => Check.says_pure _

/-- **The check of a site only gives notice of an address with a path and of targets that are passed
on.** -/
theorem says_validate (declared : SiteDeclaration) : (validate declared).Says Notice.OfCheck := by
  refine (says_required _ _).bind fun title => ?_
  refine (says_required _ _).bind fun url => ?_
  refine (says_required _ _).bind fun baseUrl => ?_
  refine (says_validateUrl _).bind fun url => ?_
  refine (says_validateBaseUrl _).bind fun baseUrl => ?_
  refine (says_validatePolicy _ _ _).bind fun onBrokenLinks => ?_
  refine (says_validatePolicy _ _ _).bind fun onBrokenMarkdownLinks => ?_
  refine (Check.says_validateItems says_validateHeadTag _).bind fun headTags => ?_
  refine (says_validateNavbar .hrefNotChecked _).bind fun navbar => ?_
  exact (says_validateFooter? .hrefNotChecked _).bind fun footer => Check.says_pure _

end Docsite
