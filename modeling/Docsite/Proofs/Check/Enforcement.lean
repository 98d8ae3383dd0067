/-
**What follows from a report.**

Each of the two lists of a report is dealt with under a policy of its own. A list that is not empty
under the fatal policy makes the check fail with the whole list; references come first, and what was
said of them is said even if the links make the check fail afterwards. Otherwise every finding is
counted once, under the policy of its list.

* `Enforcement.ofPolicy_eq_none`, `Enforcement.ofPolicy_eq_some`, `Enforcement.announced_ofPolicy`:
  what one list comes to.
* `LinkReport.enforce_outcome`: what a report comes to, in value and in notices.
-/

import Mathlib.Data.List.Forall2
import Docsite.Check.Report

namespace Docsite

/-! ## Rules -/

/-- A notice says of an item, at a level, that it is broken. -/
structure Notice.Announces (level : Level) (kind item : String) (notice : Notice) : Prop where
  level : notice.level = level
  wording : notice.message = kind ++ ": " ++ item

/-- What is said of items under a policy: one notice for each, in order, as a warning or as a
message, or nothing at all. -/
inductive LinkPolicy.Announced (kind : String) (items : List String) :
    LinkPolicy → List Notice → Prop
  | throw : Announced kind items .throw []
  | warn {notices : List Notice} : List.Forall₂ (Notice.Announces .warn kind) items notices →
      Announced kind items .warn notices
  | log {notices : List Notice} : List.Forall₂ (Notice.Announces .info kind) items notices →
      Announced kind items .log notices
  | ignore : Announced kind items .ignore []

/-- A policy does not let some items pass. -/
def LinkPolicy.Stops {α : Type} (policy : LinkPolicy) (items : List α) : Prop :=
  policy = .throw ∧ items ≠ []

/-- How many findings of a report stand under a policy. -/
def LinkReport.countUnder (report : LinkReport) (config : SiteConfig) (policy : LinkPolicy) : Nat :=
  (if config.onBrokenMarkdownLinks = policy then report.brokenReferences.length else 0) +
    (if config.onBrokenLinks = policy then report.brokenLinks.length else 0)

/-- **What a report comes to under the policies of a site.** -/
structure LinkReport.Outcome (report : LinkReport) (config : SiteConfig)
    (outcome : Logged (Except CheckError Enforcement)) : Prop where
  /-- The check fails with all references exactly if their policy stops them. -/
  references : ∀ carried, outcome.value = .error (.brokenReferences carried) ↔
    config.onBrokenMarkdownLinks.Stops report.brokenReferences ∧ carried = report.brokenReferences
  /-- It fails with all links exactly if the references pass and the policy of links stops them. -/
  links : ∀ carried, outcome.value = .error (.brokenLinks carried) ↔
    ¬ config.onBrokenMarkdownLinks.Stops report.brokenReferences ∧
      config.onBrokenLinks.Stops report.brokenLinks ∧ carried = report.brokenLinks
  /-- It passes exactly if neither is stopped, and counts what stands under each policy. -/
  passed : ∀ handled, outcome.value = .ok handled ↔
    ¬ config.onBrokenMarkdownLinks.Stops report.brokenReferences ∧
      ¬ config.onBrokenLinks.Stops report.brokenLinks ∧
        handled.warned = report.countUnder config .warn ∧
        handled.logged = report.countUnder config .log ∧
        handled.ignored = report.countUnder config .ignore
  /-- No finding is lost. -/
  conserved : ∀ handled, outcome.value = .ok handled →
    handled.warned + handled.logged + handled.ignored =
      report.brokenReferences.length + report.brokenLinks.length
  /-- References that are stopped are not spoken of, and neither are the links. -/
  silent : config.onBrokenMarkdownLinks.Stops report.brokenReferences → outcome.notices = []
  /-- References that pass are spoken of before the links. -/
  announced : ¬ config.onBrokenMarkdownLinks.Stops report.brokenReferences →
    ∃ ofReferences ofLinks, outcome.notices = ofReferences ++ ofLinks ∧
      config.onBrokenMarkdownLinks.Announced "Broken Markdown link"
        (report.brokenReferences.map BrokenReference.text) ofReferences ∧
      config.onBrokenLinks.Announced "Broken link" (report.brokenLinks.map BrokenLink.text) ofLinks
  /-- A report without findings passes and nothing is said. -/
  clean : report.isClean = true → outcome.value = .ok {} ∧ outcome.notices = []

/-! ## One list -/

theorem Notice.message_offenceWarned (kind item : String) :
    (Notice.offenceWarned kind item).message = kind ++ ": " ++ item :=
  rfl

theorem Notice.message_offenceLogged (kind item : String) :
    (Notice.offenceLogged kind item).message = kind ++ ": " ++ item :=
  rfl

theorem LinkPolicy.Announced.of_nil {kind : String} {policy : LinkPolicy} {notices : List Notice}
    (announced : policy.Announced kind [] notices) : notices = [] := by
  cases announced with
  | throw => rfl
  | warn each => exact List.forall₂_nil_left_iff.mp each
  | log each => exact List.forall₂_nil_left_iff.mp each
  | ignore => rfl

theorem LinkPolicy.stops_map {α β : Type} {policy : LinkPolicy} {items : List α} (f : α → β) :
    policy.Stops (items.map f) ↔ policy.Stops items := by
  rw [Stops, Stops, Ne, Ne, List.map_eq_nil_iff]

namespace Enforcement

/-- What a number of findings counts for under a policy. -/
def share (policy : LinkPolicy) (count : Nat) : Enforcement where
  warned := if policy = .warn then count else 0
  logged := if policy = .log then count else 0
  ignored := if policy = .ignore then count else 0

variable {policy : LinkPolicy} {kind : String} {items : List String}

/-- The check fails exactly if the policy stops the items. -/
theorem ofPolicy_eq_none : (ofPolicy policy kind items).value = none ↔ policy.Stops items := by
  cases policy with
  | throw =>
    cases items with
    | nil => exact ⟨fun failed => (Option.some_ne_none _ failed).elim, fun stops => absurd rfl stops.2⟩
    | cons item rest => exact ⟨fun _ => ⟨rfl, List.cons_ne_nil item rest⟩, fun _ => rfl⟩
  | warn | log | ignore =>
    exact ⟨fun failed => (Option.some_ne_none _ failed).elim, fun stops => nomatch stops.1⟩

/-- Otherwise every item is counted under the policy. -/
theorem ofPolicy_eq_some {handled : Enforcement} :
    (ofPolicy policy kind items).value = some handled ↔
      ¬ policy.Stops items ∧ handled = share policy items.length := by
  cases policy with
  | throw =>
    cases items with
    | nil =>
      constructor
      · intro passed
        exact ⟨fun stops => stops.2 rfl, (Option.some.inj passed).symm⟩
      · rintro ⟨-, rfl⟩
        rfl
    | cons item rest =>
      constructor
      · intro passed
        exact absurd passed.symm (Option.some_ne_none handled)
      · rintro ⟨passes, -⟩
        exact absurd ⟨rfl, List.cons_ne_nil item rest⟩ passes
  | warn | log | ignore =>
    constructor
    · intro passed
      exact ⟨fun stops => (nomatch stops.1), (Option.some.inj passed).symm⟩
    · rintro ⟨-, rfl⟩
      rfl

/-- **The notices of a list are one for each item, in order, where the policy speaks at all.** -/
theorem announced_ofPolicy : policy.Announced kind items (ofPolicy policy kind items).notices := by
  cases policy with
  | throw => exact .throw
  | warn =>
    apply LinkPolicy.Announced.warn
    rw [ofPolicy, List.forall₂_map_right_iff]
    exact List.forall₂_same.mpr fun item _ => ⟨rfl, Notice.message_offenceWarned kind item⟩
  | log =>
    apply LinkPolicy.Announced.log
    rw [ofPolicy, List.forall₂_map_right_iff]
    exact List.forall₂_same.mpr fun item _ => ⟨rfl, Notice.message_offenceLogged kind item⟩
  | ignore => exact .ignore

end Enforcement

/-! ## A whole report -/

namespace LinkReport

variable {report : LinkReport} {config : SiteConfig}

/-- What becomes of the references. -/
def ofReferences (report : LinkReport) (config : SiteConfig) : Logged (Option Enforcement) :=
  Enforcement.ofPolicy config.onBrokenMarkdownLinks "Broken Markdown link"
    (report.brokenReferences.map BrokenReference.text)

/-- What becomes of the links. -/
def ofLinks (report : LinkReport) (config : SiteConfig) : Logged (Option Enforcement) :=
  Enforcement.ofPolicy config.onBrokenLinks "Broken link" (report.brokenLinks.map BrokenLink.text)

/-- The links are dealt with only if the references let them. -/
theorem enforce_eq : report.enforce config =
    (report.ofReferences config >>= fun
      | none => pure (.error (.brokenReferences report.brokenReferences))
      | some first => report.ofLinks config >>= fun
        | none => pure (.error (.brokenLinks report.brokenLinks))
        | some second => pure (.ok (first.add second))) :=
  rfl

/-- References that are stopped end the enforcement, and nothing is said. -/
theorem enforce_of_references (stops : config.onBrokenMarkdownLinks.Stops report.brokenReferences) :
    (report.enforce config).value = .error (.brokenReferences report.brokenReferences) ∧
      (report.enforce config).notices = [] := by
  have failed : (report.ofReferences config).value = none :=
    Enforcement.ofPolicy_eq_none.mpr ((LinkPolicy.stops_map _).mpr stops)
  have silent : (report.ofReferences config).notices = [] := by
    rw [ofReferences, stops.1]
    rfl
  rw [enforce_eq, Logged.value_bind, Logged.notices_bind, failed, silent]
  exact ⟨rfl, rfl⟩

/-- References that pass leave the outcome to the links, whose notices come second. -/
theorem enforce_of_passed (passes : ¬ config.onBrokenMarkdownLinks.Stops report.brokenReferences) :
    (report.enforce config).value =
        (match (report.ofLinks config).value with
        | none => .error (.brokenLinks report.brokenLinks)
        | some second =>
          .ok ((Enforcement.share config.onBrokenMarkdownLinks
            report.brokenReferences.length).add second)) ∧
      (report.enforce config).notices =
        (report.ofReferences config).notices ++ (report.ofLinks config).notices := by
  have passed : (report.ofReferences config).value =
      some (Enforcement.share config.onBrokenMarkdownLinks report.brokenReferences.length) := by
    rw [ofReferences, Enforcement.ofPolicy_eq_some, LinkPolicy.stops_map, List.length_map]
    exact ⟨passes, rfl⟩
  rw [enforce_eq, Logged.value_bind, Logged.notices_bind, passed]
  dsimp only
  rw [Logged.value_bind, Logged.notices_bind]
  cases (report.ofLinks config).value with
  | none => exact ⟨rfl, by rw [Logged.notices_pure, List.append_nil]⟩
  | some second => exact ⟨rfl, by rw [Logged.notices_pure, List.append_nil]⟩

/-- Links that are stopped make the check fail with all of them. -/
theorem enforce_of_links (passes : ¬ config.onBrokenMarkdownLinks.Stops report.brokenReferences)
    (stops : config.onBrokenLinks.Stops report.brokenLinks) :
    (report.enforce config).value = .error (.brokenLinks report.brokenLinks) := by
  have failed : (report.ofLinks config).value = none :=
    Enforcement.ofPolicy_eq_none.mpr ((LinkPolicy.stops_map _).mpr stops)
  rw [(enforce_of_passed passes).1, failed]

/-- Where nothing is stopped, the findings are counted under the policies of their lists. -/
theorem enforce_of_both_passed
    (passes : ¬ config.onBrokenMarkdownLinks.Stops report.brokenReferences)
    (linksPass : ¬ config.onBrokenLinks.Stops report.brokenLinks) :
    (report.enforce config).value = .ok {
      warned := report.countUnder config .warn
      logged := report.countUnder config .log
      ignored := report.countUnder config .ignore } := by
  have passed : (report.ofLinks config).value =
      some (Enforcement.share config.onBrokenLinks report.brokenLinks.length) := by
    rw [ofLinks, Enforcement.ofPolicy_eq_some, LinkPolicy.stops_map, List.length_map]
    exact ⟨linksPass, rfl⟩
  rw [(enforce_of_passed passes).1, passed]
  rfl

/-- A policy that does not stop a list counts all of it. -/
theorem share_total {α : Type} {policy : LinkPolicy} {items : List α} (passes : ¬ policy.Stops items) :
    (if policy = .warn then items.length else 0) + (if policy = .log then items.length else 0) +
      (if policy = .ignore then items.length else 0) = items.length := by
  cases policy with
  | throw =>
    have empty : items = [] := by
      by_contra found
      exact passes ⟨rfl, found⟩
    rw [empty]
    rfl
  | warn | log | ignore => simp

/-- Where nothing is stopped, the counts add up to the number of findings. -/
theorem countUnder_total (passes : ¬ config.onBrokenMarkdownLinks.Stops report.brokenReferences)
    (linksPass : ¬ config.onBrokenLinks.Stops report.brokenLinks) :
    report.countUnder config .warn + report.countUnder config .log +
        report.countUnder config .ignore =
      report.brokenReferences.length + report.brokenLinks.length := by
  have references := share_total passes
  have links := share_total linksPass
  unfold countUnder
  omega

/-- A report without findings has nothing that a policy could stop. -/
theorem isClean_iff : report.isClean = true ↔ report.brokenLinks = [] ∧ report.brokenReferences = [] := by
  rw [isClean, Bool.and_eq_true_iff, List.isEmpty_iff, List.isEmpty_iff]

/-- What is said of references that pass, and then of the links. -/
theorem enforce_announced
    (passes : ¬ config.onBrokenMarkdownLinks.Stops report.brokenReferences) :
    ∃ ofReferences ofLinks, (report.enforce config).notices = ofReferences ++ ofLinks ∧
      config.onBrokenMarkdownLinks.Announced "Broken Markdown link"
        (report.brokenReferences.map BrokenReference.text) ofReferences ∧
      config.onBrokenLinks.Announced "Broken link"
        (report.brokenLinks.map BrokenLink.text) ofLinks :=
  ⟨(report.ofReferences config).notices, (report.ofLinks config).notices,
    (enforce_of_passed passes).2, Enforcement.announced_ofPolicy, Enforcement.announced_ofPolicy⟩

/-- A report without findings passes in silence. -/
theorem enforce_of_clean (clean : report.isClean = true) :
    (report.enforce config).value = .ok {} ∧ (report.enforce config).notices = [] := by
  obtain ⟨noLinks, noReferences⟩ := isClean_iff.mp clean
  have passes : ¬ config.onBrokenMarkdownLinks.Stops report.brokenReferences :=
    fun stops => stops.2 noReferences
  have linksPass : ¬ config.onBrokenLinks.Stops report.brokenLinks := fun stops => stops.2 noLinks
  constructor
  · have none (policy : LinkPolicy) : report.countUnder config policy = 0 := by
      simp [countUnder, noLinks, noReferences]
    rw [enforce_of_both_passed passes linksPass, none, none, none]
  · obtain ⟨ofReferences, ofLinks, notices, first, second⟩ := enforce_announced passes
    rw [noReferences] at first
    rw [noLinks] at second
    rw [notices, first.of_nil, second.of_nil, List.append_nil]

/-- **Enforcement conserves findings.** Every report has, under every pair of policies, the outcome
that the policies give it. -/
theorem enforce_outcome (report : LinkReport) (config : SiteConfig) :
    report.Outcome config (report.enforce config) := by
  by_cases stops : config.onBrokenMarkdownLinks.Stops report.brokenReferences
  · obtain ⟨value, notices⟩ := enforce_of_references stops
    exact {
      references := fun carried => by simp [value, stops, eq_comm]
      links := fun carried => by simp [value, stops]
      passed := fun handled => by simp [value, stops]
      conserved := fun handled passed => by simp [value] at passed
      silent := fun _ => notices
      announced := fun passes => absurd stops passes
      clean := enforce_of_clean }
  by_cases linksStop : config.onBrokenLinks.Stops report.brokenLinks
  · have value := enforce_of_links stops linksStop
    exact {
      references := fun carried => by simp [value, stops]
      links := fun carried => by simp [value, stops, linksStop, eq_comm]
      passed := fun handled => by simp [value, linksStop]
      conserved := fun handled passed => by simp [value] at passed
      silent := fun stopped => absurd stopped stops
      announced := enforce_announced
      clean := enforce_of_clean }
  · have value := enforce_of_both_passed stops linksStop
    exact {
      references := fun carried => by simp [value, stops]
      links := fun carried => by simp [value, linksStop]
      passed := fun handled => by
        cases handled
        simp [value, stops, linksStop, eq_comm]
      conserved := fun handled passed => by
        obtain rfl := Except.ok.inj (value.symm.trans passed)
        exact countUnder_total stops linksStop
      silent := fun stopped => absurd stopped stops
      announced := enforce_announced
      clean := enforce_of_clean }

end LinkReport

end Docsite
