/-
**The routes at which files are served.**

Every published file has a route in normal form. A route that starts with a single slash is its own
normal form, so the table of the site lists it as it is.

* `Route.IsServed`: what the route of a file looks like.
* `DiscoveredOn.isServed`: the routes of the files that are discovered.
* `ContentTree.routes_discovered`: what the table of a site lists.
-/

import Docsite.Proofs.Content.Discovery
import Docsite.Proofs.Route.Membership
import Docsite.Proofs.Route.Normal

namespace Docsite

open Url (IsRooted)

/-! ## Routes of files -/

/-- A route at which a file may be served: the normal form of a path from the root. -/
def Route.IsServed (route : String) : Prop :=
  ∃ path, path.toList.head? = some '/' ∧ Route.normalize path = route

theorem Route.isServed_below {baseUrl first path : String}
    (rooted : baseUrl.toList.head? = some '/') : IsServed (below baseUrl first path) := by
  have front : (if first.isEmpty then baseUrl
      else baseUrl ++ Text.trimOf '/' first ++ "/").toList.head? = some '/' := by
    split
    · exact rooted
    · rw [String.append_assoc, String.toList_append, List.head?_append, rooted]
      rfl
  refine ⟨_, ?_, rfl⟩
  rw [String.toList_append, List.head?_append, front]
  rfl

/-- The form of a route: it is empty or starts with a slash, it ends in a slash only if it is the root,
and if it starts with a single slash, it is its own normal form. -/
structure Route.IsInForm (route : String) : Prop where
  start : route = "" ∨ route.toList.head? = some '/'
  finish : route.toList.getLast? = some '/' → route = "/"
  again : IsRooted route → Route.normalize route = route

theorem Route.IsServed.isInForm {route : String} (served : IsServed route) : IsInForm route := by
  obtain ⟨path, slash, rfl⟩ := served
  exact ⟨head?_normalize slash, getLast?_normalize slash, normalize_again slash⟩

/-- Every file of a site gets such a route. -/
theorem Candidate.isServed_route {file : Candidate} {config : SiteConfig}
    (rooted : config.baseUrl.toList.head? = some '/') (frontmatter : Option Frontmatter) :
    Route.IsServed (file.route config frontmatter) := by
  unfold Candidate.route
  split
  · exact Route.isServed_below rooted
  · exact Route.isServed_below rooted
  · exact Route.isServed_below rooted

/-- What is read of a file has the route that the file gets. -/
theorem Candidate.loadOn_route {disk : Disk} {config : SiteConfig} {file : Candidate}
    {loaded : ContentFile} {route : String} (read : file.loadOn disk config = .ok loaded)
    (published : loaded.route = some route) :
    ∃ frontmatter, route = file.route config frontmatter := by
  unfold Candidate.loadOn at read
  split at read
  · split at read
    · unfold Candidate.ofSource at read
      split at read
      · cases read
      · next frontmatter body _ =>
        obtain rfl := Except.ok.inj read
        dsimp only at published
        split at published
        · cases published
        · exact ⟨frontmatter, (Option.some.inj published).symm⟩
    · cases read
  · obtain rfl := Except.ok.inj read
    exact ⟨none, (Option.some.inj published).symm⟩

namespace ContentTree

section Discovered

variable {disk : Disk} {siteDir : Path} {config : SiteConfig} {tree : ContentTree}
  {file : ContentFile} {route : String}

/-- **Whatever is discovered has the normal form of a path from the root as its route.** -/
theorem DiscoveredOn.isServed (rooted : config.baseUrl.toList.head? = some '/')
    (discovered : DiscoveredOn disk siteDir config tree) (member : file ∈ tree.files)
    (published : file.route = some route) : Route.IsServed route := by
  obtain ⟨candidate, -, read⟩ := exists_of_mem_forall₂ (discoveredOn_iff.mp discovered) member
  obtain ⟨frontmatter, rfl⟩ := candidate.loadOn_route read published
  exact Candidate.isServed_route rooted frontmatter

/-- The table of a site lists the normal forms of the routes of its files. -/
theorem mem_routes {listed : String} : listed ∈ tree.routes.routes ↔
    ∃ file ∈ tree.files, ∃ route, file.route = some route ∧ Route.normalize route = listed := by
  rw [tree.routes_eq, Route.Table.mem_ofList]
  constructor
  · rintro ⟨route, member, same⟩
    obtain ⟨file, fileMember, published⟩ := List.mem_filterMap.mp member
    exact ⟨file, fileMember, route, published, same⟩
  · rintro ⟨file, fileMember, route, published, same⟩
    exact ⟨route, List.mem_filterMap.mpr ⟨file, fileMember, published⟩, same⟩

/-- **The table of a site lists what its files are served at**, if the base URL starts with a slash, as
that of every accepted configuration does. Every route of a file has the form of a route. The table
lists, each once and in order, the normal forms of these routes; these are the routes themselves if all
of them start with a single slash. -/
theorem routes_discovered (rooted : config.baseUrl.toList.head? = some '/')
    (discovered : DiscoveredOn disk siteDir config tree) :
    (∀ file ∈ tree.files, ∀ route, file.route = some route → Route.IsInForm route) ∧
      tree.routes.routes.Pairwise (· < ·) ∧
      (∀ listed, listed ∈ tree.routes.routes ↔
        ∃ file ∈ tree.files, ∃ route, file.route = some route ∧ Route.normalize route = listed) ∧
      ((∀ file ∈ tree.files, ∀ route, file.route = some route → IsRooted route) →
        ∀ listed, listed ∈ tree.routes.routes ↔ ∃ file ∈ tree.files, file.route = some listed) := by
  have inForm : ∀ file ∈ tree.files, ∀ route, file.route = some route → Route.IsInForm route :=
    fun file member route published => (discovered.isServed rooted member published).isInForm
  refine ⟨inForm, ?_, fun listed => mem_routes, ?_⟩
  · rw [tree.routes_eq]
    exact Route.Table.pairwise_ofList _
  · intro allRooted listed
    rw [mem_routes]
    constructor
    · rintro ⟨file, member, route, published, rfl⟩
      rw [(inForm file member route published).again (allRooted file member route published)]
      exact ⟨file, member, published⟩
    · rintro ⟨file, member, published⟩
      exact ⟨file, member, listed, published,
        (inForm file member listed published).again (allRooted file member listed published)⟩

end Discovered

/-- The five files of a site and the five routes that its table lists. -/
theorem routes_discovered_guide :
    ∃ tree, DiscoveredOn guideDisk ⟨"."⟩ .bare tree ∧
      tree.files.map ContentFile.route = [some "/docs/guide/a", some "/docs/guide/b",
        some "/docs/guide", some "/a.png", some "/m.md"] ∧
      tree.routes.routes.Pairwise (· < ·) ∧
      ∀ listed, listed ∈ tree.routes.routes ↔ ∃ file ∈ tree.files, file.route = some listed := by
  obtain ⟨tree, discovered, routes⟩ : ∃ tree, DiscoveredOn guideDisk ⟨"."⟩ .bare tree ∧
      tree.files.map ContentFile.route = [some "/docs/guide/a", some "/docs/guide/b",
        some "/docs/guide", some "/a.png", some "/m.md"] :=
    exists_of_view (by decide +kernel)
  obtain ⟨-, ascending, -, listed⟩ := routes_discovered (by decide) discovered
  refine ⟨tree, discovered, routes, ascending, listed fun file member route published => ?_⟩
  have among : some route ∈ tree.files.map ContentFile.route :=
    List.mem_map.mpr ⟨file, member, published⟩
  rw [routes] at among
  have allRooted : ∀ served ∈ [some "/docs/guide/a", some "/docs/guide/b", some "/docs/guide",
      some "/a.png", some "/m.md"], ∀ route ∈ served, IsRooted route := by
    decide +kernel
  exact allRooted _ among route rfl

/-- A site with a page whose slug has an empty segment. -/
def emptySegmentDisk : Disk := { top := .directory [("src", .directory [("pages", .directory [
  ("x.md", .file (.text "---\nslug: .//x\n---\n"))])])] }

/-- A page may be served at a route that starts with two slashes. Behind these the table reads a host,
so it lists the root instead, where nothing is served. -/
theorem routes_discovered_emptySegment :
    ∃ tree, DiscoveredOn emptySegmentDisk ⟨"."⟩ .bare tree ∧
      tree.files.map ContentFile.route = [some "//x"] ∧ Route.normalize "//x" ≠ "//x" ∧
      tree.routes.routes = ["/"] := by
  obtain ⟨tree, discovered, shown⟩ : ∃ tree, DiscoveredOn emptySegmentDisk ⟨"."⟩ .bare tree ∧
      (tree.files.map ContentFile.route, tree.routes.routes) = ([some "//x"], ["/"]) :=
    exists_of_view (by decide +kernel)
  obtain ⟨routes, listed⟩ := Prod.mk.inj shown
  exact ⟨tree, discovered, routes, by decide +kernel, listed⟩

end ContentTree

end Docsite
