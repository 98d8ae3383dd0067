/-
**At which paths the files of a site are found.**

Every file that is discovered has a resolved path, so it is found at that path. Directories of a site
may overlap; several files then share a path, and the last one of them is found there.

* `DiscoveredOn.collapse_sitePath`: the paths of the files are resolved.
* `ContentTree.source?_discovered`: what is found at a path.
-/

import Docsite.Proofs.Content.Discovery
import Docsite.Proofs.Content.Lookup
import Docsite.Proofs.Path.Collapse

namespace Docsite

/-- What is read of a file has the path that the file has below the site directory. -/
theorem Candidate.loadOn_sitePath {disk : Disk} {config : SiteConfig} {file : Candidate}
    {loaded : ContentFile} (read : file.loadOn disk config = .ok loaded) :
    loaded.sitePath = file.sitePath := by
  unfold Candidate.loadOn at read
  split at read
  · split at read
    · unfold Candidate.ofSource at read
      split at read
      · cases read
      · obtain rfl := Except.ok.inj read
        rfl
    · cases read
  · obtain rfl := Except.ok.inj read
    rfl

namespace ContentTree

variable {disk : Disk} {siteDir : Path} {config : SiteConfig} {tree : ContentTree}
  {file : ContentFile}

/-- **The paths of the files that are discovered are resolved.** -/
theorem DiscoveredOn.collapse_sitePath (discovered : DiscoveredOn disk siteDir config tree)
    (member : file ∈ tree.files) : file.sitePath.collapse = file.sitePath := by
  obtain ⟨candidate, isCandidate, read⟩ :=
    exists_of_mem_forall₂ (discoveredOn_iff.mp discovered) member
  obtain ⟨root, -, names, -, rfl⟩ := Disk.mem_candidates.mp isCandidate
  rw [Candidate.loadOn_sitePath read]
  exact Path.collapse_collapse _

/-- The index of a site keeps positions of files only, each for the path of its file. -/
theorem exists_of_index {path : Path} {position : Nat}
    (kept : tree.index.get? path = some position) :
    ∃ file, tree.files[position]? = some file ∧ file.sitePath = path :=
  SourceIndex.exists_of_get? (tree.index_eq ▸ kept)

/-- **Looking up a path is exact.** Something is found at a path exactly if some file has it, however
the path is spelled, and what is found is the last such file. Every file's own path leads to a file
with that path, and the index of the site points to no position outside its files. -/
theorem source?_discovered (discovered : DiscoveredOn disk siteDir config tree) :
    (∀ path, (∃ file, tree.source? path = some file) ↔ tree.Holds path) ∧
      (∀ path file, tree.source? path = some file ↔ tree.FileAt path file) ∧
      (∀ file ∈ tree.files, ∃ found, tree.source? file.sitePath = some found ∧
        found.sitePath = file.sitePath) ∧
      (∀ path other : Path, path.collapse = other.collapse →
        tree.source? path = tree.source? other) ∧
      ∀ path position, tree.index.get? path = some position →
        ∃ file, tree.files[position]? = some file ∧ file.sitePath = path := by
  have finds : ∀ path, (∃ file, tree.source? path = some file) ↔ tree.Holds path := by
    intro path
    rw [← Option.ne_none_iff_exists', ne_eq, source?_eq_none, not_not]
  refine ⟨finds, fun path file => source?_eq_some, ?_, ?_, fun path position => exists_of_index⟩
  · intro file member
    have resolved := discovered.collapse_sitePath member
    obtain ⟨found, isFound⟩ := (finds file.sitePath).mpr ⟨file, member, resolved.symm⟩
    obtain ⟨-, -, -, samePath, -⟩ := source?_eq_some.mp isFound
    exact ⟨found, isFound, samePath.trans resolved⟩
  · intro path other same
    rw [source?, source?, same]

/-- The configuration of a site whose documentation is copied as it is, too. -/
def copyingConfig : SiteConfig :=
  { SiteConfig.bare with staticDirectories := ["docs", "static"] }

/-- Where the documentation is copied as it is, too, every page of it shares its path with a static
file, and this later file is found there, however the path is spelled. -/
theorem source?_discovered_copying :
    ∃ tree, DiscoveredOn guideDisk ⟨"."⟩ copyingConfig tree ∧
      tree.files.map (fun file => (file.kind, file.sitePath.text)) = [
        (.doc, "docs/guide/a.md"), (.doc, "docs/guide/b.mdx"), (.doc, "docs/guide.md"),
        (.static, "docs/_draft.md"), (.static, "docs/guide/a.md"), (.static, "docs/guide/b.mdx"),
        (.static, "docs/guide.md"), (.static, "static/a.png"), (.static, "static/m.md")] ∧
      (∃ file, tree.source? ⟨"/docs/./guide//../guide.md"⟩ = some file ∧ file.kind = .static ∧
        tree.FileAt ⟨"/docs/./guide//../guide.md"⟩ file) ∧
      ∀ file ∈ tree.files, ∃ found, tree.source? file.sitePath = some found ∧
        found.sitePath = file.sitePath := by
  obtain ⟨tree, discovered, seen⟩ : ∃ tree, DiscoveredOn guideDisk ⟨"."⟩ copyingConfig tree ∧
      (tree.files.map (fun file => (file.kind, file.sitePath.text)),
        (tree.source? ⟨"/docs/./guide//../guide.md"⟩).map ContentFile.kind) = ([
        (.doc, "docs/guide/a.md"), (.doc, "docs/guide/b.mdx"), (.doc, "docs/guide.md"),
        (.static, "docs/_draft.md"), (.static, "docs/guide/a.md"), (.static, "docs/guide/b.mdx"),
        (.static, "docs/guide.md"), (.static, "static/a.png"), (.static, "static/m.md")],
        some .static) :=
    exists_of_view (by decide +kernel)
  obtain ⟨listed, found⟩ := Prod.mk.inj seen
  obtain ⟨file, isFound, isStatic⟩ := Option.map_eq_some_iff.mp found
  obtain ⟨-, exact, own, -, -⟩ := source?_discovered discovered
  exact ⟨tree, discovered, listed, ⟨file, isFound, isStatic, (exact _ file).mp isFound⟩, own⟩

end ContentTree

end Docsite
