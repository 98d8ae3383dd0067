/-
**The content that is discovered on a disk.**

Discovery walks the directories of a site in their order, and reads the Markdown pages among the files
that it accepts. It succeeds exactly if these pages can be read, and it then lists every accepted file
of every directory once, in the byte order of the names that lead there.

* `ContentTree.run_discover`, `ContentTree.discoveredOn_iff`: discovery reads a disk, file by file.
* `ContentTree.exists_discover_eq_error`: which errors a discovery that fails may report.
* `ContentRoot.lists_acceptedNames`: what is listed of one directory.
* `ContentTree.discover_complete`: what is discovered on a disk, and when.
-/

import Docsite.Content.Tree
import Docsite.Proofs.Config.Navigation
import Docsite.Proofs.Content.Kind
import Docsite.Proofs.Frontmatter.Framing
import Docsite.Proofs.List.Correspondence
import Docsite.Proofs.Storage.Disk
import Docsite.Proofs.Text.ByteOrder

namespace Docsite

/-! ## Reading without changes -/

/-- What is read of a state that no step changes. -/
theorem run_mapM_readOnly {σ α β : Type} {state : σ} {f : α → StateM σ β} {g : α → β}
    (readOnly : ∀ a, (f a).run state = (g a, state)) (items : List α) :
    (items.mapM f).run state = (items.map g, state) := by
  induction items with
  | nil => rfl
  | cons first rest ih =>
    rw [List.mapM_cons, StateT.run_bind, readOnly first]
    show (rest.mapM f >>= fun others => pure (g first :: others)).run state = _
    rw [StateT.run_bind, ih]
    rfl

/-- A candidate, with what reading it on a disk gives. -/
def Candidate.loadOn (disk : Disk) (config : SiteConfig) (file : Candidate) :
    Except ContentError ContentFile :=
  if file.isMarkdown then
    match disk.readText file.sourcePath with
    | .ok source => file.ofSource config source
    | .error cause => .error (.unreadable file.sourcePath cause)
  else .ok (file.unread config)

theorem Candidate.run_load (disk : Disk) (config : SiteConfig) (file : Candidate) :
    (file.load config : StateM Disk _).run disk = (file.loadOn disk config, disk) := by
  unfold load loadOn
  cases file.isMarkdown with
  | false => rfl
  | true =>
    show (match disk.readText file.sourcePath with
      | .ok source => (pure (file.ofSource config source) : StateM Disk _)
      | .error cause => pure (.error (.unreadable file.sourcePath cause))).run disk = _
    cases disk.readText file.sourcePath with
    | ok source => rfl
    | error cause => rfl

/-- The candidates on a disk, with a notice for every directory that is not there. -/
def Disk.candidates (disk : Disk) (siteDir : Path) (config : SiteConfig) : Logged (List Candidate) :=
  Candidate.collect siteDir
    ((ContentRoot.all config).map fun root => (root, disk.listing? (root.path siteDir)))

namespace ContentTree

/-- **Discovery reads a disk and does not change it.** -/
theorem run_discover (disk : Disk) (siteDir : Path) (config : SiteConfig) (race : Race) :
    (discover siteDir config race : StateM Disk _).run disk =
      (do
        let found ← disk.candidates siteDir config
        ofLoaded (found.map (Candidate.loadOn disk config)) race, disk) := by
  have read (root : ContentRoot) :
      (do return (root, ← Storage.listing? (root.path siteDir)) : StateM Disk _).run disk =
        ((root, disk.listing? (root.path siteDir)), disk) := rfl
  have listed := run_mapM_readOnly read (ContentRoot.all config)
  unfold discover
  rw [StateT.run_bind, listed]
  show StateT.run ((disk.candidates siteDir config).value.mapM
    (Candidate.load (m := StateM Disk) · config) >>= _) disk = _
  rw [StateT.run_bind, run_mapM_readOnly (Candidate.run_load disk config)]
  rfl

/-- The content that is discovered on a disk. -/
def DiscoveredOn (disk : Disk) (siteDir : Path) (config : SiteConfig) (tree : ContentTree) : Prop :=
  ((discover siteDir config : StateM Disk _).run disk).1.value = .ok tree

/-- A site is known by its files. -/
theorem eq_of_files {tree other : ContentTree} (same : tree.files = other.files) : tree = other := by
  obtain ⟨files, routes, index, rfl, rfl⟩ := tree
  obtain ⟨files', routes', index', rfl, rfl⟩ := other
  obtain rfl : files = files' := same
  rfl

section Loaded

variable {loaded : List (Except ContentError ContentFile)} {files : List ContentFile}
  {tree : ContentTree} {error : ContentError} {race : Race}

theorem mem_errors : error ∈ errors loaded ↔ .error error ∈ loaded := by
  fun_induction errors loaded with
  | case1 => simp
  | case2 other rest ih => simp [ih]
  | case3 file rest ih => simp [ih]

/-- Files are loaded exactly if there is no error among them. -/
theorem forall₂_ok_iff : List.Forall₂ (fun outcome file => outcome = .ok file) loaded files ↔
    errors loaded = [] ∧ loaded.filterMap Except.toOption = files := by
  fun_induction errors loaded generalizing files with
  | case1 => simp [eq_comm]
  | case2 error rest ih =>
    cases files <;> simp
  | case3 file rest ih =>
    cases files with
    | nil => simp [Except.toOption]
    | cons first files => simp [Except.toOption, ih, and_left_comm]

theorem ofLoaded_eq_ok : (ofLoaded loaded race).value = .ok tree ↔
    List.Forall₂ (fun outcome file => outcome = .ok file) loaded tree.files := by
  rw [forall₂_ok_iff, ofLoaded]
  cases errors loaded with
  | cons first others => exact iff_of_false nofun (by simp)
  | nil =>
    constructor
    · rintro ⟨⟩
      exact ⟨rfl, rfl⟩
    · rintro ⟨-, same⟩
      exact congrArg Except.ok (eq_of_files same)

/-- **Any error can be reported, and nothing else can**: whichever comes first. -/
theorem exists_ofLoaded_eq_error :
    (∃ race, (ofLoaded loaded race).value = .error error) ↔ .error error ∈ loaded := by
  simp only [← mem_errors, ofLoaded]
  cases errors loaded with
  | nil => simp
  | cons first others =>
    constructor
    · rintro ⟨race, reported⟩
      exact Except.error.inj reported ▸ race.reported_mem first others
    · intro among
      exact ⟨.wonBy error, congrArg Except.error (if_pos among)⟩

end Loaded

section Successes

variable {disk : Disk} {siteDir : Path} {config : SiteConfig} {tree : ContentTree}

theorem value_discover_iff (race : Race) :
    ((discover siteDir config race : StateM Disk _).run disk).1.value = .ok tree ↔
      List.Forall₂ (fun file loaded => file.loadOn disk config = .ok loaded)
        (disk.candidates siteDir config).value tree.files := by
  rw [run_discover, Logged.value_bind, ofLoaded_eq_ok, List.forall₂_map_left_iff]

/-- **Discovery succeeds with the files that the candidates become, one after the other.** -/
theorem discoveredOn_iff : DiscoveredOn disk siteDir config tree ↔
    List.Forall₂ (fun file loaded => file.loadOn disk config = .ok loaded)
      (disk.candidates siteDir config).value tree.files :=
  value_discover_iff .inOrder

/-- Where all files can be used, there is nothing to race for. -/
theorem value_discover_eq_ok {race : Race} :
    ((discover siteDir config race : StateM Disk _).run disk).1.value = .ok tree ↔
      DiscoveredOn disk siteDir config tree :=
  (value_discover_iff race).trans discoveredOn_iff.symm

end Successes

/-- A file of a site cannot be used. -/
def FailsOn (disk : Disk) (siteDir : Path) (config : SiteConfig) (error : ContentError) : Prop :=
  ∃ file ∈ (disk.candidates siteDir config).value, file.loadOn disk config = .error error

/-- **Of the files that cannot be used, any one may be reported.** -/
theorem exists_discover_eq_error {disk : Disk} {siteDir : Path} {config : SiteConfig}
    {error : ContentError} :
    (∃ race, ((discover siteDir config race : StateM Disk _).run disk).1.value = .error error) ↔
      FailsOn disk siteDir config error := by
  simp only [run_discover, Logged.value_bind, exists_ofLoaded_eq_error]
  exact List.mem_map

/-- What is discovered on a given disk can be computed. -/
theorem exists_of_view {disk : Disk} {siteDir : Path} {config : SiteConfig} {α : Type}
    {view : ContentTree → α} {seen : α}
    (computed : (((discover siteDir config : StateM Disk _).run disk).1.value >>=
      fun tree => .ok (view tree)) = .ok seen) :
    ∃ tree, DiscoveredOn disk siteDir config tree ∧ view tree = seen := by
  obtain ⟨tree, discovered, same⟩ := bind_eq_ok_iff.mp computed
  exact ⟨tree, discovered, Except.ok.inj same⟩

end ContentTree

/-! ## Files of a site -/

/-- Names lead from a directory on a disk to a file. -/
def Disk.HoldsFile (disk : Disk) (directory : Path) (names : List String) (content : FileContent) :
    Prop :=
  ∃ entries, disk.entry directory = .ok (.directory entries) ∧
    (Entry.directory entries).get? names = some (.file content)

/-- Every file below the directories of a site has a path that is no longer than a path may be. -/
def Disk.Reachable (disk : Disk) (siteDir : Path) (config : SiteConfig) : Prop :=
  ∀ root ∈ ContentRoot.all config, ∀ names content,
    disk.HoldsFile (root.path siteDir) names content →
      ((root.path siteDir).join (Path.ofNames names)).text.utf8ByteSize ≤ Disk.pathLimit

/-- Every page that is accepted and has to be read is a text with well-formed frontmatter. -/
def Disk.PagesReadable (disk : Disk) (siteDir : Path) (config : SiteConfig) : Prop :=
  ∀ root ∈ ContentRoot.all config, root.kind ≠ .static → ∀ names content,
    disk.HoldsFile (root.path siteDir) names content → root.kind.Accepts names →
      ContentKind.NamesMarkdown names →
        ∃ source, content = .text source ∧ Frontmatter.WellFormed source

/-- What a candidate becomes, by the content of its file: a Markdown page is read, and any other file
says nothing about itself. -/
inductive Candidate.Becomes (config : SiteConfig) (file : Candidate) :
    FileContent → ContentFile → Prop
  | page {source : String} {loaded : ContentFile} : file.isMarkdown = true →
      file.ofSource config source = .ok loaded → Becomes config file (.text source) loaded
  | other {content : FileContent} : file.isMarkdown = false →
      Becomes config file content (file.unread config)

/-- A file of the site is the one that names lead to from one of its directories. -/
structure ContentRoot.Contributes (disk : Disk) (siteDir : Path) (config : SiteConfig)
    (root : ContentRoot) (names : List String) (file : ContentFile) : Prop where
  kind : file.kind = root.kind
  sourcePath : file.sourcePath = (root.path siteDir).join (Path.ofNames names)
  sitePath : file.sitePath = (root.directory.join (Path.ofNames names)).collapse
  becomes : ∃ content, disk.HoldsFile (root.path siteDir) names content ∧
    (Candidate.ofNames siteDir root names).Becomes config content file

/-- Names come before other names, byte by byte and name by name. -/
def NamesBefore (names other : List String) : Prop :=
  names.map Text.bytes < other.map Text.bytes

/-- **Files are those of one directory of the site.** They are found under exactly the names that lead
to an accepted file, each once, and come in the order of these names. -/
structure ContentRoot.Lists (disk : Disk) (siteDir : Path) (config : SiteConfig)
    (root : ContentRoot) (found : List (List String)) (files : List ContentFile) : Prop where
  accepted : ∀ names, names ∈ found ↔
    (∃ content, disk.HoldsFile (root.path siteDir) names content) ∧ root.kind.Accepts names
  ascending : found.Pairwise NamesBefore
  contributed : List.Forall₂ (root.Contributes disk siteDir config) found files

/-! ## One directory -/

section OneDirectory

variable {disk : Disk} {siteDir : Path} {config : SiteConfig} {root : ContentRoot}
  {names : List String} {content : FileContent}

theorem Candidate.Becomes.kind {file : Candidate} {loaded : ContentFile}
    (becomes : file.Becomes config content loaded) :
    loaded.kind = file.kind ∧ loaded.sourcePath = file.sourcePath ∧
      loaded.sitePath = file.sitePath := by
  cases becomes with
  | page _ read =>
    unfold Candidate.ofSource at read
    split at read
    · cases read
    · obtain rfl := Except.ok.inj read
      exact ⟨rfl, rfl, rfl⟩
  | other => exact ⟨rfl, rfl, rfl⟩

/-- Names that lead to a file are file names, and there is at least one. -/
theorem Disk.HoldsFile.areNames {directory : Path} (regular : disk.top.Regular)
    (holds : disk.HoldsFile directory names content) :
    (∀ name ∈ names, IsFileName name) ∧ names ≠ [] := by
  obtain ⟨entries, isDirectory, found⟩ := holds
  obtain ⟨place, -, isHere⟩ := Disk.entry_eq_ok.mp isDirectory
  refine ⟨(regular.get? isHere).isFileName found, ?_⟩
  rintro rfl
  cases found

/-- The path through the names leads to the file. -/
theorem Disk.HoldsFile.entry_join {directory : Path} (regular : disk.top.Regular)
    (holds : disk.HoldsFile directory names content)
    (fits : (directory.join (Path.ofNames names)).text.utf8ByteSize ≤ Disk.pathLimit) :
    disk.entry (directory.join (Path.ofNames names)) = .ok (.file content) := by
  obtain ⟨areNames, some⟩ := holds.areNames regular
  obtain ⟨entries, isDirectory, found⟩ := holds
  exact Disk.entry_join areNames some isDirectory found fits

/-- A directory lists the names that lead from it to files, in their order. -/
theorem Disk.listing?_files {directory : Path} {listing : Listing} (regular : disk.top.Regular)
    (listed : disk.listing? directory = some listing) :
    (∀ names, names ∈ listing.files ↔ ∃ content, disk.HoldsFile directory names content) ∧
      listing.files.Pairwise (· < ·) := by
  obtain ⟨entries, isDirectory, rfl⟩ := Disk.listing?_eq_some.mp listed
  obtain ⟨place, -, isHere⟩ := Disk.entry_eq_ok.mp isDirectory
  have below : (Entry.directory entries).Regular := regular.get? isHere
  refine ⟨fun names => ?_, below.pairwise_files⟩
  rw [below.mem_files]
  constructor
  · rintro ⟨content, found⟩
    exact ⟨content, entries, isDirectory, found⟩
  · rintro ⟨content, other, sameDirectory, found⟩
    obtain rfl := Entry.directory.inj (Except.ok.inj (isDirectory.symm.trans sameDirectory))
    exact ⟨content, found⟩

/-- The names that lead to the accepted files of a directory, in the order of the walk. -/
def Disk.acceptedNames (disk : Disk) (siteDir : Path) (root : ContentRoot) : List (List String) :=
  (disk.listing? (root.path siteDir)).elim [] fun listing =>
    listing.files.filter fun names => root.kind.accepts (Path.ofNames names)

theorem Disk.mem_acceptedNames (regular : disk.top.Regular) :
    names ∈ disk.acceptedNames siteDir root ↔
      (∃ content, disk.HoldsFile (root.path siteDir) names content) ∧ root.kind.Accepts names := by
  rw [acceptedNames]
  cases listed : disk.listing? (root.path siteDir) with
  | some listing =>
    rw [Option.elim_some, List.mem_filter, (listing?_files regular listed).1]
    refine and_congr_right fun ⟨content, holds⟩ => ?_
    exact ContentKind.accepts_ofNames fun name member => ((holds.areNames regular).1 name member).1
  | none =>
    refine iff_of_false List.not_mem_nil ?_
    rintro ⟨⟨content, entries, isDirectory, -⟩, -⟩
    have isListed := Disk.listing?_eq_some.mpr ⟨entries, isDirectory, rfl⟩
    rw [listed] at isListed
    cases isListed

/-- Names that come before other ones do so byte by byte. -/
theorem namesBefore_of_lt {other : List String} (less : names < other) : NamesBefore names other := by
  induction less with
  | nil => exact List.nil_lt_cons _ _
  | cons _ ih => exact List.cons_lt_cons_iff.mpr (.inr ⟨rfl, ih⟩)
  | rel less => exact List.cons_lt_cons_iff.mpr (.inl (Text.bytes_lt_bytes.mpr less))

theorem Disk.pairwise_lt_acceptedNames (regular : disk.top.Regular) :
    (disk.acceptedNames siteDir root).Pairwise (· < ·) := by
  rw [acceptedNames]
  cases listed : disk.listing? (root.path siteDir) with
  | some listing =>
    have ascending := (listing?_files regular listed).2
    exact ascending.filter _
  | none => exact List.Pairwise.nil

theorem Disk.pairwise_acceptedNames (regular : disk.top.Regular) :
    (disk.acceptedNames siteDir root).Pairwise NamesBefore :=
  (pairwise_lt_acceptedNames regular).imp namesBefore_of_lt

/-! ## One file -/

/-- A file has to be read exactly if it is a page whose last name is that of a Markdown file. -/
theorem Candidate.isMarkdown_ofNames (areNames : ∀ name ∈ names, IsFileName name) :
    (Candidate.ofNames siteDir root names).isMarkdown = true ↔
      root.kind ≠ .static ∧ ContentKind.NamesMarkdown names := by
  rw [Candidate.isMarkdown, Bool.and_eq_true, bne_iff_ne]
  exact and_congr_right fun _ =>
    ContentKind.isMarkdownExtension_ofNames fun name member => (areNames name member).1

/-- **What reading a file on a disk gives is what its content makes of it.** -/
theorem Candidate.loadOn_eq_ok {file : ContentFile} (regular : disk.top.Regular)
    (holds : disk.HoldsFile (root.path siteDir) names content)
    (fits : ((root.path siteDir).join (Path.ofNames names)).text.utf8ByteSize ≤ Disk.pathLimit) :
    (Candidate.ofNames siteDir root names).loadOn disk config = .ok file ↔
      (Candidate.ofNames siteDir root names).Becomes config content file := by
  have isFile : disk.entry (Candidate.ofNames siteDir root names).sourcePath = .ok (.file content) :=
    holds.entry_join regular fits
  rw [loadOn]
  cases markdown : (Candidate.ofNames siteDir root names).isMarkdown with
  | false =>
    rw [if_neg Bool.false_ne_true]
    constructor
    · rintro ⟨⟩
      exact .other markdown
    · intro becomes
      cases becomes with
      | page isMarkdown _ => exact absurd (markdown.symm.trans isMarkdown) Bool.false_ne_true
      | other => rfl
  | true =>
    rw [if_pos rfl]
    cases content with
    | text source =>
      rw [Disk.readText_text isFile]
      constructor
      · exact fun read => .page markdown read
      · intro becomes
        cases becomes with
        | page _ read => exact read
        | other isOther => exact absurd (isOther.symm.trans markdown) Bool.false_ne_true
    | binary =>
      rw [Disk.readText_binary isFile]
      constructor
      · intro impossible
        cases impossible
      · intro becomes
        cases becomes with
        | other isOther => exact absurd (isOther.symm.trans markdown) Bool.false_ne_true

/-- A file becomes a file of the site unless it has to be read and cannot be. -/
theorem Candidate.exists_becomes {file : Candidate} :
    (∃ loaded, file.Becomes config content loaded) ↔
      (file.isMarkdown = true →
        ∃ source, content = .text source ∧ Frontmatter.WellFormed source) := by
  constructor
  · rintro ⟨loaded, becomes⟩ markdown
    cases becomes with
    | @page source _ _ read =>
      refine ⟨source, rfl, Frontmatter.wellFormed_iff.mpr ?_⟩
      unfold Candidate.ofSource at read
      split at read
      · cases read
      · next split => exact ⟨_, split⟩
    | other isOther => exact absurd (isOther.symm.trans markdown) Bool.false_ne_true
  · intro readable
    cases markdown : file.isMarkdown with
    | false => exact ⟨_, .other markdown⟩
    | true =>
      obtain ⟨source, rfl, wellFormed⟩ := readable markdown
      obtain ⟨⟨frontmatter, body⟩, split⟩ := Frontmatter.wellFormed_iff.mp wellFormed
      have read : ∃ loaded, file.ofSource config source = .ok loaded := by
        rw [ofSource, split]
        exact ⟨_, rfl⟩
      obtain ⟨loaded, read⟩ := read
      exact ⟨loaded, .page markdown read⟩

/-- A file that is read contributes what it becomes. -/
theorem Candidate.Becomes.contributes {file : ContentFile}
    (holds : disk.HoldsFile (root.path siteDir) names content)
    (becomes : (Candidate.ofNames siteDir root names).Becomes config content file) :
    root.Contributes disk siteDir config names file where
  kind := becomes.kind.1
  sourcePath := becomes.kind.2.1
  sitePath := becomes.kind.2.2
  becomes := ⟨content, holds, becomes⟩

/-- **One directory is listed completely, without repetition and in order.** -/
theorem ContentRoot.lists_acceptedNames {files : List ContentFile} (regular : disk.top.Regular)
    (fits : ∀ names content, disk.HoldsFile (root.path siteDir) names content →
      ((root.path siteDir).join (Path.ofNames names)).text.utf8ByteSize ≤ Disk.pathLimit)
    (loaded : List.Forall₂ (fun names file =>
      (Candidate.ofNames siteDir root names).loadOn disk config = .ok file)
      (disk.acceptedNames siteDir root) files) :
    root.Lists disk siteDir config (disk.acceptedNames siteDir root) files where
  accepted _ := Disk.mem_acceptedNames regular
  ascending := Disk.pairwise_acceptedNames regular
  contributed := by
    have inNames := (List.forall₂_and_left _ _).mpr ⟨fun names member => member, loaded⟩
    refine inNames.imp fun names file ⟨member, load⟩ => ?_
    obtain ⟨⟨content, holds⟩, -⟩ := (Disk.mem_acceptedNames regular).mp member
    exact ((Candidate.loadOn_eq_ok regular holds (fits names content holds)).mp load).contributes
      holds

end OneDirectory

/-! ## All directories -/

section AllDirectories

variable {disk : Disk} {siteDir : Path} {config : SiteConfig}

/-- The files of a site are in reach if the files that a walk lists are. -/
theorem Disk.reachable_iff (regular : disk.top.Regular) : disk.Reachable siteDir config ↔
    ∀ root ∈ ContentRoot.all config, ∀ listing ∈ disk.listing? (root.path siteDir),
      ∀ names ∈ listing.files,
        ((root.path siteDir).join (Path.ofNames names)).text.utf8ByteSize ≤ Disk.pathLimit := by
  constructor
  · intro reachable root isRoot listing listed names member
    obtain ⟨content, holds⟩ := ((listing?_files regular listed).1 names).mp member
    exact reachable root isRoot names content holds
  · intro short root isRoot names content ⟨entries, isDirectory, found⟩
    have listed := Disk.listing?_eq_some.mpr ⟨entries, isDirectory, rfl⟩
    exact short root isRoot _ listed names
      (((listing?_files regular listed).1 names).mpr ⟨content, entries, isDirectory, found⟩)

/-- The candidates are those of one directory after the other. -/
theorem Disk.candidates_value : (disk.candidates siteDir config).value =
    (ContentRoot.all config).flatMap fun root =>
      (disk.acceptedNames siteDir root).map (Candidate.ofNames siteDir root) := by
  rw [candidates]
  induction ContentRoot.all config with
  | nil => rfl
  | cons root rest ih =>
    rw [List.map_cons, List.flatMap_cons, ← ih, acceptedNames]
    cases disk.listing? (root.path siteDir) with
    | none => rfl
    | some listing =>
      have ofRoot : Candidate.inRoot siteDir root listing =
          (listing.files.filter fun names => root.kind.accepts (Path.ofNames names)).map
            (Candidate.ofNames siteDir root) := by
        rw [Candidate.inRoot, List.filter_map]
        rfl
      rw [Option.elim_some, ← ofRoot]
      rfl

theorem Disk.mem_candidates {file : Candidate} :
    file ∈ (disk.candidates siteDir config).value ↔
      ∃ root ∈ ContentRoot.all config, ∃ names ∈ disk.acceptedNames siteDir root,
        file = Candidate.ofNames siteDir root names := by
  rw [candidates_value, List.mem_flatMap]
  constructor
  · rintro ⟨root, isRoot, member⟩
    obtain ⟨names, accepted, rfl⟩ := List.mem_map.mp member
    exact ⟨root, isRoot, names, accepted, rfl⟩
  · rintro ⟨root, isRoot, names, accepted, rfl⟩
    exact ⟨root, isRoot, List.mem_map.mpr ⟨names, accepted, rfl⟩⟩

/-- A list that corresponds to a concatenation falls into parts that correspond one by one. -/
theorem forall₂_flatMap {α β γ : Type} {means : β → γ → Prop} {items : List α} {find : α → List β}
    {results : List γ} (related : List.Forall₂ means (items.flatMap find) results) :
    ∃ parts, results = parts.flatten ∧
      List.Forall₂ (fun item part => List.Forall₂ means (find item) part) items parts := by
  induction items generalizing results with
  | nil =>
    obtain rfl := List.forall₂_nil_left_iff.mp related
    exact ⟨[], rfl, .nil⟩
  | cons item items ih =>
    rw [List.flatMap_cons] at related
    have first := (List.forall₂_take_append _ _ _ related.flip).flip
    have others := (List.forall₂_drop_append _ _ _ related.flip).flip
    obtain ⟨parts, same, each⟩ := ih others
    refine ⟨results.take (find item).length :: parts, ?_, .cons first each⟩
    rw [List.flatten_cons, ← same, List.take_append_drop]

namespace ContentTree

/-- Discovery succeeds exactly if every page that has to be read can be read. -/
theorem exists_discoveredOn (regular : disk.top.Regular)
    (reachable : disk.Reachable siteDir config) :
    (∃ tree, DiscoveredOn disk siteDir config tree) ↔ disk.PagesReadable siteDir config := by
  have someTree : (∃ tree, DiscoveredOn disk siteDir config tree) ↔
      ∃ files, List.Forall₂ (fun file loaded => file.loadOn disk config = .ok loaded)
        (disk.candidates siteDir config).value files := by
    simp only [discoveredOn_iff]
    exact ⟨fun ⟨tree, found⟩ => ⟨tree.files, found⟩, fun ⟨files, found⟩ => ⟨{ files }, found⟩⟩
  rw [someTree, exists_forall₂]
  constructor
  · intro loads root isRoot isPage names content holds accepted markdown
    have member := (Disk.mem_acceptedNames regular).mpr ⟨⟨content, holds⟩, accepted⟩
    obtain ⟨file, loaded⟩ := loads _ (Disk.mem_candidates.mpr ⟨root, isRoot, names, member, rfl⟩)
    have becomes := (Candidate.loadOn_eq_ok regular holds
      (reachable root isRoot names content holds)).mp loaded
    have areNames := (holds.areNames regular).1
    exact Candidate.exists_becomes.mp ⟨file, becomes⟩
      ((Candidate.isMarkdown_ofNames areNames).mpr ⟨isPage, markdown⟩)
  · intro readable file member
    obtain ⟨root, isRoot, names, inNames, rfl⟩ := Disk.mem_candidates.mp member
    obtain ⟨⟨content, holds⟩, accepted⟩ := (Disk.mem_acceptedNames regular).mp inNames
    have areNames := (holds.areNames regular).1
    obtain ⟨loaded, becomes⟩ := Candidate.exists_becomes.mpr fun markdown => by
      obtain ⟨isPage, isMarkdown⟩ := (Candidate.isMarkdown_ofNames areNames).mp markdown
      exact readable root isRoot isPage names content holds accepted isMarkdown
    exact ⟨loaded, (Candidate.loadOn_eq_ok regular holds
      (reachable root isRoot names content holds)).mpr becomes⟩

/-- What is discovered falls into the lists of the directories. -/
theorem DiscoveredOn.lists {tree : ContentTree} (regular : disk.top.Regular)
    (reachable : disk.Reachable siteDir config) (discovered : DiscoveredOn disk siteDir config tree) :
    ∃ parts, tree.files = parts.flatten ∧
      List.Forall₂ (fun root files => ∃ found, root.Lists disk siteDir config found files)
        (ContentRoot.all config) parts := by
  have related := discoveredOn_iff.mp discovered
  rw [Disk.candidates_value] at related
  obtain ⟨parts, same, each⟩ := forall₂_flatMap related
  have ofRoots := (List.forall₂_and_left _ _).mpr ⟨fun root isRoot => isRoot, each⟩
  refine ⟨parts, same, ofRoots.imp fun root files ⟨isRoot, loaded⟩ => ?_⟩
  exact ⟨disk.acceptedNames siteDir root, ContentRoot.lists_acceptedNames regular
    (reachable root isRoot) (List.forall₂_map_left_iff.mp loaded)⟩

/-- **Discovery is complete, without repetition and in order.** -/
theorem discover_complete (regular : disk.top.Regular)
    (reachable : disk.Reachable siteDir config) :
    ((∃ tree, DiscoveredOn disk siteDir config tree) ↔ disk.PagesReadable siteDir config) ∧
      ∀ tree, DiscoveredOn disk siteDir config tree →
        ∃ parts, tree.files = parts.flatten ∧
          List.Forall₂ (fun root files => ∃ found, root.Lists disk siteDir config found files)
            (ContentRoot.all config) parts :=
  ⟨exists_discoveredOn regular reachable, fun _ => DiscoveredOn.lists regular reachable⟩

/-- A site with a page next to a private file, a directory of pages, and static files. -/
def guideDisk : Disk := { top := .directory [
  ("static", .directory [("m.md", .file .binary), ("a.png", .file .binary)]),
  ("docs", .directory [
    ("_draft.md", .file .binary),
    ("guide.md", .file (.text "# Guide")),
    ("guide", .directory [
      ("b.mdx", .file (.text "# B")), ("a.md", .file (.text "---\ntitle: A\n---\n"))])])] }

theorem guideDisk_regular : guideDisk.top.Regular := by
  have pages : (Entry.directory [("b.mdx", .file (.text "# B")),
      ("a.md", .file (.text "---\ntitle: A\n---\n"))]).Regular := by
    refine .directory (by decide +kernel) (by decide +kernel) ?_
    simp only [List.forall_mem_cons]
    exact ⟨.file _, .file _, List.forall_mem_nil _⟩
  have docs : (Entry.directory [("_draft.md", .file .binary), ("guide.md", .file (.text "# Guide")),
      ("guide", .directory [("b.mdx", .file (.text "# B")),
        ("a.md", .file (.text "---\ntitle: A\n---\n"))])]).Regular := by
    refine .directory (by decide +kernel) (by decide +kernel) ?_
    simp only [List.forall_mem_cons]
    exact ⟨.file _, .file _, pages, List.forall_mem_nil _⟩
  have static : (Entry.directory [("m.md", .file .binary), ("a.png", .file .binary)]).Regular := by
    refine .directory (by decide +kernel) (by decide +kernel) ?_
    simp only [List.forall_mem_cons]
    exact ⟨.file _, .file _, List.forall_mem_nil _⟩
  refine .directory (by decide +kernel) (by decide +kernel) ?_
  simp only [List.forall_mem_cons]
  exact ⟨static, docs, List.forall_mem_nil _⟩

/-- Five files of the site are discovered, although a private page and a static file are no texts. -/
theorem discover_complete_guide :
    guideDisk.top.Regular ∧ guideDisk.Reachable ⟨"."⟩ .bare ∧
      guideDisk.PagesReadable ⟨"."⟩ .bare ∧
      ∃ tree parts, DiscoveredOn guideDisk ⟨"."⟩ .bare tree ∧
        tree.files.map (·.sitePath.text) = ["docs/guide/a.md", "docs/guide/b.mdx", "docs/guide.md",
          "static/a.png", "static/m.md"] ∧
        tree.files = parts.flatten ∧
        List.Forall₂ (fun root files => ∃ found, root.Lists guideDisk ⟨"."⟩ .bare found files)
          (ContentRoot.all .bare) parts := by
  have regular := guideDisk_regular
  have reachable : guideDisk.Reachable ⟨"."⟩ .bare :=
    (Disk.reachable_iff regular).mpr (by decide +kernel)
  obtain ⟨succeeds, complete⟩ := discover_complete regular reachable
  obtain ⟨tree, discovered, listed⟩ : ∃ tree, DiscoveredOn guideDisk ⟨"."⟩ .bare tree ∧
      tree.files.map (·.sitePath.text) = ["docs/guide/a.md", "docs/guide/b.mdx", "docs/guide.md",
        "static/a.png", "static/m.md"] :=
    exists_of_view (by decide +kernel)
  obtain ⟨parts, same, lists⟩ := complete tree discovered
  exact ⟨regular, reachable, succeeds.mp ⟨tree, discovered⟩, tree, parts, discovered, listed,
    same, lists⟩

end ContentTree

end AllDirectories

end Docsite
