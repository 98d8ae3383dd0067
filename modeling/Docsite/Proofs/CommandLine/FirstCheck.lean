/-
**The first check of a new site.**

A site that was started where there was no content holds its configuration and its two pages and no other
content. A check of it therefore finds exactly these pages, as long as the configuration can be read: it is
written as TOML whatever format its path asks for. A page can be missing, too, where a directory has its
name.

* `Scaffolded`: what a new site holds.
* `Scaffolded.discovers`: the content that is discovered of it.
* `check_of_init`: what a check of it comes to.
-/

import Docsite.Proofs.CommandLine.Scaffold

namespace Docsite

/-! ## Places of content -/

/-- The directories that hold the content of a new site, by their kinds and the names that lead there. -/
def Scaffold.roots : List (ContentKind × List String) :=
  [(.doc, ["docs"]), (.page, ["src", "pages"]), (.static, ["static"])]

theorem Scaffold.roots_ne_nil : ∀ root ∈ roots, root.2 ≠ [] := by
  decide

theorem Scaffold.roots_isName : ∀ root ∈ roots, ∀ name ∈ root.2, Path.IsName name := by
  have areNames : ∀ root ∈ roots, ∀ name ∈ root.2, IsFileName name := by
    decide
  exact fun root isRoot name member => (areNames root isRoot name member).toIsName

theorem Scaffold.accepts_page : ∀ page ∈ pages, ContentKind.Accepts .doc [page.1] := by
  have accepted : ∀ page ∈ pages, ContentKind.accepts .doc (Path.ofNames [page.1]) = true := by
    decide +kernel
  intro page member
  refine (ContentKind.accepts_ofNames ?_).mp (accepted page member)
  rw [List.forall_mem_singleton]
  exact (isFileName page member).toIsName

/-- The directory of a new site that names lead to. -/
def Scaffold.rootAt (root : ContentKind × List String) : ContentRoot where
  kind := root.1
  directory := Path.ofNames root.2

/-- No content file of a new site stands below a place. -/
def Disk.NoContentBelow (disk : Disk) (front : List String) : Prop :=
  ∀ root ∈ Scaffold.roots, ∀ name names content,
    disk.spot? (front ++ root.2 ++ name :: names) = some (.file content) →
      ¬ root.1.Accepts (name :: names)

/-- **What a new site holds**: its configuration, a page or a directory at the place of each page, and no
other content. -/
structure Scaffolded (config : Path) (front : List String) (name : String) (disk : Disk) : Prop where
  ascending : disk.top.Ascending
  located : disk.locate config = .ok (front ++ [name])
  holdsConfig : disk.spot? (front ++ [name]) = some (.file (.text Scaffold.config))
  siteDir : disk.locate (siteDirOf config) = .ok front
  pageAt : ∀ page ∈ Scaffold.pages,
    disk.locate ((docsOf config).join ⟨page.1⟩) = .ok (front ++ ["docs", page.1])
  holdsPage : ∀ page ∈ Scaffold.pages,
    disk.spot? (front ++ ["docs", page.1]) = some (.file (.text page.2)) ∨
      disk.spot? (front ++ ["docs", page.1]) = some .directory
  noOther : ∀ root ∈ Scaffold.roots, ∀ name names content,
    disk.spot? (front ++ root.2 ++ name :: names) = some (.file content) →
      root.1.Accepts (name :: names) →
        ∃ page ∈ Scaffold.pages, root.2 ++ name :: names = ["docs", page.1]

/-! ## What is written -/

section Written

variable {config docs : Path} {overwrite : Bool} {disk before after : Disk} {page : String × String}
  {pages : List (String × String)} {result : Except Failure Unit} {front : List String} {name : String}

theorem PageWritten.ascending (written : PageWritten docs overwrite page before result after)
    (ascending : before.top.Ascending) : after.top.Ascending := by
  cases written with
  | kept => exact ascending
  | written _ written => exact Disk.ascending_writeText written ascending
  | refused => exact ascending

theorem PagesWritten.ascending (written : PagesWritten docs overwrite pages before result after)
    (ascending : before.top.Ascending) : after.top.Ascending := by
  induction written with
  | done => exact ascending
  | stopped first => exact first.ascending ascending
  | next first _ ih => exact ih (first.ascending ascending)

/-- A page that is not refused stands at its path, unless something stood there before. -/
theorem PageWritten.stands (written : PageWritten docs overwrite page before (.ok ()) after) :
    ∃ place, after.locate (docs.join ⟨page.1⟩) = .ok place ∧
      (after.spot? place = some (.file (.text page.2)) ∨
        after.spot? place = before.spot? place ∧ before.spot? place ≠ none) := by
  cases written with
  | kept _ held =>
    obtain ⟨place, located, found⟩ := Disk.holds_iff.mp held
    exact ⟨place, located, .inr ⟨rfl, found⟩⟩
  | written _ written =>
    obtain ⟨place, -, located, -, stands⟩ := Disk.writeText_eq_ok written
    exact ⟨place, located, .inl (by rw [stands, if_pos rfl])⟩

/-- **Every page that is written stands at its place**, unless something stood there before. -/
theorem PagesWritten.stands
    (written : PagesWritten (docsOf config) overwrite pages before result after)
    (succeeded : result = .ok ()) (areNames : ∀ page ∈ pages, IsFileName page.1)
    (distinct : pages.Pairwise (·.1 ≠ ·.1)) (inSite : before.locate (siteDirOf config) = .ok front) :
    ∀ page ∈ pages, after.locate ((docsOf config).join ⟨page.1⟩) = .ok (front ++ ["docs", page.1]) ∧
      (after.spot? (front ++ ["docs", page.1]) = some (.file (.text page.2)) ∨
        after.spot? (front ++ ["docs", page.1]) = before.spot? (front ++ ["docs", page.1]) ∧
          before.spot? (front ++ ["docs", page.1]) ≠ none) := by
  induction written with
  | done => simp
  | stopped => cases succeeded
  | @next first rest before middle after result isFirst behind ih =>
    subst succeeded
    obtain ⟨isOther, distinct⟩ := List.pairwise_cons.mp distinct
    have inMiddle := Disk.locate_keeps isFirst.adds.directories inSite
    have inAfter := Disk.locate_keeps behind.adds.directories inMiddle
    have restNames : ∀ page ∈ rest, IsFileName page.1 :=
      fun page member => areNames page (List.mem_cons_of_mem first member)
    -- What leads to a place next to the configuration leads there by the name of the place.
    have named {disk : Disk} {page other : String × String} (isName : IsFileName page.1)
        (inDisk : disk.locate (siteDirOf config) = .ok front)
        (leads : disk.locate ((docsOf config).join ⟨page.1⟩) = .ok (front ++ ["docs", other.1])) :
        page.1 = other.1 := by
      obtain ⟨site, inOther, same⟩ := locate_page isName.toIsName leads
      obtain rfl := Except.ok.inj (inOther.symm.trans inDisk)
      simpa using (List.append_cancel_left same).symm
    intro page member
    rcases List.mem_cons.mp member with rfl | inRest
    · obtain ⟨place, located, stands⟩ := isFirst.stands
      obtain ⟨site, inOther, rfl⟩ :=
        locate_page (areNames page List.mem_cons_self).toIsName located
      obtain rfl := Except.ok.inj (inOther.symm.trans inMiddle)
      refine ⟨Disk.locate_keeps behind.adds.directories located, ?_⟩
      rcases behind.adds.elsewhere (site ++ ["docs", page.1]) with same | ⟨-, path, isPage, leads⟩
      · rwa [same]
      · obtain ⟨other, inRest, rfl⟩ := List.mem_map.mp isPage
        exact absurd (named (restNames other inRest) inAfter leads).symm (isOther other inRest)
    · obtain ⟨located, stands⟩ := ih rfl restNames distinct inMiddle page inRest
      refine ⟨located, ?_⟩
      rcases isFirst.adds.elsewhere (front ++ ["docs", page.1]) with same | ⟨-, path, isPage, leads⟩
      · rwa [same] at stands
      · rw [List.mem_singleton.mp isPage] at leads
        exact absurd (named (areNames first List.mem_cons_self) inMiddle leads) (isOther page inRest)

theorem Disk.NoContentBelow.keeps (empty : before.NoContentBelow front)
    (same : before.SameFiles after) : after.NoContentBelow front :=
  fun root isRoot name names content found =>
    empty root isRoot name names content ((same _ content).mp found)

/-- Where there is no content, only a directory can stand at the place of a page. -/
theorem Disk.NoContentBelow.eq_directory (empty : disk.NoContentBelow front)
    (member : page ∈ Scaffold.pages) (found : disk.spot? (front ++ ["docs", page.1]) ≠ none) :
    disk.spot? (front ++ ["docs", page.1]) = some .directory := by
  cases stood : disk.spot? (front ++ ["docs", page.1]) with
  | none => exact absurd stood found
  | some spot =>
    cases spot with
    | directory => rfl
    | file content =>
      have below : disk.spot? (front ++ ["docs"] ++ [page.1]) = some (.file content) := by
        rwa [List.append_assoc]
      exact absurd (Scaffold.accepts_page page member)
        (empty (.doc, ["docs"]) List.mem_cons_self page.1 [] content below)

/-- The only content behind starting a site are its pages. -/
theorem Started.page_of_accepts (started : Started config overwrite disk result after)
    (located : after.locate config = .ok (front ++ [name])) (empty : disk.NoContentBelow front) :
    ∀ root ∈ Scaffold.roots, ∀ first names content,
      after.spot? (front ++ root.2 ++ first :: names) = some (.file content) →
        root.1.Accepts (first :: names) →
          ∃ page ∈ Scaffold.pages, root.2 ++ first :: names = ["docs", page.1] := by
  intro root isRoot first names content found accepted
  rcases started.others (front ++ root.2 ++ first :: names) with ⟨other, last, leads, member⟩ | unchanged
  · obtain ⟨rfl, -⟩ := List.append_inj' (Except.ok.inj (located.symm.trans leads)) rfl
    rw [List.append_assoc] at member
    rcases List.mem_cons.mp member with isConfig | isPage
    · have single := congrArg List.length (List.append_cancel_left isConfig)
      have some := List.length_pos_iff.mpr (Scaffold.roots_ne_nil root isRoot)
      simp at single
      omega
    · obtain ⟨page, inPages, isPlace⟩ := List.mem_map.mp isPage
      exact ⟨page, inPages, (List.append_cancel_left isPlace).symm⟩
  · exact absurd accepted (empty root isRoot first names content ((unchanged content).mp found))

/-- **A site that was started where there was no content is a new site.** -/
theorem Started.scaffolded (started : Started config overwrite disk (.ok ()) after)
    (absent : overwrite = true ∨ disk.holds config = false) (ascending : disk.top.Ascending)
    (located : after.locate config = .ok (front ++ [name])) (empty : disk.NoContentBelow front) :
    Scaffolded config front name after := by
  have noOther := started.page_of_accepts located empty
  cases started with
  | present isKept held => simp [isKept, held] at absent
  | @begun middle written _ _ _ keeps wrote pages =>
    obtain ⟨place, -, isPlace, -, stands⟩ := Disk.writeText_eq_ok wrote
    have adds := pages.adds
    have isFile : written.spot? place = some (.file (.text Scaffold.config)) := by
      rw [stands, if_pos rfl]
    obtain ⟨site, last, rfl, inSite⟩ := Disk.locate_siteDirOf isPlace (by simp [isFile])
    have same := Except.ok.inj ((Disk.locate_keeps adds.directories isPlace).symm.trans located)
    obtain ⟨rfl, isLast⟩ := List.append_inj' same rfl
    obtain rfl : last = name := by simpa using isLast
    have stood := pages.stands rfl Scaffold.isFileName (by decide) inSite
    exact {
      ascending := pages.ascending (Disk.ascending_writeText wrote (keeps.ascending ascending))
      located
      holdsConfig := by
        rcases adds.elsewhere (site ++ [last]) with unchanged | ⟨-, path, isPage, leads⟩
        · rw [unchanged, isFile]
        · obtain ⟨page, member, rfl⟩ := List.mem_map.mp isPage
          rw [(stood page member).1] at leads
          simp at leads
      siteDir := Disk.locate_keeps adds.directories inSite
      pageAt := fun page member => (stood page member).1
      holdsPage := fun page member => by
        rcases (stood page member).2 with isWritten | ⟨unchanged, found⟩
        · exact .inl isWritten
        · have notConfig : site ++ ["docs", page.1] ≠ site ++ [last] := by simp
          rw [stands, if_neg notConfig] at found unchanged
          exact .inr (unchanged.trans ((empty.keeps keeps.files).eq_directory member found))
      noOther }

end Written

/-! ## What is discovered -/

/-- A file below a directory stands below the place that the path of the directory leads to. -/
theorem Disk.holdsFile_iff {disk : Disk} {directory : Path} {place names : List String}
    {content : FileContent} (located : disk.locate directory = .ok place) :
    disk.HoldsFile directory names content ↔
      names ≠ [] ∧ disk.spot? (place ++ names) = some (.file content) := by
  have leads (entries : List (String × Entry))
      (isHere : disk.top.get? place = some (.directory entries)) :
      disk.spot? (place ++ names) = (Entry.directory entries).spot? names := by
    rw [spot?, Entry.spot?, Entry.get?_append, isHere]
    rfl
  constructor
  · rintro ⟨entries, isDirectory, found⟩
    obtain ⟨other, sameLocated, isHere⟩ := entry_eq_ok.mp isDirectory
    obtain rfl := Except.ok.inj (sameLocated.symm.trans located)
    refine ⟨?_, by rw [leads entries isHere, Entry.spot?_eq_file.mpr found]⟩
    rintro rfl
    cases found
  · rintro ⟨nonempty, found⟩
    obtain ⟨name, rest, rfl⟩ := List.exists_cons_of_ne_nil nonempty
    have isDirectory : disk.spot? place = some .directory :=
      Entry.spot?_of_append (by rw [← spot?, found]; simp)
    obtain ⟨entries, isHere⟩ := Entry.spot?_eq_directory.mp isDirectory
    rw [leads entries isHere] at found
    exact ⟨entries, entry_eq_ok.mpr ⟨place, located, isHere⟩, Entry.spot?_eq_file.mp found⟩

section Discovered

variable {config : Path} {front : List String} {name : String} {disk : Disk}

/-- Whether a page of a new site stands at its place. -/
def Disk.holdsPage (disk : Disk) (front : List String) (page : String × String) : Bool :=
  disk.spot? (front ++ ["docs", page.1]) != some .directory

/-- The path that a page of a new site is read from. -/
def Scaffold.pagePath (config : Path) (page : String × String) : Path :=
  (docsRoot.path (siteDirOf config)).join (Path.ofNames [page.1])

theorem Scaffolded.spot?_page (site : Scaffolded config front name disk) {page : String × String}
    (member : page ∈ Scaffold.pages) : disk.holdsPage front page = true ↔
      disk.spot? (front ++ ["docs", page.1]) = some (.file (.text page.2)) := by
  rw [Disk.holdsPage, bne_iff_ne]
  rcases site.holdsPage page member with isPage | isDirectory
  · simp [isPage]
  · simp [isDirectory]

/-- A directory of a new site holds no content but the pages. -/
theorem Scaffolded.of_mem_acceptedNames (site : Scaffolded config front name disk)
    {root : ContentKind × List String} (isRoot : root ∈ Scaffold.roots) {names : List String}
    (member : names ∈ disk.acceptedNames (siteDirOf config) (Scaffold.rootAt root)) :
    ∃ page ∈ Scaffold.pages, root.2 ++ names = ["docs", page.1] ∧ disk.holdsPage front page = true := by
  obtain ⟨⟨content, holds⟩, accepted⟩ :=
    (Disk.mem_acceptedNames site.ascending.regular).mp member
  have areNames := Scaffold.roots_isName root isRoot
  obtain ⟨entries, isDirectory, -⟩ := id holds
  obtain ⟨place, located, -⟩ := Disk.entry_eq_ok.mp isDirectory
  obtain ⟨other, inSite, rfl⟩ := Disk.locate_of_join (siteDirOf_named config) areNames
    (Scaffold.roots_ne_nil root isRoot) located
  obtain rfl := Except.ok.inj (inSite.symm.trans site.siteDir)
  obtain ⟨nonempty, found⟩ := (Disk.holdsFile_iff located).mp holds
  obtain ⟨first, rest, rfl⟩ := List.exists_cons_of_ne_nil nonempty
  obtain ⟨page, isPage, same⟩ := site.noOther root isRoot first rest content found accepted
  refine ⟨page, isPage, same, ?_⟩
  rw [List.append_assoc, same] at found
  rw [Disk.holdsPage, found]
  rfl

/-- **What is accepted in the directory of the documentation are the pages that are there**, in their
order. -/
theorem Scaffolded.acceptedNames_docs (site : Scaffolded config front name disk) :
    disk.acceptedNames (siteDirOf config) Scaffold.docsRoot =
      (Scaffold.pages.reverse.filter (disk.holdsPage front)).map fun page => [page.1] := by
  have isRoot : Scaffold.docsRoot = Scaffold.rootAt (.doc, ["docs"]) := by
    decide +kernel
  have inOrder : (Scaffold.pages.reverse.map fun page => [page.1]).Pairwise (· < ·) := by
    decide
  refine List.Pairwise.eq_of_mem_iff (Disk.pairwise_lt_acceptedNames site.ascending.regular)
    (inOrder.sublist (List.filter_sublist.map _)) fun names => ?_
  constructor
  · intro member
    rw [isRoot] at member
    obtain ⟨page, isPage, same, isThere⟩ := site.of_mem_acceptedNames List.mem_cons_self member
    have isName : names = [page.1] := by simpa using same
    exact List.mem_map.mpr ⟨page,
      List.mem_filter.mpr ⟨List.mem_reverse.mpr isPage, isThere⟩, isName.symm⟩
  · intro member
    obtain ⟨page, kept, rfl⟩ := List.mem_map.mp member
    obtain ⟨isPage, isThere⟩ := List.mem_filter.mp kept
    rw [List.mem_reverse] at isPage
    have isFile := (site.spot?_page isPage).mp isThere
    obtain ⟨place, located, same⟩ :=
      locate_docsOf (Scaffold.isFileName page isPage).toIsName (site.pageAt page isPage)
    rw [same] at isFile
    have holds := (Disk.holdsFile_iff located).mpr ⟨List.cons_ne_nil page.1 [], isFile⟩
    exact (Disk.mem_acceptedNames site.ascending.regular).mpr
      ⟨⟨_, holds⟩, Scaffold.accepts_page page isPage⟩

/-- The candidates of a new site are the pages that are there. -/
theorem Scaffolded.candidates (site : Scaffolded config front name disk) :
    (disk.candidates (siteDirOf config) Scaffold.site).value =
      (Scaffold.pages.reverse.filter (disk.holdsPage front)).map fun page =>
        Candidate.ofNames (siteDirOf config) Scaffold.docsRoot [page.1] := by
  have roots : ContentRoot.all Scaffold.site = [Scaffold.docsRoot,
      Scaffold.rootAt (.page, ["src", "pages"]), Scaffold.rootAt (.static, ["static"])] := by
    decide +kernel
  have nothing {root : ContentKind × List String} (isRoot : root ∈ Scaffold.roots)
      (notDocs : root.2.head? ≠ some "docs") :
      disk.acceptedNames (siteDirOf config) (Scaffold.rootAt root) = [] := by
    refine List.eq_nil_iff_forall_not_mem.mpr fun names member => ?_
    obtain ⟨page, -, same, -⟩ := site.of_mem_acceptedNames isRoot member
    obtain ⟨first, rest, isFront⟩ := List.exists_cons_of_ne_nil (Scaffold.roots_ne_nil root isRoot)
    rw [isFront] at notDocs same
    exact notDocs (congrArg List.head? same)
  rw [Disk.candidates_value, roots, List.flatMap_cons, List.flatMap_cons, List.flatMap_singleton,
    nothing (by simp [Scaffold.roots]) (by decide), nothing (by simp [Scaffold.roots]) (by decide),
    site.acceptedNames_docs]
  simp

/-- A page that is there is read as the file of the site that it is meant to be. -/
theorem Scaffolded.loadOn_page (site : Scaffolded config front name disk) {page : String × String}
    (isPage : page ∈ Scaffold.pages) (isThere : disk.holdsPage front page = true) :
    (Candidate.ofNames (siteDirOf config) Scaffold.docsRoot [page.1]).loadOn disk Scaffold.site =
      .ok ((Scaffold.file page.1).readFrom (Scaffold.pagePath config page)) := by
  have isMarkdown : (Candidate.ofNames (siteDirOf config) Scaffold.docsRoot [page.1]).isMarkdown =
      true := by
    refine (Candidate.isMarkdown_ofNames ?_).mpr ⟨by decide, ?_⟩
    · rw [List.forall_mem_singleton]
      exact Scaffold.isFileName page isPage
    · cases Scaffold.accepts_page page isPage with
      | doc markdown _ => exact markdown
  have reads : disk.readText (Scaffold.pagePath config page) = .ok page.2 := by
    refine Disk.readText_of_spot? ?_ ((site.spot?_page isPage).mp isThere)
    rw [Scaffold.pagePath, Path.ofNames_singleton]
    exact site.pageAt page isPage
  have isSource : (Candidate.ofNames (siteDirOf config) Scaffold.docsRoot [page.1]).sourcePath =
      Scaffold.pagePath config page := rfl
  rw [Candidate.loadOn, if_pos isMarkdown, isSource, reads]
  exact Scaffold.ofSource_page (siteDirOf config) page isPage

/-- **What is discovered of a new site are the pages that are there.** -/
theorem Scaffolded.discovers (site : Scaffolded config front name disk) {tree : ContentTree} :
    ContentTree.DiscoveredOn disk (siteDirOf config) Scaffold.site tree ↔
      tree = Scaffold.treeOf (disk.holdsPage front) (Scaffold.pagePath config) := by
  have discovered : ContentTree.DiscoveredOn disk (siteDirOf config) Scaffold.site
      (Scaffold.treeOf (disk.holdsPage front) (Scaffold.pagePath config)) := by
    rw [ContentTree.discoveredOn_iff, site.candidates, Scaffold.treeOf, List.forall₂_map_left_iff,
      List.forall₂_map_right_iff, List.forall₂_same]
    intro page kept
    obtain ⟨isPage, isThere⟩ := List.mem_filter.mp kept
    exact site.loadOn_page (List.mem_reverse.mp isPage) isThere
  constructor
  · intro other
    exact Except.ok.inj (other.symm.trans discovered)
  · rintro rfl
    exact discovered

end Discovered

/-! ## What a check comes to -/

section Checked

variable {disk : Disk} {config : Path} {siteDir : Option Path} {site : SiteConfig} {verbose : Bool}
  {handled : Enforcement} {race : Race} {front : List String} {name : String} {format : ConfigFormat}

theorem value_checkLinks (config : SiteConfig) (tree : ContentTree) :
    (checkLinks config tree).value = LinkReport.ofSite config tree :=
  rfl

/-- A configuration that does not load ends a check. -/
theorem admissionAccount_of_refused {skipLinks : Bool} {cause : ConfigError}
    (refused : (SiteConfig.loadOn disk config).value = .error cause) :
    (admissionAccount disk config siteDir skipLinks race).run.value =
      .error (.invalidConfig config cause) := by
  rw [admissionAccount, Task.Account.value_bind, configAccount, Task.Account.value_bind,
    Task.Account.value_keep, refused]
  rfl

theorem Notice.isShown_checkPassed (verbose : Bool) (milliseconds : String) (warned logged ignored : Nat) :
    isShown verbose (.checkPassed milliseconds warned logged ignored) = true := by
  cases verbose <;> rfl

/-- A check that passes says what it has counted. -/
theorem runOn_check_passed (siteDir : Option Path) (verbose : Bool)
    (loads : SiteConfig.LoadsOn disk config site)
    (passes : (linksAccount disk site (siteDir.getD (siteDirOf config)) race).run.value =
      .ok handled) :
    ((Command.check siteDir).runOn config verbose disk race).1.exitCode = 0 ∧
      .checkPassed "N" handled.warned handled.logged handled.ignored ∈
        ((Command.check siteDir).runOn config verbose disk race).1.notices := by
  have ran := reads_runCheck disk config siteDir race []
  have counted : (checkAccount disk config siteDir race).run.value = .ok () ∧
      .checkPassed "N" handled.warned handled.logged handled.ignored ∈
        (checkAccount disk config siteDir race).run.notices := by
    rw [checkAccount, ExceptT.run_bind, Logged.value_bind, Logged.notices_bind,
      configAccount_eq_ok.mpr loads]
    dsimp only
    rw [ExceptT.run_bind, Logged.value_bind, Logged.notices_bind, Task.Account.value_keep]
    dsimp only
    rw [ExceptT.run_bind, Logged.value_bind, Logged.notices_bind, passes]
    refine ⟨rfl, ?_⟩
    iterate 3 apply List.mem_append_right
    exact List.mem_singleton_self _
  rw [counted.1, List.nil_append] at ran
  have whole : ((Command.check siteDir).run config race).on [] disk =
      ((.ok "", (checkAccount disk config siteDir race).run.notices), disk) := by
    rw [Command.run, Task.on_bind_ok ran, Task.on_pure]
  rw [runOn_ok whole]
  dsimp only
  rw [List.mem_filter]
  exact ⟨rfl, counted.2, Notice.isShown_checkPassed verbose _ _ _ _⟩

theorem Scaffolded.loadOn (isNew : Scaffolded config front name disk)
    (supported : ConfigFormat.ofPath? config = some format) :
    (SiteConfig.loadOn disk config).value =
      if format = .toml then .ok Scaffold.site else .error (.malformed format) := by
  rw [SiteConfig.loadOn_value supported (Disk.readText_of_spot? isNew.located isNew.holdsConfig),
    Scaffold.ofSource_config]

/-- The links of a new site with both pages are enforced, and there is nothing to count. -/
theorem Scaffolded.links_whole (isNew : Scaffolded config front name disk)
    (whole : ∀ page ∈ Scaffold.pages, disk.holdsPage front page = true) :
    (linksAccount disk Scaffold.site (siteDirOf config) race).run.value = .ok {} := by
  have discovered : ContentTree.DiscoveredOn disk (siteDirOf config) Scaffold.site
      (Scaffold.treeOf (disk.holdsPage front) (Scaffold.pagePath config)) :=
    isNew.discovers.mpr rfl
  have clean : (checkLinks Scaffold.site
      (Scaffold.treeOf (disk.holdsPage front) (Scaffold.pagePath config))).value = {} := by
    rw [value_checkLinks, Scaffold.report_whole _ whole]
  rw [value_linksAccount, ContentTree.discoverOn_eq_ok.mpr discovered]
  show ((checkLinks _ _).value.enforce _).value.mapError _ = _
  rw [clean]
  rfl

/-- Without one of the pages, the links do not pass. -/
theorem Scaffolded.not_linksPass (isNew : Scaffolded config front name disk)
    (missing : ¬ ∀ page ∈ Scaffold.pages, disk.holdsPage front page = true) :
    ¬ LinksPass disk Scaffold.site (siteDirOf config) := by
  rintro ⟨tree, discovered, -, passes⟩
  rw [isNew.discovers.mp discovered] at passes
  exact passes ⟨rfl, Scaffold.report_partial _ missing⟩

/-- **What the first check of a site comes to.** -/
structure FirstCheck (config : Path) (format : ConfigFormat) (front : List String) (disk : Disk)
    (outcome : Outcome) : Prop where
  /-- It passes exactly if the path of the configuration asks for TOML and no directory stands at the
  place of a page. -/
  passes : outcome.exitCode = 0 ↔
    format = .toml ∧ ∀ page ∈ Scaffold.pages, disk.spot? (front ++ ["docs", page.1]) ≠ some .directory
  /-- A check that passes has found nothing to warn of, to log or to ignore. -/
  clean : outcome.exitCode = 0 → ∃ milliseconds, .checkPassed milliseconds 0 0 0 ∈ outcome.notices
  /-- In any other format the configuration is malformed. -/
  malformed : format ≠ .toml → outcome.failure = some (.invalidConfig config (.malformed format))

theorem Scaffolded.firstCheck (isNew : Scaffolded config front name disk)
    (supported : ConfigFormat.ofPath? config = some format) (verbose : Bool) (race : Race) :
    FirstCheck config format front disk ((Command.check none).runOn config verbose disk race).1 := by
  have loaded := isNew.loadOn supported
  by_cases isToml : format = .toml
  · rw [if_pos isToml] at loaded
    by_cases whole : ∀ page ∈ Scaffold.pages, disk.holdsPage front page = true
    · obtain ⟨succeeds, counted⟩ :=
        runOn_check_passed none verbose loaded (isNew.links_whole whole)
      exact {
        passes := iff_of_true succeeds
          ⟨isToml, fun page member => by simpa [Disk.holdsPage] using whole page member⟩
        clean := fun _ => ⟨"N", counted⟩
        malformed := fun other => absurd isToml other }
    · cases decided : (admissionAccount disk config none false race).run.value with
      | ok site =>
        obtain ⟨loads, impossible | passes⟩ := admissionAccount_eq_ok.mp decided
        · cases impossible
        · rw [SiteConfig.LoadsOn, loaded] at loads
          obtain rfl := Except.ok.inj loads
          exact absurd passes (isNew.not_linksPass whole)
      | error failure =>
        obtain ⟨said, checked⟩ := runOn_check_error verbose decided
        rw [checked]
        exact {
          passes := by simpa [isToml, Disk.holdsPage] using whole
          clean := by simp
          malformed := fun other => absurd isToml other }
  · rw [if_neg isToml] at loaded
    obtain ⟨said, checked⟩ := runOn_check_error verbose (admissionAccount_of_refused loaded)
    rw [checked]
    exact { passes := by simp [isToml], clean := by simp, malformed := fun _ => rfl }

end Checked

/-! ## Starting a site and checking it -/

/-- **The first check of a site that was started where there was no content** passes and finds nothing,
if the configuration is named as TOML and no directory is in the way of a page; otherwise it fails. -/
theorem check_of_init {config : Path} {format : ConfigFormat} {overwrite verbose : Bool} {disk : Disk}
    {front : List String} {name : String} (ascending : disk.top.Ascending)
    (supported : ConfigFormat.ofPath? config = some format)
    (absent : overwrite = true ∨ disk.holds config = false)
    (succeeded : ((Command.init overwrite).runOn config verbose disk).1.exitCode = 0)
    (located : ((Command.init overwrite).runOn config verbose disk).2.locate config =
      .ok (front ++ [name]))
    (empty : disk.NoContentBelow front) (verbose' : Bool) (race : Race) :
    FirstCheck config format front ((Command.init overwrite).runOn config verbose disk).2
      ((Command.check none).runOn config verbose'
        ((Command.init overwrite).runOn config verbose disk).2 race).1 := by
  obtain ⟨result, started, succeeds⟩ := runOn_init config overwrite verbose disk
  rw [succeeds.mp succeeded] at started
  exact (started.scaffolded absent ascending located empty).firstCheck supported verbose' race

/-- A disk without entries holds no content. -/
theorem Disk.noContentBelow_empty (front : List String) : Disk.NoContentBelow {} front := by
  intro root _ name names content found
  obtain ⟨first, rest, split⟩ :=
    List.exists_cons_of_ne_nil (List.append_ne_nil_of_right_ne_nil (front ++ root.2)
      (List.cons_ne_nil name names))
  rw [split] at found
  cases found

theorem Disk.ascending_empty : Entry.Ascending (Disk.top {}) :=
  .directory .nil nofun nofun

/-- A site is started in a directory that does not exist yet, and its first check passes. -/
theorem check_of_init_new :
    ConfigFormat.ofPath? ⟨"site/portico.TOML"⟩ = some .toml ∧
      Disk.holds {} ⟨"site/portico.TOML"⟩ = false ∧
      ((Command.init false).runOn ⟨"site/portico.TOML"⟩ false {}).1.exitCode = 0 ∧
      ((Command.init false).runOn ⟨"site/portico.TOML"⟩ false {}).2.locate ⟨"site/portico.TOML"⟩ =
        .ok ["site", "portico.TOML"] ∧
      ((Command.check none).runOn ⟨"site/portico.TOML"⟩ false
        ((Command.init false).runOn ⟨"site/portico.TOML"⟩ false {}).2).1.exitCode = 0 ∧
      ∃ milliseconds, .checkPassed milliseconds 0 0 0 ∈
        ((Command.check none).runOn ⟨"site/portico.TOML"⟩ false
          ((Command.init false).runOn ⟨"site/portico.TOML"⟩ false {}).2).1.notices := by
  have supported : ConfigFormat.ofPath? ⟨"site/portico.TOML"⟩ = some .toml := by decide +kernel
  have absent : Disk.holds {} ⟨"site/portico.TOML"⟩ = false := by decide +kernel
  have succeeded : ((Command.init false).runOn ⟨"site/portico.TOML"⟩ false {}).1.exitCode = 0 := by
    decide +kernel
  have located : ((Command.init false).runOn ⟨"site/portico.TOML"⟩ false {}).2.locate
      ⟨"site/portico.TOML"⟩ = .ok (["site"] ++ ["portico.TOML"]) := by
    decide +kernel
  have whole : ∀ page ∈ Scaffold.pages,
      ((Command.init false).runOn ⟨"site/portico.TOML"⟩ false {}).2.spot?
        (["site"] ++ ["docs", page.1]) ≠ some .directory := by
    decide +kernel
  have checked := check_of_init Disk.ascending_empty supported (.inr absent) succeeded located
    (Disk.noContentBelow_empty _) false .inOrder
  have passed := checked.passes.mpr ⟨rfl, whole⟩
  exact ⟨supported, absent, succeeded, located, passed, checked.clean passed⟩

/-- Where the path of the configuration asks for JSON, the site is started, but its first check fails: the
configuration cannot be read. -/
theorem check_of_init_json :
    Entry.Ascending (Disk.top {}) ∧ (∀ front, Disk.NoContentBelow {} front) ∧
      ConfigFormat.ofPath? ⟨"x.json"⟩ = some .json ∧
      ((Command.init false).runOn ⟨"x.json"⟩ false {}).1.exitCode = 0 ∧
      ((Command.check none).runOn ⟨"x.json"⟩ false
        ((Command.init false).runOn ⟨"x.json"⟩ false {}).2).1.exitCode ≠ 0 ∧
      ((Command.check none).runOn ⟨"x.json"⟩ false
        ((Command.init false).runOn ⟨"x.json"⟩ false {}).2).1.failure =
          some (.invalidConfig ⟨"x.json"⟩ (.malformed .json)) := by
  have supported : ConfigFormat.ofPath? ⟨"x.json"⟩ = some .json := by decide +kernel
  have absent : Disk.holds {} ⟨"x.json"⟩ = false := by decide +kernel
  have succeeded : ((Command.init false).runOn ⟨"x.json"⟩ false {}).1.exitCode = 0 := by
    decide +kernel
  have located : ((Command.init false).runOn ⟨"x.json"⟩ false {}).2.locate ⟨"x.json"⟩ =
      .ok ([] ++ ["x.json"]) := by
    decide +kernel
  obtain ⟨result, started, succeeds⟩ := runOn_init ⟨"x.json"⟩ false false {}
  rw [succeeds.mp succeeded] at started
  have checked := (started.scaffolded (.inr absent) Disk.ascending_empty located
    (Disk.noContentBelow_empty _)).firstCheck supported false .inOrder
  refine ⟨Disk.ascending_empty, Disk.noContentBelow_empty, supported, succeeded, ?_,
    checked.malformed nofun⟩
  intro passed
  exact absurd (checked.passes.mp passed).1 nofun

end Docsite
