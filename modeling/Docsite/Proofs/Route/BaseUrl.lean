/-
**Routes below a base URL.**

A base URL that is the path of a directory stands in front of every route of a documentation page: the
page is served at its route on a site at the root, behind the route of the base URL. A base URL is only
asked for a slash in front, though. Behind a query nothing of a page is left.

* `IsBasePath`: a base URL that is the path of a directory.
* `normalize_base_append`: the normal form of a path below it.
* `PlainPage.route_behindBase`: such a base URL is a prefix of the routes of pages with plain names.
* `ofDoc_behindSuffix`: with a query or a fragment, every page has the route of the base URL.
-/

import Docsite.Proofs.Config.Address
import Docsite.Proofs.Path.Relative
import Docsite.Proofs.Route.Plain
import Docsite.Route.Content

namespace Docsite.Route

open Url (IsKept Segment behindSlash namedPieces pathPieces walk)

/-! ## Base URLs -/

/-- The segments that a base URL leads through. -/
def baseSegments (baseUrl : String) : List Segment :=
  walk [] (pathPieces .web (behindSlash baseUrl.toList.tail)).dropLast

/-- A base URL is the path of a directory: it has no query and no fragment, no second slash in front
makes it a host, and the last segment that it leads through is not empty. -/
structure IsBasePath (baseUrl : String) : Prop where
  noEnd : ∀ c ∈ baseUrl.toList, Url.endsPath c = false
  single : ∀ c ∈ (behindSlash baseUrl.toList.tail).head?, Url.isEitherSlash c = false
  closed : (baseSegments baseUrl).getLast? ≠ some []

instance {baseUrl : String} : Decidable (IsBasePath baseUrl) :=
  decidable_of_iff
    (baseUrl.toList.all (!Url.endsPath ·) = true ∧
      (behindSlash baseUrl.toList.tail).head?.all (!Url.isEitherSlash ·) = true ∧
      (baseSegments baseUrl).getLast? ≠ some [])
    ⟨fun ⟨noEnd, single, closed⟩ =>
        ⟨by simpa using noEnd, by simpa [Option.all_eq_true] using single, closed⟩,
      fun ⟨noEnd, single, closed⟩ =>
        ⟨by simpa using noEnd, by simpa [Option.all_eq_true] using single, closed⟩⟩

theorem isKept_baseSegments (baseUrl : String) : ∀ segment ∈ baseSegments baseUrl, IsKept segment :=
  Url.walk_isKept
    (fun _ member => Url.noSlash_of_mem_pathPieces (List.dropLast_subset _ member))
    (List.forall_mem_nil _)

/-! ## Paths behind a base URL -/

section Characters

variable {rest below : List Char}

/-- A base URL ends in a slash, or nothing stands behind its first one. -/
theorem closed_behindSlash (ends : ('/' :: rest).getLast? = some '/') :
    (∀ c ∈ rest.getLast?, Url.isControlOrSpace c = false) ∧
      (behindSlash rest = [] ∨ ∃ before, behindSlash rest = before ++ ['/']) := by
  rcases List.eq_nil_or_concat rest with rfl | ⟨before, last, rfl⟩
  · exact ⟨nofun, .inl rfl⟩
  · rw [List.concat_eq_append] at ends ⊢
    rw [← List.cons_append, List.getLast?_concat] at ends
    obtain rfl := Option.some.inj ends
    have visible : ∀ c ∈ (before ++ ['/']).getLast?, Url.isControlOrSpace c = false := by
      intro c isLast
      rw [List.getLast?_concat] at isLast
      obtain rfl := Option.some.inj isLast
      decide
    rw [Url.behindSlash_eq_filter visible, List.filter_append]
    exact ⟨visible, .inr ⟨_, rfl⟩⟩

variable (ends : ('/' :: rest).getLast? = some '/')
  (keeps : ∀ c ∈ below, Url.keepsInPath c = true) (inner : [] ∉ (pathPieces .web below).dropLast)

include ends keeps inner

/-- A path behind a base URL does not make it a host. -/
theorem head?_behindBase (single : ∀ c ∈ (behindSlash rest).head?, Url.isEitherSlash c = false) :
    ∀ c ∈ (behindSlash (rest ++ below)).head?, Url.isEitherSlash c = false := by
  intro c first
  rw [Url.behindSlash_append keeps (closed_behindSlash ends).1, List.head?_append] at first
  rcases Option.or_eq_some_iff.mp first with inBase | ⟨-, inPath⟩
  · exact single c inBase
  · rw [← Url.behindSlash_plain keeps] at inner inPath
    exact head?_of_named inner c inPath

/-- **A path behind a base URL is walked from where the base URL leads.** -/
theorem resolve_behindBase :
    Url.resolve .web [] (pathPieces .web (behindSlash (rest ++ below))) =
        walk (walk [] (pathPieces .web (behindSlash rest)).dropLast) (namedPieces below) ∨
      Url.resolve .web [] (pathPieces .web (behindSlash (rest ++ below))) =
        walk (walk [] (pathPieces .web (behindSlash rest)).dropLast) (namedPieces below) ++ [[]] := by
  obtain ⟨visible, closed⟩ := closed_behindSlash ends
  have some := Url.pathPieces_ne_nil below
  rw [Url.behindSlash_append keeps visible, Url.pathPieces_append_closed below closed,
    Url.resolve_append [] _ some]
  exact Url.resolve_eq_walk some inner

end Characters

/-- Behind segments that are not empty, the last segment is not empty. -/
theorem closed_append {front back : List Segment} (closed : front.getLast? ≠ some [])
    (named : [] ∉ back) : (front ++ back).getLast? ≠ some [] := by
  intro empty
  rw [List.getLast?_append] at empty
  rcases Option.or_eq_some_iff.mp empty with inBack | ⟨-, inFront⟩
  · exact named (List.mem_of_getLast? inBack)
  · exact closed inFront

/-- A route behind that of the base URL. -/
def behindBase (baseUrl route : String) : String :=
  if route = "/" then normalize baseUrl else Text.trimEndOf '/' (normalize baseUrl) ++ route

section Bases

variable {baseUrl : String} {segments : List String} {closing : String}
  (rooted : baseUrl.toList.head? = some '/') (ends : baseUrl.toList.getLast? = some '/')
  (isPath : IsBasePath baseUrl)

include rooted ends isPath

/-- **A path behind a base URL leads through the segments of both.** -/
theorem normalize_base_append (plain : ∀ segment ∈ segments, IsPlain segment)
    (closed : closing = "" ∨ closing = "/" ∧ segments ≠ []) :
    normalize (baseUrl ++ (Text.joinWith "/" segments ++ closing)) =
      through ((baseSegments baseUrl).map String.ofList ++ segments) := by
  obtain ⟨rest, spelled⟩ := List.head?_eq_some_iff.mp rooted
  obtain ⟨noEnd, single, named⟩ := isPath
  rw [baseSegments] at named ⊢
  rw [spelled] at ends noEnd
  rw [spelled, List.tail_cons] at single named ⊢
  have keeps : ∀ c ∈ (Text.joinWith "/" segments ++ closing).toList, Url.keepsInPath c = true := by
    refine Path.forall_mem_closed (by decide) (fun segment member c inSegment => ?_)
      (closed.imp_right And.left)
    exact (isPlainChar_spec ((plain segment member).plain c inSegment)).1
  obtain ⟨inner, pieces⟩ := namedPieces_plain plain closed
  have text : baseUrl ++ (Text.joinWith "/" segments ++ closing) =
      String.ofList ('/' :: (rest ++ (Text.joinWith "/" segments ++ closing).toList)) := by
    rw [← String.toList_inj, String.toList_append, spelled, String.toList_ofList, List.cons_append]
  have noEnds : ∀ c ∈ rest ++ (Text.joinWith "/" segments ++ closing).toList,
      Url.endsPath c = false := by
    intro c member
    rcases List.mem_append.mp member with inBase | inPath
    · exact noEnd c (List.mem_cons_of_mem '/' inBase)
    · exact Url.endsPath_eq_false (keeps c inPath)
  have walked := resolve_behindBase ends keeps inner
  rw [pieces, Url.walk_kept (isKept_plain plain)] at walked
  rw [text, normalize_resolved noEnds (head?_behindBase ends keeps inner single) walked
    (closed_append named (nil_notMem_plain plain)), List.map_append, map_ofList_toList]

theorem normalize_base : normalize baseUrl = through ((baseSegments baseUrl).map String.ofList) := by
  have alone := normalize_base_append rooted ends isPath (List.forall_mem_nil _) (.inl rfl)
  have nothing : Text.joinWith "/" [] ++ "" = "" := rfl
  rw [List.append_nil, nothing, String.append_empty] at alone
  exact alone

/-- **A route behind that of the base URL** leads through the segments of both, too. -/
theorem behindBase_through (plain : ∀ segment ∈ segments, IsPlain segment) :
    behindBase baseUrl (through segments) =
      through ((baseSegments baseUrl).map String.ofList ++ segments) := by
  rw [behindBase, normalize_base rooted ends isPath]
  split
  · next atRoot =>
    have nothing : segments = [] := by
      by_contra some
      exact joinWith_ne_empty plain some ((String.append_right_inj "/").mp atRoot)
    rw [nothing, List.append_nil]
  · next below =>
    have some : segments ≠ [] := by
      rintro rfl
      exact below rfl
    rw [trimEndOf_through (isKept_baseSegments baseUrl) isPath.closed,
      append_through (baseSegments baseUrl) some]

end Bases

/-- **Behind a query or a fragment, a path is lost.** -/
theorem normalize_append_suffix {baseUrl : String} (suffix : ∃ c ∈ baseUrl.toList, Url.endsPath c = true)
    (path : String) : normalize (baseUrl ++ path) = normalize baseUrl := by
  obtain ⟨c, member, isEnd⟩ := suffix
  have cut : cutSuffixes (baseUrl ++ path) = cutSuffixes baseUrl := by
    rw [cutSuffixes, cutSuffixes, String.toList_append, List.takeWhile_append]
    split
    · next whole =>
      have uncut := (List.takeWhile_prefix (!Url.endsPath ·)).eq_of_length whole
      have inside := List.takeWhile_eq_self_iff.mp uncut c member
      rw [isEnd] at inside
      cases inside
    · rfl
  rw [normalize, normalize, normalChars, normalChars, cut]

/-! ## Pages -/

/-- A documentation page with plain names, served below a path of plain segments. -/
structure PlainPage where
  /-- The segments below which the documentation is served. -/
  first : List String
  /-- The directories that the page is in. -/
  above : List String
  name : String
  extension : String
  isFirst : ∀ segment ∈ first, IsPlain segment
  isAbove : ∀ segment ∈ above, IsPlain segment
  isName : IsPlain name
  isMarkdown : extension = "md" ∨ extension = "mdx"

namespace PlainPage

/-- The path of the page inside the documentation directory. -/
def path (page : PlainPage) : Path :=
  .ofNames (page.above ++ [page.name ++ "." ++ page.extension])

/-- The route of the page, if it says nothing about itself. -/
def route (page : PlainPage) (baseUrl : String) : String :=
  ofDoc baseUrl (Text.joinWith "/" page.first) page.path none

/-- The segments of that route below the path of the documentation. -/
def below (page : PlainPage) : List String :=
  let above := page.above.map NumberPrefix.strip
  let stem := NumberPrefix.strip page.name
  if isDocIndex stem then above else above ++ [stem]

variable (page : PlainPage) {baseUrl : String}

theorem isPlain_below : ∀ segment ∈ page.below, IsPlain segment := by
  have isAbove : ∀ segment ∈ page.above.map NumberPrefix.strip, IsPlain segment := by
    intro segment member
    obtain ⟨name, isName, rfl⟩ := List.mem_map.mp member
    exact (page.isAbove name isName).strip
  unfold below
  dsimp only
  split
  · exact isAbove
  · exact List.forall_mem_append.mpr
      ⟨isAbove, List.forall_mem_singleton.mpr page.isName.strip⟩

/-- The name of the file is a name, and it is cut at its extension. -/
theorem fileName_spec : Path.IsName (page.name ++ "." ++ page.extension) ∧
    Path.cutExtension (page.name ++ "." ++ page.extension) = (page.name, some page.extension) := by
  obtain ⟨noSlash, noDot⟩ : '/' ∉ page.extension.toList ∧ '.' ∉ page.extension.toList := by
    rcases page.isMarkdown with same | same <;>
      · rw [same]
        decide
  have spelled : (page.name ++ "." ++ page.extension).toList =
      page.name.toList ++ '.' :: page.extension.toList := by
    rw [String.toList_append, String.toList_append, List.append_assoc]
    rfl
  have named : page.name.toList ≠ [] := mt String.toList_eq_nil_iff.mp page.isName.named
  have letter : 'm' ∈ (page.name ++ "." ++ page.extension).toList := by
    rw [spelled]
    refine List.mem_append_right _ (List.mem_cons_of_mem '.' ?_)
    rcases page.isMarkdown with same | same <;>
      · rw [same]
        decide
  constructor
  · refine ⟨?_, ?_, ?_, fun member => ?_⟩
    · exact fun same => absurd (same ▸ letter) (by decide)
    · exact fun same => absurd (same ▸ letter) (by decide)
    · exact fun same => absurd (same ▸ letter) (by decide)
    · rw [spelled] at member
      rcases List.mem_append.mp member with inName | behind
      · exact page.isName.notMem (by decide) inName
      · exact (List.mem_cons.mp behind).elim (by decide) noSlash
  · rw [Path.cutExtension_append spelled noDot, if_neg named, String.ofList_toList,
      String.ofList_toList]

/-- The path of the page below that of the documentation. -/
theorem docPath_path : docPath page.path none = Text.joinWith "/" page.below := by
  obtain ⟨isFile, cut⟩ := page.fileName_spec
  have areAbove : ∀ name ∈ page.above, Path.IsName name := fun name member =>
    (page.isAbove name member).isName
  have areNames : ∀ name ∈ page.above ++ [page.name ++ "." ++ page.extension], Path.IsName name :=
    List.forall_mem_append.mpr ⟨areAbove, List.forall_mem_singleton.mpr isFile⟩
  have stem : page.path.stem? = some page.name := by
    rw [Path.stem?, path, Path.fileName?_ofNames areNames, List.getLast?_concat, Option.map_some, cut]
  have above : directories page.path = page.above := by
    rw [directories, path, Path.parent?_ofNames areNames, Option.getD_some,
      Path.names_ofNames areAbove]
  rw [docPath, stem, above]
  rfl

/-- **The route of the page leads through the segments of the base URL, those of the documentation and
its own.** -/
theorem route_eq (rooted : baseUrl.toList.head? = some '/') (ends : baseUrl.toList.getLast? = some '/')
    (isPath : IsBasePath baseUrl) :
    page.route baseUrl =
      through ((baseSegments baseUrl).map String.ofList ++ (page.first ++ page.below)) := by
  have plain : ∀ segment ∈ page.first ++ page.below, IsPlain segment :=
    List.forall_mem_append.mpr ⟨page.isFirst, page.isPlain_below⟩
  obtain ⟨front, back⟩ := noSlash_joinWith page.isFirst
  have firstSame : Text.trimOf '/' (Text.joinWith "/" page.first) = Text.joinWith "/" page.first := by
    rw [Text.trimOf, Text.dropBothWhile_eq_self front back, String.ofList_toList]
  have belowSame : Text.trimStartOf '/' (Text.joinWith "/" page.below) =
      Text.joinWith "/" page.below := by
    rw [Text.trimStartOf, Text.dropWhile_eq_self (noSlash_joinWith page.isPlain_below).1,
      String.ofList_toList]
  rw [route, ofDoc, docPath_path, Route.below, firstSame, belowSame]
  by_cases atBase : page.first = []
  · have alone := normalize_base_append rooted ends isPath plain (.inl rfl)
    rw [atBase, List.nil_append, String.append_empty] at alone
    rw [atBase, List.nil_append]
    exact alone
  · have named : (Text.joinWith "/" page.first).isEmpty = false := by
      rw [String.isEmpty_eq_false_iff]
      exact joinWith_ne_empty page.isFirst atBase
    rw [named, if_neg Bool.false_ne_true, String.append_assoc, String.append_assoc]
    by_cases atFirst : page.below = []
    · have closed := normalize_base_append rooted ends isPath plain (.inr ⟨rfl, by simp [atBase]⟩)
      rw [atFirst, List.append_nil] at closed ⊢
      exact closed
    · have both := normalize_base_append rooted ends isPath plain (.inl rfl)
      rw [String.append_empty, joinWith_append atBase atFirst, String.append_assoc] at both
      exact both

end PlainPage

/-- **The route of a base URL stands in front of every route.** A page is served at its route on a site at
the root, behind the route of the base URL. So pages with different routes there have different routes
below the base URL, too. -/
theorem PlainPage.route_behindBase {declared baseUrl : String}
    (given : (validateBaseUrl declared).Gives baseUrl) (isPath : IsBasePath baseUrl) :
    (∀ page : PlainPage, page.route baseUrl = behindBase baseUrl (page.route "/")) ∧
      ∀ page other : PlainPage, page.route "/" ≠ other.route "/" →
        page.route baseUrl ≠ other.route baseUrl := by
  have served := gives_validateBaseUrl.mp given
  have atRoot (page : PlainPage) : page.route "/" = through (page.first ++ page.below) :=
    page.route_eq rfl rfl (by decide)
  have atBase (page : PlainPage) : page.route baseUrl =
      through ((baseSegments baseUrl).map String.ofList ++ (page.first ++ page.below)) :=
    page.route_eq served.head?_eq served.getLast?_eq isPath
  refine ⟨fun page => ?_, fun page other distinct same => distinct ?_⟩
  · rw [atRoot, atBase, behindBase_through served.head?_eq served.getLast?_eq isPath]
    exact List.forall_mem_append.mpr ⟨page.isFirst, page.isPlain_below⟩
  · rw [atBase, atBase] at same
    rw [atRoot, atRoot]
    exact through_append_inj same

/-- A page in a directory, both with ordering numbers. -/
def PlainPage.intro : PlainPage where
  first := ["docs"]
  above := ["01-start"]
  name := "2_intro"
  extension := "mdx"
  isFirst := by decide
  isAbove := by decide
  isName := by decide
  isMarkdown := .inr rfl

/-- The page that its directory stands for. -/
def PlainPage.readme : PlainPage where
  first := ["docs"]
  above := ["01-start"]
  name := "README"
  extension := "md"
  isFirst := by decide
  isAbove := by decide
  isName := by decide
  isMarkdown := .inl rfl

/-- Both pages below a directory with a blank in its name. -/
theorem PlainPage.route_behindBase_blank :
    (validateBaseUrl "/v 2/./x/..").Gives "/v 2/./x/../" ∧ IsBasePath "/v 2/./x/../" ∧
      intro.route "/" = "/docs/start/intro" ∧ readme.route "/" = "/docs/start" ∧
      intro.route "/v 2/./x/../" = "/v%202/docs/start/intro" ∧
      intro.route "/v 2/./x/../" ≠ readme.route "/v 2/./x/../" := by
  have given : (validateBaseUrl "/v 2/./x/..").Gives "/v 2/./x/../" :=
    gives_validateBaseUrl.mpr (.opened (List.isPrefixOf_iff_prefix.mp (by decide))
      fun ends => absurd (List.isSuffixOf_iff_suffix.mpr ends) (by decide))
  have isPath : IsBasePath "/v 2/./x/../" := by decide +kernel
  obtain ⟨behind, apart⟩ := route_behindBase given isPath
  have introRoute : intro.route "/" = "/docs/start/intro" := by decide +kernel
  have readmeRoute : readme.route "/" = "/docs/start" := by decide +kernel
  refine ⟨given, isPath, introRoute, readmeRoute, ?_, apart _ _ ?_⟩
  · rw [behind, introRoute]
    decide +kernel
  · rw [introRoute, readmeRoute]
    decide

/-- Behind a query or a fragment, every page has the route of the base URL. -/
theorem ofDoc_behindSuffix {baseUrl : String} (suffix : ∃ c ∈ baseUrl.toList, Url.endsPath c = true)
    (first : String) (relative : Path) (frontmatter : Option Frontmatter) :
    ofDoc baseUrl first relative frontmatter = normalize baseUrl := by
  rw [ofDoc, Route.below]
  split
  · exact normalize_append_suffix suffix _
  · rw [String.append_assoc, String.append_assoc]
    exact normalize_append_suffix suffix _

/-- With a query in the base URL, both pages have the same route, and it is not that of either of them
behind the base URL. -/
theorem PlainPage.route_behindQuery :
    (validateBaseUrl "/a?b").Gives "/a?b/" ∧
      intro.route "/" ≠ readme.route "/" ∧
      intro.route "/a?b/" = "/a" ∧ readme.route "/a?b/" = "/a" ∧
      behindBase "/a?b/" (intro.route "/") = "/a/docs/start/intro" := by
  have given : (validateBaseUrl "/a?b").Gives "/a?b/" :=
    gives_validateBaseUrl.mpr (.opened (List.isPrefixOf_iff_prefix.mp (by decide))
      fun ends => absurd (List.isSuffixOf_iff_suffix.mpr ends) (by decide))
  have lost (page : PlainPage) : page.route "/a?b/" = "/a" :=
    (ofDoc_behindSuffix ⟨'?', by decide, rfl⟩ _ _ _).trans (by decide +kernel)
  exact ⟨given, by decide +kernel, lost intro, lost readme, by decide +kernel⟩

end Docsite.Route
