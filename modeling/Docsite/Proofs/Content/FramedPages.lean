/-
**Links of pages with frontmatter.**

Frontmatter in front of a page moves its links down by the lines that were added. The white space
between the frontmatter and the body is lost, though. That is the same page only as long as the body does
not start with the indentation of a line: without it, code becomes running text.

* `StartsFlush`: a body whose first line with text is not indented.
* `Candidate.ofSource_front`: the links of a page with frontmatter in front.
-/

import Docsite.Content.File
import Docsite.Proofs.Config.Navigation
import Docsite.Proofs.Frontmatter.Framed
import Docsite.Proofs.Markdown.Blank

namespace Docsite

/-! ## Links further down -/

/-- A link some lines further down. -/
def MarkdownLink.later (lines : Nat) (link : MarkdownLink) : MarkdownLink :=
  { link with line := link.line + lines }

theorem MarkdownLink.extract_add (content : String) (offset more : Nat) :
    extract content (offset + more) = (extract content offset).map (later more) := by
  unfold extract
  rw [List.map_map]
  exact List.map_congr_left fun _ _ => congrArg (MarkdownLink.mk _) (Nat.add_assoc _ _ _).symm

/-! ## Bodies -/

/-- The first character of a body that is no white space starts a line, and only white space of Markdown
stands in front of it. -/
def StartsFlush (body : String) : Prop :=
  ∃ space text, body.toList = space ++ text ∧ Markdown.Flush space text

section Bodies

variable {body : String}

theorem toList_trimStart (body : String) :
    body.toList = body.toList.takeWhile Text.isBlank ++ (Text.trimStart body).toList := by
  rw [Text.trimStart, String.toList_ofList, List.takeWhile_append_dropWhile]

theorem StartsFlush.flush (starts : StartsFlush body) :
    Markdown.Flush (body.toList.takeWhile Text.isBlank) (Text.trimStart body).toList := by
  obtain ⟨space, text, spelled, flush⟩ := starts
  have blank : ∀ c ∈ space, Text.isBlank c = true := fun c member =>
    Markdown.isBlank_of_isSpace (flush.isSpace c member)
  have isText : (Text.trimStart body).toList = text := by
    rw [Text.trimStart, String.toList_ofList, spelled, List.dropWhile_append_of_pos blank,
      Text.dropWhile_eq_self flush.starts]
  have isSpace : body.toList.takeWhile Text.isBlank = space := by
    have both := toList_trimStart body
    rw [isText] at both
    exact List.append_cancel_right (both.symm.trans spelled)
  rw [isSpace, isText]
  exact flush

theorem Frontmatter.opens_trimStart {opened : List Char} :
    Opens (Text.trimStart body) opened ↔ Opens body opened := by
  have again : Text.trimStart (Text.trimStart body) = Text.trimStart body := by
    rw [Text.trimStart, Text.trimStart, String.toList_ofList,
      Text.dropWhile_eq_self fun _ => Text.head?_dropWhile]
  rw [opens_iff, opens_iff, again]

end Bodies

/-! ## Pages -/

namespace Candidate

section Reading

variable {source body : String} {frontmatter : Option Frontmatter}

theorem ofSource_of_split (file : Candidate) (config : SiteConfig)
    (splits : Frontmatter.split source = .ok (frontmatter, body)) :
    ∃ page, file.ofSource config source = .ok page ∧
      page.links = MarkdownLink.extract body (linesBefore source body) := by
  unfold ofSource
  rw [splits]
  exact ⟨_, rfl, rfl⟩

theorem ofSource_of_absent (file : Candidate) (config : SiteConfig)
    (absent : ∀ opened, ¬ Frontmatter.Opens source opened) :
    ∃ page, file.ofSource config source = .ok page ∧
      page.links = MarkdownLink.extract source 0 := by
  obtain ⟨page, isPage, links⟩ := file.ofSource_of_split config (Frontmatter.split_of_absent absent)
  rw [linesBefore, Nat.sub_self] at links
  exact ⟨page, isPage, links⟩

end Reading

theorem linesBefore_front (front body : String) :
    linesBefore (front ++ body) (Text.trimStart body) =
      front.toList.count '\n' + (body.toList.takeWhile Text.isBlank).count '\n' := by
  have inBody := congrArg (List.count '\n') (toList_trimStart body)
  rw [List.count_append] at inBody
  rw [linesBefore, String.toList_append, List.count_append]
  omega

/-- **Frontmatter in front of a page.** The links of the page are those of its body without the white
space in front of it, further down by the lines of both. If the body starts flush, they are those of the
body itself, further down by the lines that were added.

References are looked up without a bound, as `MarkdownLink.found` says. With one that grows with the text
the second part is about pages that stay below it, since the text without the white space is the shorter
one. -/
theorem ofSource_front (file : Candidate) (config : SiteConfig) {block body : String}
    {frontmatter : Frontmatter} (unmarked : Frontmatter.IsUnmarked block)
    (reads : Frontmatter.ofBlock? (Text.trim block) = some frontmatter)
    (absent : ∀ opened, ¬ Frontmatter.Opens body opened) :
    ∃ plain trimmed framed, file.ofSource config body = .ok plain ∧
      file.ofSource config (Text.trimStart body) = .ok trimmed ∧
      file.ofSource config (Frontmatter.front block ++ body) = .ok framed ∧
      framed.links = trimmed.links.map (.later ((Frontmatter.front block).toList.count '\n' +
        (body.toList.takeWhile Text.isBlank).count '\n')) ∧
      (StartsFlush body →
        framed.links = plain.links.map (.later ((Frontmatter.front block).toList.count '\n'))) := by
  obtain ⟨plain, readsPlain, plainLinks⟩ := file.ofSource_of_absent config absent
  obtain ⟨trimmed, readsTrimmed, trimmedLinks⟩ := file.ofSource_of_absent config
    fun opened opens => absent opened (Frontmatter.opens_trimStart.mp opens)
  obtain ⟨framed, readsFramed, framedLinks⟩ :=
    file.ofSource_of_split config (Frontmatter.split_framed unmarked reads)
  rw [linesBefore_front] at framedLinks
  refine ⟨plain, trimmed, framed, readsPlain, readsTrimmed, readsFramed, ?_, fun flush => ?_⟩
  · rw [framedLinks, trimmedLinks, ← MarkdownLink.extract_add, Nat.zero_add]
  · rw [framedLinks, plainLinks, ← MarkdownLink.extract_add, Nat.zero_add,
      MarkdownLink.extract_space_append flush.flush (toList_trimStart body), Nat.add_comm]

/-- A page below the directory of pages. -/
def notes : Candidate where
  kind := .page
  sourcePath := ⟨"./src/pages/notes.md"⟩
  sitePath := ⟨"src/pages/notes.md"⟩
  relative := ⟨"notes.md"⟩

/-- A link behind an empty line is three lines further down behind a block of one line. -/
theorem ofSource_front_notes :
    StartsFlush "\n[home](/)" ∧ ∃ plain framed,
      notes.ofSource .bare "\n[home](/)" = .ok plain ∧
      notes.ofSource .bare (Frontmatter.front "title: Notes" ++ "\n[home](/)") = .ok framed ∧
      plain.links = [⟨"/", 2⟩] ∧ framed.links = [⟨"/", 5⟩] := by
  have unmarked : Frontmatter.IsUnmarked "title: Notes" := by decide +kernel
  have reads : Frontmatter.ofBlock? (Text.trim "title: Notes") = some { title := some "Notes" } := by
    decide +kernel
  have absent : ∀ opened, ¬ Frontmatter.Opens "\n[home](/)" opened :=
    Frontmatter.forall_not_opens_iff.mpr (by decide +kernel)
  have starts : StartsFlush "\n[home](/)" := by
    refine ⟨['\n'], '[' :: "home](/)".toList, by decide +kernel, ?_, ?_, ?_⟩
    · exact fun c isFeed => List.mem_singleton.mp isFeed ▸ rfl
    · exact fun c isFirst => Option.some.inj isFirst ▸ rfl
    · exact .inr (.inr ⟨'\n', rfl, rfl⟩)
  obtain ⟨plain, _, framed, isPlain, _, isFramed, _, moved⟩ :=
    notes.ofSource_front .bare unmarked reads absent
  have links : (notes.ofSource .bare "\n[home](/)").map ContentFile.links = .ok [⟨"/", 2⟩] := by
    decide +kernel
  rw [isPlain] at links
  have plainLinks : plain.links = [⟨"/", 2⟩] := Except.ok.inj links
  refine ⟨starts, plain, framed, isPlain, isFramed, plainLinks, ?_⟩
  rw [moved starts, plainLinks]
  decide +kernel

/-- An indented line is code. Behind frontmatter it loses its indentation, and what looks like a link in
it becomes one. -/
theorem ofSource_indentedCode :
    Frontmatter.IsUnmarked "title: Notes" ∧
      Frontmatter.ofBlock? (Text.trim "title: Notes") = some { title := some "Notes" } ∧
      (∀ opened, ¬ Frontmatter.Opens "    [x](y)" opened) ∧
      (notes.ofSource .bare "    [x](y)").map ContentFile.links = .ok [] ∧
      (notes.ofSource .bare (Frontmatter.front "title: Notes" ++ "    [x](y)")).map
        ContentFile.links = .ok [⟨"y", 4⟩] := by
  refine ⟨by decide +kernel, by decide +kernel, ?_, by decide +kernel, by decide +kernel⟩
  exact Frontmatter.forall_not_opens_iff.mpr (by decide +kernel)

end Candidate

end Docsite
