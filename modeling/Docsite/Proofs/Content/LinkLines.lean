/-
**The lines of links.**

The line of a link is told by the file, not by the body that the link was found in: it is one more than
the number of line feeds in front of the link, those in the frontmatter and in the white space around it
included.

* `linesBefore_of_suffix`: the line feeds that are not in the body stand in front of it.
* `Candidate.load_lines`: the lines of the links of a page.
-/

import Docsite.Proofs.Content.Discovery
import Docsite.Proofs.Content.FramedPages

namespace Docsite

/-! ## Line feeds -/

section Lines

variable {source body : String}

/-- **The line feeds that are not in the body stand in front of it**: together with those of the body
before a position, they are the line feeds of the page before it. -/
theorem Candidate.linesBefore_of_suffix (behind : body.toList <:+ source.toList) (position : Nat) :
    linesBefore source body + (body.toList.take position).count '\n' =
      (source.toList.take (source.length - body.length + position)).count '\n' := by
  obtain ⟨front, split⟩ := behind
  have before : linesBefore source body = front.count '\n' := by
    rw [linesBefore, ← split, List.count_append, Nat.add_sub_cancel]
  have length : source.length - body.length = front.length := by
    rw [← String.length_toList, ← String.length_toList, ← split, List.length_append,
      Nat.add_sub_cancel]
  rw [before, length, ← split, List.take_length_add_append, List.count_append]

/-- The line of a link in the body of a page is the line of the page on which it stands. -/
theorem MarkdownLink.extract_of_suffix (behind : body.toList <:+ source.toList) :
    extract body (Candidate.linesBefore source body) =
      (found body.toList).map fun (target, position) =>
        { target, line := 1 +
            (source.toList.take (source.length - body.length + position)).count '\n' } := by
  refine List.map_congr_left fun (target, position) _ => congrArg (MarkdownLink.mk target) ?_
  rw [countP_lineFeeds, ← Candidate.linesBefore_of_suffix behind position]
  omega

end Lines

/-! ## Pages -/

/-- **The line of a link is its line in the file.** The body of a page is the end of the file. Wherever
the page is read from, a link that is found in the body stands on the line that is one more than the
number of line feeds in the file before it. References are looked up without a bound, as
`MarkdownLink.found` says; which links are found does not matter for the line of any of them. -/
theorem Candidate.load_lines {source body : String} {frontmatter : Option Frontmatter}
    (splits : Frontmatter.split source = .ok (frontmatter, body)) :
    body.toList <:+ source.toList ∧
      ∀ (disk : Disk) (config : SiteConfig) (file : Candidate), file.isMarkdown = true →
        disk.readText file.sourcePath = .ok source →
          ∃ page, (file.load config : StateM Disk _).run disk = (.ok page, disk) ∧
            page.links = (MarkdownLink.found body.toList).map fun (target, position) =>
              { target, line := 1 +
                  (source.toList.take (source.length - body.length + position)).count '\n' } := by
  have behind := Frontmatter.suffix_of_split splits
  refine ⟨behind, fun disk config file markdown reads => ?_⟩
  obtain ⟨page, isPage, links⟩ := file.ofSource_of_split config splits
  refine ⟨page, ?_, links.trans (MarkdownLink.extract_of_suffix behind)⟩
  rw [run_load, loadOn, if_pos markdown, reads]
  exact congrArg (·, disk) isPage

/-- A page with carriage returns, and with empty lines in front of its frontmatter and behind it. -/
def carriagePage : String :=
  "\r\n---\r\ntitle: Notes\r\n---\r\n\r\n\r\nSee\r\n[home](/) and\r\n[more](more.md)\r\n"

/-- Its links stand on the last two of its nine lines. -/
theorem Candidate.load_lines_carriage :
    let disk : Disk := { top := .directory [
      ("src", .directory [("pages", .directory [("notes.md", .file (.text carriagePage))])])] }
    ∃ page, (notes.load .bare : StateM Disk _).run disk = (.ok page, disk) ∧
      page.links = [⟨"/", 8⟩, ⟨"more.md", 9⟩] := by
  intro disk
  have reads : disk.readText notes.sourcePath = .ok carriagePage := by decide +kernel
  have splits : Frontmatter.split carriagePage = .ok (some { title := some "Notes" },
      "See\r\n[home](/) and\r\n[more](more.md)\r\n") := by
    decide +kernel
  obtain ⟨-, loads⟩ := load_lines splits
  obtain ⟨page, loaded, links⟩ := loads disk .bare notes (by decide) reads
  refine ⟨page, loaded, links.trans ?_⟩
  decide +kernel

end Docsite
