/-
**Where links stand.**

A link stands where its bracket opens, and that is inside the text it was read from. So a text that
stands further on has the same links, further on.

* `State.Placed`: every bracket that was read stands in front of a character.
* `links_shift`: the links of a stretch that stands further on.
* `found_of_blocks_shift`: the links of a text whose blocks stand further on.
* `countP_lineFeeds_append`: the line feeds before a position in a text behind another one.
* `countP_lineFeeds`: they are counted in the text in front of the position.
-/

import Docsite.Markdown.Link
import Docsite.Proofs.Markdown.Shift

namespace Docsite.Markdown

/-! ## Positions in lines -/

theorem length_joinLines_cons {line : Line} {lines : List Line} :
    (joinLines (line :: lines)).length = line.length + (joinLines lines).length := by
  rw [joinLines, List.flatMap_cons, List.length_append, List.length_append]
  rfl

/-- A character of lines that stand further on stands further on itself. -/
theorem positionIn_shift {distance index : Nat} {lines : List Line}
    (inside : index < (joinLines lines).length) :
    positionIn (lines.map (Line.shift distance)) index = positionIn lines index + distance := by
  induction lines generalizing index with
  | nil => exact absurd inside (Nat.not_lt_zero index)
  | cons line more ih =>
    rw [length_joinLines_cons] at inside
    rw [List.map_cons, positionIn, positionIn]
    show (if index < line.length then line.start + distance + index
      else positionIn (more.map (Line.shift distance)) (index - line.length)) = _
    split
    · exact Nat.add_right_comm _ _ _
    · exact ih (by omega)

namespace Inline

/-! ## Brackets that were read -/

/-- Every open bracket, and that of every link, stands in front of a character. -/
structure State.Placed (state : State) : Prop where
  openers : ∀ opener ∈ state.openers, opener.start ≠ []
  links : ∀ link ∈ state.links, link.1.start ≠ []

section Reading

variable {labels : Labels} {inTable : Bool} {state : State} {opener : Opener} {openers : List Opener}

theorem State.Placed.withOpeners (placed : state.Placed)
    (others : ∀ other ∈ openers, other.start ≠ []) : ({ state with openers } : State).Placed :=
  ⟨others, placed.links⟩

theorem State.Placed.addLink (placed : state.Placed) (opened : opener.start ≠ [])
    (others : ∀ other ∈ openers, other.start ≠ []) {destination : List Char} :
    (state.addLink opener openers destination).Placed := by
  unfold State.addLink
  split
  · constructor
    · intro other member
      obtain ⟨before, isBefore, rfl⟩ := List.mem_map.mp member
      split
      · exact others before isBefore
      · exact others before isBefore
    · intro link member
      rcases List.mem_cons.mp member with rfl | member
      · exact opened
      · exact placed.links link member
  · exact placed.withOpeners others

theorem State.Placed.closeByLabel (placed : state.Placed) (opened : opener.start ≠ [])
    (others : ∀ other ∈ openers, other.start ≠ []) {behind behindLink : List Char} :
    (closeByLabel labels inTable state opener openers behind behindLink).1.Placed := by
  have without : ({ state with openers } : State).Placed := placed.withOpeners others
  unfold Inline.closeByLabel
  dsimp only
  split
  · split
    · exact without
    · split
      · split
        · exact placed.withOpeners nofun
        · exact without
      · split
        · exact placed.addLink opened others
        · exact without
  · exact without

/-- A closing bracket keeps every bracket in its place. -/
theorem State.Placed.close (placed : state.Placed) {behind : List Char} :
    (close labels inTable state behind).1.Placed := by
  unfold Inline.close
  split
  · exact placed
  · next opener openers isOpen =>
    have opened : opener.start ≠ [] := placed.openers opener (isOpen ▸ List.mem_cons_self)
    have others : ∀ other ∈ openers, other.start ≠ [] := fun other member =>
      placed.openers other (isOpen ▸ List.mem_cons_of_mem opener member)
    have without : ({ state with openers } : State).Placed := placed.withOpeners others
    split
    · exact without
    · split
      · exact placed.addLink opened others
      · split
        · exact placed.addLink opened others
        · exact ⟨others, placed.links⟩
      · split
        · exact without
        · exact placed.closeByLabel opened others
      · split
        · exact without
        · exact placed.closeByLabel opened others

/-- **Reading on keeps every bracket in its place.** -/
theorem State.Placed.readFrom {fuel : Nat} {cs : List Char} (placed : state.Placed) :
    (readFrom labels inTable fuel state cs).Placed := by
  induction fuel generalizing state cs with
  | zero => exact placed
  | succ fuel ih =>
    cases cs with
    | nil => exact placed
    | cons c rest =>
      have openedAt {role : Role} {inner : List Char} :
          ({ state with openers := ⟨role, c :: rest, inner⟩ :: state.openers } : State).Placed := by
        refine placed.withOpeners fun other member => ?_
        rcases List.mem_cons.mp member with rfl | member
        · exact List.cons_ne_nil c rest
        · exact placed.openers other member
      unfold Inline.readFrom
      split
      · split
        · exact ih placed
        · split
          · exact ih placed
          · exact ih placed
      · exact ih placed
      · exact ih placed
      · exact ih openedAt
      · exact ih openedAt
      · exact ih placed.close
      · exact ih placed

end Reading

/-! ## Links of a stretch -/

/-- A target, with some more characters of the text before it. -/
def shiftLink (distance : Nat) (link : String × Nat) : String × Nat :=
  (link.1, link.2 + distance)

/-- **The links of a stretch that stands further on** are the same, further on. -/
theorem links_shift {distance : Nat} {labels : Labels} {text : Stretch} :
    links labels (text.shift distance) = (links labels text).map (shiftLink distance) := by
  have chars : (text.shift distance).chars = text.chars := joinLines_shift
  have placed : (readFrom labels text.inTable text.chars.length {} text.chars).Placed :=
    State.Placed.readFrom ⟨nofun, nofun⟩
  unfold links
  rw [chars, List.map_map]
  refine List.map_congr_left fun (opener, destination) member => ?_
  -- Only a position inside the lines moves along with them.
  have opened := List.length_pos_iff.mpr (placed.links _ (List.mem_reverse.mp member))
  have nonempty : 0 < text.chars.length := by
    refine Nat.pos_of_ne_zero fun empty => ?_
    rw [empty] at member
    cases member
  exact Prod.ext rfl (positionIn_shift (Nat.sub_lt nonempty opened))

end Inline

end Docsite.Markdown

namespace Docsite.MarkdownLink

open Markdown

/-! ## Links of a text -/

section Texts

variable {distance : Nat} {blocks : List Block} {content other : List Char}

theorem labels_shift : labels (blocks.map (Block.shift distance)) = labels blocks := by
  unfold labels
  rw [List.filterMap_map, List.filterMap_map]
  congr 1
  · exact congrArg (List.filterMap · blocks) (funext fun block => by cases block <;> rfl)
  · exact congrArg (List.filterMap · blocks) (funext fun block => by cases block <;> rfl)

/-- **A text whose blocks are those of another one, further on,** has the links of that one, further
on. -/
theorem found_of_blocks_shift
    (further : Markdown.blocks (Line.split content) =
      (Markdown.blocks (Line.split other)).map (Block.shift distance)) :
    found content = (found other).map (Inline.shiftLink distance) := by
  unfold found
  dsimp only
  rw [further, labels_shift, List.flatMap_map, List.map_flatMap]
  congr 1
  funext block
  cases block with
  | stretch text => exact Inline.links_shift
  | definition label destination => rfl
  | note label => rfl

end Texts

/-! ## Lines of positions -/

section Counting

variable {front content : List Char} {position : Nat}

theorem length_lineFeeds (content : List Char) :
    (lineFeeds content).length = content.count '\n' := by
  have chars : content.count '\n' = (content.zipIdx.map Prod.fst).countP (· == '\n') := by
    rw [List.zipIdx_map_fst, List.count]
  rw [chars, List.countP_map, lineFeeds, List.length_map, List.countP_eq_length_filter]
  rfl

theorem lineFeeds_append :
    lineFeeds (front ++ content) = lineFeeds front ++ (lineFeeds content).map (· + front.length) := by
  have behind : content.zipIdx front.length = content.zipIdx.map (Prod.map id (· + front.length)) := by
    rw [List.map_snd_add_zipIdx_eq_zipIdx, Nat.add_zero]
  unfold lineFeeds
  rw [List.zipIdx_append, Nat.zero_add, behind, List.filter_append, List.map_append,
    List.filter_map, List.map_map, List.map_map]
  rfl

theorem lt_of_mem_lineFeeds {content : List Char} (feed : position ∈ lineFeeds content) :
    position < content.length := by
  obtain ⟨⟨c, i⟩, member, rfl⟩ := List.mem_map.mp feed
  exact List.snd_lt_of_mem_zipIdx (List.mem_filter.mp member).1

/-- Before a position in a text behind another one stand the line feeds of that one, too. -/
theorem countP_lineFeeds_append :
    (lineFeeds (front ++ content)).countP (· < position + front.length) =
      front.count '\n' + (lineFeeds content).countP (· < position) := by
  have before : (lineFeeds front).countP (· < position + front.length) = front.count '\n' := by
    rw [← length_lineFeeds, List.countP_eq_length]
    intro feed isFeed
    have inSpace := lt_of_mem_lineFeeds isFeed
    exact decide_eq_true (by omega)
  rw [lineFeeds_append, List.countP_append, before, List.countP_map]
  refine congrArg (front.count '\n' + ·) (List.countP_congr fun feed _ => ?_)
  simp

/-- **The line feeds below a position are those of the text in front of it.** -/
theorem countP_lineFeeds (content : List Char) (position : Nat) :
    (lineFeeds content).countP (· < position) = (content.take position).count '\n' := by
  by_cases inside : position ≤ content.length
  · have split : (lineFeeds (content.take position ++ content.drop position)).countP
        (· < 0 + (content.take position).length) = _ := countP_lineFeeds_append
    have none : (lineFeeds (content.drop position)).countP (· < 0) = 0 :=
      List.countP_eq_zero.mpr fun feed _ => by simp
    rwa [List.take_append_drop, List.length_take, Nat.min_eq_left inside, Nat.zero_add, none,
      Nat.add_zero] at split
  · have whole : content.length ≤ position := by omega
    rw [List.take_of_length_le whole, ← length_lineFeeds, List.countP_eq_length]
    intro feed isFeed
    have inText := lt_of_mem_lineFeeds isFeed
    exact decide_eq_true (by omega)

end Counting

end Docsite.MarkdownLink
