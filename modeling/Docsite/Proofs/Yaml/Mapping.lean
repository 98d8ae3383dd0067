/-
**Members of a mapping that are indented deeper than the first one.**

A key opens a mapping at its column. Where the next line is indented deeper, it does not belong to that
mapping: it continues a plain scalar, in which no colon may stand, or it opens a mapping of its own, for
which there is no place behind a quoted one.

* `IsKey`, `IsValue`: the keys and values of mappings with one member on each line.
* `Scan.run_deeper`: what is scanned behind a first member.
* `Document.read?_deeper`: a deeper member is no YAML, whatever follows.
-/

import Docsite.Proofs.Text.Cut
import Docsite.Proofs.Yaml.Step
import Docsite.Text.Blank
import Docsite.Yaml.Node

namespace Docsite.Yaml

/-- A plain scalar that is taken for nothing else at the start of a line or of a text. -/
structure IsKey (key : List Char) : Prop extends IsPlain key where
  /-- No white space that is no blank of YAML and no byte order mark is in front of the key. -/
  solid : ∀ c ∈ key.head?, Text.isBlank c = false ∧ c ≠ '\uFEFF'
  /-- No document starts or ends here. -/
  unmarked : ∀ c ∈ ['-', '.'], ¬ [c, c, c] <+: key

instance (key : List Char) : Decidable (IsKey key) :=
  decidable_of_iff (IsPlain key ∧ key.head?.all (fun c => !Text.isBlank c && c != '\uFEFF') = true ∧
      ['-', '.'].all (fun c => decide (¬ [c, c, c] <+: key)) = true) <| by
    have solid : key.head?.all (fun c => !Text.isBlank c && c != '\uFEFF') = true ↔
        ∀ c ∈ key.head?, Text.isBlank c = false ∧ c ≠ '\uFEFF' := by
      cases key.head? <;> simp
    have unmarked : ['-', '.'].all (fun c => decide (¬ [c, c, c] <+: key)) = true ↔
        ∀ c ∈ ['-', '.'], ¬ [c, c, c] <+: key := by
      simp
    rw [solid, unmarked]
    exact ⟨fun ⟨isPlain, solid, unmarked⟩ => { toIsPlain := isPlain, solid, unmarked },
      fun isKey => ⟨isKey.toIsPlain, isKey.solid, isKey.unmarked⟩⟩

theorem IsKey.ne_nil {key : List Char} (isKey : IsKey key) : key ≠ [] := by
  rintro rfl
  cases isKey.starts

/-- A scalar on one line. -/
inductive IsValue : List Char → Prop
  | plain {text : List Char} : IsPlain text → IsValue text
  | quoted {single : Bool} {text : List Char} : Quoted.Enclosed single text →
      IsValue (Quoted.mark single :: text ++ [Quoted.mark single])

/-- What may stand behind a value on its line: blanks, and behind them a comment. -/
inductive IsTrailer : List Char → Prop
  | blanks {blanks : List Char} : (∀ b ∈ blanks, isBlank b = true) → IsTrailer blanks
  | comment {blanks text : List Char} : blanks ≠ [] → (∀ b ∈ blanks, isBlank b = true) →
      IsComment ('#' :: text) → IsTrailer (blanks ++ '#' :: text)

theorem IsTrailer.exists_comment {text : List Char} (isTrailer : IsTrailer text) :
    ∃ blanks comment, text = blanks ++ comment ∧ (∀ b ∈ blanks, isBlank b = true) ∧
      IsComment comment ∧ (blanks = [] → comment = []) := by
  cases isTrailer with
  | blanks isBlanks => exact ⟨text, [], by simp, isBlanks, ⟨by simp, by simp⟩, fun _ => rfl⟩
  | comment some isBlanks isComment =>
    exact ⟨_, _, rfl, isBlanks, isComment, fun none => absurd none some⟩

/-- The next line up to the colon of its key, which is indented by a number of spaces. -/
def nextKey (width : Nat) (key tail : List Char) : List Char :=
  '\n' :: (List.replicate width ' ' ++ (key ++ ':' :: tail))

/-- White space follows a value. -/
theorem IsTrailer.isSpace_head {text key tail : List Char} {width : Nat} (isTrailer : IsTrailer text) :
    ∀ c ∈ (text ++ nextKey width key tail).head?, isSpace c = true := by
  obtain ⟨blanks, comment, rfl, isBlanks, -, noComment⟩ := isTrailer.exists_comment
  intro c first
  cases blanks with
  | nil =>
    rw [noComment rfl] at first
    obtain rfl := Option.some.inj first
    rfl
  | cons b blanks =>
    obtain rfl := Option.some.inj first
    rw [isSpace, isBlanks b List.mem_cons_self, Bool.true_or]

namespace Scan

section Mapping

variable {scan final : Scan} {c : Char} {rest tail left text blanks comment : List Char}
  {width fuel : Nat}

/-! ## A first member and a deeper one -/

/-- The scan stands behind the colon of the first key of a mapping at the start of a line. -/
structure AtValue (key : List Char) (rest : List Char) (scan : Scan) : Prop where
  tokens : scan.tokens = #[.blockMapStart, .key, .scalar .plain key, .value]
  indents : scan.indents = [0]
  keys : scan.keys = [none]
  keyAllowed : scan.keyAllowed = false
  rest : scan.place.rest = rest
  column : 0 < scan.place.column

/-- **A key at the start of a text opens a mapping.** -/
theorem run_first_key (isKey : IsKey text) (colon : atWordEnd tail = true)
    (runs : run? fuel { place := { rest := text ++ ':' :: tail } } = some final) :
    ∃ less read scan, AtValue read tail scan ∧ run? less scan = some final := by
  have unmarked : ∀ c ∈ ['-', '.'], (Place.mk (text ++ ':' :: tail) 0 0 0).atMarker c = false := by
    intro c member
    rw [Bool.eq_false_iff]
    intro marked
    have noColon : ':' ∉ [c, c, c] := by
      rcases List.mem_pair.mp member with rfl | rfl <;> decide
    exact isKey.unmarked c member
      (Text.prefix_of_prefix_append noColon (Place.front_of_atMarker marked))
  have isReady : ready? { place := { rest := text ++ ':' :: tail } } =
      some { place := { rest := text ++ ':' :: tail } } := by
    obtain ⟨c, rest, rfl, solid⟩ := (isKey.words 0).exists_cons
    exact ready?_word solid (by simpa using head?_ne_of_startsWord isKey.starts)
      (fun _ => (isKey.solid c rfl).2) rfl rfl nofun
  obtain ⟨less, read, behind, saved, saves, stands, deeper, runsOn⟩ :=
    run_words runs isReady rfl isKey.starts (isKey.words 0) (.colon colon) rfl (Nat.zero_le _) unmarked
  rw [saveKey?_of_allowed rfl rfl] at saves
  obtain rfl := Option.some.inj saves
  obtain ⟨less, runsOn⟩ := run_colon runsOn rfl rfl rfl nofun stands colon
  refine ⟨less, read, _, ⟨?_, ?_, rfl, rfl, Place.rest_skip_one stands, Nat.succ_pos _⟩, runsOn⟩
  · exact tokens_underKey #[] rfl rfl rfl (Nat.zero_le _)
  · exact indents_underKey rfl (Nat.zero_le _)

section Values

variable {read : List Char}

theorem AtValue.nextIndent_eq (atValue : AtValue read rest scan) : scan.nextIndent = 1 := by
  rw [nextIndent, atValue.indents]
  rfl

/-- The spaces in front of a value are skipped. -/
theorem AtValue.exists_ready (atValue : AtValue read (List.replicate width ' ' ++ c :: rest) scan)
    (solid : isSpace c = false) (noComment : c ≠ '#') :
    ∃ ready, ready? scan = some ready ∧ AtValue read (c :: rest) ready := by
  have isReady := ready?_spaces solid noComment
    (fun atStart => absurd atStart (Nat.ne_of_gt atValue.column)) atValue.rest atValue.keys
    (by simp [atValue.indents])
  exact ⟨_, isReady, atValue.tokens, atValue.indents, atValue.keys, atValue.keyAllowed,
    Place.rest_skip_spaces atValue.rest, Nat.add_pos_left atValue.column width⟩

/-- Words in the place of a value are no key. -/
theorem AtValue.run_words (atValue : AtValue read (List.replicate width ' ' ++ (text ++ tail)) scan)
    (starts : startsWord text = true) (words : Words 1 text) (stops : Plain.Stops tail left)
    (runs : run? fuel scan = some final) :
    ∃ less value ready behind, AtValue read (text ++ tail) ready ∧ behind.rest = left ∧
      run? less (ready.behindWord (.scalar .plain value) behind) = some final := by
  have noComment := head?_ne_of_startsWord starts
  obtain ⟨c, rest, rfl, solid⟩ := words.exists_cons
  obtain ⟨ready, isReady, atWords⟩ := atValue.exists_ready solid (by simpa using noComment)
  obtain ⟨less, value, behind, saved, saves, stands, -, runsOn⟩ :=
    Scan.run_words runs isReady atWords.keys starts (atWords.nextIndent_eq ▸ words) stops atWords.rest
      (atWords.nextIndent_eq ▸ atWords.column) fun c _ => Place.atMarker_eq_false atWords.column c
  rw [saveKey?_of_not_allowed atWords.keyAllowed] at saves
  obtain rfl := Option.some.inj saves
  exact ⟨less, value, ready, behind, atWords, stands, runsOn⟩

end Values

section Deeper

variable {key read : List Char} {spaces : Nat} (isKey : IsKey key) (deeper : 0 < width)
  (colon : atWordEnd tail = true)

include isKey deeper colon

/-- **Words that go on in a deeper line are no value** if a colon stands behind them. -/
theorem AtValue.run_plain (isPlain : IsPlain text) (isBlanks : ∀ b ∈ blanks, isBlank b = true)
    (atValue : AtValue read (List.replicate spaces ' ' ++ (text ++
      (blanks ++ nextKey width key tail))) scan) :
    run? fuel scan = none := by
  rw [Option.eq_none_iff_forall_ne_some]
  intro final runs
  let joined := text ++ (blanks ++ '\n' :: List.replicate width ' ') ++ key
  have words : Words 1 joined :=
    (isPlain.words 1).append (.line isBlanks deeper deeper) (head?_ne_of_startsWord isKey.starts)
      (isKey.words 1)
  have starts : startsWord joined = true := by
    simp only [joined, List.append_assoc]
    exact startsWord_append isPlain.starts _
  have spelled : text ++ (blanks ++ nextKey width key tail) = joined ++ ':' :: tail := by
    simp [joined, nextKey]
  obtain ⟨less, value, ready, behind, atWords, stands, runsOn⟩ :=
    (spelled ▸ atValue).run_words starts words (.colon colon) runs
  have isError : run? less (ready.behindWord (.scalar .plain value) behind) = none := by
    refine run_colon_eq_none atWords.keys rfl (fun column first => ?_) stands colon
    obtain rfl : 0 = column := by simpa [behindWord, push, atWords.indents] using first
    exact Nat.zero_le _
  rw [isError] at runsOn
  cases runsOn

/-- **A key in a deeper line opens a mapping** behind what ended on the line before. -/
theorem run_deeper_key {front : Array Token} (tokens : scan.tokens = front)
    (indents : scan.indents = [0]) (noKey : scan.keys = [none]) (notAllowed : scan.keyAllowed = false)
    (isBlanks : ∀ b ∈ blanks, isBlank b = true) (isComment : IsComment comment)
    (here : scan.place.rest = blanks ++ (comment ++ nextKey width key tail))
    (runs : run? fuel scan = some final) :
    (front.push .blockMapStart).toList <+: final.tokens.toList := by
  have nextIndent : scan.nextIndent = 1 := by
    rw [Scan.nextIndent, indents]
    rfl
  obtain ⟨c, name, spelled, solid⟩ := (isKey.words 1).exists_cons
  have noComment : c ≠ '#' := by simpa [spelled] using head?_ne_of_startsWord isKey.starts
  have atLine : scan.place.rest =
      blanks ++ (comment ++ '\n' :: (List.replicate width ' ' ++ c :: (name ++ ':' :: tail))) := by
    simpa [nextKey, spelled] using here
  obtain ⟨place, start, column, isReady⟩ := ready?_line isBlanks isComment atLine noKey notAllowed solid
    noComment (isKey.solid c (by simp [spelled])).2 (by simp [indents])
  obtain ⟨less, read, behind, saved, saves, stands, inside, runs⟩ :=
    Scan.run_words runs isReady noKey isKey.starts (isKey.words _) (.colon colon)
      (by simpa [spelled] using start) (show scan.nextIndent ≤ place.column by omega)
      fun c _ => Place.atMarker_eq_false (column ▸ deeper) c
  obtain rfl := Option.some.inj (saves.symm.trans (saveKey?_of_allowed rfl noKey))
  -- The key does not have to be one, so it is one only if it is not too long.
  have free : (place.column + 1 == scan.nextIndent) = false := by
    rw [beq_eq_false_iff_ne]
    omega
  obtain ⟨less, runs⟩ := run_colon runs rfl free rfl
    (show ∀ column ∈ scan.indents.head?, column ≤ behind.column by simp [indents]) stands colon
  refine Keeps.run (.of_no_key ?_ rfl) runs
  rw [tokens_underKey front (congrArg (Array.push · _) tokens) (congrArg Array.size tokens)
    (inFlow_eq_false rfl) (show scan.nextIndent ≤ place.column by omega)]
  simp

theorem AtValue.run_deeper_key {style : Style} {value : List Char} {behind : Place}
    (atValue : AtValue read rest scan) (isBlanks : ∀ b ∈ blanks, isBlank b = true)
    (isComment : IsComment comment)
    (here : behind.rest = blanks ++ (comment ++ nextKey width key tail))
    (runs : run? fuel (scan.behindWord (.scalar style value) behind) = some final) :
    [.blockMapStart, .key, .scalar .plain read, .value, .scalar style value, .blockMapStart] <+:
      final.tokens.toList := by
  have tokens : (scan.behindWord (.scalar style value) behind).tokens =
      #[.blockMapStart, .key, .scalar .plain read, .value, .scalar style value] := by
    show Array.push scan.tokens _ = _
    rw [atValue.tokens]
    rfl
  exact Scan.run_deeper_key isKey deeper colon tokens atValue.indents atValue.keys rfl isBlanks isComment
    here runs

/-- **A quoted value ends on its line,** and a key in a deeper one opens a mapping behind it. -/
theorem AtValue.run_quoted {single : Bool} (enclosed : Quoted.Enclosed single text)
    (isTrailer : IsTrailer rest)
    (atValue : AtValue read (List.replicate spaces ' ' ++ (Quoted.mark single :: text ++
      Quoted.mark single :: (rest ++ nextKey width key tail))) scan)
    (runs : run? fuel scan = some final) :
    ∃ style value, [.blockMapStart, .key, .scalar .plain read, .value, .scalar style value,
      .blockMapStart] <+: final.tokens.toList := by
  obtain ⟨ready, isReady, atQuote⟩ :=
    atValue.exists_ready (Quoted.isSpace_mark single) (by cases single <;> decide)
  obtain ⟨less, next, reads, runsOn⟩ := exists_next runs isReady (by simp [atQuote.rest])
  have noPair : (rest ++ nextKey width key tail).head? ≠ some (Quoted.mark single) := fun first =>
    absurd (isTrailer.isSpace_head _ first) (by simp [Quoted.isSpace_mark])
  obtain ⟨style, value, behind, stands, isNext⟩ :=
    next?_quoted enclosed atQuote.keyAllowed atQuote.rest noPair
  obtain ⟨blanks, comment, rfl, isBlanks, isComment, -⟩ := isTrailer.exists_comment
  obtain rfl := Option.some.inj (isNext.symm.trans reads)
  exact ⟨style, value, atQuote.run_deeper_key isKey deeper colon isBlanks isComment
    (by simpa using stands) runsOn⟩

/-- **What is scanned of a first member and a deeper one.** -/
theorem run_deeper {first value trailer : List Char} (isFirst : IsKey first) (isValue : IsValue value)
    (isTrailer : IsTrailer trailer)
    (runs : run? fuel { place := { rest := first ++ ':' :: (List.replicate (spaces + 1) ' ' ++ (value ++
      (trailer ++ nextKey width key tail))) } } = some final) :
    ∃ read style text, [.blockMapStart, .key, .scalar .plain read, .value, .scalar style text,
      .blockMapStart] <+: final.tokens.toList := by
  obtain ⟨less, read, scan, atValue, runsOn⟩ := run_first_key isFirst rfl runs
  cases isValue with
  | plain isPlain =>
    cases isTrailer with
    | blanks isBlanks =>
      rw [atValue.run_plain isKey deeper colon isPlain isBlanks] at runsOn
      cases runsOn
    | comment some isBlanks isComment =>
      rw [List.append_assoc] at atValue
      obtain ⟨less, text, ready, behind, atWords, stands, runsOn⟩ := atValue.run_words isPlain.starts
        (isPlain.words 1) (.comment some isBlanks) runsOn
      exact ⟨read, .plain, text, atWords.run_deeper_key isKey deeper colon (List.forall_mem_nil _)
        isComment stands runsOn⟩
  | quoted enclosed =>
    rw [List.append_assoc] at atValue
    exact ⟨read, atValue.run_quoted isKey deeper colon enclosed isTrailer runsOn⟩

end Deeper

end Mapping

end Scan

/-! ## Reading the tokens -/

namespace Document

/-- **There is no place for a mapping behind a scalar.** -/
theorem ofTokens?_eq_none {key value : List Char} {style : Style} (more : List Token) :
    ofTokens? (.blockMapStart :: .key :: .scalar .plain key :: .value :: .scalar style value ::
      .blockMapStart :: more) = none := by
  let tokens : List Token := .blockMapStart :: .key :: .scalar .plain key :: .value ::
    .scalar style value :: .blockMapStart :: more
  have fuel : 3 * tokens.length = 3 * more.length + 8 + 10 := by
    simp only [tokens, List.length_cons]
    omega
  -- The members of the mapping are read up to the second start of one.
  have stuck : readNode .block (3 * more.length + 8 + 10) { tokens, handles := defaultHandles } = none :=
    rfl
  rw [Option.eq_none_iff_forall_ne_some]
  intro document reads
  rw [ofTokens?, Option.bind_eq_bind, Option.bind_eq_some_iff] at reads
  obtain ⟨start, directives, reads⟩ := reads
  have noDirectives : some (defaultHandles, tokens) = some start := directives
  obtain rfl := Option.some.inj noDirectives
  dsimp only at reads
  rw [if_neg (by decide), Option.bind_eq_bind, Option.bind_eq_some_iff] at reads
  obtain ⟨root, readsRoot, -⟩ := reads
  change readNode .block (3 * tokens.length) { tokens, handles := defaultHandles } = some root
    at readsRoot
  rw [fuel, stuck] at readsRoot
  cases readsRoot

/-- **A member that is indented deeper than the first one is no YAML,** whatever follows. -/
theorem read?_deeper {first value trailer key tail : List Char} {width : Nat} (isFirst : IsKey first)
    (spaces : Nat) (isValue : IsValue value) (isTrailer : IsTrailer trailer) (isKey : IsKey key)
    (deeper : 0 < width) (colon : atWordEnd tail = true) :
    read? (String.ofList (first ++ ':' :: (List.replicate (spaces + 1) ' ' ++ (value ++
      (trailer ++ nextKey width key tail))))) = none := by
  rw [Option.eq_none_iff_forall_ne_some]
  intro document reads
  obtain ⟨tokens, scans, reads⟩ := Option.bind_eq_some_iff.mp reads
  rw [String.toList_ofList, Scan.tokens?] at scans
  split at scans
  · obtain ⟨final, runs, rfl⟩ := Option.map_eq_some_iff.mp scans
    obtain ⟨read, style, text, more, isFront⟩ :=
      Scan.run_deeper isKey deeper colon isFirst isValue isTrailer runs
    rw [← isFront] at reads
    exact absurd ((ofTokens?_eq_none more).symm.trans reads) (Option.some_ne_none document).symm
  · cases scans

end Document

end Docsite.Yaml
