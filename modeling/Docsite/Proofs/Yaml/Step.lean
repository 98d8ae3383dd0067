/-
**Steps of a scan.**

What stands in front of the next token, which reader it goes to, and what is added for it. A row of words
is one token, and it is a key only by the colon behind it.

* `Scan.ready?_spaces`, `Scan.ready?_line`: what is skipped in front of a token.
* `Scan.run_words`: a row of words.
* `Scan.run_colon`, `Scan.run_colon_eq_none`: a colon behind a row of words.
-/

import Docsite.Proofs.Yaml.Scalar
import Docsite.Proofs.Yaml.Token

namespace Docsite.Yaml

/-- A comment up to the end of its line, or nothing. -/
structure IsComment (text : List Char) : Prop where
  starts : ∀ c ∈ text.head?, c = '#'
  inLine : ∀ c ∈ text, isBreak c = false

/-- The end of the line or a comment follows. -/
theorem IsComment.head_append {comment rest : List Char} {c : Char} (isComment : IsComment comment)
    (first : c ∈ (comment ++ '\n' :: rest).head?) : c = '#' ∨ c = '\n' := by
  cases comment with
  | nil => exact .inr (Option.some.inj first).symm
  | cons d more => exact .inl (isComment.starts c first)

namespace Scan

section Steps

variable {scan ready final : Scan} {c : Char} {rest tail left text blanks comment : List Char}
  {width fuel : Nat}

theorem inFlow_eq_false {key : Option PossibleKey} (level : scan.keys = [key]) :
    scan.inFlow = false := by
  rw [inFlow, level]
  rfl

/-! ## In front of a token -/

/-- Spaces are skipped up to a word. Only at the start of a line, a byte order mark is none. -/
theorem skipSpace_spaces (solid : isSpace c = false) (noComment : c ≠ '#')
    (noMark : scan.place.column = 0 → c ≠ '\uFEFF')
    (here : scan.place.rest = List.replicate width ' ' ++ c :: rest) (fuel : Nat) :
    skipSpace (fuel + 1) scan = scan.goTo (scan.place.skip width) := by
  obtain ⟨notBlank, notBreak⟩ := isSpace_eq_false_iff.mp solid
  have notSpace : c ≠ ' ' ∧ c ≠ '\t' := by simpa [isBlank] using notBlank
  have isMark : (scan.place.column == 0 && scan.place.rest.head? == some '\uFEFF') = false := by
    rw [here, Bool.and_eq_false_iff, or_iff_not_imp_left]
    intro atStart
    cases width with
    | zero => simpa using noMark (by simpa using atStart)
    | succ width => simp [List.replicate_succ]
  have skipped (tabs : Bool) :
      scan.place.skipWhile (fun d => d == ' ' || (d == '\t' && tabs)) = scan.place.skip width := by
    rw [Place.skipWhile_eq (by simp +contextual) (by simp [notSpace]) here, List.length_replicate]
  have behind : (scan.place.skip width).rest = c :: rest := Place.rest_skip_spaces here
  have comment : ((scan.place.skip width).rest.head? == some '#') = false := by
    simpa [behind] using noComment
  rw [skipSpace]
  simp only [isMark, Bool.false_eq_true, if_false, skipped, comment,
    Place.takeBreak?_eq_none behind notBreak]

/-- Nothing is skipped in front of a word. -/
theorem skipSpace_word (solid : isSpace c = false) (noComment : c ≠ '#')
    (noMark : scan.place.column = 0 → c ≠ '\uFEFF') (here : scan.place.rest = c :: rest) (fuel : Nat) :
    skipSpace (fuel + 1) scan = scan :=
  have atWord : scan.place.rest = List.replicate 0 ' ' ++ c :: rest := here
  skipSpace_spaces solid noComment noMark atWord fuel

theorem closeBlocks_eq_self {limit : Nat} (deep : ∀ column ∈ scan.indents.head?, column < limit) :
    closeBlocks limit scan = scan := by
  have nothing : scan.indents.takeWhile (limit ≤ ·) = [] := by
    cases isIndents : scan.indents with
    | nil => rfl
    | cons column outer =>
      have less : ¬ limit ≤ column := Nat.not_le.mpr (deep column (by rw [isIndents]; rfl))
      rw [List.takeWhile_cons_of_neg (by simpa using less)]
  unfold closeBlocks
  split
  · rfl
  · simp [nothing]

theorem dropStaleKeys?_none (noKey : scan.keys = [none]) : dropStaleKeys? scan = some scan := by
  obtain ⟨place, tokens, indents, keys, allowed⟩ := scan
  obtain rfl : keys = [none] := noKey
  rfl

/-- What does not have to be a key is kept, or forgotten where it is too far back. -/
theorem dropStaleKeys?_some {key : PossibleKey} (hasKey : scan.keys = [some key])
    (free : key.required = false) :
    dropStaleKeys? scan = some scan ∨ dropStaleKeys? scan = some { scan with keys := [none] } := by
  obtain ⟨place, tokens, indents, keys, allowed⟩ := scan
  obtain rfl : keys = [some key] := hasKey
  by_cases stale : key.line < place.line ∨ key.index + keyLimit < place.index
  · exact .inr (by simp [dropStaleKeys?, stale, free])
  · exact .inl (by simp [dropStaleKeys?, stale])

/-- Nothing but skipping is done where nothing ends and nothing may be a key. -/
theorem ready?_of_skip (skips : skipSpace (scan.place.rest.length + 1) scan = ready)
    (noKey : ready.keys = [none])
    (deep : ∀ column ∈ ready.indents.head?, column ≤ ready.place.column) :
    ready? scan = some ready := by
  rw [ready?, skips, dropStaleKeys?_none noKey, Option.map_some, closeBlocks_eq_self]
  exact fun column first => Nat.lt_succ_of_le (deep column first)

theorem ready?_spaces (solid : isSpace c = false) (noComment : c ≠ '#')
    (noMark : scan.place.column = 0 → c ≠ '\uFEFF')
    (here : scan.place.rest = List.replicate width ' ' ++ c :: rest) (noKey : scan.keys = [none])
    (deep : ∀ column ∈ scan.indents.head?, column ≤ scan.place.column + width) :
    ready? scan = some (scan.goTo (scan.place.skip width)) :=
  ready?_of_skip (skipSpace_spaces solid noComment noMark here _) noKey deep

theorem ready?_word (solid : isSpace c = false) (noComment : c ≠ '#')
    (noMark : scan.place.column = 0 → c ≠ '\uFEFF') (here : scan.place.rest = c :: rest)
    (noKey : scan.keys = [none]) (deep : ∀ column ∈ scan.indents.head?, column ≤ scan.place.column) :
    ready? scan = some scan :=
  ready?_of_skip (skipSpace_word solid noComment noMark here _) noKey deep

/-- What stands behind a value is skipped to the end of the line. -/
theorem skipSpace_line (isBlanks : ∀ b ∈ blanks, isBlank b = true) (isComment : IsComment comment)
    (here : scan.place.rest = blanks ++ (comment ++ '\n' :: rest)) (outside : scan.inFlow = false)
    (notAllowed : scan.keyAllowed = false) :
    ∃ next : Place, next.rest = rest ∧ next.column = 0 ∧ ∀ fuel, skipSpace (fuel + 1) scan =
      skipSpace fuel { scan with place := next, keyAllowed := true } := by
  have atComment : (scan.place.skip blanks.length).rest = comment ++ '\n' :: rest := Place.rest_skip here
  have atBreak : ((scan.place.skip blanks.length).skip comment.length).rest = '\n' :: rest :=
    Place.rest_skip atComment
  -- Neither a blank nor what follows the blanks is a byte order mark.
  have noMark : (scan.place.rest.head? == some '\uFEFF') = false := by
    rw [here, beq_eq_false_iff_ne]
    intro mark
    cases blanks with
    | nil => rcases isComment.head_append mark with same | same <;> cases same
    | cons b blanks =>
      obtain rfl := Option.some.inj mark
      exact absurd (isBlanks '\uFEFF' List.mem_cons_self) (by decide)
  have skipsBlanks : scan.place.skipWhile isBlank = scan.place.skip blanks.length := by
    refine Place.skipWhile_eq isBlanks (fun c first => ?_) here
    rcases isComment.head_append first with rfl | rfl <;> rfl
  have skipsComment : (if (scan.place.skip blanks.length).rest.head? == some '#' then
      (scan.place.skip blanks.length).skipWhile (!isBreak ·) else scan.place.skip blanks.length) =
        (scan.place.skip blanks.length).skip comment.length := by
    cases comment with
    | nil => simp [atComment]
    | cons d more =>
      obtain rfl := isComment.starts d rfl
      rw [atComment, if_pos (by simp)]
      exact Place.skipWhile_eq (by simpa using isComment.inLine) (by simp [isBreak]) atComment
  refine ⟨((scan.place.skip blanks.length).skip comment.length).nextLine 1, Place.rest_nextLine atBreak,
    rfl, fun fuel => ?_⟩
  have isClass : (fun d => d == ' ' || d == '\t') = isBlank := rfl
  rw [skipSpace]
  simp only [noMark, Bool.and_false, Bool.false_eq_true, if_false, outside, notAllowed, Bool.not_false,
    Bool.or_true, Bool.and_true, isClass, skipsBlanks, skipsComment, Place.takeBreak?_newline atBreak]

/-- Behind a line, a key may start where the next one does. -/
theorem ready?_line (isBlanks : ∀ b ∈ blanks, isBlank b = true) (isComment : IsComment comment)
    (here : scan.place.rest = blanks ++ (comment ++ '\n' :: (List.replicate width ' ' ++ c :: rest)))
    (noKey : scan.keys = [none]) (notAllowed : scan.keyAllowed = false) (solid : isSpace c = false)
    (noComment : c ≠ '#') (noMark : c ≠ '\uFEFF')
    (deep : ∀ column ∈ scan.indents.head?, column ≤ width) :
    ∃ place : Place, place.rest = c :: rest ∧ place.column = width ∧
      ready? scan = some { scan with place, keyAllowed := true } := by
  obtain ⟨next, behind, start, skips⟩ :=
    skipSpace_line isBlanks isComment here (inFlow_eq_false noKey) notAllowed
  obtain ⟨count, isCount⟩ : ∃ count, scan.place.rest.length = count + 1 :=
    Nat.exists_eq_succ_of_ne_zero (by simp [here])
  refine ⟨next.skip width, Place.rest_skip_spaces behind, by simp [start], ?_⟩
  refine ready?_of_skip ?_ noKey (by simpa [start] using deep)
  rw [isCount, skips]
  exact skipSpace_spaces solid noComment (fun _ => noMark) behind count

/-! ## Telling tokens apart -/

theorem atMarker_eq_false_of_ne {d : Char} (here : scan.place.rest = d :: rest) (other : d ≠ c) :
    scan.place.atMarker c = false := by
  rw [Bool.eq_false_iff]
  intro marked
  obtain ⟨more, spelled⟩ := Place.front_of_atMarker marked
  rw [here] at spelled
  exact other (List.cons.inj spelled).1.symm

theorem next?_colon (here : scan.place.rest = ':' :: tail) (colon : atWordEnd tail = true) :
    next? scan = value? scan := by
  have noDash : scan.place.atMarker '-' = false := atMarker_eq_false_of_ne here (by decide)
  have noDot : scan.place.atMarker '.' = false := atMarker_eq_false_of_ne here (by decide)
  simp [next?, here, noDash, noDot, colon]

theorem next?_mark {single : Bool} (here : scan.place.rest = Quoted.mark single :: tail) :
    next? scan = quoted? scan single := by
  have noDash : scan.place.atMarker '-' = false :=
    atMarker_eq_false_of_ne here (by cases single <;> decide)
  have noDot : scan.place.atMarker '.' = false :=
    atMarker_eq_false_of_ne here (by cases single <;> decide)
  cases single <;> simp [next?, here, noDash, noDot, Quoted.mark]

theorem next?_plain (starts : startsWord scan.place.rest = true) (outside : scan.inFlow = false)
    (noDash : scan.place.atMarker '-' = false) (noDot : scan.place.atMarker '.' = false) :
    next? scan = plain? scan := by
  cases here : scan.place.rest with
  | nil => rw [here] at starts; cases starts
  | cons c rest =>
    rw [here, startsWord] at starts
    split at starts
    · next isMark =>
      have cases : c = '-' ∨ c = '?' ∨ c = ':' := by simpa using isMark
      have goesOn : atWordEnd rest = false := by simpa using starts
      have noBlank : (rest.head?.map isBlank).getD false = false := by
        cases rest with
        | nil => rfl
        | cons d rest => simpa [atWordEnd, isSpace, isSpace_eq_false_iff] using
            (isSpace_eq_false_iff.mp goesOn).1
      rcases cases with rfl | rfl | rfl <;>
        simp [next?, here, noDash, noDot, outside, goesOn, startsPlain, isSpace, isBlank, noBlank]
    · next notMark =>
      simp only [Bool.and_eq_true, Bool.not_eq_true', decide_eq_false_iff_not] at starts
      obtain ⟨solid, noIndicator⟩ := starts
      simp [indicators] at noIndicator notMark
      simp [next?, here, noDash, noDot, outside, startsPlain, noIndicator, notMark, solid]

/-! ## Words and colons -/

theorem saveKey?_of_not_allowed (notAllowed : scan.keyAllowed = false) :
    saveKey? scan = some scan := by
  rw [saveKey?, notAllowed]
  rfl

/-- The key that the next token may be. -/
def keyHere (scan : Scan) : PossibleKey where
  required := scan.place.column + 1 == scan.nextIndent
  position := scan.tokens.size
  index := scan.place.index
  line := scan.place.line
  column := scan.place.column

theorem saveKey?_of_allowed (allowed : scan.keyAllowed = true) (noKey : scan.keys = [none]) :
    saveKey? scan = some { scan with keys := [some scan.keyHere] } := by
  simp [saveKey?, allowed, dropKey?, noKey, inFlow_eq_false noKey, keyHere]

/-- The scan behind a token that is no mark. -/
def behindWord (scan : Scan) (token : Token) (place : Place) : Scan :=
  { scan.push token with keyAllowed := false, place }

/-- **A row of words is one token,** which may be a key if one is allowed here. -/
theorem next?_words (noKey : scan.keys = [none]) (starts : startsWord text = true)
    (words : Words scan.nextIndent text) (stops : Plain.Stops tail left)
    (here : scan.place.rest = text ++ tail) (deep : scan.nextIndent ≤ scan.place.column)
    (unmarked : ∀ c ∈ ['-', '.'], scan.place.atMarker c = false) :
    ∃ read behind, behind.rest = left ∧ scan.nextIndent < behind.column ∧
      next? scan = (saveKey? scan).map (·.behindWord (.scalar .plain read) behind) := by
  have noDash := unmarked '-' (by simp)
  have noDot := unmarked '.' (by simp)
  have noComment := head?_ne_of_startsWord starts
  have outside := inFlow_eq_false noKey
  obtain ⟨read, behind, reads, stands, deeper⟩ := Plain.read?_words words stops here noComment
    (by rw [Place.atDocumentMarker, noDash, noDot, Bool.or_false]) deep
  refine ⟨read, behind, stands, deeper, ?_⟩
  rw [next?_plain (here ▸ startsWord_append starts _) outside noDash noDot, plain?, outside, reads]
  cases saveKey? scan <;> rfl

/-- **A quoted scalar is one token,** which is no key where none is allowed. -/
theorem next?_quoted {single : Bool} (enclosed : Quoted.Enclosed single text)
    (notAllowed : scan.keyAllowed = false)
    (here : scan.place.rest = Quoted.mark single :: text ++ Quoted.mark single :: tail)
    (closed : tail.head? ≠ some (Quoted.mark single)) :
    ∃ style read behind, behind.rest = tail ∧
      next? scan = some (scan.behindWord (.scalar style read) behind) := by
  obtain ⟨read, reads⟩ := Quoted.read?_enclosed enclosed here closed
  have whole : scan.place.rest = (Quoted.mark single :: text ++ [Quoted.mark single]) ++ tail := by
    simpa using here
  have behind := Place.rest_skip whole
  rw [List.length_append, List.length_cons, List.length_singleton] at behind
  refine ⟨if single then .singleQuoted else .doubleQuoted, read, _, behind, ?_⟩
  rw [next?_mark here, quoted?, word?, saveKey?_of_not_allowed notAllowed, reads]
  rfl

/-- A run goes on behind a row of words. -/
theorem run_words (runs : run? fuel scan = some final) (isReady : ready? scan = some ready)
    (noKey : ready.keys = [none]) (starts : startsWord text = true)
    (words : Words ready.nextIndent text) (stops : Plain.Stops tail left)
    (here : ready.place.rest = text ++ tail) (deep : ready.nextIndent ≤ ready.place.column)
    (unmarked : ∀ c ∈ ['-', '.'], ready.place.atMarker c = false) :
    ∃ less read behind saved, saveKey? ready = some saved ∧ behind.rest = left ∧
      ready.nextIndent < behind.column ∧
      run? less (saved.behindWord (.scalar .plain read) behind) = some final := by
  have more : ready.place.rest ≠ [] := by
    obtain ⟨c, rest, rfl, -⟩ := words.exists_cons
    simp [here]
  obtain ⟨less, next, reads, runsOn⟩ := exists_next runs isReady more
  obtain ⟨read, behind, stands, deeper, isNext⟩ := next?_words noKey starts words stops here deep unmarked
  rw [isNext, Option.map_eq_some_iff] at reads
  obtain ⟨saved, saves, rfl⟩ := reads
  exact ⟨less, read, behind, saved, saves, stands, deeper, runsOn⟩

/-- **Behind words that are no key, a colon is an error.** -/
theorem run_colon_eq_none (noKey : scan.keys = [none]) (notAllowed : scan.keyAllowed = false)
    (indented : ∀ column ∈ scan.indents.head?, column ≤ scan.place.column)
    (here : scan.place.rest = ':' :: tail) (colon : atWordEnd tail = true) :
    run? fuel scan = none := by
  rw [Option.eq_none_iff_forall_ne_some]
  intro final runs
  have isReady := ready?_word rfl (by decide) (fun _ => by decide) here noKey indented
  obtain ⟨less, next, reads, -⟩ := exists_next runs isReady
    (show scan.place.rest ≠ [] by simp [here])
  rw [next?_colon here colon] at reads
  simp [value?, noKey, notAllowed, inFlow] at reads

/-- A key and the mapping that it opens, marked in front of what was read for it. -/
def underKey (scan : Scan) (key : PossibleKey) : Scan :=
  let opened := (scan.insert key.position .key).openBlock key.column key.position .blockMapStart
  ({ opened with keys := [none], keyAllowed := false }.push .value).goTo (scan.place.skip 1)

/-- **Behind words that may be a key, a colon makes them one,** if they are not too long. -/
theorem run_colon {key : PossibleKey} (runs : run? fuel scan = some final)
    (hasKey : scan.keys = [some key]) (free : key.required = false)
    (notAllowed : scan.keyAllowed = false)
    (indented : ∀ column ∈ scan.indents.head?, column ≤ scan.place.column)
    (here : scan.place.rest = ':' :: tail) (colon : atWordEnd tail = true) :
    ∃ less, run? less (scan.underKey key) = some final := by
  have skips : skipSpace (scan.place.rest.length + 1) scan = scan :=
    skipSpace_word rfl (by decide) (fun _ => by decide) here _
  have closes (next : Scan) (same : next.indents = scan.indents) :
      closeBlocks (scan.place.column + 1) next = next :=
    closeBlocks_eq_self fun column first => Nat.lt_succ_of_le (indented column (same ▸ first))
  rcases dropStaleKeys?_some hasKey free with kept | forgotten
  · have isReady : ready? scan = some scan := by
      rw [ready?, skips, kept, Option.map_some, closes scan rfl]
    obtain ⟨less, next, reads, runsOn⟩ := exists_next runs isReady (by simp [here])
    rw [next?_colon here colon, value?, hasKey] at reads
    obtain rfl := Option.some.inj reads
    have samePlace : ((scan.insert key.position .key).openBlock key.column key.position
        .blockMapStart).place = scan.place := by
      unfold openBlock
      split <;> rfl
    refine ⟨less, ?_⟩
    rw [underKey, ← samePlace]
    exact runsOn
  · -- What was too long for a key is read again without one.
    have isReady : ready? scan = some { scan with keys := [none] } := by
      rw [ready?, skips, forgotten, Option.map_some]
      exact congrArg some (closes _ rfl)
    obtain ⟨less, next, reads, -⟩ := exists_next runs isReady (by simp [here])
    have isNext : next? { scan with keys := [none] } = value? { scan with keys := [none] } :=
      next?_colon here colon
    rw [isNext] at reads
    simp [value?, notAllowed, inFlow] at reads

theorem tokens_insert {front back : Array Token} (split : scan.tokens = front ++ back) (token : Token) :
    (scan.insert front.size token).tokens = front ++ (#[token] ++ back) := by
  rw [insert, split]
  simp

theorem openBlock_of_le {column : Nat} (outside : scan.inFlow = false)
    (deeper : scan.nextIndent ≤ column) (position : Nat) (token : Token) :
    scan.openBlock column position token =
      { scan.insert position token with indents := column :: scan.indents } := by
  have opens : ¬ (scan.inFlow || decide (column < scan.nextIndent)) = true := by
    simpa [outside] using deeper
  rw [openBlock, if_neg opens]

/-- What the first key of a deeper mapping puts in front of itself. -/
theorem tokens_underKey (front : Array Token) {token : Token} {key : PossibleKey}
    (isLast : scan.tokens = front.push token) (position : key.position = front.size)
    (outside : scan.inFlow = false) (deeper : scan.nextIndent ≤ key.column) :
    (scan.underKey key).tokens = front ++ #[.blockMapStart, .key, token, .value] := by
  have split : scan.tokens = front ++ #[token] := isLast
  have keyed : (scan.insert front.size .key).tokens = front ++ #[.key, token] :=
    tokens_insert split .key
  have opened := tokens_insert keyed .blockMapStart
  have outsideStill : (scan.insert front.size .key).inFlow = false := outside
  rw [underKey, position, openBlock_of_le outsideStill deeper]
  show Array.push ((scan.insert front.size .key).insert front.size .blockMapStart).tokens .value = _
  rw [opened]
  simp

theorem indents_underKey {key : PossibleKey} (outside : scan.inFlow = false)
    (deeper : scan.nextIndent ≤ key.column) :
    (scan.underKey key).indents = key.column :: scan.indents := by
  have outsideStill : (scan.insert key.position .key).inFlow = false := outside
  rw [underKey, openBlock_of_le outsideStill deeper]
  rfl

end Steps

end Scan

end Docsite.Yaml
