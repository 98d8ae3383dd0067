/-
**Scalars on one line.**

A plain scalar is a row of words, and nothing in the words themselves tells where it ends: not a line
end, behind which the next word may stand, but a colon, the end of the text or a comment. A quoted
scalar ends at its quote.

* `IsPlain`, `Quoted.Enclosed`: the two kinds of scalars on one line.
* `Plain.read?_words`: a row of words is one scalar, over any number of lines.
* `Quoted.read?_enclosed`: a quoted scalar is read to its end.
-/

import Docsite.Proofs.Yaml.Gap
import Docsite.Yaml.Scalar

namespace Docsite.Yaml

/-! ## Plain scalars -/

/-- The characters with which no plain scalar starts. -/
def indicators : List Char :=
  [',', '[', ']', '\x7b', '\x7d', '#', '&', '*', '!', '|', '>', '\x27', '\x22', '%', '@', '\x60']

/-- Whether a plain scalar can start with a text. Three of the indicators can stand in front of a word. -/
def startsWord : List Char → Bool
  | [] => false
  | c :: rest =>
    if c ∈ ['-', '?', ':'] then !atWordEnd rest else !isSpace c && !(c ∈ indicators)

/-- Whether a text goes on to its end as a plain scalar does on one line: no colon stands at the end of
a word, no word behind a blank starts a comment, and the last character is no blank. -/
def staysPlain : List Char → Bool
  | [] => true
  | c :: rest =>
    !isBreak c && !(c == ':' && atWordEnd rest) &&
      !(isBlank c && (rest.isEmpty || rest.head? == some '#')) && staysPlain rest

/-- A plain scalar on one line. -/
structure IsPlain (text : List Char) : Prop where
  starts : startsWord text = true
  stays : staysPlain text = true

instance (text : List Char) : Decidable (IsPlain text) :=
  decidable_of_iff (startsWord text = true ∧ staysPlain text = true)
    ⟨fun ⟨starts, stays⟩ => ⟨starts, stays⟩, fun ⟨starts, stays⟩ => ⟨starts, stays⟩⟩

/-- A word of a plain scalar. -/
structure IsWord (word : List Char) : Prop where
  nonempty : word ≠ []
  solid : ∀ c ∈ word, isSpace c = false
  /-- A colon does not end the word. -/
  noColon : word.getLast? ≠ some ':'

/-- The words of a plain scalar, and what separates them. -/
inductive Words (indent : Nat) : List Char → Prop
  | word {word : List Char} : IsWord word → Words indent word
  | more {word gap rest : List Char} : IsWord word → IsGap indent gap → rest.head? ≠ some '#' →
      Words indent rest → Words indent (word ++ gap ++ rest)

section Words

variable {indent : Nat} {word gap text rest : List Char} {c : Char}

theorem startsWord_append (starts : startsWord text = true) (rest : List Char) :
    startsWord (text ++ rest) = true := by
  cases text with
  | nil => cases starts
  | cons c text =>
    rw [startsWord] at starts
    rw [List.cons_append, startsWord]
    split at starts
    · next isMark =>
      rw [if_pos isMark]
      cases text with
      | nil => cases starts
      | cons d text => exact starts
    · next notMark =>
      rw [if_neg notMark]
      exact starts

/-- What a scalar can start with is no white space. -/
theorem isSpace_of_startsWord (starts : startsWord (c :: rest) = true) : isSpace c = false := by
  rw [startsWord] at starts
  split at starts
  · next isMark =>
    have cases : c = '-' ∨ c = '?' ∨ c = ':' := by simpa using isMark
    rcases cases with rfl | rfl | rfl <;> rfl
  · simp only [Bool.and_eq_true, Bool.not_eq_true'] at starts
    exact starts.1

/-- A scalar is no comment. -/
theorem head?_ne_of_startsWord (starts : startsWord text = true) : text.head? ≠ some '#' := by
  cases text with
  | nil => nofun
  | cons c rest =>
    intro comment
    obtain rfl := Option.some.inj comment
    cases starts

theorem IsWord.cons (solid : isSpace c = false) (isWord : IsWord word) : IsWord (c :: word) := by
  obtain ⟨d, rest, rfl⟩ := List.exists_cons_of_ne_nil isWord.nonempty
  refine ⟨List.cons_ne_nil _ _, List.forall_mem_cons.mpr ⟨solid, isWord.solid⟩, ?_⟩
  rw [List.getLast?_cons_cons]
  exact isWord.noColon

theorem Words.exists_cons (words : Words indent text) :
    ∃ c rest, text = c :: rest ∧ isSpace c = false := by
  have first {word : List Char} (isWord : IsWord word) (rest : List Char) :
      ∃ c more, word ++ rest = c :: more ∧ isSpace c = false := by
    obtain ⟨c, more, rfl⟩ := List.exists_cons_of_ne_nil isWord.nonempty
    exact ⟨c, more ++ rest, rfl, isWord.solid c List.mem_cons_self⟩
  cases words with
  | word isWord => simpa using first isWord []
  | more isWord => simpa [List.append_assoc] using first isWord _

/-- A character in front of the first word belongs to it. -/
theorem Words.cons (solid : isSpace c = false) (words : Words indent text) :
    Words indent (c :: text) := by
  cases words with
  | word isWord => exact .word (isWord.cons solid)
  | more isWord isGap noComment words => exact .more (isWord.cons solid) isGap noComment words

theorem Words.append (front : Words indent text) (isGap : IsGap indent gap)
    (noComment : rest.head? ≠ some '#') (words : Words indent rest) :
    Words indent (text ++ gap ++ rest) := by
  induction front with
  | word isWord => exact .more isWord isGap noComment words
  | @more _ _ behind isWord inner noInner more ih =>
    have noJoined : (behind ++ gap ++ rest).head? ≠ some '#' := by
      obtain ⟨c, more, rfl, -⟩ := more.exists_cons
      exact noInner
    have joined := Words.more isWord inner noJoined ih
    simpa only [List.append_assoc] using joined

/-- A text that stays plain is a row of words, or blanks and a row of words that starts no comment. -/
theorem words_of_staysPlain (stays : staysPlain text = true) (indent : Nat) :
    (∀ c ∈ text.head?, isSpace c = false → Words indent text) ∧
      (∀ c ∈ text.head?, isSpace c = true → ∃ blanks rest, text = blanks ++ rest ∧ blanks ≠ [] ∧
        (∀ b ∈ blanks, isBlank b = true) ∧ rest.head? ≠ some '#' ∧ Words indent rest) := by
  induction text with
  | nil => simp
  | cons c rest ih =>
    simp only [staysPlain, Bool.and_eq_true, Bool.not_eq_true'] at stays
    obtain ⟨⟨⟨noBreak, noColon⟩, noBlank⟩, stays⟩ := stays
    obtain ⟨solidBehind, spaceBehind⟩ := ih stays
    cases rest with
    | nil =>
      have noSpace : isSpace c = false := isSpace_eq_false_iff.mpr ⟨by simpa using noBlank, noBreak⟩
      refine ⟨fun _ _ _ => .word ⟨by simp, by simpa using noSpace, ?_⟩, fun d first isSpace => ?_⟩
      · simpa [atWordEnd] using noColon
      · obtain rfl := Option.some.inj first
        rw [noSpace] at isSpace
        cases isSpace
    | cons d rest =>
      cases isSolid : isSpace d with
      | false =>
        have words := solidBehind d rfl isSolid
        refine ⟨fun e first solid => ?_, fun e first blank => ?_⟩
        · exact words.cons (Option.some.inj first ▸ solid)
        · obtain rfl := Option.some.inj first
          have isBlank : isBlank c = true := by simpa [isSpace, noBreak] using blank
          refine ⟨[c], d :: rest, rfl, by simp, by simpa using isBlank, ?_, words⟩
          simpa [isBlank] using noBlank
      | true =>
        obtain ⟨blanks, rest, split, some, isBlanks, noComment, words⟩ := spaceBehind d rfl isSolid
        rw [split]
        refine ⟨fun e first solid => ?_, fun e first blank => ?_⟩
        · obtain rfl := Option.some.inj first
          have isWord : IsWord [c] := by
            refine ⟨by simp, by simpa using solid, ?_⟩
            simpa [atWordEnd, isSolid] using noColon
          exact .more isWord (.blanks some isBlanks) noComment words
        · obtain rfl := Option.some.inj first
          have isBlank : isBlank c = true := by simpa [isSpace, noBreak] using blank
          exact ⟨c :: blanks, rest, rfl, by simp,
            List.forall_mem_cons.mpr ⟨isBlank, isBlanks⟩, noComment, words⟩

theorem isBreak_of_staysPlain (stays : staysPlain text = true) : ∀ c ∈ text, isBreak c = false := by
  induction text with
  | nil => simp
  | cons c rest ih =>
    simp only [staysPlain, Bool.and_eq_true, Bool.not_eq_true'] at stays
    exact List.forall_mem_cons.mpr ⟨stays.1.1.1, ih stays.2⟩

/-- **A plain scalar on one line is a row of words.** -/
theorem IsPlain.words (isPlain : IsPlain text) (indent : Nat) : Words indent text := by
  obtain ⟨starts, stays⟩ := isPlain
  cases text with
  | nil => cases starts
  | cons c rest => exact (words_of_staysPlain stays indent).1 c rfl (isSpace_of_startsWord starts)

end Words

namespace Plain

section Reading

variable {indent : Nat} {word text tail left : List Char} {place : Place}

/-- A word is read to its end. -/
theorem wordLength?_append (solid : ∀ c ∈ word, isSpace c = false)
    (noColon : word.getLast? = some ':' → atWordEnd tail = false)
    (stops : wordLength? false tail = some 0) : wordLength? false (word ++ tail) = some word.length := by
  induction word with
  | nil => exact stops
  | cons c rest ih =>
    have goesOn : ¬ (c == ':' && atWordEnd (rest ++ tail)) = true := by
      rintro ends
      rw [Bool.and_eq_true, beq_iff_eq] at ends
      obtain ⟨rfl, ends⟩ := ends
      cases rest with
      | nil =>
        rw [List.nil_append, noColon rfl] at ends
        cases ends
      | cons d rest =>
        have isSpace : isSpace d = true := ends
        rw [solid d (by simp)] at isSpace
        cases isSpace
    have behind := ih (fun d member => solid d (List.mem_cons_of_mem c member)) fun last =>
      noColon (by
        cases rest with
        | nil => cases last
        | cons d rest => rwa [List.getLast?_cons_cons])
    rw [List.cons_append, wordLength?, solid c List.mem_cons_self]
    simp only [Bool.false_and, Bool.or_false, Bool.false_eq_true, if_false, if_neg goesOn, behind,
      Option.map_some, List.length_cons]

theorem wordLength?_of_isWord (isWord : IsWord word) (stops : wordLength? false tail = some 0) :
    wordLength? false (word ++ tail) = some word.length :=
  wordLength?_append isWord.solid (fun last => absurd last isWord.noColon) stops

/-- One word is read, and what follows tells whether there is another one. -/
theorem readFrom_word {c d : Char} {rest more : List Char} {fuel : Nat} {done : List Char}
    {before : Gap} (here : place.rest = (c :: rest) ++ d :: more)
    (length : wordLength? false place.rest = some (c :: rest).length) (noComment : c ≠ '#')
    (unmarked : place.atDocumentMarker = false) :
    readFrom false indent (fuel + 1) done before place =
      if isSpace d then
        (Gap.read? indent {} (place.skip (c :: rest).length)).bind fun (gap, next) =>
          if next.column < indent then
            some (done ++ before.text ++ (c :: rest), next, gap.first.isSome)
          else readFrom false indent fuel (done ++ before.text ++ (c :: rest)) gap next
      else some (done ++ before.text ++ (c :: rest), place.skip (c :: rest).length, false) := by
  have notComment : (place.rest.head? == some '#') = false := by simpa [here] using noComment
  have read : place.rest.take (c :: rest).length = c :: rest := by rw [here, List.take_left]
  have behind : (place.skip (c :: rest).length).rest = d :: more := Place.rest_skip here
  rw [readFrom, unmarked, notComment, length]
  simp only [List.length_cons] at read behind ⊢
  simp [read, behind]
  cases isSpace d <;> rfl

/-- What ends a row of words, and what is left of it then: a colon at the end of a word, or a comment
behind blanks. -/
inductive Stops : List Char → List Char → Prop
  | colon {tail : List Char} : atWordEnd tail = true → Stops (':' :: tail) (':' :: tail)
  | comment {blanks tail : List Char} : blanks ≠ [] → (∀ b ∈ blanks, isBlank b = true) →
      Stops (blanks ++ '#' :: tail) ('#' :: tail)

theorem Stops.wordLength? (stops : Stops tail left) : Plain.wordLength? false tail = some 0 := by
  cases stops with
  | colon ends => simp [Plain.wordLength?, ends]
  | comment some isBlanks =>
    obtain ⟨b, blanks, rfl⟩ := List.exists_cons_of_ne_nil some
    simp [Plain.wordLength?, isSpace, isBlanks b List.mem_cons_self]

/-- The last word of a scalar. -/
theorem readFrom_last (isWord : IsWord word) (stops : Stops tail left) {fuel : Nat} (done : List Char)
    (before : Gap) (here : place.rest = word ++ tail) (noComment : word.head? ≠ some '#')
    (unmarked : place.atDocumentMarker = false) (deep : indent ≤ place.column)
    (enough : word.length < fuel) :
    ∃ read behind, readFrom false indent fuel done before place = some (read, behind, false) ∧
      behind.rest = left ∧ indent < behind.column := by
  obtain ⟨fuel, rfl⟩ := Nat.exists_eq_succ_of_ne_zero (Nat.ne_zero_of_lt enough)
  obtain ⟨c, rest, rfl⟩ := List.exists_cons_of_ne_nil isWord.nonempty
  have length := wordLength?_of_isWord isWord stops.wordLength?
  have behind : (place.skip (c :: rest).length).rest = tail := Place.rest_skip here
  have deeper : indent < (place.skip (c :: rest).length).column := by
    rw [Place.column_skip, List.length_cons]
    omega
  cases stops with
  | colon =>
    refine ⟨done ++ before.text ++ (c :: rest), _, ?_, behind, deeper⟩
    rw [readFrom_word here (here ▸ length) (by simpa using noComment) unmarked, if_neg (by decide)]
  | @comment blanks tail some isBlanks =>
    obtain ⟨gap, sameLine, reads⟩ := Gap.read?_blanks indent isBlanks rfl behind
    obtain ⟨b, blanks, rfl⟩ := List.exists_cons_of_ne_nil some
    obtain ⟨fuel, rfl⟩ := Nat.exists_eq_succ_of_ne_zero (n := fuel) (by simp at enough; omega)
    have left : ((place.skip (c :: rest).length).skip (b :: blanks).length).rest = '#' :: tail :=
      Place.rest_skip behind
    have indented : indent < ((place.skip (c :: rest).length).skip (b :: blanks).length).column := by
      rw [Place.column_skip]
      omega
    refine ⟨done ++ before.text ++ (c :: rest), _, ?_, left, indented⟩
    rw [readFrom_word (d := b) here (here ▸ length) (by simpa using noComment) unmarked, isSpace,
      isBlanks b List.mem_cons_self, Bool.true_or, if_pos rfl, reads]
    simp only [Option.bind_some, if_neg (Nat.not_lt.mpr (Nat.le_of_lt indented)), readFrom, left]
    simp [sameLine]

/-- **A row of words is one scalar up to what ends it,** on however many lines the words stand. -/
theorem readFrom_words (words : Words indent text) (stops : Stops tail left) {fuel : Nat}
    (done : List Char) (before : Gap) (here : place.rest = text ++ tail)
    (noComment : text.head? ≠ some '#') (unmarked : place.atDocumentMarker = false)
    (deep : indent ≤ place.column) (enough : text.length < fuel) :
    ∃ read behind, readFrom false indent fuel done before place = some (read, behind, false) ∧
      behind.rest = left ∧ indent < behind.column := by
  induction words generalizing fuel done before place with
  | word isWord => exact readFrom_last isWord stops done before here noComment unmarked deep enough
  | @more word gap rest isWord isGap notComment words ih =>
    obtain ⟨fuel, rfl⟩ := Nat.exists_eq_succ_of_ne_zero (Nat.ne_zero_of_lt enough)
    obtain ⟨c, front, rfl⟩ := List.exists_cons_of_ne_nil isWord.nonempty
    obtain ⟨d, blanks, rfl, isSpace⟩ := isGap.exists_space
    obtain ⟨e, others, rfl, solid⟩ := words.exists_cons
    have atWord : place.rest = (c :: front) ++ d :: (blanks ++ (e :: others) ++ tail) := by
      simpa only [List.append_assoc, List.cons_append] using here
    have wordStops : wordLength? false (d :: (blanks ++ (e :: others) ++ tail)) = some 0 := by
      simp [wordLength?, isSpace]
    have atGap : (place.skip (c :: front).length).rest = (d :: blanks) ++ e :: (others ++ tail) :=
      Place.rest_skip (by simpa only [List.append_assoc, List.cons_append] using here)
    obtain ⟨read, next, reads, there, indented, inside⟩ :=
      Gap.read?_gap indent isGap solid atGap (Nat.le_add_right_of_le deep)
    have shorter : (e :: others).length < fuel := by
      simp at enough ⊢
      omega
    obtain ⟨text, behind, readsOn, stands, deeper⟩ := ih (done ++ before.text ++ (c :: front)) read there
      notComment (Place.atDocumentMarker_eq_false inside) indented shorter
    refine ⟨text, behind, ?_, stands, deeper⟩
    rw [readFrom_word atWord (atWord ▸ wordLength?_of_isWord isWord wordStops)
      (by simpa using noComment) unmarked, if_pos isSpace, reads]
    simp only [Option.bind_some, if_neg (Nat.not_lt.mpr indented), readsOn]

theorem read?_words (words : Words indent text) (stops : Stops tail left)
    (here : place.rest = text ++ tail) (noComment : text.head? ≠ some '#')
    (unmarked : place.atDocumentMarker = false) (deep : indent ≤ place.column) :
    ∃ read behind, Plain.read? false indent place = some (read, behind, false) ∧
      behind.rest = left ∧ indent < behind.column := by
  refine readFrom_words words stops [] {} here noComment unmarked deep ?_
  rw [here, List.length_append, Nat.lt_succ_iff]
  exact Nat.le_add_right _ _

end Reading

end Plain

/-! ## Quoted scalars -/

namespace Quoted

/-- The quote around a scalar. -/
def mark (single : Bool) : Char :=
  if single then '\x27' else '\x22'

/-- The text between two quotes on one line. Between single quotes, a quote is written twice; between
double quotes, a backslash stands in front of the letter of an escape. -/
inductive Enclosed (single : Bool) : List Char → Prop
  | nil : Enclosed single []
  | char {c : Char} {rest : List Char} : c ≠ mark single → isBreak c = false →
      (single = true ∨ c ≠ '\\') → Enclosed single rest → Enclosed single (c :: rest)
  | pair {rest : List Char} : single = true → Enclosed single rest →
      Enclosed single (mark single :: mark single :: rest)
  | escape {c : Char} {rest : List Char} : single = false → (named? c).isSome = true →
      Enclosed single rest → Enclosed single ('\\' :: c :: rest)

section Reading

variable {single : Bool} {text tail blanks : List Char} {place : Place}

theorem isSpace_mark (single : Bool) : isSpace (mark single) = false := by
  cases single <;> rfl

/-- No escape of one letter ends the line. -/
theorem isBreak_of_named {c : Char} (named : (named? c).isSome = true) : isBreak c = false := by
  rw [Bool.eq_false_iff]
  intro breaks
  have cases : c = '\n' ∨ c = '\r' ∨ c = '\u0085' ∨ c = '\u2028' ∨ c = '\u2029' := by
    simpa [isBreak, or_assoc] using breaks
  rcases cases with rfl | rfl | rfl | rfl | rfl <;> cases named

/-- The next character is told apart by what it is. -/
theorem readFrom_cons {c : Char} {rest : List Char} (here : place.rest = c :: rest)
    (inside : 0 < place.column) (fuel : Nat) (done : List Char) :
    readFrom single (fuel + 1) done place =
      if c == mark single then
        if single && rest.head? == some (mark single) then
          readFrom single fuel (c :: done) (place.skip 2)
        else some (done.reverse, place.skip 1)
      else if isSpace c then
        (Gap.read? 0 {} place).bind fun (gap, next) =>
          readFrom single fuel (gap.text.reverse ++ done) next
      else if c == '\\' && !single then
        match (place.skip 1).takeBreak? with
        | some (_, next) => (Gap.read? 0 { first := some [] } next).bind fun (gap, next) =>
          readFrom single fuel (gap.text.reverse ++ done) next
        | none => (escape? (place.skip 1)).bind fun (d, next) =>
          readFrom single fuel (d :: done) next
      else readFrom single fuel (c :: done) (place.skip 1) := by
  rw [readFrom, Place.atDocumentMarker_eq_false inside]
  simp only [here, mark]
  rfl

/-- Blanks are read at once. -/
theorem readFrom_blanks {c : Char} (isBlanks : ∀ b ∈ blanks, isBlank b = true)
    (solid : isSpace c = false) (here : place.rest = blanks ++ c :: tail) (inside : 0 < place.column)
    (fuel : Nat) (done : List Char) :
    ∃ less others, fuel ≤ less + blanks.length ∧
      readFrom single fuel done place = readFrom single less others (place.skip blanks.length) := by
  cases blanks with
  | nil => exact ⟨fuel, done, Nat.le_refl fuel, rfl⟩
  | cons b blanks =>
    cases fuel with
    | zero => exact ⟨0, done, Nat.zero_le _, rfl⟩
    | succ fuel =>
      have isBlank := isBlanks b List.mem_cons_self
      have noQuote : ¬ (b == mark single) = true := by
        rw [beq_iff_eq]
        rintro rfl
        cases single <;> cases isBlank
      obtain ⟨gap, -, reads⟩ := Gap.read?_blanks 0 isBlanks solid here
      refine ⟨fuel, gap.text.reverse ++ done, ?_, ?_⟩
      · rw [List.length_cons]
        omega
      · rw [readFrom_cons here inside, if_neg noQuote, isSpace, isBlank, Bool.true_or, if_pos rfl,
          reads]
        rfl

/-- Characters that are read in one step, wherever they stand. -/
def Advances (single : Bool) (unit : List Char) : Prop :=
  ∀ ⦃place : Place⦄ ⦃behind : List Char⦄, place.rest = unit ++ behind → 0 < place.column →
    ∀ fuel done, ∃ others,
      readFrom single (fuel + 1) done place = readFrom single fuel others (place.skip unit.length)

theorem advances_char {c : Char} (noMark : c ≠ mark single) (solid : isSpace c = false)
    (noEscape : single = true ∨ c ≠ '\\') : Advances single [c] := by
  intro place behind here inside fuel done
  have noBackslash : ¬ (c == '\\' && !single) = true := by
    rcases noEscape with rfl | other <;> simp_all
  refine ⟨c :: done, ?_⟩
  rw [readFrom_cons here inside, if_neg (by simpa using noMark), solid, if_neg Bool.false_ne_true,
    if_neg noBackslash]
  rfl

theorem advances_pair : Advances true [mark true, mark true] := by
  intro place behind here inside fuel done
  refine ⟨mark true :: done, ?_⟩
  rw [readFrom_cons here inside, beq_self_eq_true, if_pos rfl]
  rfl

theorem advances_escape {c : Char} (named : (named? c).isSome = true) :
    Advances false ['\\', c] := by
  intro place behind here inside fuel done
  have noBreak := isBreak_of_named named
  obtain ⟨d, named⟩ := Option.isSome_iff_exists.mp named
  have behindMark : (place.skip 1).rest = c :: behind := Place.rest_skip_one here
  have escaped : escape? (place.skip 1) = some (d, place.skip 2) := by
    simp only [escape?, behindMark, named, Place.skip_skip]
  refine ⟨d :: done, ?_⟩
  rw [readFrom_cons here inside, if_neg (by decide), if_neg (by decide), if_pos (by decide),
    Place.takeBreak?_eq_none behindMark noBreak, escaped]
  rfl

/-- A text between quotes is read to its end behind any blanks, with as much fuel as there are
characters. -/
def ReadsOn (single : Bool) (text tail : List Char) : Prop :=
  ∀ ⦃blanks : List Char⦄ ⦃place : Place⦄ (fuel : Nat) (done : List Char),
    (∀ b ∈ blanks, isBlank b = true) → place.rest = blanks ++ text ++ mark single :: tail →
      0 < place.column → blanks.length + text.length < fuel →
        ∃ read, readFrom single fuel done place =
          some (read, place.skip (blanks.length + text.length + 1))

/-- The closing quote is not written twice. -/
theorem readsOn_nil (closed : tail.head? ≠ some (mark single)) : ReadsOn single [] tail := by
  intro blanks place fuel done isBlanks here inside enough
  rw [List.append_nil] at here
  obtain ⟨less, others, fuels, reads⟩ :=
    readFrom_blanks isBlanks (isSpace_mark single) here inside fuel done
  obtain ⟨less, rfl⟩ := Nat.exists_eq_succ_of_ne_zero (n := less) (by simp at enough; omega)
  refine ⟨others.reverse, ?_⟩
  rw [reads, readFrom_cons (Place.rest_skip here) (Nat.add_pos_left inside _), beq_self_eq_true,
    if_pos rfl, beq_eq_false_iff_ne.mpr closed, Bool.and_false, if_neg Bool.false_ne_true]
  simp

/-- A blank is read together with those in front of it. -/
theorem ReadsOn.blank {b : Char} (readsOn : ReadsOn single text tail) (isBlank : isBlank b = true) :
    ReadsOn single (b :: text) tail := by
  intro blanks place fuel done isBlanks here inside enough
  have areBlanks : ∀ d ∈ blanks ++ [b], Yaml.isBlank d = true := by
    simpa [isBlank, or_imp, forall_and] using isBlanks
  obtain ⟨read, reads⟩ := readsOn fuel done areBlanks (by simpa using here) inside
    (by simp at enough ⊢; omega)
  refine ⟨read, ?_⟩
  rw [reads, List.length_append, List.length_singleton, List.length_cons]
  congr 3
  omega

/-- A unit is read behind the blanks in front of it. -/
theorem ReadsOn.unit {c : Char} {unit : List Char} (readsOn : ReadsOn single text tail)
    (advances : Advances single (c :: unit)) (solid : isSpace c = false) :
    ReadsOn single (c :: unit ++ text) tail := by
  intro blanks place fuel done isBlanks here inside enough
  have atUnit : place.rest = blanks ++ c :: (unit ++ (text ++ mark single :: tail)) := by
    simpa using here
  obtain ⟨less, others, fuels, reads⟩ := readFrom_blanks isBlanks solid atUnit inside fuel done
  rw [List.length_append, List.length_cons] at enough
  obtain ⟨less, rfl⟩ := Nat.exists_eq_succ_of_ne_zero (n := less) (by omega)
  have there : (place.skip blanks.length).rest = c :: unit ++ (text ++ mark single :: tail) :=
    Place.rest_skip atUnit
  obtain ⟨more, goesOn⟩ := advances there (Nat.add_pos_left inside _) less others
  obtain ⟨read, behind⟩ := readsOn less more (List.forall_mem_nil _) (Place.rest_skip there)
    (Nat.add_pos_left (Nat.add_pos_left inside _) _) (by rw [List.length_nil]; omega)
  refine ⟨read, ?_⟩
  rw [reads, goesOn, behind, Place.skip_skip, Place.skip_skip, List.length_append, List.length_nil,
    Nat.zero_add, Nat.add_assoc, Nat.add_assoc]

/-- **What stands between quotes is read up to the closing one.** -/
theorem Enclosed.readsOn (enclosed : Enclosed single text)
    (closed : tail.head? ≠ some (mark single)) : ReadsOn single text tail := by
  induction enclosed with
  | nil => exact readsOn_nil closed
  | @char c rest noMark noBreak noEscape enclosed ih =>
    cases isSolid : isBlank c with
    | true => exact ih.blank isSolid
    | false =>
      have solid : isSpace c = false := isSpace_eq_false_iff.mpr ⟨isSolid, noBreak⟩
      exact ih.unit (advances_char noMark solid noEscape) solid
  | pair isSingle enclosed ih =>
    subst isSingle
    exact ih.unit advances_pair (isSpace_mark true)
  | escape isDouble named enclosed ih =>
    subst isDouble
    exact ih.unit (advances_escape named) rfl

/-- **A quoted scalar is read to its end.** -/
theorem read?_enclosed (enclosed : Enclosed single text)
    (here : place.rest = mark single :: text ++ mark single :: tail)
    (closed : tail.head? ≠ some (mark single)) :
    ∃ read, Quoted.read? single place = some (read, place.skip (text.length + 2)) := by
  obtain ⟨read, reads⟩ := enclosed.readsOn closed (place.rest.length + 1) [] (List.forall_mem_nil _)
    (Place.rest_skip_one here) (Nat.succ_pos place.column) (by simp [here]; omega)
  have whole : 1 + (([] : List Char).length + text.length + 1) = text.length + 2 := by
    rw [List.length_nil]
    omega
  refine ⟨read, ?_⟩
  rw [Quoted.read?, reads, Place.skip_skip, whole]

end Reading

end Quoted

end Docsite.Yaml
