/-
**What is written as JSON is read again.**

A value that is written with one member to a line, and whose numbers were not spelled by hand, is read
from its text as it was: every text with its escapes, every list and every object with its members in
their order.

* `readString?_quote`: texts in quotes.
* `read?_pretty`: whole values.
-/

import Mathlib.Data.Option.Basic
import Docsite.Json.Printer
import Docsite.Json.Reader

namespace Docsite.Json

/-! ## Strings -/

attribute [local simp] stringItems itemsText?

/-- Whether a character is written by the digits of its number. -/
def isSpelledOut (c : Char) : Bool :=
  c.toNat < 0x20 && !(c ∈ ['\x08', '\x0c', '\n', '\r', '\t'])

/-- What is read for a character that was written. -/
def itemOf (c : Char) : StringItem :=
  if isSpelledOut c then .unit c.toNat else .char c

/-- The four digits of a control character have its number as their value. -/
theorem unitValue?_lowerHexDigit {n : Nat} (small : n < 0x20) :
    unitValue? '0' '0' (lowerHexDigit (n / 16)) (lowerHexDigit (n % 16)) = some n := by
  have all : ∀ n < 0x20,
      unitValue? '0' '0' (lowerHexDigit (n / 16)) (lowerHexDigit (n % 16)) = some n := by
    decide
  exact all n small

/-- A backslash and a letter are read as what they stand for. -/
theorem stringItems_letter {letter c : Char} (meant : escaped? letter = some c)
    (rest : List Char) :
    stringItems ('\\' :: letter :: rest) =
      (stringItems rest).map fun (items, behind) => (.char c :: items, behind) := by
  have notDigits : letter ≠ 'u' := by
    rintro rfl
    cases meant
  rw [stringItems.eq_4 letter rest fun _ _ _ _ _ same => absurd same notDigits, meant]
  cases stringItems rest with
  | none => rfl
  | some read => rfl

/-- Four digits behind a backslash and a `u` are read as the number that they spell. -/
theorem stringItems_unit {a b c d : Char} {value : Nat} (spelled : unitValue? a b c d = some value)
    (rest : List Char) :
    stringItems ('\\' :: 'u' :: a :: b :: c :: d :: rest) =
      (stringItems rest).map fun (items, behind) => (.unit value :: items, behind) := by
  rw [stringItems, spelled]
  cases stringItems rest with
  | none => rfl
  | some read => rfl

/-- A character that is neither a quote nor a backslash nor a control character is read as itself. -/
theorem stringItems_char {c : Char} (noQuote : c ≠ '\x22') (noEscape : c ≠ '\\')
    (large : 0x20 ≤ c.toNat) (rest : List Char) :
    stringItems (c :: rest) =
      (stringItems rest).map fun (items, behind) => (.char c :: items, behind) := by
  rw [stringItems.eq_5 c rest noQuote (fun _ _ _ _ _ same => absurd same noEscape)
    fun _ _ same => absurd same noEscape]
  show Option.bind (if 0x20 ≤ c.toNat then some () else none) _ = _
  rw [if_pos large]
  cases stringItems rest with
  | none => rfl
  | some read => rfl

/-- A character that was written is read as one item. -/
theorem stringItems_escape (c : Char) (rest : List Char) :
    stringItems (escape c ++ rest) =
      (stringItems rest).map fun (items, behind) => (itemOf c :: items, behind) := by
  unfold escape
  split
  · exact stringItems_letter rfl rest
  · exact stringItems_letter rfl rest
  · exact stringItems_letter rfl rest
  · exact stringItems_letter rfl rest
  · exact stringItems_letter rfl rest
  · exact stringItems_letter rfl rest
  · exact stringItems_letter rfl rest
  · next _ noQuote noEscape noBackspace noFeed noLine noReturn noTab =>
    split
    · next small =>
      have spelledOut : isSpelledOut c = true := by
        simp only [isSpelledOut, small, List.mem_cons, List.not_mem_nil, or_false, decide_true,
          Bool.true_and, Bool.not_eq_true', decide_eq_false_iff_not, not_or]
        exact ⟨noBackspace, noFeed, noLine, noReturn, noTab⟩
      have unit : itemOf c = .unit c.toNat := if_pos spelledOut
      rw [unit]
      exact stringItems_unit (unitValue?_lowerHexDigit small) rest
    · next large =>
      have char : itemOf c = .char c := by simp [itemOf, isSpelledOut, large]
      rw [char]
      exact stringItems_char noQuote noEscape (Nat.le_of_not_lt large) rest

/-- The items of a text in quotes, and what stands behind it. -/
theorem stringItems_quoted (text rest : List Char) :
    stringItems (text.flatMap escape ++ '\x22' :: rest) = some (text.map itemOf, rest) := by
  induction text with
  | nil => rfl
  | cons c text ih =>
    rw [List.flatMap_cons, List.append_assoc, stringItems_escape, ih]
    rfl

/-- The items of a text spell it: no unit is half of a surrogate pair. -/
theorem itemsText?_map_itemOf (text : List Char) : itemsText? (text.map itemOf) = some text := by
  induction text with
  | nil => rfl
  | cons c text ih =>
    rw [List.map_cons]
    by_cases spelledOut : isSpelledOut c
    · have unit : itemOf c = .unit c.toNat := if_pos spelledOut
      have small : c.toNat < 0x20 := by
        simp only [isSpelledOut, Bool.and_eq_true, decide_eq_true_eq] at spelledOut
        exact spelledOut.1
      have notHigh : isHighSurrogate c.toNat = false := by
        simp only [isHighSurrogate, Bool.and_eq_false_iff, decide_eq_false_iff_not]
        omega
      have notLow : isLowSurrogate c.toNat = false := by
        simp only [isLowSurrogate, Bool.and_eq_false_iff, decide_eq_false_iff_not]
        omega
      rw [unit]
      match same : text.map itemOf with
      | .unit low :: others =>
        rw [itemsText?, notHigh, notLow, ← same, ih]
        simp
      | .char d :: others =>
        rw [itemsText?, notHigh, notLow, ← same, ih]
        · simp
        · intro low more impossible
          cases impossible
      | [] =>
        rw [itemsText?, notHigh, notLow, ← same, ih]
        · simp
        · intro low more impossible
          cases impossible
    · have char : itemOf c = .char c := if_neg spelledOut
      rw [char, itemsText?, ih, Option.map_some]

/-- **A text in quotes is read as it was written.** -/
theorem readString?_quote (s : String) (rest : List Char) :
    ∃ inside, (quote s).toList ++ rest = '\x22' :: inside ∧
      readString? inside = some (some s, rest) := by
  refine ⟨s.toList.flatMap escape ++ '\x22' :: rest, by simp [quote], ?_⟩
  rw [readString?, stringItems_quoted, Option.map_some]
  dsimp only
  rw [itemsText?_map_itemOf, Option.map_some, String.ofList_toList]

/-! ## White space -/

attribute [local simp] readValue? readItems? readMembers?

/-- A line break with its indentation does not count in front of a token. -/
theorem skipSpace_newline (depth : Nat) (cs : List Char) :
    skipSpace ((newline depth).toList ++ cs) = skipSpace cs := by
  have blanks (n : Nat) : skipSpace (List.replicate n ' ' ++ cs) = skipSpace cs := by
    induction n with
    | zero => rfl
    | succ n ih =>
      rw [List.replicate_succ, List.cons_append]
      exact ih
  rw [newline, String.toList_ofList, List.cons_append]
  exact blanks (2 * depth)

theorem skipSpace_cons {c : Char} (noSpace : isSpace c = false) (cs : List Char) :
    skipSpace (c :: cs) = c :: cs :=
  List.dropWhile_cons_of_neg (by rw [noSpace]; exact Bool.false_ne_true)

section Congruence

variable {cs other : List Char}

/-- What is read does not depend on the white space in front. -/
theorem readValue?_congr (same : skipSpace cs = skipSpace other) (fuel : Nat) :
    readValue? fuel cs = readValue? fuel other := by
  cases fuel with
  | zero => rw [readValue?, readValue?]
  | succ fuel => rw [readValue?.eq_2, readValue?.eq_2, same]

theorem readItems?_congr (same : skipSpace cs = skipSpace other) (fuel : Nat) :
    readItems? fuel cs = readItems? fuel other := by
  cases fuel with
  | zero => rw [readItems?, readItems?]
  | succ fuel => rw [readItems?.eq_2, readItems?.eq_2, readValue?_congr same]

theorem readMembers?_congr (same : skipSpace cs = skipSpace other) (fuel : Nat) :
    readMembers? fuel cs = readMembers? fuel other := by
  cases fuel with
  | zero => rw [readMembers?, readMembers?]
  | succ fuel => rw [readMembers?.eq_2, readMembers?.eq_2, same]

end Congruence

/-! ## Layout -/

/-- The text of a block behind its opening bracket and the line break there. -/
def blockRest (closing : Char) (depth : Nat) : List String → List Char
  | [] => []
  | [last] => last.toList ++ ((newline depth).toList ++ [closing])
  | piece :: next :: pieces =>
    piece.toList ++ ',' :: ((newline (depth + 1)).toList ++ blockRest closing depth (next :: pieces))

theorem toList_block {opening closing : String} {first last : Char} {depth : Nat}
    {pieces : List String} (opens : opening.toList = [first]) (closes : closing.toList = [last])
    (filled : pieces ≠ []) :
    (block opening closing depth pieces).toList =
      first :: ((newline (depth + 1)).toList ++ blockRest last depth pieces) := by
  have joined : ∀ pieces : List String, pieces ≠ [] →
      (Text.joinWith ("," ++ newline (depth + 1)) pieces).toList ++
        ((newline depth).toList ++ [last]) = blockRest last depth pieces := by
    intro pieces filled
    induction pieces with
    | nil => exact absurd rfl filled
    | cons piece pieces ih =>
      cases pieces with
      | nil => rw [Text.joinWith, String.intercalate_singleton, blockRest]
      | cons next pieces =>
        rw [blockRest, ← ih (List.cons_ne_nil _ _), Text.joinWith, String.intercalate_cons_cons]
        simp [Text.joinWith]
  rw [block, if_neg (by simpa using filled), ← joined pieces filled]
  simp [opens, closes]

/-! ## Values -/

attribute [local simp] prettyAt prettyItems prettyMembers

/-- A value without numbers in which every text and every key is there. -/
inductive Value.IsPlain : Value → Prop
  | null : IsPlain .null
  | bool (value : Bool) : IsPlain (.bool value)
  | text (s : String) : IsPlain (.ofText s)
  | array {items : List Value} : (∀ item ∈ items, IsPlain item) → IsPlain (.array items)
  | members {members : List (String × Value)} : (∀ member ∈ members, IsPlain member.2) →
      IsPlain (.ofMembers members)

/-- Whatever stands behind the text of a value, the value is read from it. -/
def ReadsBack (value : Value) : Prop :=
  ∀ depth fuel rest, (prettyAt depth value).toList.length < fuel →
    readValue? fuel ((prettyAt depth value).toList ++ rest) = some (value, rest)

/-- The text of a value starts with neither white space nor a closing bracket. -/
def OpensValue (cs : List Char) : Prop :=
  ∃ c rest, cs = c :: rest ∧ isSpace c = false ∧ c ≠ ']'

theorem prettyItems_eq (depth : Nat) (items : List Value) :
    prettyItems depth items = items.map (prettyAt (depth + 1)) := by
  induction items with
  | nil => rw [prettyItems, List.map_nil]
  | cons item items ih => rw [prettyItems, ih, List.map_cons]

/-- The text of a member at the given depth. -/
def prettyMember (depth : Nat) (member : String × Value) : String :=
  quote member.1 ++ ": " ++ prettyAt (depth + 1) member.2

theorem prettyMembers_eq (depth : Nat) (members : List (String × Value)) :
    prettyMembers depth (members.map fun (key, value) => (some key, value)) =
      members.map (prettyMember depth) := by
  induction members with
  | nil => rw [List.map_nil, prettyMembers, List.map_nil]
  | cons member members ih => rw [List.map_cons, prettyMembers, ih, List.map_cons]; rfl

section Texts

variable (depth : Nat)

theorem toList_null : (prettyAt depth .null).toList = ['n', 'u', 'l', 'l'] := by
  rw [prettyAt]
  rfl

theorem toList_true : (prettyAt depth (.bool true)).toList = ['t', 'r', 'u', 'e'] := by
  rw [prettyAt]
  rfl

theorem toList_false : (prettyAt depth (.bool false)).toList = ['f', 'a', 'l', 's', 'e'] := by
  rw [prettyAt]
  rfl

theorem toList_text (s : String) : (prettyAt depth (.ofText s)).toList = (quote s).toList := by
  rw [Value.ofText, prettyAt, Option.getD_some]

theorem toList_array {items : List Value} (filled : items ≠ []) :
    (prettyAt depth (.array items)).toList =
      '[' :: ((newline (depth + 1)).toList ++
        blockRest ']' depth (items.map (prettyAt (depth + 1)))) := by
  rw [prettyAt, prettyItems_eq]
  exact toList_block rfl rfl (by simpa using filled)

theorem toList_members {members : List (String × Value)} (filled : members ≠ []) :
    (prettyAt depth (.ofMembers members)).toList =
      '\x7b' :: ((newline (depth + 1)).toList ++
        blockRest '\x7d' depth (members.map (prettyMember depth))) := by
  rw [Value.ofMembers, prettyAt, prettyMembers_eq]
  exact toList_block rfl rfl (by simpa using filled)

theorem toList_array_nil : (prettyAt depth (.array [])).toList = ['[', ']'] := by
  rw [prettyAt, prettyItems_eq]
  simp [block]

theorem toList_members_nil : (prettyAt depth (.ofMembers [])).toList = ['\x7b', '\x7d'] := by
  rw [Value.ofMembers, prettyAt, prettyMembers_eq]
  simp [block]

end Texts

theorem Value.IsPlain.opensValue {value : Value} (plain : value.IsPlain) (depth : Nat) :
    OpensValue (prettyAt depth value).toList := by
  cases plain with
  | null => exact ⟨'n', _, toList_null depth, rfl, by decide⟩
  | bool value =>
    cases value with
    | true => exact ⟨'t', _, toList_true depth, rfl, by decide⟩
    | false => exact ⟨'f', _, toList_false depth, rfl, by decide⟩
  | text s =>
    obtain ⟨inside, quoted, -⟩ := readString?_quote s []
    rw [List.append_nil] at quoted
    exact ⟨'\x22', inside, (toList_text depth s).trans quoted, rfl, by decide⟩
  | @array items =>
    by_cases filled : items = []
    · subst filled
      exact ⟨'[', _, toList_array_nil depth, rfl, by decide⟩
    · exact ⟨'[', _, toList_array depth filled, rfl, by decide⟩
  | @members members =>
    by_cases filled : members = []
    · subst filled
      exact ⟨'\x7b', _, toList_members_nil depth, rfl, by decide⟩
    · exact ⟨'\x7b', _, toList_members depth filled, rfl, by decide⟩

/-- Fuel that is more than some number is not used up. -/
theorem exists_fuel {n fuel : Nat} (enough : n < fuel) : ∃ less, fuel = less + 1 :=
  Nat.exists_eq_add_one_of_ne_zero (Nat.ne_of_gt (Nat.zero_lt_of_lt enough))

/-- **The items of an array are read one after the other.** -/
theorem readItems?_blockRest {items : List Value} (filled : items ≠ [])
    (back : ∀ item ∈ items, ReadsBack item) (depth fuel : Nat) (rest : List Char)
    (enough : (blockRest ']' depth (items.map (prettyAt (depth + 1)))).length < fuel) :
    readItems? fuel (blockRest ']' depth (items.map (prettyAt (depth + 1))) ++ rest) =
      some (items, rest) := by
  induction items generalizing fuel with
  | nil => exact absurd rfl filled
  | cons item items ih =>
    obtain ⟨fuel, rfl⟩ := exists_fuel enough
    have first := back item List.mem_cons_self (depth + 1) fuel
    cases items with
    | nil =>
      rw [List.map_cons, List.map_nil, blockRest] at enough ⊢
      simp only [List.length_append, List.length_cons, List.length_nil] at enough
      rw [readItems?.eq_2, List.append_assoc, first _ (by omega), List.append_assoc]
      simp only [Option.bind_eq_bind, Option.bind_some, skipSpace_newline]
      rfl
    | cons next items =>
      rw [List.map_cons, List.map_cons, blockRest] at enough ⊢
      rw [← List.map_cons] at enough ⊢
      simp only [List.length_append, List.length_cons] at enough
      rw [readItems?.eq_2, List.append_assoc, first _ (by omega)]
      simp only [Option.bind_eq_bind, Option.bind_some, List.cons_append, List.append_assoc]
      rw [skipSpace_cons rfl]
      show (readItems? fuel _).bind (fun read => some (item :: read.1, read.2)) = _
      rw [readItems?_congr (skipSpace_newline _ _),
        ih (List.cons_ne_nil _ _) (fun item member => back item (List.mem_cons_of_mem _ member)) _
          (by omega)]
      rfl

/-- A member is read up to what stands behind its value: the end of the object or the next member. -/
theorem readMembers?_member {member : String × Value} (back : ReadsBack member.2)
    {depth fuel : Nat} (enough : (prettyMember depth member).toList.length < fuel)
    (behind : List Char) :
    (∀ rest, skipSpace behind = '\x7d' :: rest →
      readMembers? (fuel + 1) ((prettyMember depth member).toList ++ behind) =
        some ([(some member.1, member.2)], rest)) ∧
    ∀ more, skipSpace behind = ',' :: more →
      readMembers? (fuel + 1) ((prettyMember depth member).toList ++ behind) =
        (readMembers? fuel more).map fun (members, rest) =>
          ((some member.1, member.2) :: members, rest) := by
  obtain ⟨key, value⟩ := member
  have shape (rest : List Char) : (prettyMember depth (key, value)).toList ++ rest =
      (quote key).toList ++ (':' :: ' ' :: ((prettyAt (depth + 1) value).toList ++ rest)) := by
    simp [prettyMember]
  have shorter : (prettyAt (depth + 1) value).toList.length < fuel := by
    refine Nat.lt_of_le_of_lt ?_ enough
    simp only [prettyMember, String.toList_append, List.length_append]
    omega
  have blank : skipSpace (' ' :: ((prettyAt (depth + 1) value).toList ++ behind)) =
      skipSpace ((prettyAt (depth + 1) value).toList ++ behind) := rfl
  have readsValue : readValue? fuel (' ' :: ((prettyAt (depth + 1) value).toList ++ behind)) =
      some (value, behind) :=
    (readValue?_congr blank fuel).trans (back (depth + 1) fuel behind shorter)
  obtain ⟨inside, quoted, readsKey⟩ :=
    readString?_quote key (':' :: ' ' :: ((prettyAt (depth + 1) value).toList ++ behind))
  have colon := skipSpace_cons (c := ':') rfl
    (' ' :: ((prettyAt (depth + 1) value).toList ++ behind))
  constructor
  · intro rest closed
    rw [shape, quoted, readMembers?.eq_2, skipSpace_cons rfl]
    simp only [readsKey, Option.bind_eq_bind, Option.bind_some, colon, readsValue, closed]
    rfl
  · intro more comma
    rw [shape, quoted, readMembers?.eq_2, skipSpace_cons rfl]
    simp only [readsKey, Option.bind_eq_bind, Option.bind_some, colon, readsValue, comma]
    cases readMembers? fuel more with
    | none => rfl
    | some read => rfl

/-- **The members of an object are read one after the other.** -/
theorem readMembers?_blockRest {members : List (String × Value)} (filled : members ≠ [])
    (back : ∀ member ∈ members, ReadsBack member.2) (depth fuel : Nat) (rest : List Char)
    (enough : (blockRest '\x7d' depth (members.map (prettyMember depth))).length < fuel) :
    readMembers? fuel (blockRest '\x7d' depth (members.map (prettyMember depth)) ++ rest) =
      some (members.map fun (key, value) => (some key, value), rest) := by
  induction members generalizing fuel with
  | nil => exact absurd rfl filled
  | cons member members ih =>
    obtain ⟨fuel, rfl⟩ := exists_fuel enough
    have first := @readMembers?_member member (back member List.mem_cons_self) depth fuel
    cases members with
    | nil =>
      rw [List.map_cons, List.map_nil, blockRest] at enough ⊢
      simp only [List.length_append, List.length_cons, List.length_nil] at enough
      rw [List.append_assoc, List.append_assoc]
      exact (first (by omega) _).1 rest (skipSpace_newline _ _)
    | cons next members =>
      rw [List.map_cons, List.map_cons, blockRest] at enough ⊢
      rw [← List.map_cons] at enough ⊢
      simp only [List.length_append, List.length_cons] at enough
      rw [List.append_assoc, List.cons_append, List.append_assoc,
        (first (by omega) _).2 _ (skipSpace_cons rfl _),
        readMembers?_congr (skipSpace_newline _ _),
        ih (List.cons_ne_nil _ _) (fun member inside => back member (List.mem_cons_of_mem _ inside))
          _ (by omega)]
      rfl

theorem blockRest_cons (closing : Char) (depth : Nat) (piece : String) (pieces : List String) :
    ∃ behind, blockRest closing depth (piece :: pieces) = piece.toList ++ behind := by
  cases pieces with
  | nil => exact ⟨_, rfl⟩
  | cons next pieces => exact ⟨_, rfl⟩

/-- An array that is not closed at once is read as its items. -/
theorem readValue?_array {fuel depth : Nat} {cs : List Char} (opens : OpensValue cs) :
    readValue? (fuel + 1) ('[' :: ((newline depth).toList ++ cs)) =
      (readItems? fuel cs).map fun (items, rest) => (.array items, rest) := by
  obtain ⟨c, more, rfl, noSpace, notClosing⟩ := opens
  rw [readValue?.eq_2, skipSpace_cons rfl]
  simp only [skipSpace_newline, skipSpace_cons noSpace]
  rw [readItems?_congr (skipSpace_newline _ _)]
  split
  · next closed => exact absurd (List.cons.inj closed).1 notClosing
  · rfl

/-- An object that is not closed at once is read as its members. -/
theorem readValue?_object {fuel depth : Nat} {cs : List Char} :
    readValue? (fuel + 1) ('\x7b' :: ((newline depth).toList ++ '\x22' :: cs)) =
      (readMembers? fuel ('\x22' :: cs)).map fun (members, rest) => (.object members, rest) := by
  have quote := skipSpace_cons (c := '\x22') rfl cs
  rw [readValue?.eq_2, skipSpace_cons rfl]
  simp only [skipSpace_newline, quote]
  rw [readMembers?_congr (skipSpace_newline _ _)]
  rfl

/-- An array is read from its text if its items are read from theirs. -/
theorem readsBack_array {items : List Value}
    (opens : ∀ item ∈ items, ∀ depth, OpensValue (prettyAt depth item).toList)
    (back : ∀ item ∈ items, ReadsBack item) : ReadsBack (.array items) := by
  intro depth fuel rest enough
  obtain ⟨fuel, rfl⟩ := exists_fuel enough
  cases items with
  | nil =>
    rw [toList_array_nil]
    rfl
  | cons item items =>
    rw [toList_array depth (List.cons_ne_nil _ _)] at enough ⊢
    simp only [List.length_append, List.length_cons] at enough
    have reads := readItems?_blockRest (List.cons_ne_nil _ _) back depth fuel rest (by omega)
    have opensRest : OpensValue (blockRest ']' depth ((item :: items).map (prettyAt (depth + 1))) ++
        rest) := by
      obtain ⟨behind, shape⟩ := blockRest_cons ']' depth (prettyAt (depth + 1) item)
        (items.map (prettyAt (depth + 1)))
      obtain ⟨c, more, opensItem, noSpace, notClosing⟩ :=
        opens item List.mem_cons_self (depth + 1)
      rw [List.map_cons, shape, opensItem]
      exact ⟨c, _, rfl, noSpace, notClosing⟩
    rw [List.cons_append, List.append_assoc, readValue?_array opensRest, reads]
    rfl

/-- An object is read from its text if the values of its members are read from theirs. -/
theorem readsBack_members {members : List (String × Value)}
    (back : ∀ member ∈ members, ReadsBack member.2) : ReadsBack (.ofMembers members) := by
  intro depth fuel rest enough
  obtain ⟨fuel, rfl⟩ := exists_fuel enough
  cases members with
  | nil =>
    rw [toList_members_nil]
    rfl
  | cons member members =>
    rw [toList_members depth (List.cons_ne_nil _ _)] at enough ⊢
    simp only [List.length_append, List.length_cons] at enough
    have reads := readMembers?_blockRest (List.cons_ne_nil _ _) back depth fuel rest (by omega)
    obtain ⟨behind, shape⟩ := blockRest_cons '\x7d' depth (prettyMember depth member)
      (members.map (prettyMember depth))
    obtain ⟨inside, quoted, -⟩ := readString?_quote member.1
      ((": " ++ prettyAt (depth + 1) member.2).toList ++ (behind ++ rest))
    have opens : blockRest '\x7d' depth ((member :: members).map (prettyMember depth)) ++ rest =
        '\x22' :: inside := by
      rw [← quoted, List.map_cons, shape]
      simp [prettyMember]
    rw [List.cons_append, List.append_assoc, opens, readValue?_object, ← opens, reads]
    rfl

/-- **A plain value is read from its text.** -/
theorem Value.IsPlain.readsBack {value : Value} (plain : value.IsPlain) : ReadsBack value := by
  induction plain with
  | null =>
    intro depth fuel rest enough
    obtain ⟨fuel, rfl⟩ := exists_fuel enough
    rw [toList_null]
    rfl
  | bool value =>
    intro depth fuel rest enough
    obtain ⟨fuel, rfl⟩ := exists_fuel enough
    cases value with
    | true =>
      rw [toList_true]
      rfl
    | false =>
      rw [toList_false]
      rfl
  | text s =>
    intro depth fuel rest enough
    obtain ⟨fuel, rfl⟩ := exists_fuel enough
    obtain ⟨inside, quoted, reads⟩ := readString?_quote s rest
    rw [toList_text, quoted, readValue?.eq_2, skipSpace_cons rfl]
    simp only [reads, Option.map_some, Value.ofText]
  | array plain back =>
    exact readsBack_array (fun item member => (plain item member).opensValue) back
  | members _ back => exact readsBack_members back

/-- **What is written is read again.** -/
theorem read?_pretty {value : Value} (plain : value.IsPlain) : read? (pretty value) = some value := by
  have reads := plain.readsBack 0 ((pretty value).toList.length + 1) [] (Nat.lt_succ_self _)
  rw [List.append_nil] at reads
  rw [read?]
  show (readValue? ((pretty value).toList.length + 1) (pretty value).toList).bind _ = _
  rw [pretty] at reads ⊢
  rw [reads]
  rfl

end Docsite.Json
