/-
**Blank characters.**

White space in the sense of the Unicode property `White_Space`, and the two ways this library uses
it: trimming the ends of a text and asking whether anything is left.

* `trim_eq_empty_iff`: a text is blank exactly when trimming leaves nothing of it.
-/

namespace Docsite.Text

/-! ## The character class -/

/-- The characters with the Unicode property `White_Space`. -/
def isBlank (c : Char) : Bool :=
  let n := c.toNat
  (9 ≤ n && n ≤ 13) || n == 0x20 || n == 0x85 || n == 0xA0 || n == 0x1680 ||
    (0x2000 ≤ n && n ≤ 0x200A) || n == 0x2028 || n == 0x2029 || n == 0x202F || n == 0x205F ||
    n == 0x3000

/-! ## Trimming -/

/-- The characters without those at the end that satisfy `p`. -/
def dropEndWhile (p : Char → Bool) (cs : List Char) : List Char :=
  (cs.reverse.dropWhile p).reverse

/-- The characters without those at either end that satisfy `p`. -/
def dropBothWhile (p : Char → Bool) (cs : List Char) : List Char :=
  dropEndWhile p (cs.dropWhile p)

/-- A text without leading white space. -/
def trimStart (s : String) : String :=
  String.ofList (s.toList.dropWhile isBlank)

/-- A text without white space at either end. -/
def trim (s : String) : String :=
  String.ofList (dropBothWhile isBlank s.toList)

/-- A text without the given character at its end. -/
def trimEndOf (c : Char) (s : String) : String :=
  String.ofList (dropEndWhile (· == c) s.toList)

/-- A text without the given character at its start. -/
def trimStartOf (c : Char) (s : String) : String :=
  String.ofList (s.toList.dropWhile (· == c))

/-- A text without the given character at either end. -/
def trimOf (c : Char) (s : String) : String :=
  String.ofList (dropBothWhile (· == c) s.toList)

/-- Whether a text holds nothing but white space. -/
def isBlankText (s : String) : Bool :=
  s.toList.all isBlank

/-! ## Laws -/

/-- Dropping from the front leaves nothing exactly when everything may go. -/
theorem dropWhile_eq_nil_iff_all {p : Char → Bool} {cs : List Char} :
    cs.dropWhile p = [] ↔ ∀ c ∈ cs, p c := by
  induction cs with
  | nil => simp
  | cons c rest ih => by_cases holds : p c <;> simp [holds, ih]

/-- Dropping from the back leaves nothing exactly when everything may go. -/
theorem dropEndWhile_eq_nil_iff {p : Char → Bool} {cs : List Char} :
    dropEndWhile p cs = [] ↔ ∀ c ∈ cs, p c := by
  rw [dropEndWhile, List.reverse_eq_nil_iff, dropWhile_eq_nil_iff_all]
  simp

/-- Dropping from both ends leaves nothing exactly when everything may go. -/
theorem dropBothWhile_eq_nil_iff {p : Char → Bool} {cs : List Char} :
    dropBothWhile p cs = [] ↔ ∀ c ∈ cs, p c := by
  rw [dropBothWhile, dropEndWhile_eq_nil_iff]
  induction cs with
  | nil => simp
  | cons c rest ih => by_cases holds : p c <;> simp [holds, ih]

/-- A text is blank exactly when trimming leaves nothing of it. -/
theorem trim_eq_empty_iff {s : String} : trim s = "" ↔ isBlankText s = true := by
  have empty : trim s = "" ↔ dropBothWhile isBlank s.toList = [] := by
    rw [trim, ← String.toList_inj]; simp
  rw [empty, dropBothWhile_eq_nil_iff, isBlankText, List.all_eq_true]

end Docsite.Text
