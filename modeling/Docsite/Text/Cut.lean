/-
**Cutting texts.**

Splitting at a character, finding the first occurrence of a text, and taking a known beginning off.

* `splitOn_ne_nil`: a split has at least one piece.
* `intercalate_splitOn`: the pieces, joined again, are the text.
-/

namespace Docsite.Text

/-! ## Splitting at a character -/

/-- The pieces of a text between the occurrences of `sep`; one more than there are occurrences. -/
def splitOn (sep : Char) : List Char → List (List Char)
  | [] => [[]]
  | c :: rest =>
    if c == sep then [] :: splitOn sep rest
    else match splitOn sep rest with
      | [] => [[c]]
      | piece :: pieces => (c :: piece) :: pieces

/-- A split has at least one piece. -/
theorem splitOn_ne_nil (sep : Char) (cs : List Char) : splitOn sep cs ≠ [] := by
  cases cs with
  | nil => simp [splitOn]
  | cons c rest =>
    rw [splitOn]
    split
    · simp
    · split <;> simp

/-- The pieces, joined again, are the text. -/
theorem intercalate_splitOn (sep : Char) (cs : List Char) :
    [sep].intercalate (splitOn sep cs) = cs := by
  induction cs with
  | nil => simp [splitOn]
  | cons c rest ih =>
    rw [splitOn]
    split
    · next same =>
      have same : c = sep := by simpa using same
      match found : splitOn sep rest with
      | [] => exact absurd found (splitOn_ne_nil sep rest)
      | piece :: pieces => rw [List.intercalate_cons_cons, ← found, ih, same]; rfl
    · match found : splitOn sep rest with
      | [] => exact absurd found (splitOn_ne_nil sep rest)
      | piece :: pieces =>
        rw [found] at ih
        cases pieces with
        | nil => simpa using ih
        | cons next more =>
          rw [List.intercalate_cons_cons] at ih ⊢
          simpa using ih

/-! ## Known beginnings and first occurrences -/

/-- What follows `front` in a text that begins with it. -/
def dropFront? (front : List Char) (cs : List Char) : Option (List Char) :=
  if front.isPrefixOf cs then some (cs.drop front.length) else none

/-- Whether a text begins with another one. -/
def startsWith (front s : String) : Bool :=
  front.toList.isPrefixOf s.toList

/-- The text before and after the first occurrence of `needle`. -/
def cutAt? (needle : List Char) : List Char → Option (List Char × List Char)
  | [] => if needle.isEmpty then some ([], []) else none
  | c :: rest =>
    match dropFront? needle (c :: rest) with
    | some after => some ([], after)
    | none => (cutAt? needle rest).map fun (before, after) => (c :: before, after)

/-- Whether `needle` occurs in a text. -/
def occursIn (needle cs : List Char) : Bool :=
  (cutAt? needle cs).isSome

/-- A beginning that was taken off stands in front of what is left. -/
theorem append_of_dropFront? {front cs after : List Char}
    (dropped : dropFront? front cs = some after) : front ++ after = cs := by
  unfold dropFront? at dropped
  split at dropped
  · next isFront =>
    obtain rfl := Option.some.inj dropped
    exact List.prefix_iff_eq_append.mp (List.isPrefixOf_iff_prefix.mp isFront)
  · simp at dropped

/-- The text joined from pieces with a separator between them. -/
def joinWith (sep : String) (pieces : List String) : String :=
  sep.intercalate pieces

end Docsite.Text
