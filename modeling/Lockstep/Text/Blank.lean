namespace Lockstep.Text

/-- The code points of Unicode white space, as inclusive ranges. -/
def blankRanges : List (Nat × Nat) :=
  [(0x9, 0xD), (0x20, 0x20), (0x85, 0x85), (0xA0, 0xA0), (0x1680, 0x1680), (0x2000, 0x200A),
    (0x2028, 0x2029), (0x202F, 0x202F), (0x205F, 0x205F), (0x3000, 0x3000)]

def isBlank (c : Char) : Bool :=
  blankRanges.any fun range ↦ range.1 ≤ c.toNat && c.toNat ≤ range.2

def trim (text : List Char) : List Char :=
  ((text.dropWhile isBlank).reverse.dropWhile isBlank).reverse

/-- The pieces between separators, in order. There is always at least one, and it may be empty. -/
def pieces {α : Type} (isSeparator : α → Bool) : List α → List (List α)
  | [] => [[]]
  | x :: xs =>
    if isSeparator x then [] :: pieces isSeparator xs
    else (pieces isSeparator xs).modifyHead (x :: ·)

def words (text : List Char) : List (List Char) :=
  (pieces isBlank text).filter fun piece ↦ !piece.isEmpty

def padRight (width : Nat) (text : List Char) : List Char :=
  text ++ List.replicate (width - text.length) ' '

theorem pieces_ne_nil {α : Type} (p : α → Bool) (xs : List α) : pieces p xs ≠ [] := by
  induction xs with
  | nil => simp [pieces]
  | cons x xs ih =>
    unfold pieces
    split
    · simp
    · cases h : pieces p xs with
      | nil => exact absurd h ih
      | cons => simp [List.modifyHead]

end Lockstep.Text
