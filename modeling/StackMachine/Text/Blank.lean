/-!
White space: the characters with the property White_Space, which make a line blank if it holds no
others.
-/

namespace StackMachine.Text

/-- The characters with the property White_Space, as ranges of code points. -/
def blankRanges : List (Nat × Nat) :=
  [(0x9, 0xd), (0x20, 0x20), (0x85, 0x85), (0xa0, 0xa0), (0x1680, 0x1680), (0x2000, 0x200a),
    (0x2028, 0x2029), (0x202f, 0x202f), (0x205f, 0x205f), (0x3000, 0x3000)]

/-- Whether a character is white space. -/
def isBlankChar (c : Char) : Bool :=
  blankRanges.any fun (low, high) => low ≤ c.toNat && c.toNat ≤ high

/-- Whether a line holds nothing but white space. -/
def isBlank (line : List Char) : Bool :=
  line.all isBlankChar

@[simp] theorem isBlank_nil : isBlank [] = true :=
  rfl

example : (blankRanges.map fun (low, high) => high + 1 - low).sum = 25 := by decide

end StackMachine.Text
