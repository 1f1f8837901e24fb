/-!
Decimal numerals of signed 64-bit words: how a word is written, and which texts are read back as a
word. A numeral is an optional sign and at least one digit. It is read from the left, and the first
thing wrong with it is what is reported, so that a bad digit behind an excess of good ones is not
seen.
-/

namespace StackMachine.Numeral

/-! ### Writing -/

/-- The decimal digits of `n`, behind a minus sign if `n` is negative. -/
def chars : Int → List Char
  | .ofNat n => Nat.toDigits 10 n
  | .negSucc n => '-' :: Nat.toDigits 10 (n + 1)

def text (n : Int) : String :=
  String.ofList (chars n)

@[simp] theorem toList_text (n : Int) : (text n).toList = chars n := by
  simp [text]

theorem chars_ne_nil (n : Int) : chars n ≠ [] := by
  cases n <;> simp [chars, Nat.toDigits_ne_nil]

/-! ### Reading -/

/-- Why a text is not the numeral of a word. -/
inductive ReadError where
  | empty
  | invalidDigit
  | tooLarge
  | tooSmall
  deriving DecidableEq, Repr

def ReadError.message : ReadError → String
  | .empty => "cannot parse integer from empty string"
  | .invalidDigit => "invalid digit found in string"
  | .tooLarge => "number too large to fit in target type"
  | .tooSmall => "number too small to fit in target type"

def digit? (c : Char) : Option Nat :=
  if c.isDigit then some (c.toNat - '0'.toNat) else none

/-- Reads digits behind a numeral of value `n`; a value above `limit` is refused as `overflow` as
soon as it arises. -/
def magnitude (limit : Nat) (overflow : ReadError) (n : Nat) : List Char → Except ReadError Nat
  | [] => .ok n
  | c :: rest =>
    match digit? c with
    | none => .error .invalidDigit
    | some d =>
      if 10 * n + d ≤ limit then magnitude limit overflow (10 * n + d) rest else .error overflow

/-- Reads an unsigned numeral of at least one digit. -/
def unsigned (limit : Nat) (overflow : ReadError) : List Char → Except ReadError Nat
  | [] => .error .invalidDigit
  | digits => magnitude limit overflow 0 digits

/-- Reads the numeral of a word. -/
def read : List Char → Except ReadError Int64
  | [] => .error .empty
  | '-' :: digits =>
    (unsigned 0x8000000000000000 .tooSmall digits).map fun (n : Nat) => .ofInt (-(n : Int))
  | '+' :: digits =>
    (unsigned 0x7FFFFFFFFFFFFFFF .tooLarge digits).map fun (n : Nat) => .ofInt n
  | digits =>
    (unsigned 0x7FFFFFFFFFFFFFFF .tooLarge digits).map fun (n : Nat) => .ofInt n

example : read "-9223372036854775808".toList = .ok Int64.minValue := by cbv
example : read "+007".toList = .ok 7 := by cbv
example : read "-".toList = .error .invalidDigit := by cbv
example : read "9223372036854775808x".toList = .error .tooLarge := by cbv
example : read "922337203685477580x".toList = .error .invalidDigit := by cbv

end StackMachine.Numeral
