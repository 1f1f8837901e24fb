import StackMachine.Text.Unprintable

/-!
Quoted texts: a text between quotation marks in which some characters are written as escapes. The
quotation mark, the backslash and four control characters have short escapes; any other character of
a given class is written by its code point in hexadecimal; all else stands for itself.
-/

namespace StackMachine.Text

/-- The written form of one character, with the characters of `hidden` by their numbers. -/
def escape (hidden : Char → Bool) (c : Char) : List Char :=
  if c = '\x00' then ['\\', '0']
  else if c = '\t' then ['\\', 't']
  else if c = '\r' then ['\\', 'r']
  else if c = '\n' then ['\\', 'n']
  else if c = '"' then ['\\', '"']
  else if c = '\\' then ['\\', '\\']
  else if hidden c then ['\\', 'u', '\x7b'] ++ Nat.toDigits 16 c.toNat ++ ['\x7d']
  else [c]

/-- A text between quotation marks, with the characters of `hidden` by their numbers. -/
def quoteWith (hidden : Char → Bool) (text : String) : String :=
  "\"" ++ String.ofList (text.toList.flatMap (escape hidden)) ++ "\""

/-- A text between quotation marks, with its unprintable characters escaped. -/
def quote (text : String) : String :=
  quoteWith isUnprintable text

end StackMachine.Text
