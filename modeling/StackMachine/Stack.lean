import StackMachine.Fault

/-!
The stack of a run: a list of words with the top one first. An operation that needs more values than
there are leaves the stack as it is and says what is missing.
-/

namespace StackMachine

/-- The values of a stack, the top one first. -/
abbrev Stack := List Int64

namespace Stack

/-- The stack of the given values, of which the last one is the top. -/
def ofBottomFirst (values : List Int64) : Stack :=
  values.reverse

/-- The values of the stack, the top one last. -/
def bottomFirst (s : Stack) : List Int64 :=
  s.reverse

@[simp] theorem bottomFirst_ofBottomFirst (values : List Int64) :
    (ofBottomFirst values).bottomFirst = values := by
  simp [bottomFirst, ofBottomFirst]

def push (s : Stack) (value : Int64) : Stack :=
  value :: s

@[simp] theorem bottomFirst_push (s : Stack) (value : Int64) :
    (s.push value).bottomFirst = s.bottomFirst ++ [value] := by
  simp [push, bottomFirst]

def peek : Stack → Except Fault Int64
  | [] => .error .emptyStack
  | value :: _ => .ok value

def pop : Stack → Except Fault (Int64 × Stack)
  | [] => .error .emptyStack
  | value :: rest => .ok (value, rest)

/-- Demands at least `n` values. -/
def require (n : Nat) (s : Stack) : Except Fault Unit :=
  if n ≤ s.length then .ok () else if n = 1 then .error .emptyStack else .error .shortStack

/-- The two values on top, the lower one first, and the stack below them. -/
def popPair : Stack → Except Fault ((Int64 × Int64) × Stack)
  | top :: below :: rest => .ok ((below, top), rest)
  | _ => .error .shortStack

/-- The values in decimal, the top one last, with single spaces between them. -/
def text (s : Stack) : String :=
  String.ofList ([' '].intercalate (s.bottomFirst.map fun value => Numeral.chars value.toInt))

theorem toList_text (s : Stack) :
    s.text.toList =
      [' '].intercalate (s.bottomFirst.map fun value => Numeral.chars value.toInt) :=
  String.toList_ofList

end Stack

end StackMachine
