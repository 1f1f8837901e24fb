import StackMachine.Stack

/-!
Scripts: what an instruction does, as data. A script asks its run for one thing at a time and goes
on with the reply; it ends with a result or with a fault. Nothing else of the run can be seen or
changed, and nothing is kept from one call of an instruction to the next, so a statement about all
instructions, built in or not, is a statement about all scripts. What the replies are is fixed in
`StackMachine.Execution`. Instructions that keep something are in `StackMachine.Routine`.
-/

namespace StackMachine

/-- What the machine does after an instruction. -/
inductive Status where
  | executing
  | exited
  deriving DecidableEq, Repr

def Status.text : Status → String
  | .executing => "Executing"
  | .exited => "Exited"

/-- What a completed run leaves: the value on top of the stack and the text written. -/
structure RunResult where
  value : Int64
  output : String
  deriving DecidableEq, Repr

/-! ### Requests -/

/-- What a script may ask of its run. -/
inductive Request where
  | stack
  /-- To have another stack. -/
  | setStack (values : Stack)
  | pc
  /-- To go on at another address. -/
  | jump (target : Int64)
  | output
  | write (text : String)
  | debugging
  | print (value : Int64)
  /-- To send a debug line to the sink. -/
  | debug (line : String)
  /-- To start anew. -/
  | reset
  | display
  | step
  /-- To execute instructions until one exits. -/
  | run

/-- The type of the reply to a request. -/
abbrev Request.Reply : Request → Type
  | .stack => Stack
  | .pc => UInt64
  | .output | .display => String
  | .debugging => Bool
  | .step => Except Failure Status
  | .run => Except Failure RunResult
  | .setStack _ | .jump _ | .write _ | .print _ | .debug _ | .reset => Unit

/-! ### Scripts -/

/-- A sequence of requests, each chosen by the replies to those before it, that ends with a value or
a fault. What it does depends on the replies only. -/
inductive Script (α : Type) where
  | pure (value : α)
  | fail (fault : Fault)
  | ask (request : Request) (next : request.Reply → Script α)

namespace Script

variable {α β : Type}

/-- The script `first`, and then the script that its value selects. -/
def bind (first : Script α) (next : α → Script β) : Script β :=
  match first with
  | .pure value => next value
  | .fail fault => .fail fault
  | .ask request rest => .ask request fun reply => (rest reply).bind next

instance : Monad Script where
  pure := .pure
  bind := bind

theorem bind_pure_right (script : Script α) : script.bind .pure = script := by
  induction script with
  | pure value => rfl
  | fail fault => rfl
  | ask request next ih => exact congrArg (Script.ask request) (funext ih)

theorem bind_assoc {γ : Type} (script : Script α) (f : α → Script β) (g : β → Script γ) :
    (script.bind f).bind g = script.bind fun value => (f value).bind g := by
  induction script with
  | pure value => rfl
  | fail fault => rfl
  | ask request next ih => exact congrArg (Script.ask request) (funext ih)

instance : LawfulMonad Script :=
  LawfulMonad.mk' Script bind_pure_right (fun _ _ => rfl) bind_assoc

/-- One request, with its reply as the value. -/
def request (r : Request) : Script r.Reply :=
  .ask r .pure

/-- A value, or the fault in its place. -/
def ofExcept : Except Fault α → Script α
  | .ok value => .pure value
  | .error fault => .fail fault

/-! ### Single requests -/

def stack : Script Stack :=
  request .stack

/-- Puts another stack in place of the present one. -/
def setStack (values : Stack) : Script Unit :=
  request (.setStack values)

def pc : Script UInt64 :=
  request .pc

/-- Goes on at another address. -/
def jump (target : Int64) : Script Unit :=
  request (.jump target)

def output : Script String :=
  request .output

def write (text : String) : Script Unit :=
  request (.write text)

def debugging : Script Bool :=
  request .debugging

def print (value : Int64) : Script Unit :=
  request (.print value)

def debug (line : String) : Script Unit :=
  request (.debug line)

def reset : Script Unit :=
  request .reset

def display : Script String :=
  request .display

def step : Script (Except Failure Status) :=
  request .step

/-- Executes instructions until one exits. -/
def run : Script (Except Failure RunResult) :=
  request .run

/-! ### The stack -/

def push (value : Int64) : Script Unit := do
  setStack ((← stack).push value)

def peek : Script Int64 := do
  ofExcept (← stack).peek

def pop : Script Int64 := do
  let (value, rest) ← ofExcept (← stack).pop
  setStack rest
  return value

/-- Takes the two values on top of the stack, the lower one first, or none. -/
def popPair : Script (Int64 × Int64) := do
  let (values, rest) ← ofExcept (← stack).popPair
  setStack rest
  return values

/-- Demands at least `n` values. -/
def require (n : Nat) : Script Unit := do
  ofExcept ((← stack).require n)

/-! ### Several steps -/

/-- Steps until an instruction exits or fails, at most `n` times, after `made` steps; gives the
number of steps and what the last one gave. -/
def stepsFrom (made : Nat) : Nat → Script (Nat × Except Failure Status)
  | 0 => return (made, .ok .executing)
  | n + 1 => do
    match ← step with
    | .ok .executing => stepsFrom (made + 1) n
    | last => return (made + 1, last)

/-- Steps until an instruction exits or fails, at most `n` times. -/
def steps (n : Nat) : Script (Nat × Except Failure Status) :=
  stepsFrom 0 n

/-! ### Kinds of scripts -/

/-- Whether a script, whatever the replies, makes only requests of a given kind. -/
def OnlyAsks (allowed : Request → Prop) : Script α → Prop
  | .pure _ | .fail _ => True
  | .ask r next => allowed r ∧ ∀ reply, (next reply).OnlyAsks allowed

end Script

/-- What an instruction does with its argument. It is the same at every call: an action keeps no
state of its own. -/
abbrev Action := Int64 → Script Status

end StackMachine
