import StackMachine.Program
import StackMachine.Fault

/-!
Sinks: where the diagnostics of a machine go. A sink takes printed values, debug lines and records
of what the machine did; nothing comes back from it. The sinks here keep everything, keep the text
of two streams, or keep nothing.
-/

namespace StackMachine

/-- A record of what a machine did. -/
inductive LogRecord where
  /-- An instruction was fetched. -/
  | exec (pc : UInt64) (op : String) (arg : Int64)
  /-- A run failed. -/
  | fault (failure : Failure)
  /-- An instruction was registered. -/
  | registered (name : String) (id : OpId)
  deriving DecidableEq, Repr

/-- A place for diagnostics. -/
class Sink (σ : Type) where
  print : σ → Int64 → σ
  debug : σ → String → σ
  record : σ → LogRecord → σ

/-- What a sink was given to show. -/
inductive SinkEvent where
  | print (value : Int64)
  | debug (line : String)
  deriving DecidableEq, Repr

/-- Everything that was given to a sink, in order. -/
structure Transcript where
  events : Array SinkEvent := #[]
  log : Array LogRecord := #[]
  deriving DecidableEq, Repr

instance : Sink Transcript where
  print sink value := { sink with events := sink.events.push (.print value) }
  debug sink line := { sink with events := sink.events.push (.debug line) }
  record sink entry := { sink with log := sink.log.push entry }

/-- The text of two streams: printed values on lines of the first, debug lines on the second. -/
structure Streams where
  out : String := ""
  err : String := ""
  deriving DecidableEq, Repr

instance : Sink Streams where
  print sink value := { sink with out := sink.out ++ Numeral.text value.toInt ++ "\n" }
  debug sink line := { sink with err := sink.err ++ line ++ "\n" }
  record sink _ := sink

/-- The sink that keeps nothing. -/
instance : Sink Unit where
  print sink _ := sink
  debug sink _ := sink
  record sink _ := sink

/-- A sink that is given log records only. -/
structure Muted (σ : Type) where
  inner : σ

instance {σ : Type} [Sink σ] : Sink (Muted σ) where
  print sink _ := sink
  debug sink _ := sink
  record sink entry := ⟨Sink.record sink.inner entry⟩

end StackMachine
