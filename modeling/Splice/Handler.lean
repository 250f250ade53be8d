import Splice.Problem
import Splice.Text.Utf8

/-!
# Handlers

What delivered lines go to. A handler is a state machine: it takes each line with its location, and
may refuse it. Three are provided: one that takes everything and keeps nothing, one that keeps what
it is given, and one that writes each line to a sink, which may be of limited size.
-/

namespace Splice

/-- A receiver of lines, with a state of type `σ`. -/
structure Handler (σ : Type) where
  /-- Takes a line: the state after it, and why it was refused if it was. -/
  deliver : σ → Text → Location → σ × Option Refusal

namespace Handler

/-- Takes every line and keeps nothing. -/
def discard : Handler Unit where
  deliver _ _ _ := ((), none)

/-- Keeps every line with its location, and refuses those that `refuses` gives a cause for. -/
def collect (refuses : Text → Option Refusal) : Handler (Array (Text × Location)) where
  deliver kept line location := (kept.push (line, location), refuses line)

end Handler

/-- A place that bytes are written to, which may hold only so many. -/
structure Sink where
  /-- How many bytes the sink holds at most, if that is limited. -/
  capacity : Option Nat := none
  /-- The bytes written so far. -/
  stored : Array UInt8 := #[]
  deriving DecidableEq, Repr

namespace Sink

/-- Why a write did not fit. -/
def full : Refusal :=
  { message := "sink full".toList }

/-- Writes bytes: those that fit are stored, and whether all of them did is answered. -/
def write (sink : Sink) (bytes : List UInt8) : Sink × Bool :=
  match sink.capacity with
  | none => ({ sink with stored := sink.stored.appendList bytes }, true)
  | some capacity =>
    let room := capacity - sink.stored.size
    ({ sink with stored := sink.stored.appendList (bytes.take room) }, bytes.length ≤ room)

end Sink

/-- Writes every line and a newline to a sink, and refuses the lines that do not fit. -/
def Handler.echo : Handler Sink where
  deliver sink line _ :=
    let (sink, fits) := sink.write (Utf8.encode (line ++ ['\n']))
    (sink, if fits then none else some Sink.full)

end Splice
