import Splice.Fault
import Splice.Text.Utf8

/-!
# Sources

What reading an open file yields: pieces of data as they arrive, until the end or a failure. Lines
are put together across the pieces. A line ends with its newline; text without one at the end of
the file is a line too, but a failure loses it.
-/

namespace Splice

/-- The outcome of one attempt to read. -/
inductive Chunk where
  /-- Some bytes arrived. -/
  | data (bytes : List UInt8)
  /-- The attempt was interrupted and is repeated. -/
  | interrupted
  deriving DecidableEq, Repr

/-- The outcomes of reading a file to its end, or to a failure. -/
structure Source where
  /-- The attempts that came before the end or the failure. -/
  chunks : List Chunk
  /-- The failure that ends the reading, if one does. -/
  fault : Option Fault := none
  deriving DecidableEq, Repr

namespace Source

/-- A file that holds the given bytes. -/
def ofBytes (bytes : List UInt8) : Source :=
  ⟨[.data bytes], none⟩

/-- The newline byte. -/
def newline : UInt8 := 10

/-- The carriage return byte. -/
def carriageReturn : UInt8 := 13

/-- Divides bytes into the lines that they complete, each with its newline, and the line that they
leave unfinished. The unfinished line is kept with its latest byte first. -/
def complete (unfinished : List UInt8) : List UInt8 → List (List UInt8) × List UInt8
  | [] => ([], unfinished)
  | byte :: rest =>
    if byte = newline then
      let (done, unfinished') := complete [] rest
      ((byte :: unfinished).reverse :: done, unfinished')
    else
      complete (byte :: unfinished) rest

/-- The lines of the remaining pieces, when a line has been begun before them. -/
def linesFrom (unfinished : List UInt8) (fault : Option Fault) : List Chunk → List (List UInt8)
  | [] => if fault.isSome ∨ unfinished = [] then [] else [unfinished.reverse]
  | .interrupted :: rest => linesFrom unfinished fault rest
  | .data bytes :: rest =>
    let (done, unfinished') := complete unfinished bytes
    done ++ linesFrom unfinished' fault rest

/-- The lines that are read before the end or the failure, each with its line ending. -/
def lines (source : Source) : List (List UInt8) :=
  linesFrom [] source.fault source.chunks

/-- A line without its ending: one newline, and one carriage return before it. -/
def withoutEnding (line : List UInt8) : List UInt8 :=
  Text.dropFinal carriageReturn (Text.dropFinal newline line)

/-- The text of a line. -/
def lineText (line : List UInt8) : Text :=
  Utf8.decode (withoutEnding line)

/-- The bytes of a source that is read without fault. -/
def bytes? (source : Source) : Except Fault (List UInt8) :=
  match source.fault with
  | some fault => .error fault
  | none => .ok (source.chunks.flatMap fun
      | .data bytes => bytes
      | .interrupted => [])

end Source

end Splice
