import DigitAutomata.Files.System
import DigitAutomata.Journal
import DigitAutomata.Table.Progress
import DigitAutomata.Text.Lines

/-! Loading a table from a text, from bytes that a device delivers, or from a file. Reading stops at
the line that completes the table or breaks a rule, so whatever follows it, a read failure included,
has no effect. -/
namespace DigitAutomata

open Text (tokens)

/-- One attempt to read a line. -/
inductive Reading
  | line (text : String)
  | failure (cause : FileError)
deriving DecidableEq

/-- Lines of text are read without a failure. -/
instance : Coe (List String) (List Reading) := ⟨List.map .line⟩

namespace Reading

def ofBytes (bytes : List UInt8) : Reading :=
  match Text.decode? bytes with
  | some text => .line text
  | none => .failure .invalidUtf8

def ofText (source : String) : List Reading := (Text.lines source).map .line

/-- The readings of a device that delivers the bytes and then ends. -/
def ofStream (bytes : List UInt8) : List Reading := (Text.byteLines bytes).all.map ofBytes

/-- The readings of a device that fails after the bytes: a line without its end is lost. -/
def ofFailingStream (bytes : List UInt8) (cause : FileError) : List Reading :=
  (Text.byteLines bytes).ended.map ofBytes ++ [.failure cause]

/-- The readings of a file that delivers its bytes up to its end or until it fails. -/
def ofDelivery (delivery : Delivery) : List Reading :=
  match delivery.fault with
  | none => ofStream delivery.bytes
  | some cause => ofFailingStream delivery.bytes cause

end Reading

/-- `advance`, with a record of the step unless the line had no effect. -/
def Progress.read (p : Progress) (line : String) : Journaled (Except TableError Progress) :=
  match p.advance line with
  | .error e => pure (.error e)
  | .ok next => do
    if tokens line ≠ [] ∧ p.isComplete = false then
      Journaled.note .debug .tableLine s!"loader phase -> {next.name}"
    pure (.ok next)

namespace Automaton

/-- Ends a load with a record of its success. -/
def conclude (origin : String) (p : Progress) : Journaled (Except TableError Automaton) :=
  match p.finish with
  | .error e => pure (.error e)
  | .ok M => do
    Journaled.note .debug .table
      s!"loaded automaton from {origin}: {M.states.length} state(s), alphabet size {M.alphabetSize}"
    pure (.ok M)

/-- Reads on from what is known so far. The line that completes the table is the last one looked at. -/
def loadFrom (origin : String) : Progress → List Reading → Journaled (Except TableError Automaton)
  | p, [] => conclude origin p
  | _, .failure cause :: _ => pure (.error (.unreadable origin cause))
  | p, .line text :: rest => do
    match ← p.read text with
    | .error e => pure (.error e)
    | .ok next => if next.isComplete then conclude origin next else loadFrom origin next rest

def load (origin : String) (readings : List Reading) : Journaled (Except TableError Automaton) :=
  loadFrom origin .start readings

def ofText (source : String) : Journaled (Except TableError Automaton) :=
  load "<string>" (Reading.ofText source)

/-- Loads from a device without a name. -/
def ofReadings (readings : List Reading) : Journaled (Except TableError Automaton) :=
  load "<reader>" readings

/-- Loads the table in a file. If the file fails only after the table is complete, it is loaded all the
same. -/
def ofFile (files : FileSystem) (path : String) : Journaled (Except TableError Automaton) := do
  Journaled.note .debug .table s!"loading automaton from {path}"
  match files.deliver path with
  | .error cause => pure (.error (.unreadable path cause))
  | .ok delivery => load path (Reading.ofDelivery delivery)

def parse (source : String) : Except TableError Automaton := (ofText source).value

end Automaton

end DigitAutomata
