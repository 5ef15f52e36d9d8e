import DigitAutomata.Files.System
import DigitAutomata.Journal
import DigitAutomata.Json.Printer
import DigitAutomata.Json.Reader
import DigitAutomata.Settings.Basic
import DigitAutomata.Text.Lines

/-! The saved form of the settings: a JSON object, or an array of the values in order. Reading passes
over keys it does not know and keeps the default of what is not there; a known key may be there only
once. Writing puts down all four, an absent one as null. -/
namespace DigitAutomata

inductive SettingsError
  | noDirectory
  | unreadable (path : String)
  | malformed (path : String)
  | directoryNotMade (path : String)
  | unwritable (path : String)
deriving DecidableEq

def SettingsError.message : SettingsError → String
  | .noDirectory => "Could not determine configuration directory"
  | .unreadable path => s!"Failed to read config file: {path}"
  | .malformed path => s!"Failed to parse config file: {path}"
  | .directoryNotMade path => s!"Failed to create directory: {path}"
  | .unwritable path => s!"Failed to write config file: {path}"

namespace Settings

def readText? : Json → Option (Option String)
  | .null => some none
  | .string pieces => (Piece.text? pieces).map some
  | _ => none

def readBool? : Json → Option (Option Bool)
  | .null => some none
  | .bool value => some (some value)
  | _ => none

def formatOfPieces? (pieces : List Piece) : Option OutputFormat :=
  (Piece.text? pieces).bind OutputFormat.ofName?

/-- A format is its name, or an object with its name as the only key and null as the value. -/
def readFormat? : Json → Option (Option OutputFormat)
  | .null => some none
  | .string pieces => (formatOfPieces? pieces).map some
  | .object [(key, .null)] => (formatOfPieces? key).map some
  | _ => none

/-- The value of a key that may be there once. -/
def keyed? (fields : List (List Piece × Json)) (key : String) (otherwise : α)
    (read? : Json → Option α) : Option α :=
  match fields.filter fun field => decide (field.1 = Piece.ofText key) with
  | [] => some otherwise
  | [(_, value)] => read? value
  | _ => none

def placed? (items : List Json) (place : Nat) (otherwise : α) (read? : Json → Option α) :
    Option α :=
  match items[place]? with
  | none => some otherwise
  | some value => read? value

def ofJson? : Json → Option Settings
  | .object fields =>
    if fields.all fun field => (Piece.text? field.1).isSome then do
      let defaultFile ← keyed? fields "default_file" default.defaultFile readText?
      let output ← keyed? fields "output" default.output readFormat?
      let color ← keyed? fields "color" default.color readBool?
      let showAutomaton ← keyed? fields "show_automaton" default.showAutomaton readBool?
      some ⟨defaultFile, output, color, showAutomaton⟩
    else none
  | .array items =>
    if items.length ≤ 4 then do
      let defaultFile ← placed? items 0 default.defaultFile readText?
      let output ← placed? items 1 default.output readFormat?
      let color ← placed? items 2 default.color readBool?
      let showAutomaton ← placed? items 3 default.showAutomaton readBool?
      some ⟨defaultFile, output, color, showAutomaton⟩
    else none
  | _ => none

def orNull (f : α → Json) : Option α → Json
  | none => .null
  | some a => f a

def toJson (s : Settings) : Json := .record [
  ("default_file", orNull .ofText s.defaultFile),
  ("output", orNull (fun format => .ofText format.name) s.output),
  ("color", orNull .bool s.color),
  ("show_automaton", orNull .bool s.showAutomaton)]

def ofText? (text : String) : Option Settings := (Json.ofText? text).bind ofJson?

def toText (s : Settings) : String := s.toJson.pretty

/-- A file that is not there gives the defaults. -/
def load (files : FileSystem) (path : String) : Journaled (Except SettingsError Settings) :=
  if files.fileExists path then
    match files.read path with
    | .error _ => pure (.error (.unreadable path))
    | .ok bytes =>
      match Text.decode? bytes with
      | none => pure (.error (.unreadable path))
      | some text =>
        match ofText? text with
        | none => pure (.error (.malformed path))
        | some settings => pure (.ok settings)
  else do
    Journaled.note .debug .settings s!"no config file at {path}, using defaults"
    pure (.ok default)

/-- Writes the settings into a file, making the directories above it. -/
def save (s : Settings) (files : FileSystem) (path : String) : Except SettingsError FileSystem := do
  let files ← match Path.parent? path with
    | none => .ok files
    | some parent =>
      match files.makeDirectories parent with
      | .ok files => .ok files
      | .error _ => .error (.directoryNotMade parent)
  match files.write path (Text.encode s.toText) with
  | .ok files => .ok files
  | .error _ => .error (.unwritable path)

end Settings

end DigitAutomata
