import DigitAutomata.Files.System
import DigitAutomata.History.Basic
import DigitAutomata.Text.Lines

/-! A history in a file, one answer a line. A file that opens with the line `#V2` has its backslashes
and line feeds escaped; an older one is taken as it stands. Reading ends at a line that is no text or
where the file fails, and such a file is written anew with the answers before that. -/
namespace DigitAutomata.History

def marker : String := "#V2"

def escape : List Char → List Char
  | [] => []
  | c :: cs =>
    if c = '\\' then '\\' :: '\\' :: escape cs
    else if c = '\n' then '\\' :: 'n' :: escape cs
    else c :: escape cs

/-- Refuses a backslash that starts no escape. -/
def unescape? : List Char → Option (List Char)
  | [] => some []
  | '\\' :: '\\' :: cs => (unescape? cs).map ('\\' :: ·)
  | '\\' :: 'n' :: cs => (unescape? cs).map ('\n' :: ·)
  | c :: cs => if c = '\\' then none else (unescape? cs).map (c :: ·)

/-- What is escaped can be read back. -/
@[simp] theorem unescape?_escape (cs : List Char) : unescape? (escape cs) = some cs := by
  induction cs with
  | nil => rfl
  | cons c cs ih =>
    by_cases slash : c = '\\'
    · subst slash; simp [escape, unescape?, ih]
    · by_cases feed : c = '\n'
      · subst feed; simp [escape, unescape?, ih]
      · simp [escape, unescape?, slash, feed, ih]

/-- A line with a backslash that starts no escape stands for itself. -/
def entryOfLine (line : String) : String :=
  match unescape? line.toList with
  | some cs => String.ofList cs
  | none => line

def ofLines : List String → History
  | [] => empty
  | line :: lines =>
    if line = marker then ofEntries (lines.map entryOfLine) else ofEntries (line :: lines)

def lineOfEntry (entry : String) : String := String.ofList (escape entry.toList)

theorem entryOfLine_lineOfEntry (entry : String) : entryOfLine (lineOfEntry entry) = entry := by
  simp [entryOfLine, lineOfEntry]

def toText (h : History) : String :=
  String.join ((marker :: h.entries.map lineOfEntry).map (· ++ "\n"))

/-- The lines of a file, each a text unless its bytes are no UTF-8. A failure takes the place of the line
that is lost to it. -/
def texts (delivery : Delivery) : List (Option String) :=
  let lines := Text.byteLines delivery.bytes
  match delivery.fault with
  | none => lines.all.map Text.decode?
  | some _ => lines.ended.map Text.decode? ++ [none]

def ofTexts (texts : List (Option String)) : History :=
  ofLines ((texts.takeWhile Option.isSome).filterMap id)

/-- Writes a damaged file anew, unless nothing of it could be read. -/
def mend (files : FileSystem) (path : String) : Except FileError FileSystem :=
  match files.deliver path with
  | .error _ => .ok files
  | .ok delivery =>
    let history := ofTexts (texts delivery)
    if (texts delivery).any Option.isNone && history ≠ empty then
      files.write path (Text.encode history.toText)
    else .ok files

end DigitAutomata.History
