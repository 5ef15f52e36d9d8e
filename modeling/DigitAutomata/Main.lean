import DigitAutomata.Options.Parser
import DigitAutomata.Session

/-! The command line. It looks up on the disk what the run may name, runs, prints, and brings to the
disk what a run can leave behind: a directory, and a mended history in it. -/
namespace DigitAutomata.Main

/-- Why a file on the disk cannot be read. -/
def causeOf : IO.Error → FileError
  | .permissionDenied .. => .permissionDenied
  | other => .device (toString other)

/-- Adds to a file system what the disk holds along a path. -/
def look (files : FileSystem) (path : String) : IO FileSystem := do
  let base ← IO.currentDir
  let mut known := files
  let mut place := if Path.isAbsolute path then [] else files.here
  for name in Path.names path do
    if name = ".." then place := place.dropLast
    else if !Path.isIdle name then place := place ++ [name]
    let full := base / ("/" ++ String.intercalate "/" place)
    if ← full.isDir then known := known.put place .directory
    else if ← full.pathExists then
      try
        let bytes ← IO.FS.readBinFile full
        known := known.put place (.file bytes.data.toList)
      catch e => known := known.put place (.failing [] (causeOf e))
  return known

/-- The program's directory for settings, in the user's one by the usual two variables. -/
def configDirectory? : IO (Option String) := do
  let home := (← IO.getEnv "HOME").map (· ++ "/.config")
  let chosen := (← IO.getEnv "XDG_CONFIG_HOME").filter Path.isAbsolute
  return (chosen <|> home).map (· ++ "/dfa-trace")

/-- Standard input up to its end. -/
partial def readAll (input : IO.FS.Stream) (before : ByteArray) : IO ByteArray := do
  let bytes ← input.read 4096
  if bytes.isEmpty then return before else readAll input (before ++ bytes)

/-- The answers that standard input may give, up to where it cannot be read. -/
def answers : List Reading → List String
  | .line text :: rest => Session.answer text :: answers rest
  | _ => []

/-- Brings to the disk what a run changed in the program's directory. -/
def leaveBehind (s : Surroundings) (files : FileSystem) : IO Unit := do
  if let some directory := s.configDirectory then
    if files.isDirectory directory && !s.files.isDirectory directory then
      IO.FS.createDirAll directory
  if let some path := s.historyPath? then
    let kept := (files.read path).toOption
    if kept != (s.files.read path).toOption then
      IO.FS.writeBinFile path (kept.getD []).toByteArray

def runWith (options : Options) : IO UInt32 := do
  let here := (Path.names (← IO.currentDir).toString).filter (· != "")
  let stdout ← IO.getStdout
  let noColor ← IO.getEnv "NO_COLOR"
  let palette := if (← stdout.isTty) && noColor.isNone then .ansi else .plain
  let mut s : Surroundings :=
    ⟨FileSystem.empty here, ← configDirectory?, [], palette, fun _ => ""⟩
  for path in [s.configDirectory, options.config <|> s.settingsPath?, s.historyPath?].filterMap id do
    s := { s with files := ← look s.files path }
  let saved := (s.settings options.config).value.toOption.getD .default
  let file := (saved.merge options).defaultFile
  if file.isNone || options.word.isNone then
    s := { s with input := Reading.ofStream (← readAll (← IO.getStdin) .empty).data.toList }
  for path in file.elim (answers s.input) ([·]) do
    s := { s with files := ← look s.files path }
  let outcome := (Session.run s options).value
  leaveBehind s outcome.files
  IO.print outcome.out
  IO.eprint outcome.err
  match outcome.result with
  | .ok () => return 0
  | .error message =>
    IO.eprintln ("Error: " ++ message)
    return 1

end DigitAutomata.Main

open DigitAutomata in
def main (args : List String) : IO UInt32 := do
  match Options.parse args with
  | .error e =>
    match e.text? with
    | some text =>
      IO.print text
      return 0
    | none =>
      IO.eprintln "error: unusable arguments\n\nFor more information, try '--help'."
      return 2
  | .ok options => Main.runWith options
