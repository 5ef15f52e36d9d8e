import DigitAutomata.Options.Basic
import DigitAutomata.Options.Help

/-! Reading a command line. An option's value is in the same argument, after `=` in the long form, or
in the next one. An option whose value may still come is held back, so a word that is no argument at
all is reported before anything is wrong with the option held back. -/
namespace DigitAutomata

inductive UsageError
  | unknownArgument
  | tooManyValues
  | invalidValue
  | argumentConflict
  | help (long : Bool)
  | version
deriving DecidableEq

/-- The text to print instead of running, if the command line asks for one. -/
def UsageError.text? : UsageError → Option String
  | .help true => some Options.longHelp
  | .help false => some Options.shortHelp
  | .version => some Options.versionText
  | _ => none

namespace Options

/-- Options that take a value. -/
inductive Key
  | file | word | config | output
deriving DecidableEq

/-- Options that take none. -/
inductive Switch
  | quiet | noColor | help | version
deriving DecidableEq

inductive Name
  | key (k : Key)
  | switch (s : Switch)
deriving DecidableEq

def ofLong? (name : String) : Option Name :=
  match name with
  | "file" => some (.key .file)
  | "word" => some (.key .word)
  | "config" => some (.key .config)
  | "output" => some (.key .output)
  | "quiet" => some (.switch .quiet)
  | "no-color" => some (.switch .noColor)
  | "help" => some (.switch .help)
  | "version" => some (.switch .version)
  | _ => none

def ofShort? (c : Char) : Option Name :=
  match c with
  | 'f' => some (.key .file)
  | 'w' => some (.key .word)
  | 'c' => some (.key .config)
  | 'o' => some (.key .output)
  | 'q' => some (.switch .quiet)
  | 'h' => some (.switch .help)
  | 'V' => some (.switch .version)
  | _ => none

/-- The options read so far and the one held back, with its value once that is read. -/
structure Draft where
  options : Options := {}
  held : Option (Key × Option String) := none

def given (o : Options) : Key → Bool
  | .file => o.file.isSome
  | .word => o.word.isSome
  | .config => o.config.isSome
  | .output => o.output.isSome

/-- Sets an option once. A path may not be empty and a format must be known. -/
def give (o : Options) (k : Key) : Option String → Except UsageError Options
  | none => .error .invalidValue
  | some value =>
    if o.given k then .error .argumentConflict
    else match k with
      | .word => .ok { o with word := some value }
      | .file => if value = "" then .error .invalidValue else .ok { o with file := some value }
      | .config => if value = "" then .error .invalidValue else .ok { o with config := some value }
      | .output =>
        match OutputFormat.ofName? value with
        | some format => .ok { o with output := some format }
        | none => .error .invalidValue

namespace Draft

def settle (p : Draft) : Except UsageError Options :=
  match p.held with
  | none => .ok p.options
  | some (k, value) => p.options.give k value

def giveKey (p : Draft) (k : Key) (value : String) : Except UsageError Draft := do
  let options ← p.settle
  let options ← options.give k (some value)
  .ok ⟨options, none⟩

def holdKey (p : Draft) (k : Key) : Except UsageError Draft := do
  let options ← p.settle
  .ok ⟨options, some (k, none)⟩

def flip (p : Draft) (s : Switch) (long : Bool) : Except UsageError Draft := do
  let o ← p.settle
  match s with
  | .help => .error (.help long)
  | .version => .error .version
  | .quiet =>
    if o.quiet then .error .argumentConflict else .ok ⟨{ o with quiet := true }, none⟩
  | .noColor =>
    if o.noColor then .error .argumentConflict else .ok ⟨{ o with noColor := true }, none⟩

/-- An argument behind two dashes: a name and, after the first `=`, a value. -/
def takeLong (p : Draft) (body : List Char) : Except UsageError Draft :=
  let name := String.ofList (body.takeWhile (· != '='))
  match ofLong? name, body.dropWhile (· != '=') with
  | none, _ => .error .unknownArgument
  | some (.switch s), [] => p.flip s true
  | some (.switch _), _ :: _ => .error .tooManyValues
  | some (.key k), [] => p.holdKey k
  | some (.key k), _ :: value => p.giveKey k (String.ofList value)

/-- The letters behind one dash. The first that takes a value takes the rest, less an `=` in front. -/
def takeShort (p : Draft) : List Char → Except UsageError Draft
  | [] => .ok p
  | c :: cs =>
    match ofShort? c with
    | none => .error .unknownArgument
    | some (.switch s) => do
      let next ← p.flip s false
      next.takeShort cs
    | some (.key k) =>
      match cs with
      | [] => p.holdKey k
      | '=' :: value => p.giveKey k (String.ofList value)
      | value => p.giveKey k (String.ofList value)

/-- An argument that is no option is the value of the one held back, if that has none yet. -/
def takePlain (p : Draft) (value : String) : Except UsageError Draft :=
  match p.held with
  | some (k, none) => .ok { p with held := some (k, some value) }
  | _ => .error .unknownArgument

def takeAll (p : Draft) : List String → Except UsageError Draft
  | [] => .ok p
  | arg :: rest =>
    match arg.toList with
    | ['-', '-'] => if rest = [] then .ok p else .error .unknownArgument
    | '-' :: '-' :: body => do
      let next ← p.takeLong body
      next.takeAll rest
    | '-' :: c :: cs => do
      let next ← p.takeShort (c :: cs)
      next.takeAll rest
    | _ => do
      let next ← p.takePlain arg
      next.takeAll rest

end Draft

/-- The arguments without the program's name. -/
def parse (args : List String) : Except UsageError Options := do
  let read ← ({} : Draft).takeAll args
  read.settle

end Options

end DigitAutomata
