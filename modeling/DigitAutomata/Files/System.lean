import DigitAutomata.Files.Error
import DigitAutomata.Files.Path

/-! A file system as a table of locations, with the operations on paths that the program uses. A path
is followed name by name; every name but the last must lead through a directory that exists. A file may
be there and still fail, when it is opened or while it is read. -/
namespace DigitAutomata

inductive Entry
  | directory
  | file (content : List UInt8)
  /-- A file that fails after these bytes, before the first one if it may not be opened. It takes no
  new content. -/
  | failing (content : List UInt8) (cause : FileError)
deriving DecidableEq

/-- What a file delivers: its bytes, and why there are no more of them unless it was read to its end. -/
structure Delivery where
  bytes : List UInt8
  fault : Option FileError
deriving DecidableEq

/-- Names from the root down. -/
abbrev Location := List String

structure FileSystem where
  entry : Location → Option Entry
  /-- Where relative paths start. -/
  here : Location

namespace FileSystem

/-- Nothing but the directories on the way to `here`. -/
def empty (here : Location) : FileSystem :=
  ⟨fun l => if l.isPrefixOf here then some .directory else none, here⟩

/-- Follows one name. The empty name, as after a slash at the end, stays in place. -/
def follow (files : FileSystem) (place : Location) (name : String) : Except FileError Location :=
  match files.entry place with
  | none => .error .notFound
  | some (.file _) | some (.failing _ _) => .error .notADirectory
  | some .directory =>
    if name = "" ∨ name = "." then .ok place
    else if name = ".." then .ok place.dropLast
    else if 255 < name.utf8ByteSize then .error .nameTooLong
    else .ok (place ++ [name])

def followAll (files : FileSystem) : Location → List String → Except FileError Location
  | place, [] => .ok place
  | place, name :: names => do
    let next ← files.follow place name
    files.followAll next names

/-- Where a path leads; nothing need exist there. -/
def locate (files : FileSystem) (path : String) : Except FileError Location :=
  if path.toList.contains '\x00' then .error .nulInPath
  else if path = "" then .error .notFound
  else if 4096 ≤ path.utf8ByteSize then .error .nameTooLong
  else files.followAll (if Path.isAbsolute path then [] else files.here) (Path.names path)

def find (files : FileSystem) (path : String) : Except FileError Entry := do
  let place ← files.locate path
  match files.entry place with
  | some entry => .ok entry
  | none => .error .notFound

def fileExists (files : FileSystem) (path : String) : Bool := (files.find path).isOk

def isDirectory (files : FileSystem) (path : String) : Bool :=
  match files.find path with
  | .ok .directory => true
  | _ => false

/-- A directory can be opened but delivers nothing. -/
def deliver (files : FileSystem) (path : String) : Except FileError Delivery := do
  match ← files.find path with
  | .directory => .ok ⟨[], some .isADirectory⟩
  | .file content => .ok ⟨content, none⟩
  | .failing content cause => .ok ⟨content, some cause⟩

/-- The content of a file that is read to its end. -/
def read (files : FileSystem) (path : String) : Except FileError (List UInt8) := do
  let delivery ← files.deliver path
  match delivery.fault with
  | none => .ok delivery.bytes
  | some cause => .error cause

theorem read_eq_ok_iff {files : FileSystem} {path : String} {content : List UInt8} :
    files.read path = .ok content ↔ files.deliver path = .ok ⟨content, none⟩ := by
  rw [read]
  cases files.deliver path with
  | error cause => simp [bind, Except.bind]
  | ok delivery =>
    obtain ⟨bytes,fault⟩ := delivery
    cases fault <;> simp [bind, Except.bind]

def put (files : FileSystem) (place : Location) (item : Entry) : FileSystem :=
  { files with entry := fun l => if l = place then some item else files.entry l }

@[simp] theorem put_here (files : FileSystem) (place : Location) (item : Entry) :
    (files.put place item).here = files.here := rfl
@[simp] theorem put_entry_same (files : FileSystem) (place : Location) (item : Entry) :
    (files.put place item).entry place = some item := by simp [put]
@[simp] theorem put_entry_other (files : FileSystem) (item : Entry) (h : other ≠ place) :
    (files.put place item).entry other = files.entry other := by simp [put, h]

/-- Replaces the content of a file, or makes it in a directory that exists. -/
def write (files : FileSystem) (path : String) (content : List UInt8) :
    Except FileError FileSystem := do
  let place ← files.locate path
  match files.entry place with
  | some .directory => .error .isADirectory
  | some (.failing _ cause) => .error cause
  | _ => .ok (files.put place (.file content))

def makeDirectory (files : FileSystem) (path : String) : Except FileError FileSystem := do
  let place ← files.locate path
  match files.entry place with
  | some _ => .error .alreadyExists
  | none => .ok (files.put place .directory)

/-- Makes a directory unless it is there already. -/
def ensureDirectory (files : FileSystem) (path : String) : Except FileError FileSystem :=
  match files.makeDirectory path with
  | .ok made => .ok made
  | .error e => if files.isDirectory path then .ok files else .error e

/-- Ensures the first directory of a list, and those after it first where its parent is missing. -/
def ensureAll (files : FileSystem) : List String → Except FileError FileSystem
  | [] => .error .notFound
  | path :: parents =>
    if path = "" then .ok files
    else match files.ensureDirectory path with
      | .error .notFound => do
        let files ← files.ensureAll parents
        files.ensureDirectory path
      | outcome => outcome

/-- Makes a directory and the missing ones above it. -/
def makeDirectories (files : FileSystem) (path : String) : Except FileError FileSystem :=
  files.ensureAll (Path.ancestors path)

end FileSystem

end DigitAutomata
