/-! Paths as text. The names of a path are its pieces between slashes. A name is idle if following it
leads nowhere new: an empty one, or a `.` that does not begin the path. -/
namespace DigitAutomata.Path

/-- The pieces between slashes, empty ones included. -/
def pieces : List Char → List (List Char)
  | [] => [[]]
  | c :: cs =>
    if c = '/' then [] :: pieces cs
    else match pieces cs with
      | [] => [[c]]
      | name :: names => (c :: name) :: names

def names (path : String) : List String := (pieces path.toList).map String.ofList

def isAbsolute (path : String) : Bool := path.toList.head? == some '/'

def isIdle (name : String) : Bool := name == "" || name == "."

def ofReversed (names : List String) : String := String.intercalate "/" names.reverse

/-- The paths above reversed names, nearest first and down to the root or the empty path. -/
def above (absolute : Bool) : List String → List String
  | [] => [""]
  | [name] => if absolute then ["/"] else if name = "" then [""] else [name, ""]
  | name :: rest =>
    if isIdle name then above absolute rest else ofReversed (name :: rest) :: above absolute rest

/-- A path without what is idle at its end, then each path above it. -/
def ancestors (path : String) : List String := above (isAbsolute path) (names path).reverse

/-- A path without its last name. The root and the empty path have no parent. -/
def parent? (path : String) : Option String := (ancestors path)[1]?

end DigitAutomata.Path
