import DigitAutomata.Json.Basic

/-! The indented form of a JSON value: two blanks a level, one item or field a line, and nothing inside
an empty array or object. -/
namespace DigitAutomata.Json

/-- Four hexadecimal digits. -/
def hex4 (code : Nat) : List Char :=
  [code / 4096 % 16, code / 256 % 16, code / 16 % 16, code % 16].map Nat.digitChar

/-- Only what the format forbids inside quotation marks is escaped, by its short name if it has one. -/
def escape : Piece → List Char
  | .half code => '\\' :: 'u' :: hex4 code
  | .char c =>
    if c = '"' then ['\\', '"']
    else if c = '\\' then ['\\', '\\']
    else if c = '\x08' then ['\\', 'b']
    else if c = '\t' then ['\\', 't']
    else if c = '\n' then ['\\', 'n']
    else if c = '\x0c' then ['\\', 'f']
    else if c = '\r' then ['\\', 'r']
    else if c.toNat < 32 then '\\' :: 'u' :: hex4 c.toNat
    else [c]

def quote (pieces : List Piece) : List Char := '"' :: pieces.flatMap escape ++ ['"']

def newline (depth : Nat) : List Char := '\n' :: List.replicate (2 * depth) ' '

mutual

def print (depth : Nat) : Json → List Char
  | .null => "null".toList
  | .bool true => "true".toList
  | .bool false => "false".toList
  | .number literal => literal
  | .string pieces => quote pieces
  | .array [] => ['[', ']']
  | .array (item :: items) =>
    '[' :: newline (depth + 1) ++ print (depth + 1) item ++ printItems (depth + 1) items ++
      newline depth ++ [']']
  | .object [] => ['{', '}']
  | .object ((key, value) :: fields) =>
    '{' :: newline (depth + 1) ++ quote key ++ ':' :: ' ' :: print (depth + 1) value ++
      printFields (depth + 1) fields ++ newline depth ++ ['}']

/-- The items after the first. -/
def printItems (depth : Nat) : List Json → List Char
  | [] => []
  | item :: items => ',' :: newline depth ++ print depth item ++ printItems depth items

/-- The fields after the first. -/
def printFields (depth : Nat) : List (List Piece × Json) → List Char
  | [] => []
  | (key, value) :: fields =>
    ',' :: newline depth ++ quote key ++ ':' :: ' ' :: print depth value ++
      printFields depth fields

end

def pretty (j : Json) : String := String.ofList (print 0 j)

end DigitAutomata.Json
