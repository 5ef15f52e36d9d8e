import DigitAutomata.Json.Basic

/-! Reading JSON, strictly: blanks are space, line feed, carriage return and tab; no comma may come
before a closing bracket; a string holds no raw control character; nothing may follow the value. -/
namespace DigitAutomata.Json

def isSpace (c : Char) : Bool := c == ' ' || c == '\n' || c == '\r' || c == '\t'

def skipSpace (cs : List Char) : List Char := cs.dropWhile isSpace

def hexDigit? (c : Char) : Option Nat :=
  if '0' ≤ c ∧ c ≤ '9' then some (c.toNat - 48)
  else if 'a' ≤ c ∧ c ≤ 'f' then some (c.toNat - 87)
  else if 'A' ≤ c ∧ c ≤ 'F' then some (c.toNat - 55)
  else none

def isHighHalf (code : Nat) : Bool := 0xD800 ≤ code && code < 0xDC00
def isLowHalf (code : Nat) : Bool := 0xDC00 ≤ code && code < 0xE000

/-- Puts the unit of a four-digit escape before the pieces read after it; a high half takes the low
half that follows it directly. -/
def consUnit (code : Nat) (pieces : List Piece) : List Piece :=
  if isHighHalf code then
    match pieces with
    | .half low :: rest =>
      if isLowHalf low then
        .char (Char.ofNat (0x10000 + (code - 0xD800) * 0x400 + (low - 0xDC00))) :: rest
      else .half code :: pieces
    | _ => .half code :: pieces
  else if isLowHalf code then .half code :: pieces
  else .char (Char.ofNat code) :: pieces

/-- What an escape of one letter stands for. -/
def shortEscape? (c : Char) : Option Char :=
  if c = '"' ∨ c = '\\' ∨ c = '/' then some c
  else if c = 'b' then some '\x08'
  else if c = 'f' then some '\x0c'
  else if c = 'n' then some '\n'
  else if c = 'r' then some '\r'
  else if c = 't' then some '\t'
  else none

/-- The rest of a string up to its closing quotation mark. -/
def readString : List Char → Option (List Piece × List Char)
  | [] => none
  | c :: cs =>
    if c = '"' then some ([], cs)
    else if c = '\\' then
      match cs with
      | [] => none
      | e :: cs =>
        if e = 'u' then
          match cs with
          | d₁ :: d₂ :: d₃ :: d₄ :: cs => do
            let h₁ ← hexDigit? d₁
            let h₂ ← hexDigit? d₂
            let h₃ ← hexDigit? d₃
            let h₄ ← hexDigit? d₄
            let (pieces, rest) ← readString cs
            some (consUnit (((h₁ * 16 + h₂) * 16 + h₃) * 16 + h₄) pieces, rest)
          | _ => none
        else do
          let c ← shortEscape? e
          let (pieces, rest) ← readString cs
          some (.char c :: pieces, rest)
    else if c.toNat < 32 then none
    else do
      let (pieces, rest) ← readString cs
      some (.char c :: pieces, rest)

/-- At least one digit, and all that follow. -/
def readDigits (cs : List Char) : Option (List Char × List Char) :=
  if (cs.head?.any Char.isDigit) then some (cs.takeWhile Char.isDigit, cs.dropWhile Char.isDigit)
  else none

/-- A zero stands alone in front of the point. -/
def readWhole : List Char → Option (List Char × List Char)
  | '0' :: cs => some (['0'], cs)
  | cs => readDigits cs

def readFraction : List Char → Option (List Char × List Char)
  | '.' :: cs => do
    let (digits, rest) ← readDigits cs
    some ('.' :: digits, rest)
  | cs => some ([], cs)

def readExponent : List Char → Option (List Char × List Char)
  | [] => some ([], [])
  | c :: cs =>
    if c = 'e' ∨ c = 'E' then
      match cs with
      | [] => none
      | s :: rest =>
        if s = '+' ∨ s = '-' then do
          let (digits, rest) ← readDigits rest
          some (c :: s :: digits, rest)
        else do
          let (digits, rest) ← readDigits cs
          some (c :: digits, rest)
    else some ([], c :: cs)

def readNumber (cs : List Char) : Option (List Char × List Char) := do
  let (sign, cs) := match cs with
    | '-' :: rest => (['-'], rest)
    | cs => ([], cs)
  let (whole, cs) ← readWhole cs
  let (fraction, cs) ← readFraction cs
  let (exponent, cs) ← readExponent cs
  some (sign ++ whole ++ fraction ++ exponent, cs)

/-- A word of the format, if the text begins with it. -/
def readWord (word : List Char) (j : Json) (cs : List Char) : Option (Json × List Char) :=
  if word.isPrefixOf cs then some (j, cs.drop word.length) else none

mutual

def readValue : Nat → List Char → Option (Json × List Char)
  | 0, _ => none
  | fuel + 1, cs =>
    match skipSpace cs with
    | [] => none
    | c :: cs =>
      if c = '"' then do
        let (pieces, rest) ← readString cs
        some (.string pieces, rest)
      else if c = '[' then
        match skipSpace cs with
        | ']' :: rest => some (.array [], rest)
        | cs => do
          let (items, rest) ← readItems fuel cs
          some (.array items, rest)
      else if c = '{' then
        match skipSpace cs with
        | '}' :: rest => some (.object [], rest)
        | cs => do
          let (fields, rest) ← readFields fuel cs
          some (.object fields, rest)
      else if c = 'n' then readWord "ull".toList .null cs
      else if c = 't' then readWord "rue".toList (.bool true) cs
      else if c = 'f' then readWord "alse".toList (.bool false) cs
      else do
        let (literal, rest) ← readNumber (c :: cs)
        some (.number literal, rest)

/-- One item or more, up to the closing bracket. -/
def readItems : Nat → List Char → Option (List Json × List Char)
  | 0, _ => none
  | fuel + 1, cs => do
    let (item, cs) ← readValue fuel cs
    match skipSpace cs with
    | ']' :: rest => some ([item], rest)
    | ',' :: cs =>
      let (items, rest) ← readItems fuel cs
      some (item :: items, rest)
    | _ => none

/-- One field or more, up to the closing brace. -/
def readFields : Nat → List Char → Option (List (List Piece × Json) × List Char)
  | 0, _ => none
  | fuel + 1, cs =>
    match skipSpace cs with
    | '"' :: cs => do
      let (key, cs) ← readString cs
      match skipSpace cs with
      | ':' :: cs =>
        let (value, cs) ← readValue fuel cs
        match skipSpace cs with
        | '}' :: rest => some ([(key, value)], rest)
        | ',' :: cs =>
          let (fields, rest) ← readFields fuel cs
          some ((key, value) :: fields, rest)
        | _ => none
      | _ => none
    | _ => none

end

/-- The value that a whole text writes. A level of nesting takes a character and at most two units of
fuel. -/
def ofText? (text : String) : Option Json := do
  let cs := text.toList
  let (j, rest) ← readValue (2 * cs.length + 2) cs
  if skipSpace rest = [] then some j else none

end DigitAutomata.Json
