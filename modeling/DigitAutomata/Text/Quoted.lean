import DigitAutomata.Text.GraphemeExtend
import DigitAutomata.Text.Unprintable

/-! One character between single quotation marks, with an escape for what a reader would not see. -/
namespace DigitAutomata.Text

def hexadecimal (n : Nat) : String := String.ofList (Nat.toDigits 16 n)

def escaped (c : Char) : String :=
  match c with
  | '\x00' => "\\0"
  | '\t' => "\\t"
  | '\r' => "\\r"
  | '\n' => "\\n"
  | '\\' => "\\\\"
  | '\'' => "\\'"
  | c =>
    if isGraphemeExtend c || isUnprintable c then "\\u\x7b" ++ hexadecimal c.toNat ++ "\x7d"
    else String.singleton c

def quoted (c : Char) : String := "'" ++ escaped c ++ "'"

end DigitAutomata.Text
