import SyntaxTour.Json
import SyntaxTour.Text.Unpictured

/-!
# Quoted text

The form in which a string is shown to a reader of a log: in double quotes, with the quote
and the backslash escaped, the common control characters by letter and every character
without a picture of its own by its number.

* `Text.quote` is the quoted form of a string.
* `Text.quoteList` is a list of quoted strings in brackets.
-/

namespace SyntaxTour.Text

/-- The hexadecimal digits of a number, without leading zeros; `fuel` bounds their count. -/
def hexDigits (n : Nat) : Nat → List Char
  | 0 => []
  | fuel + 1 =>
    if n < 16 then [Json.hexDigit n] else hexDigits (n / 16) fuel ++ [Json.hexDigit (n % 16)]

/-- A character inside quotes. -/
def quoteChar (c : Char) : String :=
  match c with
  | '"' => "\\\""
  | '\\' => "\\\\"
  | '\n' => "\\n"
  | '\r' => "\\r"
  | '\t' => "\\t"
  | '\x00' => "\\0"
  | c =>
    if ' ' ≤ c ∧ c ≤ '~' then c.toString
    else if isUnpictured c then "\\u\x7b" ++ String.ofList (hexDigits c.toNat 8) ++ "\x7d"
    else c.toString

/-- A string in quotes. -/
def quote (text : String) : String :=
  (text.foldl (fun out c => out ++ quoteChar c) "\"") ++ "\""

/-- A list of strings, each in quotes. -/
def quoteList (texts : List String) : String :=
  "[" ++ ", ".intercalate (texts.map quote) ++ "]"

end SyntaxTour.Text
