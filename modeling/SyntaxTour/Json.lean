import SyntaxTour.Text.Decimal

/-!
# JSON values

Settings are read from JSON text, and trees, diagnostics and answers are written as JSON.

* `Json` keeps integers apart from other numbers, which are the 64 bits of a double.
* `Json.object` puts the fields of an object in the order of their keys, so that two
  objects with the same fields are the same value.
* `Json.write` is the compact text of a value; how a double is written is left to the
  caller, and `Json.compact` writes the shortest decimal.
-/

namespace SyntaxTour

/-- A JSON value. The fields of an object stand in the order of their keys. -/
inductive Json where
  | null
  | bool (value : Bool)
  | int (value : Int)
  | float (bits : UInt64)
  | string (text : String)
  | array (items : List Json)
  | fields (entries : List (String × Json))
  deriving Inhabited

namespace Json

/-- Adding a field in front of the first larger key; a field of the same key is replaced. -/
def insertField (key : String) (value : Json) : List (String × Json) → List (String × Json)
  | [] => [(key, value)]
  | (k, v) :: rest =>
    if key < k then (key, value) :: (k, v) :: rest
    else if key = k then (key, value) :: rest
    else (k, v) :: insertField key value rest

/-- **An object with the given fields**, sorted by key; of two fields with one key the later
one stays. -/
def object (entries : List (String × Json)) : Json :=
  .fields (entries.foldl (fun sorted entry => insertField entry.1 entry.2 sorted) [])

/-- The value of a field; what is no object has no fields. -/
def get? (key : String) : Json → Option Json
  | .fields entries => (entries.find? fun entry => entry.1 == key).map (·.2)
  | _ => none

/-- The text of a string. -/
def string? : Json → Option String
  | .string text => some text
  | _ => none

/-- The items of an array. -/
def array? : Json → Option (List Json)
  | .array items => some items
  | _ => none

/-- An optional value, written as `null` when it is missing. -/
def ofOption : Option Json → Json
  | some value => value
  | none => .null

/-- The value of a list of strings. -/
def strings (texts : List String) : Json :=
  .array (texts.map .string)

/-! ### Writing -/

/-- One hexadecimal digit. -/
def hexDigit (n : Nat) : Char :=
  if n < 10 then Char.ofNat (48 + n) else Char.ofNat (87 + n)

/-- A character inside a string: the quote, the backslash and control characters are
escaped, everything else stands for itself. -/
def writeChar (c : Char) : String :=
  match c with
  | '"' => "\\\""
  | '\\' => "\\\\"
  | '\n' => "\\n"
  | '\r' => "\\r"
  | '\t' => "\\t"
  | '\x08' => "\\b"
  | '\x0c' => "\\f"
  | c =>
    if c.toNat < 32 then
      "\\u00" ++ String.ofList [hexDigit (c.toNat / 16), hexDigit (c.toNat % 16)]
    else c.toString

/-- A string with its quotes, appended to `out`. -/
def writeString (out : String) (text : String) : String :=
  (text.foldl (fun out c => out ++ writeChar c) (out ++ "\"")) ++ "\""

mutual

/-- The compact text of a value, appended to `out`; `number` writes the doubles. -/
def append (number : UInt64 → String) (out : String) : Json → String
  | .null => out ++ "null"
  | .bool true => out ++ "true"
  | .bool false => out ++ "false"
  | .int value => out ++ toString value
  | .float bits => out ++ number bits
  | .string text => writeString out text
  | .array items => appendItems number (out ++ "[") true items ++ "]"
  | .fields entries => appendFields number (out ++ "\x7b") true entries ++ "\x7d"

/-- The items of an array, with commas between them. -/
def appendItems (number : UInt64 → String) (out : String) (first : Bool) :
    List Json → String
  | [] => out
  | item :: rest =>
    appendItems number (append number (if first then out else out ++ ",") item) false rest

/-- The fields of an object, with commas between them. -/
def appendFields (number : UInt64 → String) (out : String) (first : Bool) :
    List (String × Json) → String
  | [] => out
  | (key, value) :: rest =>
    let out := writeString (if first then out else out ++ ",") key ++ ":"
    appendFields number (append number out value) false rest

end

/-- The compact text of a value, with the doubles written by `number`. -/
def write (number : UInt64 → String) (value : Json) : String :=
  append number "" value

/-- Decimals in JSON text are written out up to sixteen digits before the point and five
zeros after it. -/
def decimalLayout : DecimalLayout := ⟨16, 5⟩

/-- A double in JSON text: its shortest decimal, or `null` when it is not a number or not
finite. -/
def writeDouble (bits : UInt64) : String :=
  match Binary.ofBits bits with
  | none => "null"
  | some b => (if Binary.isNegative bits then "-" else "") ++ decimalLayout.write b.shortest

/-- The compact text of a value. -/
def compact (value : Json) : String :=
  value.write writeDouble

end Json

end SyntaxTour
