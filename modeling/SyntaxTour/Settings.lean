import SyntaxTour.Json.Reader
import SyntaxTour.Schema
import SyntaxTour.Text.Quoted

/-!
# Settings

What a traversal does beyond firing events is decided by three switches. They are given as
a JSON object, in a file or as a text; a switch that is not given keeps its default.

* `Settings` holds the switches, and `Settings.default` has the defaults.
* `Settings.schema` says which values are acceptable. `Settings.decode` takes the switches out
  of a value and knows nothing of the schema: it skips keys that it does not know, and it takes
  a list of switches for settings as well.
* `Settings.ofJson` checks a value and decodes it then.
* `Settings.read` and `Settings.readBytes` start from a text and from the bytes of a file.
* `SettingsError.message` is the text of a refusal.
-/

namespace SyntaxTour

/-- The switches of a traversal. -/
structure Settings where
  /-- Report the nodes whose position the grammar does not allow. -/
  reportUnrecognized : Bool := true
  /-- Visit the children of unknown constructs instead of skipping them. -/
  descendIntoUnknown : Bool := false
  /-- Write every event to the log. -/
  traceEvents : Bool := false
  deriving DecidableEq, Repr, Inhabited

/-- Why settings could not be read. -/
inductive SettingsError where
  /-- The file is not there or is not text. -/
  | unreadable
  /-- The text is not JSON. -/
  | notJson
  /-- The value does not keep to the schema. -/
  | mismatch (reason : Schema.Mismatch)
  /-- Some other reason, in words. -/
  | other (reason : String)

namespace SettingsError

/-- The reason in words. -/
def reason : SettingsError → String
  | unreadable => ""
  | notJson => "Invalid JSON"
  | mismatch m => "Config validation failed: " ++ m.problem ++ " at " ++ m.place
  | other reason => reason

/-- The text of a refusal. -/
def message : SettingsError → String
  | unreadable => "Failed to read config: " ++ reason unreadable
  | e => "Invalid config: " ++ e.reason

end SettingsError

namespace Settings

/-- Reports on, everything else off. -/
def default : Settings := {}

/-- Setting one switch by its name. -/
def set? (s : Settings) (key : String) (value : Bool) : Option Settings :=
  match key with
  | "report_unrecognized" => some { s with reportUnrecognized := value }
  | "descend_into_unknown" => some { s with descendIntoUnknown := value }
  | "trace_events" => some { s with traceEvents := value }
  | _ => none

/-- The names of the switches, in their order. -/
def names : List String := ["report_unrecognized", "descend_into_unknown", "trace_events"]

/-! ### Checking -/

/-- **What settings have to look like**: an object of switches. -/
def schema : Schema where
  properties := [
    ⟨"report_unrecognized", .boolean, .bool true⟩,
    ⟨"descend_into_unknown", .boolean, .bool false⟩,
    ⟨"trace_events", .boolean, .bool false⟩]

/-! ### Decoding -/

/-- Why a value cannot be decoded. -/
inductive Misfit where
  /-- Something else was found than what was expected. -/
  | unsuitable (found : Json) (expected : String)
  /-- A list of switches goes on after the last one. -/
  | tooLong (length : Nat)

/-- What was found, in words. -/
def Misfit.sort : Json → String
  | .null => "null"
  | .bool value => "boolean `" ++ toString value ++ "`"
  | .int value => "integer `" ++ toString value ++ "`"
  | .float bits => "floating point `" ++ Json.writeDouble bits ++ "`"
  | .string text => "string " ++ Text.quote text
  | .array _ => "sequence"
  | .fields _ => "map"

/-- The reason in words. -/
def Misfit.message : Misfit → String
  | unsuitable found expected => "invalid type: " ++ sort found ++ ", expected " ++ expected
  | tooLong length =>
    "invalid length " ++ toString length ++ ", expected fewer elements in array"

/-- Setting the switch of a name to what is given for it. -/
def assign (s : Settings) (key : String) : Json → Except Misfit Settings
  | .bool value => .ok ((s.set? key value).getD s)
  | found => .error (.unsuitable found "a boolean")

/-- Setting the switches that fields give; fields of other names are skipped. -/
def decodeFields (s : Settings) : List (String × Json) → Except Misfit Settings
  | [] => .ok s
  | (key, value) :: rest =>
    if key ∈ names then do decodeFields (← s.assign key value) rest
    else decodeFields s rest

/-- Setting the switches of the given names to the items of a list, as far as there are items. -/
def decodeItems (s : Settings) (length : Nat) : List String → List Json → Except Misfit Settings
  | _, [] => .ok s
  | [], _ :: _ => .error (.tooLong length)
  | key :: keys, value :: rest => do decodeItems (← s.assign key value) length keys rest

/-- **Taking settings out of a JSON value**: out of the fields of an object, or out of the items
of a list. -/
def decode : Json → Except Misfit Settings
  | .fields entries => default.decodeFields entries
  | .array items => default.decodeItems items.length names items
  | found => .error (.unsuitable found "struct EngineConfig")

/-! ### Reading -/

/-- **Settings from a JSON value**, which is checked first. -/
def ofJson (value : Json) : Except SettingsError Settings :=
  match schema.check value with
  | .error reason => .error (.mismatch reason)
  | .ok () =>
    match decode value with
    | .error misfit => .error (.other misfit.message)
    | .ok s => .ok s

/-- How deeply a text of settings may be nested. -/
def nestingLimit : Nat := 127

/-- Settings from a JSON text. -/
def read (text : String) : Except SettingsError Settings :=
  match Json.read? nestingLimit text with
  | some value => ofJson value
  | none => .error .notJson

/-- Settings from the bytes of a file, which have to be UTF-8; `none` stands for a file that
cannot be opened. -/
def readBytes (content : Option ByteArray) : Except SettingsError Settings :=
  match content.bind String.fromUTF8? with
  | some text => read text
  | none => .error .unreadable

/-- The switches by name, in the order in which they are shown. -/
def switches (s : Settings) : List (String × Bool) :=
  [("report_unrecognized", s.reportUnrecognized),
   ("descend_into_unknown", s.descendIntoUnknown),
   ("trace_events", s.traceEvents)]

/-- The settings in data. -/
def toJson (s : Settings) : Json :=
  .object (s.switches.map fun (key, value) => (key, .bool value))

/-- The settings as a log shows them. -/
def describe (s : Settings) : String :=
  let fields := s.switches.map fun (key, value) => key ++ ": " ++ toString value
  "EngineConfig \x7b " ++ ", ".intercalate fields ++ " \x7d"

end Settings

end SyntaxTour
