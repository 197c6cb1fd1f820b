import SyntaxTour.Proofs.ByteOrder
import SyntaxTour.Proofs.Listing
import SyntaxTour.Settings

/-!
# Which settings are accepted

Two parties look at a value before it becomes settings, and neither knows of the other. A schema
lists the switches that there are, with their types; a decoder takes the switches out, with names
and defaults of its own. The decoder is the more generous one: it skips keys that it does not know,
and it takes a list of switches as well. So the schema has to be the one that refuses, and whatever
it lets through the decoder has to take.

* `Schema.check_fields_eq_ok_iff` and `Schema.exists_of_check_fields_eq_error` say what a check of
  fields finds, for every schema.
* `Settings.toJson_default_get?` says that the schema and the decoder have the same defaults, and
  `Settings.decodeFields_eq` what the decoder makes of fields that fit.
* `Settings.Describes` are the values that are settings, and `Settings.Objection` is what there is
  to say against the others; `Settings.read_agrees` is the statement about all texts.
-/

namespace SyntaxTour

/-! ### Checking fields -/

namespace Schema

variable {schema : Schema} {key : String} {value : Json} {entries : List (String × Json)}
  {reason : Mismatch}

/-- A field that a schema allows. -/
def Allows (schema : Schema) (key : String) (value : Json) : Prop :=
  ∃ type, schema.type? key = some type ∧ type.admits value = true

theorem checkField_eq_ok_iff : schema.checkField key value = .ok () ↔ schema.Allows key value := by
  unfold checkField Allows
  cases known : schema.type? key with
  | none => exact iff_of_false nofun fun ⟨_, known, _⟩ => nomatch known
  | some type =>
    dsimp only
    split
    · next admitted => exact iff_of_true rfl ⟨type, rfl, admitted⟩
    · next refused =>
      refine iff_of_false nofun ?_
      rintro ⟨_, is, admitted⟩
      obtain rfl := Option.some.inj is
      exact refused admitted

theorem check_nil : schema.check (.fields []) = .ok () := rfl

theorem check_cons :
    schema.check (.fields ((key, value) :: entries)) =
      schema.checkField key value >>= fun _ => schema.check (.fields entries) := rfl

/-- Fields are accepted if each of them is allowed. -/
theorem check_fields_eq_ok_iff :
    schema.check (.fields entries) = .ok () ↔
      ∀ entry ∈ entries, schema.Allows entry.1 entry.2 := by
  induction entries with
  | nil => exact iff_of_true check_nil (List.forall_mem_nil _)
  | cons entry entries ih =>
    obtain ⟨key, value⟩ := entry
    rw [check_cons, List.forall_mem_cons, ← ih, ← checkField_eq_ok_iff]
    cases schema.checkField key value with
    | ok => exact (and_iff_right rfl).symm
    | error reason => exact iff_of_false nofun fun ⟨ok, _⟩ => nomatch ok

/-- **Fields are refused for the first that is not allowed.** -/
theorem exists_of_check_fields_eq_error (refused : schema.check (.fields entries) = .error reason) :
    ∃ before key value after, entries = before ++ (key, value) :: after ∧
      (∀ entry ∈ before, schema.Allows entry.1 entry.2) ∧
      schema.checkField key value = .error reason := by
  induction entries with
  | nil => cases refused
  | cons entry entries ih =>
    obtain ⟨key, value⟩ := entry
    rw [check_cons] at refused
    cases checked : schema.checkField key value with
    | error reason' =>
      rw [checked] at refused
      obtain rfl : reason' = reason := Except.error.inj refused
      exact ⟨[], key, value, entries, rfl, List.forall_mem_nil _, checked⟩
    | ok =>
      -- This field is allowed, so what is refused is one of the others.
      rw [checked] at refused
      obtain ⟨before, key', value', after, rfl, allowed, checked'⟩ := ih refused
      have first : schema.Allows key value := checkField_eq_ok_iff.mp checked
      exact ⟨(key, value) :: before, key', value', after, rfl,
        List.forall_mem_cons.mpr ⟨first, allowed⟩, checked'⟩

end Schema

namespace Settings

variable {key : String} {value v : Json} {entries : List (String × Json)}

/-! ### What fits -/

/-- **A field of settings**: a switch that is on or off. -/
def Fits (key : String) (value : Json) : Prop :=
  key ∈ names ∧ ∃ on, value = .bool on

/-- **A value that is settings.** -/
def Describes (v : Json) : Prop :=
  v.IsObject ∧ ∀ key value, v.get? key = some value → Fits key value

/-- What is found for a switch, or what it is otherwise. -/
def position (found : Option Json) (otherwise : Bool) : Bool :=
  match found with
  | some (.bool on) => on
  | _ => otherwise

/-- **What a value gives for a switch**, or what the switch is otherwise. -/
def given (v : Json) (key : String) (otherwise : Bool) : Bool :=
  position (v.get? key) otherwise

theorem type?_of_mem (known : key ∈ names) : schema.type? key = some .boolean := by
  simp only [names, List.mem_cons, List.not_mem_nil, or_false] at known
  rcases known with rfl | rfl | rfl <;> rfl

theorem type?_of_not_mem (unknown : key ∉ names) : schema.type? key = none := by
  simp only [names, List.mem_cons, List.not_mem_nil, or_false, not_or] at unknown
  obtain ⟨no, no', no''⟩ := unknown
  simp [Schema.type?, schema, Ne.symm no, Ne.symm no', Ne.symm no'']

/-- The schema allows what fits. -/
theorem allows_iff : schema.Allows key value ↔ Fits key value := by
  unfold Schema.Allows Fits
  by_cases known : key ∈ names
  · rw [type?_of_mem known]
    constructor
    · rintro ⟨_, is, admitted⟩
      obtain rfl := Option.some.inj is
      cases value with
      | bool on => exact ⟨known, on, rfl⟩
      | _ => cases admitted
    · rintro ⟨-, on, rfl⟩
      exact ⟨.boolean, rfl, rfl⟩
  · rw [type?_of_not_mem known]
    exact iff_of_false (fun ⟨_, is, _⟩ => nomatch is) fun ⟨mem, _⟩ => known mem

/-- **The defaults of the schema are those of the decoder**, and they pass their own check. -/
theorem toJson_default_get? :
    ∀ property ∈ schema.properties,
      default.toJson.get? property.name = some property.fallback ∧
        schema.checkField property.name property.fallback = .ok () := by
  simp [schema, Schema.checkField, Schema.type?, Schema.ValueType.admits, toJson, switches, default]

/-! ### Decoding -/

/-- A later position takes the place of an earlier one, if there is one. -/
theorem position_latest (fits : ∀ entry ∈ entries, Fits entry.1 entry.2) (key : String)
    (on otherwise : Bool) :
    position (Json.latest key (some (.bool on)) entries) otherwise =
      position (Json.latest key none entries) on := by
  induction entries generalizing on otherwise with
  | nil => rfl
  | cons entry entries ih =>
    obtain ⟨⟨-, on', is⟩, rest⟩ := List.forall_mem_cons.mp fits
    obtain ⟨k, value⟩ := entry
    obtain rfl : value = .bool on' := is
    rw [Json.latest_cons, Json.latest_cons]
    split
    · -- Another position is found, and what was carried along until now is forgotten.
      rw [ih rest, ih rest]
    · exact ih rest on otherwise

/-- **Fields that fit are decoded**: every switch gets what is given for it last. -/
theorem decodeFields_eq (s : Settings) (fits : ∀ entry ∈ entries, Fits entry.1 entry.2) :
    s.decodeFields entries = .ok
      { reportUnrecognized :=
          position (Json.latest "report_unrecognized" none entries) s.reportUnrecognized
        descendIntoUnknown :=
          position (Json.latest "descend_into_unknown" none entries) s.descendIntoUnknown
        traceEvents := position (Json.latest "trace_events" none entries) s.traceEvents } := by
  induction entries generalizing s with
  | nil => rfl
  | cons entry entries ih =>
    obtain ⟨⟨known, on, is⟩, rest⟩ := List.forall_mem_cons.mp fits
    obtain ⟨k, value⟩ := entry
    obtain rfl : value = .bool on := is
    have step : s.decodeFields ((k, .bool on) :: entries) =
        ((s.set? k on).getD s).decodeFields entries := if_pos known
    rw [step, ih _ rest]
    -- One switch is set, and only its own later positions take the place of this one.
    simp only [names, List.mem_cons, List.not_mem_nil, or_false] at known
    rcases known with rfl | rfl | rfl <;> simp [set?, position_latest rest]

/-- **What the schema lets through is decoded.** -/
theorem exists_decode_of_check (accepted : schema.check v = .ok ()) : ∃ s, decode v = .ok s := by
  cases v with
  | fields entries =>
    have allowed := Schema.check_fields_eq_ok_iff.mp accepted
    exact ⟨_, decodeFields_eq default fun entry mem => allows_iff.mp (allowed entry mem)⟩
  | _ => cases accepted

/-- The decoder takes other values as well, which are left to the schema. -/
example :
    decode (.array [.bool false]) = .ok { reportUnrecognized := false } ∧
      schema.check (.array [.bool false]) =
        .error (.wrongType .object (.array [.bool false]) none) :=
  ⟨rfl, rfl⟩

/-- A value is refused by the schema or not at all: the decoder never gets to refuse one. -/
theorem check_of_ofJson {e : SettingsError} (refused : ofJson v = .error e) :
    ∃ reason, e = .mismatch reason ∧ schema.check v = .error reason := by
  unfold ofJson at refused
  cases checked : schema.check v with
  | error reason =>
    rw [checked] at refused
    exact ⟨reason, (Except.error.inj refused).symm, rfl⟩
  | ok =>
    obtain ⟨s, decoded⟩ := exists_decode_of_check checked
    rw [checked, decoded] at refused
    cases refused

/-! ### Refusals -/

/-- **The first fault of a value**: a field that does not fit, and no other such field comes before
it in the order of the bytes. -/
structure FirstFault (v : Json) (key : String) (found : Json) : Prop where
  there : v.get? key = some found
  unfit : ¬Fits key found
  first (key' : String) (found' : Json) : v.get? key' = some found' → ¬Fits key' found' →
    Text.bytes key ≤ Text.bytes key'

/-- **What there is to object to a value**, with the words for it. -/
inductive Objection (v : Json) : Schema.Mismatch → String → Prop where
  | noObject : ¬v.IsObject →
      Objection v (.wrongType .object v none) (v.compact ++ " is not of type \"object\" at ")
  | noSwitch (key : String) (found : Json) : FirstFault v key found → key ∈ names →
      Objection v (.wrongType .boolean found (some key))
        (found.compact ++ " is not of type \"boolean\" at /" ++ key)
  | unknown (key : String) (found : Json) : FirstFault v key found → key ∉ names →
      Objection v (.unexpected key)
        ("Additional properties are not allowed ('" ++ key ++ "' was unexpected) at ")

section

variable (sorted : Json.Sorted entries)
include sorted

/-- Sorted fields describe settings if the schema accepts them. -/
theorem describes_fields_iff :
    Describes (.fields entries) ↔ schema.check (.fields entries) = .ok () := by
  rw [Schema.check_fields_eq_ok_iff]
  constructor
  · rintro ⟨-, fits⟩ ⟨key, value⟩ mem
    exact allows_iff.mpr (fits key value (sorted.get?_eq_some_iff.mpr mem))
  · refine fun allowed => ⟨⟨entries, rfl⟩, fun key value there => ?_⟩
    exact allows_iff.mp (allowed _ (sorted.get?_eq_some_iff.mp there))

/-- The field for which sorted fields are refused is their first fault. -/
theorem exists_firstFault_of_check {reason : Schema.Mismatch}
    (refused : schema.check (.fields entries) = .error reason) :
    ∃ key found, FirstFault (.fields entries) key found ∧
      schema.checkField key found = .error reason := by
  obtain ⟨before, key, found, after, rfl, allowed, checked⟩ :=
    Schema.exists_of_check_fields_eq_error refused
  -- What fits is allowed, and would not have been refused.
  have unfit : ¬Fits key found := by
    intro fits
    cases checked.symm.trans (Schema.checkField_eq_ok_iff.mpr (allows_iff.mpr fits))
  refine ⟨key, found, ⟨?_, unfit, fun key' found' there' unfit' => ?_⟩, checked⟩
  · exact sorted.get?_eq_some_iff.mpr (List.mem_append_right before List.mem_cons_self)
  · -- Another fault is not among the fields before, and what comes later has a larger key.
    rw [Text.bytes_le_iff]
    obtain ⟨-, later, -⟩ := List.pairwise_append.mp sorted
    obtain ⟨above, -⟩ := List.pairwise_cons.mp later
    rcases List.mem_append.mp (sorted.get?_eq_some_iff.mp there') with mem | mem
    · exact absurd (allows_iff.mp (allowed _ mem)) unfit'
    rcases List.mem_cons.mp mem with same | mem
    · exact le_of_eq (congrArg Prod.fst same).symm
    · exact le_of_lt (above _ mem)

end

section

variable (found : Json) (key : String) (reason : Schema.Mismatch)

/-- What is said of a mismatch. -/
def spoken (reason : Schema.Mismatch) : String :=
  reason.problem ++ " at " ++ reason.place

theorem message_mismatch :
    (SettingsError.mismatch reason).message =
      "Invalid config: Config validation failed: " ++ spoken reason := by
  have opening : "Invalid config: Config validation failed: " =
      "Invalid config: " ++ "Config validation failed: " := by decide
  unfold SettingsError.message SettingsError.reason spoken
  dsimp only
  rw [opening]
  simp only [String.append_assoc]

theorem spoken_noObject :
    spoken (.wrongType .object found none) = found.compact ++ " is not of type \"object\" at " := by
  have parts : " is not of type \"object\" at " =
      " is not of type \"" ++ ("object" ++ ("\"" ++ (" at " ++ ""))) := by decide
  unfold spoken Schema.Mismatch.problem Schema.Mismatch.place Schema.ValueType.name
  dsimp only
  rw [parts]
  simp only [String.append_assoc]

theorem spoken_noSwitch :
    spoken (.wrongType .boolean found (some key)) =
      found.compact ++ " is not of type \"boolean\" at /" ++ key := by
  have parts : " is not of type \"boolean\" at /" =
      " is not of type \"" ++ ("boolean" ++ ("\"" ++ (" at " ++ "/"))) := by decide
  unfold spoken Schema.Mismatch.problem Schema.Mismatch.place Schema.ValueType.name
  dsimp only
  rw [parts]
  simp only [String.append_assoc]

theorem spoken_unexpected :
    spoken (.unexpected key) =
      "Additional properties are not allowed ('" ++ key ++ "' was unexpected) at " := by
  have parts : "' was unexpected) at " = "' was unexpected)" ++ (" at " ++ "") := by decide
  unfold spoken Schema.Mismatch.problem Schema.Mismatch.place
  dsimp only
  rw [parts]
  simp only [String.append_assoc]

end

/-- **What the check says is an objection.** -/
theorem objection_of_check {reason : Schema.Mismatch}
    (sorted : ∀ entries, v = .fields entries → Json.Sorted entries)
    (refused : schema.check v = .error reason) : Objection v reason (spoken reason) := by
  by_cases object : v.IsObject
  · obtain ⟨entries, rfl⟩ := object
    obtain ⟨key, found, first, checked⟩ := exists_firstFault_of_check (sorted entries rfl) refused
    unfold Schema.checkField at checked
    by_cases known : key ∈ names
    · -- A switch that is neither on nor off.
      rw [type?_of_mem known] at checked
      dsimp only at checked
      split at checked
      · cases checked
      obtain rfl := Except.error.inj checked
      rw [spoken_noSwitch]
      exact .noSwitch key found first known
    · -- A key that is no switch.
      rw [type?_of_not_mem known] at checked
      obtain rfl := Except.error.inj checked
      rw [spoken_unexpected]
      exact .unknown key found first known
  · have noObject : schema.check v = .error (.wrongType .object v none) := by
      cases v with
      | fields entries => exact absurd ⟨entries, rfl⟩ object
      | _ => rfl
    obtain rfl := Except.error.inj (noObject.symm.trans refused)
    rw [spoken_noObject]
    exact .noObject object

/-! ### Reading -/

section

variable {text : String} (parsed : Json.read? nestingLimit text = some v)
include parsed

/-- What is read is no object, or has sorted fields. -/
theorem sorted_of_read? : v = .fields entries → Json.Sorted entries := by
  rintro rfl
  rcases Json.object_of_read? parsed with ⟨listed, -, is⟩ | ⟨-, noObject⟩
  · obtain ⟨sorted, is', h⟩ := Json.exists_sorted_object listed
    obtain rfl := Json.fields.inj (is.trans is')
    exact h
  · exact absurd ⟨entries, rfl⟩ noObject

theorem read_eq : read text = ofJson v := by
  unfold read
  rw [parsed]

theorem describes_iff : Describes v ↔ schema.check v = .ok () := by
  by_cases object : v.IsObject
  · obtain ⟨entries, rfl⟩ := object
    exact describes_fields_iff (sorted_of_read? parsed rfl)
  · refine iff_of_false (fun describes => object describes.1) fun accepted => ?_
    cases v with
    | fields entries => exact object ⟨entries, rfl⟩
    | _ => cases accepted

/-- **Settings that are described are read**, with what is given for each switch. -/
theorem read_of_describes (describes : Describes v) :
    read text = .ok
      { reportUnrecognized := given v "report_unrecognized" true
        descendIntoUnknown := given v "descend_into_unknown" false
        traceEvents := given v "trace_events" false } := by
  have accepted := (describes_iff parsed).mp describes
  obtain ⟨⟨entries, rfl⟩, -⟩ := describes
  have sorted := sorted_of_read? parsed rfl
  -- The decoder takes the last value of a key, and in sorted fields there is only one.
  have latest (key : String) : Json.latest key none entries = (Json.fields entries).get? key :=
    (sorted.latest_eq none).trans (Option.or_none)
  have allowed := Schema.check_fields_eq_ok_iff.mp accepted
  have decoded := decodeFields_eq default fun entry mem => allows_iff.mp (allowed entry mem)
  rw [latest, latest, latest] at decoded
  rw [read_eq parsed, ofJson, accepted]
  dsimp only
  rw [decode, decoded]
  rfl

/-- **A refusal is an objection**, and says so. -/
theorem exists_objection {e : SettingsError} (refused : read text = .error e) :
    ∃ reason words, e = .mismatch reason ∧ Objection v reason words ∧
      e.message = "Invalid config: Config validation failed: " ++ words := by
  obtain ⟨reason, rfl, checked⟩ := check_of_ofJson ((read_eq parsed).symm.trans refused)
  exact ⟨reason, spoken reason, rfl,
    objection_of_check (fun _ is => sorted_of_read? parsed is) checked, message_mismatch reason⟩

/-- Nothing is read but settings that are described. -/
theorem describes_of_read {s : Settings} (got : read text = .ok s) : Describes v := by
  rw [describes_iff parsed]
  rw [read_eq parsed, ofJson] at got
  cases checked : schema.check v with
  | ok => rfl
  | error reason =>
    rw [checked] at got
    cases got

/-- Settings that are read have for every property of the schema what is given for it, or else the
default that the schema has for it. -/
theorem toJson_get?_of_read {s : Settings} (got : read text = .ok s) :
    ∀ property ∈ schema.properties,
      s.toJson.get? property.name = some ((v.get? property.name).getD property.fallback) := by
  have describes := describes_of_read parsed got
  obtain rfl := Except.ok.inj (got.symm.trans (read_of_describes parsed describes))
  have shown (key : String) (otherwise : Bool) :
      (v.get? key).getD (.bool otherwise) = .bool (given v key otherwise) := by
    unfold given
    cases there : v.get? key with
    | none => rfl
    | some found =>
      obtain ⟨-, on, rfl⟩ := describes.2 key found there
      rfl
  simp [schema, toJson, switches, shown]

end

/-- **Settings do not depend on the order of the keys**, but on the last value of each. -/
theorem read_congr {text text' : String} {v v' : Json} {entries entries' : List (String × Json)}
    (parsed : Json.read? nestingLimit text = some v)
    (parsed' : Json.read? nestingLimit text' = some v')
    (listed : Json.listed? nestingLimit text = some entries)
    (listed' : Json.listed? nestingLimit text' = some entries')
    (same : ∀ key, Json.latest key none entries = Json.latest key none entries') :
    read text = read text' := by
  obtain rfl := Json.eq_object_of_listed? listed parsed
  obtain rfl := Json.eq_object_of_listed? listed' parsed'
  rw [read_eq parsed, read_eq parsed', Json.object_congr same]

/-- If no key is listed twice, the keys may be listed in any order. -/
theorem read_eq_of_perm {text text' : String} {v v' : Json}
    {entries entries' : List (String × Json)}
    (parsed : Json.read? nestingLimit text = some v)
    (parsed' : Json.read? nestingLimit text' = some v')
    (listed : Json.listed? nestingLimit text = some entries)
    (listed' : Json.listed? nestingLimit text' = some entries') (perm : entries.Perm entries')
    (distinct : (entries.map (·.1)).Nodup) : read text = read text' :=
  read_congr parsed parsed' listed listed' fun _ => Json.latest_eq_of_perm perm distinct none

/-- **The schema and the decoder agree.** Let a text be JSON, and `v` the value that it stands for;
of a key that the text lists more than once `v` has the last value. Settings are read exactly if
`v` is an object of switches that are on or off. Then every switch is as it is given, or has its
default, which is the one that the schema states. Otherwise the refusal is a message of the schema,
about the type of `v` or about the first key in the order of the bytes that does not fit. What the
schema lets through is decoded, so that the decoder never refuses anything, and the order in which
the text lists its keys makes no difference. -/
theorem read_agrees {text : String} {v : Json} (parsed : Json.read? nestingLimit text = some v) :
    ((v.IsObject ↔ ∃ entries, Json.listed? nestingLimit text = some entries) ∧
      ∀ entries, Json.listed? nestingLimit text = some entries →
        ∀ key, v.get? key = Json.latest key none entries) ∧
    ((∃ s, read text = .ok s) ↔ Describes v) ∧
    (∀ s, read text = .ok s →
      s = { reportUnrecognized := given v "report_unrecognized" true
            descendIntoUnknown := given v "descend_into_unknown" false
            traceEvents := given v "trace_events" false } ∧
      ∀ property ∈ schema.properties,
        s.toJson.get? property.name = some ((v.get? property.name).getD property.fallback)) ∧
    (∀ e, read text = .error e → ∃ reason words, e = .mismatch reason ∧ Objection v reason words ∧
      e.message = "Invalid config: Config validation failed: " ++ words) ∧
    ((schema.check v = .ok () → ∃ s, decode v = .ok s) ∧
      ∀ reason, read text ≠ .error (.other reason)) ∧
    ∀ text' entries entries', Json.listed? nestingLimit text = some entries →
      Json.listed? nestingLimit text' = some entries' →
      (Json.read? nestingLimit text').isSome = true →
      (∀ key, Json.latest key none entries = Json.latest key none entries') →
        read text = read text' := by
  refine ⟨⟨⟨?_, ?_⟩, ?_⟩, ⟨?_, ?_⟩, fun s got => ⟨?_, toJson_get?_of_read parsed got⟩,
    fun e refused => exists_objection parsed refused,
    ⟨exists_decode_of_check, fun reason refused => ?_⟩, ?_⟩
  · -- An object is what the text lists, and what lists nothing is no object.
    intro object
    rcases Json.object_of_read? parsed with ⟨entries, listed, -⟩ | ⟨-, noObject⟩
    · exact ⟨entries, listed⟩
    · exact absurd object noObject
  · rintro ⟨entries, listed⟩
    exact ⟨_, Json.eq_object_of_listed? listed parsed⟩
  · intro entries listed key
    rw [Json.eq_object_of_listed? listed parsed, Json.get?_object]
  · -- Settings are described if they are read, and read if they are described.
    rintro ⟨s, got⟩
    exact describes_of_read parsed got
  · exact fun describes => ⟨_, read_of_describes parsed describes⟩
  · -- What is read is what is described: each switch as its key says, or its default.
    have expected := read_of_describes parsed (describes_of_read parsed got)
    exact Except.ok.inj (got.symm.trans expected)
  · -- A refusal is one of the schema, and never one of the decoder.
    obtain ⟨reason, words, is, -⟩ := exists_objection parsed refused
    cases is
  · -- Another text that lists the same last values.
    intro text' entries entries' listed listed' parses same
    obtain ⟨v', parsed'⟩ := Option.isSome_iff_exists.mp parses
    exact read_congr parsed parsed' listed listed' same

/-- A text that lists a switch twice, and does not fit the first time. -/
def twice : String := "\x7b\"trace_events\":\"yes\",\"trace_events\":true\x7d"

theorem toList_twice :
    twice.toList =
      ['\x7b', '"', 't', 'r', 'a', 'c', 'e', '_', 'e', 'v', 'e', 'n', 't', 's', '"', ':',
        '"', 'y', 'e', 's', '"', ',', '"', 't', 'r', 'a', 'c', 'e', '_', 'e', 'v', 'e', 'n', 't',
        's', '"', ':', 't', 'r', 'u', 'e', '\x7d'] := by decide

theorem read?_twice :
    Json.read? nestingLimit twice = some (.fields [("trace_events", .bool true)]) := by
  unfold Json.read?
  rw [toList_twice]
  rfl

theorem describes_twice : Describes (.fields [("trace_events", .bool true)]) := by
  refine ⟨⟨_, rfl⟩, fun key value there => ?_⟩
  rw [Json.get?_fields_cons] at there
  split at there
  · next same =>
    subst same
    exact ⟨by decide, true, (Option.some.inj there).symm⟩
  · cases there

/-- The first value of the switch is none, but it is the second that counts. -/
theorem read_agrees_twice :
    Json.read? nestingLimit twice = some (.fields [("trace_events", .bool true)]) ∧
      read twice = .ok { traceEvents := true } := by
  obtain ⟨-, isRead, switches, -⟩ := read_agrees read?_twice
  obtain ⟨s, got⟩ := isRead.mpr describes_twice
  obtain ⟨rfl, -⟩ := switches s got
  exact ⟨read?_twice, got⟩

end Settings

end SyntaxTour
