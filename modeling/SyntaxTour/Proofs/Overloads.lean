import SyntaxTour.Proofs.Signatures

/-!
# Overloads that tie

Methods of one name are overloads of each other, told apart by the types of their parameters.
The comparison of methods reads the innermost type of each parameter only, and so it does not
tell an array from what it holds: `f(int)` and `f(int[])` tie, although a class can have both.
It sees every other difference between overloads that simple names show.

* `Tree.reading?` reads a type reference with its array brackets, and `Tree.overload?` a method
  with the types of all its parameters.
* `overloads_tie_iff` says which overloads tie, and that brackets are all that is missed.
* `overloads_tie` is the pair of overloads that tie.
-/

namespace SyntaxTour

/-- **A type as an overload shows it**: how many array brackets there are around the innermost
type, and the simple name of that. -/
structure Reading where
  brackets : Nat
  innermost : String
  deriving DecidableEq

/-- The type of the arrays that hold a type. -/
def Reading.bracketed (r : Reading) : Reading := { r with brackets := r.brackets + 1 }

/-- **What tells a method from others**: its name and the types of its parameters. -/
structure Overload where
  name : String
  parameters : List Reading
  deriving DecidableEq

namespace Tree

variable {ι : Type}

/-- **The type that a type reference stands for.** An array has one pair of brackets more than
its element, and type arguments do not count. Nothing else but names and primitive types is a
type reference. -/
def reading? : Tree ι → Option Reading
  | .node _ _ (.ident name) => some ⟨0, name⟩
  | .node _ _ (.select _ member) => some ⟨0, member⟩
  | .node _ _ (.primitiveType primitive) => some ⟨0, primitive.keyword⟩
  | .node _ _ (.arrayType element) => (reading? element).map Reading.bracketed
  | .node _ _ (.genericType base _) => reading? base
  | _ => none

/-- The type of a parameter, which has to be a variable with a declared type. -/
def parameterReading? (t : Tree ι) : Option Reading :=
  match t.shape with
  | .variableDecl _ (some type) _ => type.reading?
  | _ => none

/-- The overload that a method declares, if all its parameters have types. -/
def overload? (t : Tree ι) : Option Overload :=
  match t.shape with
  | .methodDecl name parameters _ _ =>
    (parameters.mapM parameterReading?).map fun readings => ⟨name, readings⟩
  | _ => none

/-- The simple name of a type is all of its reading but the brackets. -/
theorem typeName?_eq (t : Tree ι) : t.typeName? = t.reading?.map (·.innermost) := by
  induction t using induct with
  | node i span shape ih =>
    -- Arrays and types with arguments lead on to another type, and nothing else does.
    cases shape with
    | arrayType element =>
      have element : element.typeName? = element.reading?.map (·.innermost) :=
        ih element (by simp [Shape.children])
      rw [typeName?, reading?, element, Option.map_map]
      rfl
    | genericType base arguments =>
      have base : base.typeName? = base.reading?.map (·.innermost) :=
        ih base (by simp [Shape.children])
      rw [typeName?, reading?, base]
    | _ => simp [typeName?, reading?]

theorem parameterType?_eq {t : Tree ι} {r : Reading} (h : t.parameterReading? = some r) :
    t.parameterType? = some r.innermost := by
  obtain ⟨i, span, shape⟩ := t
  cases shape with
  | variableDecl name type initializer =>
    cases type with
    | none => cases h
    | some type =>
      have reading : type.reading? = some r := h
      change type.typeName? = some r.innermost
      rw [typeName?_eq, reading]
      rfl
  | _ => cases h

theorem map_parameterType? {parameters : List (Tree ι)} {readings : List Reading}
    (h : parameters.mapM parameterReading? = some readings) :
    parameters.map parameterType? = readings.map fun r => some r.innermost := by
  induction parameters generalizing readings with
  | nil =>
    obtain rfl := Option.some.inj h
    rfl
  | cons parameter parameters ih =>
    rw [List.mapM_cons] at h
    obtain ⟨r, first, h⟩ := Option.bind_eq_some_iff.mp h
    obtain ⟨rest, others, h⟩ := Option.bind_eq_some_iff.mp h
    obtain rfl := Option.some.inj h
    rw [List.map_cons, List.map_cons, parameterType?_eq first, ih others]

/-- The signature of a method forgets the brackets. -/
theorem signature?_of_overload? {t : Tree ι} {o : Overload} (h : t.overload? = some o) :
    t.signature? = some ⟨o.name, o.parameters.map fun r => some r.innermost⟩ := by
  obtain ⟨i, span, shape⟩ := t
  cases shape with
  | methodDecl name parameters result body =>
    obtain ⟨readings, read, rfl⟩ := Option.map_eq_some_iff.mp h
    change some (Signature.mk name (parameters.map parameterType?)) = _
    rw [map_parameterType? read]
  | _ => cases h

/-- Types with the same innermost types and the same brackets are the same. -/
theorem readings_eq {l l' : List Reading} (innermost : l.map (·.innermost) = l'.map (·.innermost))
    (brackets : l.map (·.brackets) = l'.map (·.brackets)) : l = l' := by
  induction l generalizing l' with
  | nil => exact (List.map_eq_nil_iff.mp innermost.symm).symm
  | cons r l ih =>
    obtain _ | ⟨r', l'⟩ := l'
    · cases innermost
    · obtain ⟨name, innermost⟩ := List.cons.inj innermost
      obtain ⟨depth, brackets⟩ := List.cons.inj brackets
      have head : r = r' := by
        obtain ⟨_, _⟩ := r
        obtain rfl : _ = r'.brackets := depth
        obtain rfl : _ = r'.innermost := name
        rfl
      rw [head, ih innermost brackets]

/-- **Which overloads tie**: those with one name whose parameters are of one number and have, one
after the other, innermost types of the same simple name. They are the same overload if they have
the same array brackets too. -/
theorem overloads_tie_iff {left right : Tree ι} {o o' : Overload} (hl : left.overload? = some o)
    (hr : right.overload? = some o') :
    (methodOrder left right = .eq ↔ o.name = o'.name ∧
      o.parameters.map (·.innermost) = o'.parameters.map (·.innermost)) ∧
    (o = o' ↔ methodOrder left right = .eq ∧
      o.parameters.map (·.brackets) = o'.parameters.map (·.brackets)) := by
  have tie : methodOrder left right = .eq ↔ o.name = o'.name ∧
      o.parameters.map (·.innermost) = o'.parameters.map (·.innermost) := by
    -- No type is missing in the signature of an overload, so only the names are compared.
    have present (o : Overload) : o.parameters.map (fun r => some r.innermost) =
        (o.parameters.map (·.innermost)).map some := (List.map_map ..).symm
    rw [methodOrder_of_signatures (signature?_of_overload? hl) (signature?_of_overload? hr),
      Std.LawfulEqOrd.compare_eq_iff_eq, Signature.mk.injEq, present, present,
      List.map_inj_right fun _ _ => Option.some.inj]
  refine ⟨tie, ?_⟩
  rw [tie]
  -- Equal readings have equal innermost types and brackets, and these two make up a reading.
  constructor
  · rintro rfl
    exact ⟨⟨rfl, rfl⟩, rfl⟩
  · rintro ⟨⟨name, innermost⟩, brackets⟩
    obtain ⟨_, l⟩ := o
    obtain rfl : _ = o'.name := name
    obtain rfl : l = o'.parameters := readings_eq innermost brackets
    rfl

/-! ### An array and its element -/

namespace Brackets

/-- `int` -/
def int : Node := .node 0 .empty (.primitiveType .int)

/-- `f(int x)` -/
def plain : Node :=
  .node 2 .empty (.methodDecl "f" [.node 1 .empty (.variableDecl "x" (some int) none)] none none)

/-- `f(int[] x)` -/
def array : Node :=
  .node 5 .empty (.methodDecl "f" [.node 4 .empty (.variableDecl "x"
    (some (.node 3 .empty (.arrayType int))) none)] none none)

theorem overload?_plain : plain.overload? = some ⟨"f", [⟨0, "int"⟩]⟩ := by
  simp [plain, overload?, parameterReading?, reading?, int, Primitive.keyword]

theorem overload?_array : array.overload? = some ⟨"f", [⟨1, "int"⟩]⟩ := by
  simp [array, overload?, parameterReading?, reading?, int, Primitive.keyword, Reading.bracketed]

end Brackets

open Brackets in
/-- `f(int x)` and `f(int[] x)` differ in the number of brackets only, and so they tie. -/
theorem overloads_tie_iff_array :
    plain.overload? = some ⟨"f", [⟨0, "int"⟩]⟩ ∧ array.overload? = some ⟨"f", [⟨1, "int"⟩]⟩ ∧
      methodOrder plain array = .eq ∧
      ((⟨"f", [⟨0, "int"⟩]⟩ : Overload) = ⟨"f", [⟨1, "int"⟩]⟩ ↔
        methodOrder plain array = .eq ∧ [0] = [1]) := by
  obtain ⟨tie, same⟩ := overloads_tie_iff overload?_plain overload?_array
  exact ⟨overload?_plain, overload?_array, tie.mpr ⟨rfl, rfl⟩, same⟩

open Brackets in
/-- **Overloads that tie need not be the same**: an array parameter ties with one of its element
type. -/
theorem overloads_tie :
    ¬ ∀ (left right : Node) (o o' : Overload), left.overload? = some o → right.overload? = some o' →
      methodOrder left right = .eq → o = o' := by
  intro same
  have tie : methodOrder plain array = .eq := by
    rw [methodOrder_of_signatures (signature?_of_overload? overload?_plain)
      (signature?_of_overload? overload?_array)]
    exact Std.ReflCmp.compare_self
  exact absurd (same _ _ _ _ overload?_plain overload?_array tie) (by decide)

end Tree

end SyntaxTour
