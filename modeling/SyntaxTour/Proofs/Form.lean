import SyntaxTour.Tree.Json

/-!
# The form of a tree determines the tree

The JSON form of a node has its span, its type and its parts side by side in one object, and a
part that is missing is not there at all. Still the node can be read back: no part shares its key
with the span or the type, the type says which parts to look for, and what is missing is told by
its absence. Reading goes one node at a time, and what is read in place of the children is their
forms again.

JSON has no numbers for infinite doubles and for those that are not numbers, and all of these have
the form `null`. So the trees have to be finite.

* `Json.get?_object` says what a field of an object is.
* `Constant.ofJson?` and `Shape.ofFields?` read literals and nodes back, and `Shape.form_inj`
  concludes that the form of a node determines the node.
* `Tree.strip_eq_of_toJson_eq` carries this down a tree.
-/

namespace SyntaxTour

/-! ### Fields of an object -/

namespace Json

variable {key : String} {entries further : List (String × Json)} {found : Option Json}

/-- The value of the last field of a key, or what was found before. -/
def latest (key : String) (found : Option Json) : List (String × Json) → Option Json
  | [] => found
  | (k, value) :: rest => latest key (if k = key then some value else found) rest

@[simp] theorem latest_nil : latest key found [] = found := rfl

@[simp] theorem latest_cons (k : String) (value : Json) :
    latest key found ((k, value) :: entries) =
      latest key (if k = key then some value else found) entries := rfl

@[simp] theorem latest_append :
    latest key found (entries ++ further) = latest key (latest key found entries) further := by
  induction entries generalizing found with
  | nil => rfl
  | cons entry entries ih => exact ih

@[simp] theorem latest_optionalField (k : String) (value : Option Json) :
    latest key found (Shape.optionalField k value) =
      if k = key then value.or found else found := by
  cases value with
  | none => exact (ite_self found).symm
  | some value => rfl

theorem find?_insertField (k : String) (value : Json) :
    ((insertField k value entries).find? fun entry => entry.1 == key) =
      if k = key then some (k, value) else entries.find? fun entry => entry.1 == key := by
  induction entries with
  | nil =>
    rw [insertField, List.find?_cons]
    by_cases same : k = key
    · rw [if_pos same, beq_iff_eq.2 same]
    · rw [if_neg same, beq_eq_false_iff_ne.2 same]
  | cons entry entries ih =>
    obtain ⟨k', value'⟩ := entry
    rw [insertField]
    split
    · by_cases same : k = key <;> simp [same]
    split
    · by_cases same : k = key <;> simp_all
    · by_cases same : k = key <;> by_cases same' : k' = key <;> simp_all

/-- **A field of an object has the value that it was given last.** -/
@[simp] theorem get?_object : (object entries).get? key = latest key none entries := by
  have step (sorted : List (String × Json)) :
      ((entries.foldl (fun sorted entry => insertField entry.1 entry.2 sorted) sorted).find?
        fun entry => entry.1 == key).map (·.2) =
      latest key ((sorted.find? fun entry => entry.1 == key).map (·.2)) entries := by
    induction entries generalizing sorted with
    | nil => rfl
    | cons entry entries ih =>
      obtain ⟨k, value⟩ := entry
      rw [List.foldl_cons, ih, find?_insertField, latest_cons]
      congr 1
      split <;> rfl
  exact step []

/-- Equal objects have equal fields. -/
theorem eq_of_get? {form form' field field' : Json} (same : form = form')
    (is : form.get? key = some field) (is' : form'.get? key = some field') : field = field' := by
  rw [same, is'] at is
  exact (Option.some.inj is).symm

end Json

/-! ### Reading the parts back -/

theorem Span.toJson_inj {p p' : Span} (same : p.toJson = p'.toJson) : p = p' := by
  have start (p : Span) : p.toJson.get? "start" = some (.int p.start.toNat) := by
    simp [Span.toJson]
  have stop (p : Span) : p.toJson.get? "end" = some (.int p.stop.toNat) := by
    simp [Span.toJson]
  have starts := Json.int.inj (Json.eq_of_get? same (start p) (start p'))
  have stops := Json.int.inj (Json.eq_of_get? same (stop p) (stop p'))
  obtain ⟨a, b⟩ := p
  obtain ⟨a', b'⟩ := p'
  obtain rfl : a = a' := UInt32.toNat_inj.1 (Int.ofNat.inj starts)
  obtain rfl : b = b' := UInt32.toNat_inj.1 (Int.ofNat.inj stops)
  rfl

namespace Constant

/-- The double of a literal, if it has one. -/
def double? : Constant → Option UInt64
  | float bits | double bits => some bits
  | _ => none

/-- The literal of a given kind and value. -/
def ofParts? : String → Option Json → Option Constant
  | "string", some (.string text) => some (.string text)
  | "char", some (.string text) => text.toList.head?.map .char
  | "int", some (.int value) => some (.int (.ofInt value))
  | "long", some (.int value) => some (.long (.ofInt value))
  | "float", some (.float bits) => some (.float bits)
  | "double", some (.float bits) => some (.double bits)
  | "boolean", some (.bool value) => some (.boolean value)
  | "null", none => some .null
  | _, _ => none

/-- Reading a literal back from its form. -/
def ofJson? (form : Json) : Option Constant := do
  ofParts? (← (← form.get? "literal").string?) (form.get? "value")

theorem ofJson?_toJson {c : Constant}
    (finite : ∀ bits, c.double? = some bits → (Binary.ofBits bits).isSome) :
    ofJson? c.toJson = some c := by
  have form : ofJson? c.toJson = ofParts? c.name c.value? := by
    unfold ofJson? toJson
    cases c.value? <;> simp [Json.string?]
  have number {bits : UInt64} (is : (Binary.ofBits bits).isSome) :
      Json.ofDouble bits = .float bits := by
    obtain ⟨b, reads⟩ := Option.isSome_iff_exists.1 is
    unfold Json.ofDouble
    rw [reads]
  -- Doubles are where the finiteness is needed: only a finite one is written as a number.
  rw [form]
  cases c with
  | float bits | double bits =>
    rw [value?, number (finite bits rfl)]
    rfl
  -- The integers are written in full, so reading them back wraps nothing.
  | int value =>
    change some (int (.ofInt value.toInt)) = _
    rw [Int64.ofInt_toInt]
  | long value =>
    change some (long (.ofInt value.toInt)) = _
    rw [Int64.ofInt_toInt]
  | char c =>
    change (String.singleton c).toList.head?.map char = _
    rw [String.toList_singleton]
    rfl
  | _ => rfl

end Constant

@[simp] theorem BinaryOp.ofName?_name (op : BinaryOp) : ofName? op.name = some op := by
  cases op <;> decide

@[simp] theorem UnaryOp.ofName?_name (op : UnaryOp) : ofName? op.name = some op := by
  cases op <;> decide

@[simp] theorem Primitive.ofKeyword?_keyword (p : Primitive) :
    ofKeyword? p.keyword = some p := by
  cases p <;> decide

namespace Shape

/-- The literal that a node is, if it is one. -/
def constant? {α : Type} : Shape α → Option Constant
  | constant value => some value
  | _ => none

/-- **Reading a shape back** from its fields, given the kind of the node. -/
def ofFields? (get : String → Option Json) (kind : Kind) : Option (Shape Json) :=
  let text (key : String) : Option String := (get key).bind Json.string?
  let row (key : String) : Option (List Json) := (get key).bind Json.array?
  match kind with
  | .classDecl => do return classDecl (← text "name") (← row "members")
  | .methodDecl => do
    return methodDecl (← text "name") (← row "parameters") (get "return_type") (get "body")
  | .variableDecl => do return variableDecl (← text "name") (get "var_type") (get "initializer")
  | .block => do
    return block ((← get "is_static") matches .bool true) (← row "statements")
  | .ifThen => do return ifThen (← get "condition") (← get "then_branch") (get "else_branch")
  | .forLoop => do
    return forLoop (← row "initializers") (get "condition") (← row "updates") (← get "body")
  | .forEach => do return forEach (← get "variable") (← get "expression") (← get "body")
  | .whileLoop => do return whileLoop (← get "condition") (← get "body")
  | .doWhile => do return doWhile (← get "body") (← get "condition")
  | .tryBlock => do return tryBlock (← get "block") (← row "catches") (get "finally")
  | .catchClause => do return catchClause (← get "parameter") (← get "block")
  | .switch => do return switch (← get "selector") (← row "cases")
  | .caseGroup => do return caseGroup (get "label") (← row "statements")
  | .returnStmt => some (returnStmt (get "expression"))
  | .breakStmt => some (breakStmt (text "label"))
  | .continueStmt => some (continueStmt (text "label"))
  | .throwStmt => do return throwStmt (← get "expression")
  | .exprStmt => do return exprStmt (← get "expression")
  | .emptyStmt => some emptyStmt
  | .call => do return call (← get "method_select") (← row "type_arguments") (← row "arguments")
  | .select => do return select (← get "expression") (← text "identifier")
  | .ident => do return ident (← text "name")
  | .constant => do return constant (← (← get "value") |> Constant.ofJson?)
  | .assign => do return assign (← get "variable") (← get "expression")
  | .binary => do
    return binary (← BinaryOp.ofName? (← text "operator")) (← get "left") (← get "right")
  | .unary => do return unary (← UnaryOp.ofName? (← text "operator")) (← get "operand")
  | .compoundAssign => do
    return compoundAssign (← BinaryOp.ofName? (← text "operator")) (← get "variable")
      (← get "expression")
  | .cast => do return cast (← get "target_type") (← get "expression")
  | .newArray => do
    return newArray (get "element_type") (← row "dimensions") (← row "initializers")
  | .newObject => do
    return newObject (get "enclosing") (← get "identifier") (← row "type_arguments")
      (← row "arguments") (get "class_body")
  | .arrayAccess => do return arrayAccess (← get "expression") (← get "index")
  | .parens => do return parens (← get "expression")
  | .primitiveType => do return primitiveType (← Primitive.ofKeyword? (← text "primitive"))
  | .arrayType => do return arrayType (← get "element")
  | .genericType => do return genericType (← get "base") (← row "arguments")
  | .other => do return unknown (← text "label") (← row "children")

/-- A node keeps its span and its type apart from its parts. -/
theorem latest_toFields {key : String} (own : key = "span" ∨ key = "type")
    (found : Option Json) (s : Shape Json) : Json.latest key found s.toFields = found := by
  rcases own with rfl | rfl <;> cases s <;> simp [toFields]

/-- **The fields of a node tell its parts**, and missing parts from others. -/
theorem ofFields?_latest {s : Shape Json} {own : List (String × Json)}
    (apart : ∀ key ∉ ["span", "type"], Json.latest key none own = none)
    (readable : ∀ c, s.constant? = some c → Constant.ofJson? c.toJson = some c) :
    ofFields? (fun key => Json.latest key none (own ++ s.toFields)) s.kind = some s := by
  cases s with
  | constant value => simp [ofFields?, toFields, kind, apart, readable value rfl]
  | block isStatic statements =>
    cases isStatic <;> simp [ofFields?, toFields, kind, apart, Json.array?]
  | breakStmt label | continueStmt label =>
    cases label <;> simp [ofFields?, toFields, kind, apart, Json.string?]
  | _ => simp [ofFields?, toFields, kind, apart, Json.string?, Json.array?]

/-- The type of a node tells its kind. -/
theorem kind_eq_of_typeName_eq {α β : Type} {s : Shape α} {s' : Shape β}
    (same : s.typeName = s'.typeName) : s.kind = s'.kind := by
  let named (kind : Kind) : String := if kind = .other then "Unknown" else kind.name
  have name {γ : Type} (s : Shape γ) : s.typeName = named s.kind := by cases s <;> rfl
  have distinct : ∀ k ∈ Kind.all, ∀ k' ∈ Kind.all, named k = named k' → k = k' := by decide
  rw [name, name] at same
  exact distinct _ (Kind.mem_all _) _ (Kind.mem_all _) same

/-- The double that a node is, if it is one. -/
def double? {α : Type} (s : Shape α) : Option UInt64 := s.constant?.bind Constant.double?

theorem double?_map {α β : Type} (f : α → β) (s : Shape α) : (s.map f).double? = s.double? := by
  cases s <;> rfl

/-- The form of a node whose children are written already. -/
def form (p : Span) (s : Shape Json) : Json :=
  .object (("span", p.toJson) :: ("type", .string s.typeName) :: s.toFields)

/-- A literal that is finite can be read back. -/
theorem readable_of_finite {s : Shape Json}
    (finite : ∀ bits, s.double? = some bits → (Binary.ofBits bits).isSome) {c : Constant}
    (is : s.constant? = some c) : Constant.ofJson? c.toJson = some c := by
  refine Constant.ofJson?_toJson fun bits double => finite bits ?_
  rw [double?, is]
  exact double

/-- **The form of a node determines the node.** -/
theorem form_inj {p p' : Span} {s s' : Shape Json}
    (finite : ∀ bits, s.double? = some bits → (Binary.ofBits bits).isSome)
    (finite' : ∀ bits, s'.double? = some bits → (Binary.ofBits bits).isSome)
    (same : form p s = form p' s') : p = p' ∧ s = s' := by
  -- A key is looked up among the span, the type and the parts, in this order.
  have read (p : Span) (s : Shape Json) (key : String) : (form p s).get? key =
      Json.latest key none ([("span", p.toJson), ("type", .string s.typeName)] ++ s.toFields) :=
    Json.get?_object
  have span (p : Span) (s : Shape Json) : (form p s).get? "span" = some p.toJson := by
    simp [read, latest_toFields]
  have type (p : Span) (s : Shape Json) : (form p s).get? "type" = some (.string s.typeName) := by
    simp [read, latest_toFields]
  -- No part is called as the span or the type is, so the parts are read off their own fields.
  have parts (p : Span) {s : Shape Json}
      (finite : ∀ bits, s.double? = some bits → (Binary.ofBits bits).isSome) :
      ofFields? (fun key => (form p s).get? key) s.kind = some s := by
    simp only [read]
    refine ofFields?_latest (fun key other => ?_) (fun c => readable_of_finite finite)
    have neither : "span" ≠ key ∧ "type" ≠ key := by
      constructor <;> rintro rfl <;> exact absurd other (by decide)
    simp [neither.1, neither.2]
  -- The span and the type are read first, and the type says how to read the parts.
  have spans := Json.eq_of_get? same (span p s) (span p' s')
  have types := Json.eq_of_get? same (type p s) (type p' s')
  have kinds : s.kind = s'.kind := kind_eq_of_typeName_eq (Json.string.inj types)
  have shapes := parts p finite
  rw [same, kinds, parts p' finite'] at shapes
  exact ⟨Span.toJson_inj spans, (Option.some.inj shapes).symm⟩

/-- Images of the children under one function determine those under another, if they do so child
by child. -/
theorem map_eq_of_map_eq {α α' β γ : Type} [Inhabited γ] {f : α → β} {f' : α' → β} {g : α → γ}
    {g' : α' → γ} {s : Shape α} {s' : Shape α'}
    (each : ∀ a ∈ s.children, ∀ a' ∈ s'.children, f a = f' a' → g a = g' a')
    (same : s.map f = s'.map f') : s.map g = s'.map g' := by
  classical
  have rows : s.children.map f = s'.children.map f' := by
    rw [← children_map, ← children_map, same]
  -- The second image is read off the first one.
  let φ (b : β) : γ := if h : ∃ a ∈ s.children, f a = b then g h.choose else default
  have reads' (a' : α') (mem' : a' ∈ s'.children) : φ (f' a') = g' a' := by
    have h : ∃ a ∈ s.children, f a = f' a' := List.mem_map.1 (rows ▸ List.mem_map_of_mem mem')
    have chosen : φ (f' a') = g h.choose := dif_pos h
    rw [chosen]
    exact each _ h.choose_spec.1 a' mem' h.choose_spec.2
  -- Every child has its counterpart in the other shape, with the same image.
  have reads (a : α) (mem : a ∈ s.children) : φ (f a) = g a := by
    obtain ⟨a', mem', image⟩ : ∃ a' ∈ s'.children, f' a' = f a :=
      List.mem_map.1 (rows ▸ List.mem_map_of_mem mem)
    rw [← image, reads' a' mem']
    exact (each a mem a' mem' image.symm).symm
  calc s.map g
      = s.map (φ ∘ f) := (map_congr reads).symm
    _ = s'.map (φ ∘ f') := by rw [← map_map, same, map_map]
    _ = s'.map g' := map_congr reads'

end Shape

namespace Tree

variable {ι κ : Type}

/-- **The doubles of a tree**, one for each literal that is a floating-point number. -/
def doubles (t : Tree ι) : List UInt64 := t.preorder.filterMap fun n => n.shape.double?

/-- No literal of the tree is infinite or not a number. -/
def Finite (t : Tree ι) : Prop := ∀ bits ∈ t.doubles, (Binary.ofBits bits).isSome

theorem toJson_node (i : ι) (p : Span) (s : Shape (Tree ι)) :
    (node i p s).toJson = Shape.form p (s.map toJson) := fold_node _ i p s

theorem mem_doubles_of_double? {i : ι} {p : Span} {s : Shape (Tree ι)} {bits : UInt64}
    (is : s.double? = some bits) : bits ∈ (node i p s).doubles :=
  List.mem_filterMap.2 ⟨_, mem_preorder_self _, is⟩

theorem mem_doubles_of_mem_children {t c : Tree ι} {bits : UInt64} (child : c ∈ t.children)
    (mem : bits ∈ c.doubles) : bits ∈ t.doubles := by
  obtain ⟨n, below, is⟩ := List.mem_filterMap.1 mem
  exact List.mem_filterMap.2 ⟨n, mem_preorder_of_mem_children child below, is⟩

theorem Finite.double? {i : ι} {p : Span} {s : Shape (Tree ι)} (finite : (node i p s).Finite)
    (bits : UInt64) (is : (s.map toJson).double? = some bits) : (Binary.ofBits bits).isSome := by
  rw [Shape.double?_map] at is
  exact finite bits (mem_doubles_of_double? is)

theorem Finite.child {t c : Tree ι} (finite : t.Finite) (child : c ∈ t.children) : c.Finite :=
  fun bits mem => finite bits (mem_doubles_of_mem_children child mem)

/-- **Trees of one form are the same up to identity.** -/
theorem strip_eq_of_toJson_eq {t : Tree ι} {t' : Tree κ} (finite : t.Finite) (finite' : t'.Finite)
    (same : t.toJson = t'.toJson) : t.strip = t'.strip := by
  induction t using induct generalizing t' with
  | node i p s ih =>
    obtain ⟨i', p', s'⟩ := t'
    rw [toJson_node, toJson_node] at same
    obtain ⟨rfl, shapes⟩ := Shape.form_inj finite.double? finite'.double? same
    have children : s.map strip = s'.map strip :=
      Shape.map_eq_of_map_eq (fun c mem c' mem' => ih c mem (finite.child mem) (finite'.child mem'))
        shapes
    have strip_node {μ : Type} (i : μ) (p : Span) (s : Shape (Tree μ)) :
        (node i p s).strip = node () p (s.map strip) := map_node _ i p s
    rw [strip_node, strip_node, children]

/-- Identities are not part of the form. -/
theorem toJson_strip (t : Tree ι) : t.strip.toJson = t.toJson := by
  induction t using induct with
  | node i p s ih =>
    rw [strip, map_node, toJson_node, toJson_node, Shape.map_map]
    exact congrArg (Shape.form p) (Shape.map_congr ih)

end Tree

end SyntaxTour
