import SyntaxTour.Tree.Name

/-!
# Comparing declarations by signature

Members are found and sorted by signature. A variable is compared by the simple name of
its type and then by its own name; a method by its name, the number of its parameters and
the simple names of their types, one parameter after the other.

* `Tree.variableOrder` puts everything that is not a variable after the variables.
* `Tree.methodOrder` compares by kind where one side is not a method.

Names compare by code points, and a missing type comes before every type.
-/

namespace SyntaxTour.Tree

variable {ι : Type}

/-- A missing value comes first. -/
def compareMissingFirst {α : Type} (cmp : α → α → Ordering) : Option α → Option α → Ordering
  | none, none => .eq
  | none, some _ => .lt
  | some _, none => .gt
  | some a, some b => cmp a b

/-- The first comparison that is not a tie decides. -/
def firstDifference : List Ordering → Ordering
  | [] => .eq
  | o :: rest => o.then (firstDifference rest)

/-- What a variable is compared by: the simple name of its type, and its name. -/
def variableKey? (t : Tree ι) : Option (Option String × String) :=
  match t.shape with
  | .variableDecl name type _ => some (type.bind typeName?, name)
  | _ => none

/-- The simple name of the type a parameter declares. -/
def parameterType? (t : Tree ι) : Option String :=
  t.variableKey?.bind (·.1)

/-- **Variables in order of their types, then of their names**, and before all else. -/
def variableOrder (left right : Tree ι) : Ordering :=
  match left.variableKey?, right.variableKey? with
  | some l, some r => (compareMissingFirst compare l.1 r.1).then (compare l.2 r.2)
  | some _, none => .lt
  | none, some _ => .gt
  | none, none => .eq

/-- **Methods in order of their signatures**: the name, the number of parameters, the types
of the parameters. Neither result types nor the names of parameters count. -/
def methodOrder (left right : Tree ι) : Ordering :=
  match left.shape, right.shape with
  | .methodDecl leftName leftParameters _ _, .methodDecl rightName rightParameters _ _ =>
    (compare leftName rightName).then <|
      (compare leftParameters.length rightParameters.length).then <|
        firstDifference <|
          List.zipWith (fun l r => compareMissingFirst compare l.parameterType? r.parameterType?)
            leftParameters rightParameters
  | _, _ => compare left.kind right.kind

end SyntaxTour.Tree
