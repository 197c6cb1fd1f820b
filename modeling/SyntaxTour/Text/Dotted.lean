/-!
# Dotted names

A qualified name is its segments joined by dots. A segment may be empty, so `a..b` has
three segments and the empty name has one.

* `Dotted.segments` cuts a name at every dot; `Dotted.join` is its inverse.
* `Dotted.simple` is what follows the last dot and `Dotted.owner?` what precedes it.

All four are defined on the characters of the name.
-/

namespace SyntaxTour.Dotted

/-- Cutting a list of characters at each dot: the first piece and the pieces after it. -/
def cut : List Char → List Char × List (List Char)
  | [] => ([], [])
  | c :: rest =>
    let (first, others) := cut rest
    if c = '.' then ([], first :: others) else (c :: first, others)

/-- Cutting a list of characters at its last dot. -/
def cutLast? : List Char → Option (List Char × List Char)
  | [] => none
  | c :: rest =>
    match cutLast? rest with
    | some (owner, simple) => some (c :: owner, simple)
    | none => if c = '.' then some ([], rest) else none

/-- The first segment of a name and the segments after it. -/
def segments (name : String) : String × List String :=
  let (first, others) := cut name.toList
  (String.ofList first, others.map String.ofList)

/-- The name with the given segments. -/
def join (first : String) (others : List String) : String :=
  others.foldl (fun name segment => name ++ "." ++ segment) first

/-- Whatever precedes the last dot; a name without a dot has no owner. -/
def owner? (name : String) : Option String :=
  (cutLast? name.toList).map fun parts => String.ofList parts.1

/-- Whatever follows the last dot; a name without a dot is simple already. -/
def simple (name : String) : String :=
  match cutLast? name.toList with
  | some (_, simple) => String.ofList simple
  | none => name

end SyntaxTour.Dotted
