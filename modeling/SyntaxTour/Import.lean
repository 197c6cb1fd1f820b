import SyntaxTour.Json
import SyntaxTour.Tree.Name

/-!
# Imports and source files

A source file may name a type by its simple name when an import, its own package or the
language brings the type into scope. A type import of one name wins over everything that is
imported on demand, and hides every other type of that simple name.

* `Import` is one declaration: of a type, of a static member, or of all there is under a
  name (`Import.isOnDemand`).
* `Imports.isShadowed`, `Imports.isTypeImported`, `Imports.resolveType?` and
  `Imports.staticMember?` ask a list of declarations.
* `SourceFile.canUseSimpleName` decides the question for a whole file.
-/

namespace SyntaxTour

/-- One import declaration, under the name it is written with. -/
structure Import where
  name : String
  isStatic : Bool
  deriving DecidableEq, Repr, Inhabited

namespace Import

/-- The last word of the name, which is `*` for an import on demand. -/
def simpleName (i : Import) : String := Dotted.simple i.name

/-- The name without its last word. -/
def qualifier? (i : Import) : Option String := Dotted.owner? i.name

/-- An import on demand brings in everything its qualifier holds. -/
def isOnDemand (i : Import) : Bool := i.simpleName == "*"

/-- A type import of one name. -/
def isSingleType (i : Import) : Bool := !i.isStatic && !i.isOnDemand

/-- Whether the declaration by itself makes the type `qualified` visible. On demand, the
qualifier has to be the owner of the type, and both have to exist. -/
def importsType (i : Import) (qualified : String) : Bool :=
  if i.isStatic then false
  else if i.isOnDemand then
    match i.qualifier?, Dotted.owner? qualified with
    | some package, some owner => package == owner
    | _, _ => false
  else i.name == qualified

/-- The declaration as Java writes it. -/
def text (i : Import) : String :=
  if i.isStatic then "import static " ++ i.name ++ ";" else "import " ++ i.name ++ ";"

/-- The declaration in data. -/
def toJson (i : Import) : Json :=
  .object [("qualified_name", .string i.name), ("is_static", .bool i.isStatic)]

end Import

/-- The import declarations of a file, in order. -/
abbrev Imports := List Import

namespace Imports

/-- Whether a type import of one name brings another type with the simple name of
`qualified` into scope. -/
def isShadowed (imports : Imports) (qualified : String) : Bool :=
  imports.any fun i =>
    i.isSingleType && i.simpleName == Dotted.simple qualified && i.name != qualified

/-- Whether `qualified` is imported, by name or on demand, and not shadowed. -/
def isTypeImported (imports : Imports) (qualified : String) : Bool :=
  !imports.isShadowed qualified && imports.any (·.importsType qualified)

/-- The first type import of one name with the given simple name. -/
def resolveType? (imports : Imports) (simple : String) : Option Import :=
  imports.find? fun i => i.isSingleType && i.simpleName == simple

/-- The static import that brings a member into scope: the first that names it, or else the
first on demand. -/
def staticMember? (imports : Imports) (member : String) : Option Import :=
  let statics := imports.filter (·.isStatic)
  (statics.find? fun i => i.simpleName == member).or (statics.find? (·.isOnDemand))

end Imports

/-- **A source file**: its package, its imports and its declarations. -/
structure SourceFile where
  package : Option String
  imports : Imports
  declarations : List Node
  deriving Inhabited

namespace SourceFile

/-- The first class of the file with the given name. -/
def findClass? (f : SourceFile) (name : String) : Option Node :=
  f.declarations.find? fun d => d.kind == .classDecl && d.name? == some name

/-- **Whether the file may use the simple name of `qualified`.** A type import of the same
simple name decides first, then a class of the file; where neither speaks, the type has to
belong to the language, to the package of the file, or to be imported. -/
def canUseSimpleName (f : SourceFile) (qualified : String) : Bool :=
  let owner := Dotted.owner? qualified
  if f.imports.isShadowed qualified then false
  else if (f.findClass? (Dotted.simple qualified)).isSome then owner == f.package
  else
    owner == some "java.lang" || (owner.isSome && owner == f.package)
      || f.imports.isTypeImported qualified

end SourceFile

end SyntaxTour
