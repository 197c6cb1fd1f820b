import Mathlib.Logic.Relation
import SyntaxTour.Import
import SyntaxTour.Proofs.Dotted

/-!
# What a simple name denotes

A source file binds a simple name by a type import or by a class of its own. A name that is bound
denotes one type at most, whatever else the file could see: the imports decide first, and then the
class. Which imports have a say about a type is decided by each of them alone, so neither their
order nor their number matters, and those without a say can be left out.

* `Import.Binds` and `Import.Opens` are the two ways in which an import has a say: it names a type
  of the simple name, or it opens what the owner of the type holds. `SourceFile.Declares` asks for
  a class.
* `Imports.isShadowed_iff`, `Import.importsType_iff` and `SourceFile.canUseSimpleName_iff` read
  the three questions in these terms.
* `SourceFile.canUseSimpleName_unique` is about names that are bound.
* `Imports.Reworked` is a change that no type notices: `SourceFile.canUseSimpleName_reworked`.
-/

namespace SyntaxTour

/-! ### Who has a say -/

namespace Import

/-- A type import of one name binds the last word of it. -/
def Binds (i : Import) (simple : String) : Prop :=
  i.isSingleType = true ∧ i.simpleName = simple

/-- An import on demand opens the owner that it names, and the type is one of those there. -/
def Opens (i : Import) (qualified : String) : Prop :=
  i.isStatic = false ∧ i.isOnDemand = true ∧
    ∃ owner, i.qualifier? = some owner ∧ Dotted.owner? qualified = some owner

theorem isSingleType_iff (i : Import) :
    i.isSingleType = true ↔ i.isStatic = false ∧ i.isOnDemand = false := by
  rw [isSingleType, Bool.and_eq_true, Bool.not_eq_true', Bool.not_eq_true']

/-- **An import makes a type visible** by its name or by its owner. -/
theorem importsType_iff (i : Import) (qualified : String) :
    i.importsType qualified = true ↔
      (i.Binds (Dotted.simple qualified) ∧ i.name = qualified) ∨ i.Opens qualified := by
  rw [Binds, Opens, isSingleType_iff, importsType]
  -- A static import names no type, and one on demand opens the package it names.
  cases i.isStatic with
  | true => simp
  | false =>
    cases i.isOnDemand with
    | true =>
      cases i.qualifier? with
      | none => simp
      | some package =>
        cases Dotted.owner? qualified with
        | none => simp
        | some owner => simpa using eq_comm
    | false =>
      -- Whoever has the name of the type has its simple name.
      have last : i.name = qualified → i.simpleName = Dotted.simple qualified :=
        congrArg Dotted.simple
      simpa using last

end Import

namespace Imports

/-- **A type is shadowed** by whoever binds its simple name to another one. -/
theorem isShadowed_iff (imports : Imports) (qualified : String) :
    imports.isShadowed qualified = true ↔
      ∃ i ∈ imports, i.Binds (Dotted.simple qualified) ∧ i.name ≠ qualified := by
  simp [isShadowed, Import.Binds, List.any_eq_true]

/-- What is not shadowed is named by all that bind its simple name. -/
theorem isShadowed_eq_false_iff (imports : Imports) (qualified : String) :
    imports.isShadowed qualified = false ↔
      ∀ i ∈ imports, i.Binds (Dotted.simple qualified) → i.name = qualified := by
  rw [← Bool.not_eq_true, isShadowed_iff]
  simp only [not_exists, not_and, ne_eq, Decidable.not_not]

end Imports

namespace SourceFile

/-- The file has a class of this name. -/
def Declares (f : SourceFile) (simple : String) : Prop :=
  ∃ d ∈ f.declarations, d.kind = .classDecl ∧ d.name? = some simple

theorem isSome_findClass?_iff (f : SourceFile) (name : String) :
    (f.findClass? name).isSome = true ↔ f.Declares name := by
  simp [findClass?, Declares]

/-- **What a file may name simply.** All its imports that bind the simple name have to name the
type; a class of that name has to be the type, and where there is none, the type has to belong to
the language, to the package, or to be imported. -/
theorem canUseSimpleName_iff (f : SourceFile) (qualified : String) :
    f.canUseSimpleName qualified = true ↔
      (∀ i ∈ f.imports, i.Binds (Dotted.simple qualified) → i.name = qualified) ∧
      ((f.Declares (Dotted.simple qualified) ∧ Dotted.owner? qualified = f.package) ∨
        (¬f.Declares (Dotted.simple qualified) ∧
          (Dotted.owner? qualified = some "java.lang" ∨
            ((Dotted.owner? qualified).isSome = true ∧ Dotted.owner? qualified = f.package) ∨
            ∃ i ∈ f.imports, i.importsType qualified = true))) := by
  rw [← Imports.isShadowed_eq_false_iff, ← isSome_findClass?_iff, canUseSimpleName,
    Imports.isTypeImported]
  cases f.imports.isShadowed qualified with
  | true => simp
  | false =>
    cases (f.findClass? (Dotted.simple qualified)).isSome with
    | true => simp
    | false => simp [or_assoc]

/-- A type that may be named simply is the one that the imports of its simple name import. -/
theorem name_eq_of_binds (f : SourceFile) {i : Import} {qualified : String} (member : i ∈ f.imports)
    (binds : i.Binds (Dotted.simple qualified)) (usable : f.canUseSimpleName qualified = true) :
    i.name = qualified :=
  ((f.canUseSimpleName_iff qualified).mp usable).1 i member binds

/-- A type that may be named simply, as a class of the file is, belongs to its package. -/
theorem owner?_eq_of_declares (f : SourceFile) {qualified : String}
    (declared : f.Declares (Dotted.simple qualified))
    (usable : f.canUseSimpleName qualified = true) : Dotted.owner? qualified = f.package := by
  obtain ⟨-, ⟨-, owned⟩ | ⟨undeclared, -⟩⟩ := (f.canUseSimpleName_iff qualified).mp usable
  · exact owned
  · exact absurd declared undeclared

/-! ### Names that are bound -/

/-- **A name that is bound denotes one type at most.** Of all types of this simple name, at most one
may be named by it. It is the type that is imported, if there is no class of the name and all
imports that bind the name agree; and it is the class in the package of the file, if no import
binds the name. -/
theorem canUseSimpleName_unique (f : SourceFile) (simple : String) (plain : '.' ∉ simple.toList)
    (bound : (∃ i ∈ f.imports, i.Binds simple) ∨ f.Declares simple) :
    (∀ q q', Dotted.simple q = simple → Dotted.simple q' = simple →
      f.canUseSimpleName q = true → f.canUseSimpleName q' = true → q = q') ∧
    (∀ q, (∀ i ∈ f.imports, i.Binds simple → i.name = q) → ¬f.Declares simple →
      f.canUseSimpleName q = true) ∧
    (f.Declares simple → (∀ i ∈ f.imports, ¬i.Binds simple) →
      f.canUseSimpleName (Dotted.qualify f.package simple) = true) := by
  refine ⟨fun q q' last last' usable usable' => ?_, fun q agree undeclared => ?_,
    fun declared unbound => ?_⟩
  · rcases bound with ⟨i, member, binds⟩ | declared
    -- Both types are the one that is imported.
    · have named := f.name_eq_of_binds member (last ▸ binds) usable
      have named' := f.name_eq_of_binds member (last' ▸ binds) usable'
      exact named.symm.trans named'
    -- Both belong to the package, under the same last word.
    · have owned := f.owner?_eq_of_declares (last ▸ declared) usable
      have owned' := f.owner?_eq_of_declares (last' ▸ declared) usable'
      rw [← Dotted.qualify_owner?_simple q, ← Dotted.qualify_owner?_simple q', last, last', owned,
        owned']
  · obtain ⟨i, member, binds⟩ := bound.resolve_right undeclared
    obtain rfl := agree i member binds
    -- The simple name is that of the type.
    obtain rfl : Dotted.simple i.name = simple := binds.2
    exact (f.canUseSimpleName_iff i.name).mpr ⟨agree, .inr ⟨undeclared, .inr (.inr
      ⟨i, member, (i.importsType_iff i.name).mpr (.inl ⟨binds, rfl⟩)⟩)⟩⟩
  · rw [canUseSimpleName_iff, Dotted.simple_qualify f.package plain,
      Dotted.owner?_qualify f.package plain]
    exact ⟨fun i member binds => absurd binds (unbound i member), .inl ⟨declared, rfl⟩⟩

namespace Mixed

/-- A file of the package `p` with a class, a type import and two imports that say nothing about
simple names. -/
def file : SourceFile :=
  ⟨some "p", [⟨"a.List", false⟩, ⟨"b.*", false⟩, ⟨"c.Tools.List", true⟩],
    [.node 0 .empty (.classDecl "Map" [])]⟩

end Mixed

open Mixed in
/-- `List` is the type that is imported and no other, and `Map` is the class and no other. -/
theorem canUseSimpleName_unique_mixed :
    '.' ∉ "List".toList ∧ (∃ i ∈ file.imports, i.Binds "List") ∧
    file.canUseSimpleName "a.List" = true ∧
    (∀ q, Dotted.simple q = "List" → file.canUseSimpleName q = true → q = "a.List") ∧
    '.' ∉ "Map".toList ∧ file.Declares "Map" ∧ file.canUseSimpleName "p.Map" = true ∧
    ∀ q, Dotted.simple q = "Map" → file.canUseSimpleName q = true → q = "p.Map" := by
  have plain : '.' ∉ "List".toList := by decide
  have plain' : '.' ∉ "Map".toList := by decide
  have imported : ∃ i ∈ file.imports, i.Binds "List" :=
    ⟨⟨"a.List", false⟩, List.mem_cons_self, rfl, rfl⟩
  have declared : file.Declares "Map" := ⟨_, List.mem_cons_self, rfl, rfl⟩
  have usable : file.canUseSimpleName "a.List" = true := rfl
  have usable' : file.canUseSimpleName "p.Map" = true := rfl
  obtain ⟨unique, -⟩ := file.canUseSimpleName_unique "List" plain (.inl imported)
  obtain ⟨unique', -⟩ := file.canUseSimpleName_unique "Map" plain' (.inr declared)
  exact ⟨plain, imported, usable, fun q last h => unique q _ last rfl h usable, plain', declared,
    usable', fun q last h => unique' q _ last rfl h usable'⟩

end SourceFile

/-! ### Imports without a say -/

/-- **An import that has no say about a type**: of static members, of one type with another simple
name, or on demand and not of what the owner of the type holds. -/
inductive Import.Idle (qualified : String) : Import → Prop where
  | ofMembers {i : Import} (isStatic : i.isStatic = true) : Idle qualified i
  | elsewhere {i : Import} (isSingleType : i.isSingleType = true)
    (another : i.simpleName ≠ Dotted.simple qualified) : Idle qualified i
  | unopened {i : Import} (isOnDemand : i.isOnDemand = true)
    (another : ∀ owner, Dotted.owner? qualified = some owner → i.qualifier? ≠ some owner) :
    Idle qualified i

/-- Whoever binds the simple name has a say. -/
theorem Import.Binds.not_idle {i : Import} {qualified : String}
    (binds : i.Binds (Dotted.simple qualified)) : ¬i.Idle qualified := by
  obtain ⟨single, last⟩ := binds
  obtain ⟨notStatic, notOnDemand⟩ := i.isSingleType_iff.mp single
  intro idle
  cases idle with
  | ofMembers isStatic => exact Bool.false_ne_true (notStatic.symm.trans isStatic)
  | elsewhere _ another => exact another last
  | unopened isOnDemand _ => exact Bool.false_ne_true (notOnDemand.symm.trans isOnDemand)

/-- Whoever opens the owner has a say. -/
theorem Import.Opens.not_idle {i : Import} {qualified : String} (opens : i.Opens qualified) :
    ¬i.Idle qualified := by
  obtain ⟨notStatic, onDemand, owner, opened, owned⟩ := opens
  intro idle
  cases idle with
  | ofMembers isStatic => exact Bool.false_ne_true (notStatic.symm.trans isStatic)
  | elsewhere isSingleType _ =>
    obtain ⟨-, notOnDemand⟩ := i.isSingleType_iff.mp isSingleType
    exact Bool.false_ne_true (notOnDemand.symm.trans onDemand)
  | unopened _ another => exact another owner owned opened

/-- **A change of the imports that a type does not notice**: they are put in another order, one of
them is repeated, or one joins them that has no say. -/
inductive Imports.Reworked (qualified : String) : Imports → Imports → Prop where
  | reordered {imports imports' : Imports} (h : imports.Perm imports') :
    Reworked qualified imports imports'
  | repeated {imports : Imports} {i : Import} (h : i ∈ imports) :
    Reworked qualified imports (i :: imports)
  | joined {imports : Imports} {i : Import} (h : i.Idle qualified) :
    Reworked qualified imports (i :: imports)

namespace Imports

/-- The same imports have a say about the type. -/
def SameSay (qualified : String) (imports imports' : Imports) : Prop :=
  ∀ i : Import, ¬i.Idle qualified → (i ∈ imports ↔ i ∈ imports')

theorem sameSay_equivalence (qualified : String) : Equivalence (SameSay qualified) where
  refl _ _ _ := Iff.rfl
  symm same i busy := (same i busy).symm
  trans same same' i busy := (same i busy).trans (same' i busy)

/-- After a change, the same imports have a say. -/
theorem Reworked.sameSay {qualified : String} {imports imports' : Imports}
    (reworked : Reworked qualified imports imports') : SameSay qualified imports imports' := by
  intro i busy
  cases reworked with
  | reordered h => exact h.mem_iff
  | repeated h =>
    rw [List.mem_cons, or_iff_right_of_imp]
    rintro rfl
    exact h
  | joined h =>
    rw [List.mem_cons, or_iff_right_of_imp]
    rintro rfl
    exact absurd h busy

variable {qualified : String} {imports imports' : Imports}

/-- Looking for an import is looking among those that have a say, if only these can be found. -/
theorem SameSay.exists_iff (same : SameSay qualified imports imports') {p : Import → Prop}
    (busy : ∀ i, p i → ¬i.Idle qualified) : (∃ i ∈ imports, p i) ↔ ∃ i ∈ imports', p i :=
  exists_congr fun i => and_congr_left fun found => same i (busy i found)

/-- Who shadows a type has a say about it. -/
theorem SameSay.isShadowed_eq (same : SameSay qualified imports imports') :
    imports.isShadowed qualified = imports'.isShadowed qualified := by
  rw [Bool.eq_iff_iff, isShadowed_iff, isShadowed_iff]
  exact same.exists_iff fun i found => found.1.not_idle

/-- Who imports a type has a say about it. -/
theorem SameSay.isTypeImported_eq (same : SameSay qualified imports imports') :
    imports.isTypeImported qualified = imports'.isTypeImported qualified := by
  have any : imports.any (·.importsType qualified) = imports'.any (·.importsType qualified) := by
    rw [Bool.eq_iff_iff, List.any_eq_true, List.any_eq_true]
    refine same.exists_iff fun i visible => ?_
    rcases (i.importsType_iff qualified).mp visible with ⟨binds, -⟩ | opens
    · exact binds.not_idle
    · exact opens.not_idle
  rw [isTypeImported, isTypeImported, same.isShadowed_eq, any]

end Imports

namespace SourceFile

/-- **Neither order nor number of the imports matters, nor does an import without a say.** However
the imports are changed in these respects, back and forth, it is the same whether a type is
shadowed, whether it is imported, and whether a file with these imports may use its simple name,
for any package and any declarations. -/
theorem canUseSimpleName_reworked (qualified : String) (imports imports' : Imports)
    (reworked : Relation.EqvGen (Imports.Reworked qualified) imports imports') :
    imports.isShadowed qualified = imports'.isShadowed qualified ∧
    imports.isTypeImported qualified = imports'.isTypeImported qualified ∧
    ∀ package declarations,
      canUseSimpleName ⟨package, imports, declarations⟩ qualified =
        canUseSimpleName ⟨package, imports', declarations⟩ qualified := by
  have same : Imports.SameSay qualified imports imports' :=
    (Imports.sameSay_equivalence qualified).eqvGen_iff.mp (reworked.mono fun _ _ h => h.sameSay)
  refine ⟨same.isShadowed_eq, same.isTypeImported_eq, fun package declarations => ?_⟩
  unfold canUseSimpleName
  rw [same.isShadowed_eq, same.isTypeImported_eq]
  rfl

/-- A type whose owner ends in a dot is imported twice, or beside an import on demand that has no
qualifier. -/
theorem canUseSimpleName_reworked_gap :
    let imports : Imports := [⟨"a..List", false⟩, ⟨"*", false⟩]
    let imports' : Imports := [⟨"a..*", true⟩, ⟨"a..List", false⟩, ⟨"a..List", false⟩]
    Relation.EqvGen (Imports.Reworked "a..List") imports imports' ∧
      imports.isTypeImported "a..List" = true ∧ imports'.isTypeImported "a..List" = true ∧
      canUseSimpleName ⟨none, imports', []⟩ "a..List" = true := by
  intro imports imports'
  let list : Import := ⟨"a..List", false⟩
  -- An import on demand without a qualifier opens no package.
  have unopened : Import.Idle "a..List" ⟨"*", false⟩ := .unopened rfl fun _ _ h => nomatch h
  have reordered : Relation.EqvGen (Imports.Reworked "a..List") imports [⟨"*", false⟩, list] :=
    .rel _ _ (.reordered (.swap ..))
  have left : Relation.EqvGen (Imports.Reworked "a..List") [⟨"*", false⟩, list] [list] :=
    .symm _ _ (.rel _ _ (.joined unopened))
  have repeated : Relation.EqvGen (Imports.Reworked "a..List") [list] [list, list] :=
    .rel _ _ (.repeated List.mem_cons_self)
  have joined : Relation.EqvGen (Imports.Reworked "a..List") [list, list] imports' :=
    .rel _ _ (.joined (.ofMembers rfl))
  -- Exchanged, left out, repeated, joined: four steps lead from the one list to the other.
  have reworked : Relation.EqvGen (Imports.Reworked "a..List") imports imports' :=
    .trans _ _ _ reordered (.trans _ _ _ left (.trans _ _ _ repeated joined))
  obtain ⟨-, imported, usable⟩ := canUseSimpleName_reworked "a..List" imports imports' reworked
  exact ⟨reworked, rfl, imported.symm.trans rfl, (usable none []).symm.trans rfl⟩

end SourceFile

end SyntaxTour
