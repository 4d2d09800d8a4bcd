import Exemplar.Proofs.Source.JavaUnits

/-!
# Reading Java types

How the types and annotations that a file writes are read in its package.  A dotted name denotes
itself; any other name denotes the nested builder, an imported type, a generated class or a type of
`java.lang`, whichever comes first.
-/

namespace Exemplar.Source.Java

/-! ## Written types -/

/-- A type as it is written: a name, or one with an argument between angle brackets. -/
inductive TypeExpression where
  | simple (name : String)
  | applied (name : String) (argument : TypeExpression)

def TypeExpression.names : TypeExpression → List String
  | .simple name => [name]
  | .applied name argument => name :: argument.names

/-- Reads a written type. -/
def readType? (text : List Char) : Option TypeExpression :=
  match _hrest : text.dropWhile (· != '<') with
  | [] => some (.simple (String.ofList text))
  | _ :: rest =>
      if rest.getLast? = some '>' then
        (readType? rest.dropLast).map (.applied (String.ofList (text.takeWhile (· != '<'))))
      else none
  termination_by text.length
  decreasing_by
    have hlength := (text.dropWhile_sublist (· != '<')).length_le
    rw [_hrest, List.length_cons] at hlength
    rw [List.length_dropLast]
    omega

/-- What a type or an annotation denotes. -/
inductive Denotation where
  | library (fullName : String)
  | generated (name : String)
  | builder
  | applied (head argument : Denotation)
  deriving DecidableEq

/-- What simple names are looked up in. -/
structure Scope where
  imports : List String
  /-- The generated classes of the package. -/
  classes : List String
  hasBuilder : Bool

def isDotted (name : String) : Bool :=
  name.toList.contains '.'

/-- What stands behind the last dot. -/
def simpleName (fullName : String) : String :=
  String.ofList ((Text.pieces '.' fullName.toList).getLast?.getD [])

namespace Scope

def resolve (scope : Scope) (name : String) : Denotation :=
  if isDotted name then .library name
  else if scope.hasBuilder && name == builderClass then .builder
  else
    match scope.imports.find? (simpleName · == name) with
    | some imported => .library imported
    | none =>
        if scope.classes.contains name then .generated name
        else .library (langType name).fullName

def denotes (scope : Scope) : TypeExpression → Denotation
  | .simple name => scope.resolve name
  | .applied name argument => .applied (scope.resolve name) (scope.denotes argument)

/-- What a written type denotes. -/
def read? (scope : Scope) (type : String) : Option Denotation :=
  (readType? type.toList).map scope.denotes

end Scope

/-- What a type means. -/
def meaning : Ty → Denotation
  | .bool => .library "java.lang.Boolean"
  | .integer => .library "java.lang.Long"
  | .float => .library "java.lang.Double"
  | .string => .library "java.lang.String"
  | .any => .library "java.lang.Object"
  | .named name => .generated name
  | .list element => .applied (.library "java.util.List") (meaning element)

namespace CompilationUnit

def fieldTypes (unit : CompilationUnit) : List String :=
  unit.fields.map (·.type)

def getterTypes (unit : CompilationUnit) : List String :=
  unit.accessors.map (·.getter.result)

def setterTypes (unit : CompilationUnit) : List String :=
  (unit.accessors.filterMap (·.setter)).filterMap (·.parameter.map (·.type))

def builderFieldTypes (unit : CompilationUnit) : List String :=
  unit.builder.toList.flatMap fun builder => builder.fields.map (·.type)

def withMethodTypes (unit : CompilationUnit) : List String :=
  unit.builder.toList.flatMap fun builder =>
    builder.withMethods.filterMap (·.parameter.map (·.type))

def types (unit : CompilationUnit) : List String :=
  unit.fieldTypes ++ unit.getterTypes ++ unit.setterTypes ++ unit.builderFieldTypes ++
    unit.withMethodTypes

def annotations (unit : CompilationUnit) : List Annotation :=
  unit.marks ++ unit.fields.flatMap (·.annotations)

/-- The names that the unit writes for types and annotations. -/
def names (unit : CompilationUnit) : List String :=
  unit.annotations.map (·.name) ++
    unit.types.flatMap fun type => ((readType? type.toList).map TypeExpression.names).getD []

def scope (unit : CompilationUnit) (classes : List String) : Scope :=
  ⟨unit.imports, classes, unit.builder.isSome⟩

end CompilationUnit

/-! ## Written types are read back -/

theorem ne_of_notMem {name : List Char} (h : '<' ∉ name) : ∀ c ∈ name, (c != '<') = true := by
  intro c hmem
  rw [bne_iff_ne]
  rintro rfl
  exact h hmem

theorem takeWhile_name {name : List Char} (h : '<' ∉ name) (rest : List Char) :
    (name ++ '<' :: rest).takeWhile (· != '<') = name := by
  rw [List.takeWhile_append_of_pos (ne_of_notMem h), List.takeWhile_cons_of_neg (by simp),
    List.append_nil]

theorem dropWhile_name {name : List Char} (h : '<' ∉ name) (rest : List Char) :
    (name ++ '<' :: rest).dropWhile (· != '<') = '<' :: rest := by
  rw [List.dropWhile_append_of_pos (ne_of_notMem h), List.dropWhile_cons_of_neg (by simp)]

theorem readType?_simple {name : String} (h : '<' ∉ name.toList) :
    readType? name.toList = some (.simple name) := by
  have hnone : name.toList.dropWhile (· != '<') = [] := by
    rw [← List.append_nil name.toList, List.dropWhile_append_of_pos (ne_of_notMem h)]
    rfl
  rw [readType?]
  split
  · rw [String.ofList_toList]
  · rename_i hrest
    rw [hnone] at hrest
    cases hrest

theorem readType?_applied {name argument : String} {expression : TypeExpression}
    (h : '<' ∉ name.toList) (hargument : readType? argument.toList = some expression) :
    readType? (name ++ "<" ++ argument ++ ">").toList = some (.applied name expression) := by
  have htext : (name ++ "<" ++ argument ++ ">").toList =
      name.toList ++ '<' :: (argument.toList ++ ['>']) := by
    simp
  rw [htext, readType?]
  split
  · rename_i hrest
    rw [dropWhile_name h] at hrest
    cases hrest
  · rename_i first rest hrest
    rw [dropWhile_name h] at hrest
    cases hrest
    rw [if_pos List.getLast?_concat, List.dropLast_concat, hargument, takeWhile_name h,
      String.ofList_toList]
    rfl

end Exemplar.Source.Java
