import Exemplar.Proofs.Source.RustUnits

/-!
# Methods of struct files

The parts of a generated Rust file behind its struct: the methods with their parameters, and the
builder with its fields and methods.  What a file prints behind its struct is the print of these
parts, so that what holds of the names in them holds of the text.
-/

namespace Exemplar.Source.Rust

structure Parameter where
  identifier : String
  type : String

structure Method where
  name : String
  /-- How the method takes the struct, if it does. -/
  receiver : Option String
  parameter : Option Parameter
  result : Option String
  body : List Line

def Method.arguments (method : Method) : List String :=
  method.receiver.toList ++
    (method.parameter.map fun parameter => s!"{parameter.identifier}: {parameter.type}").toList

def Method.heading (method : Method) : String :=
  "pub fn " ++ method.name ++ "(" ++ ", ".intercalate method.arguments ++ ")" ++
    ((method.result.map fun type => " -> " ++ type).getD "") ++ " \x7b"

def Method.lines (method : Method) : List Line :=
  [.opening method.heading] ++ method.body ++ [.closing "\x7d"]

/-- The methods of a type, a blank line between any two. -/
structure Implementation where
  owner : String
  methods : List Method

def Implementation.lines (implementation : Implementation) : List Line :=
  [.opening s!"impl {implementation.owner} \x7b"] ++
    [Line.blank].intercalate (implementation.methods.map Method.lines) ++ [.closing "\x7d"]

structure BuilderUnit where
  name : String
  fields : List FieldDeclaration
  methods : List Method

def BuilderUnit.lines (builder : BuilderUnit) : List Line :=
  List.flatten [
    [.blank, .plain "#[derive(Debug, Clone, Default)]",
      .opening s!"pub struct {builder.name} \x7b"],
    builder.fields.flatMap FieldDeclaration.lines,
    [.closing "\x7d", .blank],
    Implementation.lines ⟨builder.name, builder.methods⟩]

/-- What stands behind a struct. -/
structure Code where
  implementation : Implementation
  builder : Option BuilderUnit

def Code.lines (code : Code) : List Line :=
  code.implementation.lines ++ (code.builder.map BuilderUnit.lines).getD []

/-! ## The code of a class -/

def Member.getterMethod (member : Member) : Method where
  name := member.getter
  receiver := some "&self"
  parameter := none
  result := some s!"::std::option::Option<&{member.type}>"
  body := [.plain s!"self.{member.identifier}.{member.reference}()"]

def Member.parameter (member : Member) : Parameter :=
  ⟨member.identifier, member.type⟩

def Member.setterMethod (member : Member) : Method where
  name := member.setter
  receiver := some "&mut self"
  parameter := some member.parameter
  result := none
  body := [.plain s!"self.{member.identifier} = {member.wrapped};"]

def Member.builderMethod (member : Member) : Method where
  name := member.withMethod
  receiver := some "mut self"
  parameter := some member.parameter
  result := some "Self"
  body := [.plain s!"self.{member.identifier} = {member.wrapped};", .plain "self"]

def Member.builderDeclaration (member : Member) : FieldDeclaration :=
  ⟨none, member.identifier, member.storage⟩

/-- The way to the builder. -/
def builderEntry (name : String) : Method where
  name := "builder"
  receiver := none
  parameter := none
  result := some (builderName name)
  body := [.plain s!"{builderName name}::default()"]

def buildMethod (name : String) (members : List Member) : Method where
  name := "build"
  receiver := some "self"
  parameter := none
  result := some name
  body := builtLines name members

variable (options : Options)

def methodsOf (name : String) (members : List Member) : List Method :=
  if options.generateBuilders then builderEntry name :: members.map Member.getterMethod
  else members.flatMap fun member => [member.getterMethod, member.setterMethod]

def builderOf (name : String) (members : List Member) : BuilderUnit where
  name := builderName name
  fields := members.map Member.builderDeclaration
  methods := members.map Member.builderMethod ++ [buildMethod name members]

def codeOf (model : Model) (cls : ClassDef) : Code :=
  let members := membersOf model cls
  let name := typeName cls.name
  { implementation := ⟨name, methodsOf options name members⟩
    builder := if options.generateBuilders then some (builderOf name members) else none }

/-! ## What is printed -/

theorem heading_getterMethod (member : Member) :
    member.getterMethod.heading =
      s!"pub fn {member.getter}(&self) -> ::std::option::Option<&{member.type}> \x7b" := by
  apply String.toList_inj.1
  simp [Method.heading, Member.getterMethod, Method.arguments, toString]

theorem heading_setterMethod (member : Member) :
    member.setterMethod.heading =
      s!"pub fn {member.setter}(&mut self, {member.identifier}: {member.type}) \x7b" := by
  apply String.toList_inj.1
  simp [Method.heading, Member.setterMethod, Member.parameter, Method.arguments,
    toString]

theorem heading_builderMethod (member : Member) :
    member.builderMethod.heading =
      s!"pub fn {member.withMethod}(mut self, {member.identifier}: {member.type}) -> Self \x7b" := by
  apply String.toList_inj.1
  simp [Method.heading, Member.builderMethod, Member.parameter, Method.arguments,
    toString]

theorem heading_builderEntry (name : String) :
    (builderEntry name).heading = s!"pub fn builder() -> {builderName name} \x7b" := by
  apply String.toList_inj.1
  simp [Method.heading, builderEntry, Method.arguments, toString]

theorem heading_buildMethod (name : String) (members : List Member) :
    (buildMethod name members).heading = s!"pub fn build(self) -> {name} \x7b" := by
  apply String.toList_inj.1
  simp [Method.heading, buildMethod, Method.arguments, toString]

theorem lines_getterMethod (member : Member) : member.getterMethod.lines = getterLines member := by
  rw [Method.lines, heading_getterMethod]
  rfl

theorem lines_setterMethod (member : Member) : member.setterMethod.lines = setterLines member := by
  rw [Method.lines, heading_setterMethod]
  rfl

theorem lines_builderMethod (member : Member) :
    member.builderMethod.lines ++ [.blank] = withLines member := by
  rw [Method.lines, heading_builderMethod]
  rfl

theorem lines_builderEntry (name : String) :
    (builderEntry name).lines = builderEntryLines name := by
  rw [Method.lines, heading_builderEntry]
  rfl

theorem lines_methodsOf (name : String) (members : List Member) :
    (methodsOf options name members).map Method.lines = methodBlocks options name members := by
  unfold methodsOf methodBlocks
  split
  · rw [List.map_cons, lines_builderEntry, List.map_map]
    exact congrArg _ (List.map_congr_left fun member _ => lines_getterMethod member)
  · rw [List.map_flatMap]
    apply congrArg (List.flatMap · members)
    funext member
    rw [List.map_cons, List.map_singleton, lines_getterMethod, lines_setterMethod]

/-- Blocks with a blank line behind each but the last. -/
theorem intercalate_concat {α : Type} (separator : List α) (blocks : List (List α))
    (last : List α) :
    separator.intercalate (blocks ++ [last]) = blocks.flatMap (· ++ separator) ++ last := by
  induction blocks with
  | nil => exact List.intercalate_singleton
  | cons block rest ih =>
      obtain ⟨next, others, hrest⟩ := List.exists_cons_of_ne_nil (List.concat_ne_nil last rest)
      rw [hrest] at ih
      rw [List.cons_append, hrest, List.intercalate_cons_cons, ih, List.flatMap_cons]
      simp only [List.append_assoc]

theorem lines_implementation (name : String) (members : List Member) :
    Implementation.lines ⟨name, methodsOf options name members⟩ =
      implLines options name members := by
  rw [Implementation.lines, lines_methodsOf]
  rfl

theorem lines_builderOf (name : String) (members : List Member) :
    (builderOf name members).lines = builderLines name members := by
  have hfields : (members.map Member.builderDeclaration).flatMap FieldDeclaration.lines =
      members.map fieldLine := by
    rw [List.flatMap_map]
    exact List.map_eq_flatMap.symm
  have hmethods : ((members.map Member.builderMethod).map Method.lines).flatMap (· ++ [.blank]) =
      members.flatMap withLines := by
    rw [List.map_map, List.flatMap_map]
    exact congrArg (List.flatMap · members) (funext lines_builderMethod)
  unfold BuilderUnit.lines builderOf builderLines Implementation.lines
  dsimp only
  rw [List.map_append, List.map_singleton, intercalate_concat, hfields, hmethods, Method.lines,
    heading_buildMethod]
  simp only [List.flatten_cons, List.flatten_nil, List.append_assoc, List.append_nil,
    List.cons_append, List.nil_append, buildMethod]

/-- What a file prints behind its struct is the print of the code of the class. -/
theorem lines_codeOf (model : Model) (cls : ClassDef) :
    (codeOf options model cls).lines = (structUnit model options cls).implementation := by
  unfold Code.lines codeOf structUnit
  dsimp only
  rw [lines_implementation]
  split
  · rw [Option.map_some, Option.getD_some, lines_builderOf]
  · rfl

end Exemplar.Source.Rust
