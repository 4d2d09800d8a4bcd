import Exemplar.Proofs.Source.Blocks
import Exemplar.Proofs.Source.JavaNames

/-!
# The blocks of Java files

The parts of a class are arranged lines: annotations and fields stand on lines of their own, and
each method is a block of plain lines.  The nested builder is a block of such parts, and so is the
class around it.
-/

namespace Exemplar.Source.Java

open Naming

variable {model : Model} {options : Options} {cls : ClassDef} {members : List Member}
  {member : Member} {package : String}

theorem oneLine_escapeWord {identifier : String} (h : OneLine identifier) :
    OneLine (escapeWord identifier) := by
  rw [escapeWord]
  split
  · exact oneLine_append.2 ⟨h, by decide⟩
  · exact h

theorem oneLine_literal (text : String) : OneLine (literal text) := by
  rw [literal_eq_quote]
  exact oneLine_quote (Text.isSealed_flatMap isSealed_fourDigitChar text.toList)

theorem LibraryType.oneLine_names : ∀ library ∈ importable ++ langTypes,
    OneLine library.fullName ∧ OneLine library.name := by
  decide +kernel

theorem oneLine_qualify {library : LibraryType} (h : library ∈ importable ++ langTypes) :
    OneLine (qualify model library) := by
  obtain ⟨hfull, hname⟩ := LibraryType.oneLine_names library h
  rw [qualify]
  split
  · exact hfull
  · exact hname

theorem oneLine_typeText {ty : Ty}
    (h : ∀ name, ty.referencedClass? = some name → OneLine name) :
    OneLine (typeText model ty) := by
  induction ty with
  | named name => exact h name rfl
  | list element ih =>
      have hlist : OneLine (qualify model listType) := oneLine_qualify (by decide)
      simp +decide [typeText, hlist, ih h]
  | _ => exact oneLine_qualify (by decide)

/-- Whether what a member is written with stands on one line each. -/
structure Member.IsOneLine (member : Member) : Prop where
  identifier : OneLine member.identifier
  type : OneLine member.type
  suffix : OneLine member.suffix
  parameter : OneLine member.parameter

theorem Member.isOneLine_ofField (h : HasOneLineNames cls) {field : Field}
    (hfield : field ∈ cls.fields) : (Member.ofField model field).IsOneLine := by
  rw [Member.ofField, accessorSuffix]
  constructor <;> dsimp only
  case identifier => exact oneLine_escapeWord (h.fields field hfield)
  case type => exact oneLine_typeText (h.types field hfield)
  case suffix => exact oneLine_className field.property
  case parameter => exact oneLine_escapeWord (oneLine_parameterName field.property)

/-! ## Lines of units -/

/-- Whether an annotation stands on one line. -/
def Annotation.IsOneLine (tag : Annotation) : Prop :=
  OneLine tag.name ∧ ∀ literal ∈ tag.argument, OneLine literal

theorem arranged_annotation {tag : Annotation} (h : tag.IsOneLine) : Arranged [tag.line] := by
  obtain ⟨hname, hargument⟩ := h
  obtain ⟨name, _ | literal⟩ := tag
  · exact .plain (by simp +decide [hname]) .nil
  · exact .plain (by simp +decide [toString, hname, hargument literal rfl]) .nil

theorem arranged_annotations {tags : List Annotation} (h : ∀ tag ∈ tags, tag.IsOneLine) :
    Arranged (tags.map Annotation.line) := by
  rw [List.map_eq_flatMap]
  exact .flatMap fun tag htag => arranged_annotation (h tag htag)

theorem FieldDeclaration.arranged {field : FieldDeclaration}
    (htags : ∀ tag ∈ field.annotations, tag.IsOneLine) (htype : OneLine field.type)
    (hidentifier : OneLine field.identifier) : Arranged field.lines :=
  .blank ((arranged_annotations htags).append
    (.plain (by simp +decide [toString, htype, hidentifier]) .nil))

/-- Whether the heading and the lines of a method stand on one line each. -/
structure Method.IsOneLine (method : Method) : Prop where
  heading : OneLine method.heading
  body : ∀ text ∈ method.body, OneLine text

theorem Method.IsOneLine.arranged {method : Method} (h : method.IsOneLine) :
    Arranged method.lines := by
  have hfirst : method.heading.toList.head? ≠ some ' ' := by
    rw [Method.heading]
    split <;> simp [toString]
  exact .blank (.braced h.heading hfirst (.map_plain h.body) .nil)

theorem BuilderUnit.arranged {builder : BuilderUnit}
    (hfields : ∀ field ∈ builder.fields, Arranged field.lines)
    (hmethods : ∀ method ∈ builder.withMethods, method.IsOneLine)
    (hbuild : builder.build.IsOneLine) : Arranged builder.lines := by
  have hinner : Arranged (builder.fields.flatMap FieldDeclaration.lines ++
      builder.withMethods.flatMap Method.lines ++ builder.build.lines ++ [.blank]) :=
    (((Arranged.flatMap hfields).append
      (.flatMap fun method h => (hmethods method h).arranged)).append
      hbuild.arranged).append (.blank .nil)
  have hlines : builder.lines = .blank :: .opening s!"public static class {builderClass} \x7b" ::
      ((builder.fields.flatMap FieldDeclaration.lines ++
        builder.withMethods.flatMap Method.lines ++ builder.build.lines ++ [.blank]) ++
          [.closing "\x7d"]) := by
    simp [BuilderUnit.lines]
  rw [hlines]
  exact .blank (.braced (by decide) (by decide) hinner .nil)

theorem CompilationUnit.arranged {unit : CompilationUnit} (hpackage : OneLine unit.package)
    (himports : ∀ name ∈ unit.imports, OneLine name) (hmarks : ∀ tag ∈ unit.marks, tag.IsOneLine)
    (hname : OneLine unit.name) (hfields : ∀ field ∈ unit.fields, Arranged field.lines)
    (haccessors : ∀ accessors ∈ unit.accessors, Arranged accessors.lines)
    (hbuilder : ∀ builder ∈ unit.builder, Arranged builder.lines) : Arranged unit.lines := by
  have hclause : Arranged
      (if unit.package.isEmpty then [] else [.plain s!"package {unit.package};", .blank]) := by
    split
    · exact .nil
    · exact .plain (by simp +decide [toString, hpackage]) (.blank .nil)
  have hgap : Arranged (if unit.imports.isEmpty then [] else [.blank]) := by
    split
    · exact .nil
    · exact .blank .nil
  have himport : Arranged (unit.imports.map fun name => .plain s!"import {name};") :=
    .map_plain fun name h => by simp +decide [toString, himports name h]
  have hnested : Arranged ((unit.builder.map BuilderUnit.lines).getD []) := by
    cases h : unit.builder with
    | none => exact .nil
    | some builder => exact hbuilder builder h
  have hinner : Arranged (unit.fields.flatMap FieldDeclaration.lines ++
      unit.accessors.flatMap Accessors.lines ++ (unit.builder.map BuilderUnit.lines).getD [] ++
        [.blank]) :=
    (((Arranged.flatMap hfields).append (.flatMap haccessors)).append hnested).append (.blank .nil)
  have hclass : Arranged (.opening s!"public class {unit.name} \x7b" ::
      ((unit.fields.flatMap FieldDeclaration.lines ++ unit.accessors.flatMap Accessors.lines ++
        (unit.builder.map BuilderUnit.lines).getD [] ++ [.blank]) ++ [.closing "\x7d"])) :=
    .braced (by simp +decide [toString, hname]) (by simp [toString]) hinner .nil
  have hall := hclause.append
    (himport.append (hgap.append ((arranged_annotations hmarks).append hclass)))
  simpa [CompilationUnit.lines] using hall

/-! ## Methods of members -/

namespace Member.IsOneLine

variable (h : member.IsOneLine)
include h

theorem assignment : OneLine (assignment member) := by
  rw [Java.assignment]
  split <;> simp +decide [toString, h.identifier, h.parameter]

theorem getterMethod : member.getterMethod.IsOneLine := by
  have hgetter : OneLine member.getter := by
    rw [Member.getter]
    split <;> simp +decide [h.suffix]
  constructor
  case heading => simp +decide [Method.heading, Member.getterMethod, toString, h.type, hgetter]
  case body => simp +decide [Member.getterMethod, toString, h.identifier]

theorem setterMethod : member.setterMethod.IsOneLine := by
  constructor
  case heading =>
    simp +decide [Method.heading, Member.setterMethod, Member.setter, toString, h.type, h.suffix,
      h.parameter]
  case body => simp [Member.setterMethod, h.assignment]

theorem builderMethod {owner : String} (howner : OneLine owner) :
    (member.builderMethod owner).IsOneLine := by
  constructor
  case heading =>
    simp +decide [Method.heading, Member.builderMethod, Member.withMethod, toString, howner, h.type,
      h.suffix, h.parameter]
  case body => simp +decide [Member.builderMethod, h.assignment]

theorem accessors (options : Options) : Arranged (member.accessors options).lines := by
  apply h.getterMethod.arranged.append
  rw [Member.accessors]
  split
  · exact .nil
  · exact h.setterMethod.arranged

end Member.IsOneLine

theorem arranged_builderOf (h : HasOneLineNames cls)
    (hmembers : ∀ member ∈ members, member.IsOneLine) : Arranged (builderOf cls members).lines := by
  have hname : OneLine cls.name := oneLine_of_isPlain h.name
  have howner : OneLine (cls.name ++ "." ++ builderClass) := by simp +decide [hname]
  have htarget : OneLine (escapeWord (uncapitalize cls.name)) :=
    oneLine_escapeWord (oneLine_uncapitalize h.name)
  apply BuilderUnit.arranged
  · intro field hfield
    obtain ⟨member, hmember, rfl⟩ := List.mem_map.1 hfield
    have hparts := hmembers member hmember
    exact FieldDeclaration.arranged (fun tag htag => absurd htag List.not_mem_nil) hparts.type
      hparts.identifier
  · intro method hmethod
    obtain ⟨member, hmember, rfl⟩ := List.mem_map.1 hmethod
    exact (hmembers member hmember).builderMethod howner
  · constructor
    case heading => simp +decide [Method.heading, builderOf, toString, hname]
    case body =>
      refine List.forall_mem_cons.2 ⟨?_, List.forall_mem_append.2 ⟨?_, ?_⟩⟩
      · simp +decide [toString, hname, htarget]
      · intro text htext
        obtain ⟨member, hmember, rfl⟩ := List.mem_map.1 htext
        simp +decide [toString, htarget, (hmembers member hmember).identifier]
      · simp +decide [toString, htarget]

theorem Member.isOneLine_annotations (model : Model) (options : Options) (member : Member) :
    ∀ tag ∈ member.annotations model options, tag.IsOneLine := by
  have hexpose : Annotation.IsOneLine ⟨qualify model exposeType, none⟩ :=
    ⟨oneLine_qualify (by decide), nofun⟩
  have hname : Annotation.IsOneLine
      ⟨qualify model serializedNameType, some (literal member.field.property)⟩ := by
    refine ⟨oneLine_qualify (by decide), ?_⟩
    rintro _ ⟨⟩
    exact oneLine_literal member.field.property
  rw [Member.annotations]
  split
  · refine List.forall_mem_cons.2 ⟨hname, ?_⟩
    split
    · exact List.forall_mem_singleton.2 hexpose
    · exact fun tag htag => absurd htag List.not_mem_nil
  · exact List.forall_mem_singleton.2 hexpose

theorem isOneLine_marks (model : Model) (options : Options) :
    ∀ tag ∈ marks model options, tag.IsOneLine := by
  refine List.forall_mem_cons.2 ⟨⟨oneLine_qualify (by decide), ?_⟩, List.forall_mem_singleton.2
    ⟨oneLine_qualify (by decide), ?_⟩⟩
  · rintro _ ⟨⟩
    exact oneLine_literal options.generatedBy
  · rintro _ ⟨⟩
    decide

theorem oneLine_importedNames {imported : String}
    (h : imported ∈ importedNames model options members) : OneLine imported := by
  obtain ⟨library, hneeded, -, rfl⟩ := mem_importedNames.1 h
  have hmem := List.mem_append_left langTypes (mem_importable_of_needed hneeded)
  exact (LibraryType.oneLine_names library hmem).1

theorem arranged_classLines (h : HasOneLineNames cls) (hpackage : OneLine package) :
    Arranged (classLines model options package cls) := by
  have hmembers : ∀ member ∈ cls.fields.map (Member.ofField model), member.IsOneLine := by
    intro member hmember
    obtain ⟨field, hfield, rfl⟩ := List.mem_map.1 hmember
    exact Member.isOneLine_ofField h hfield
  rw [← lines_unitOf]
  apply CompilationUnit.arranged hpackage
  · exact fun name hname => oneLine_importedNames hname
  · exact isOneLine_marks model options
  · exact oneLine_of_isPlain h.name
  · intro field hfield
    obtain ⟨member, hmember, rfl⟩ := List.mem_map.1 hfield
    have hparts := hmembers member hmember
    exact FieldDeclaration.arranged (member.isOneLine_annotations model options) hparts.type
      hparts.identifier
  · intro accessors haccessors
    obtain ⟨member, hmember, rfl⟩ := List.mem_map.1 haccessors
    exact (hmembers member hmember).accessors options
  · intro builder hbuilder
    rw [unitOf] at hbuilder
    dsimp only at hbuilder
    split at hbuilder
    · cases hbuilder
      exact arranged_builderOf h hmembers
    · cases hbuilder

end Exemplar.Source.Java
