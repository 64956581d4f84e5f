import ProviderCodegen.Conversion.Methods
import ProviderCodegen.Proofs.Schema.ConversionScope
import ProviderCodegen.Proofs.Source.Variables

/-! # Local variables in the texts of conversions

What is said about the scope of conversion code (`FieldCode.Scoped`) is said about statements that
keep their variables apart from the text around them. Here it is said about the texts that are
written (`FieldText.Scoped`). A text declares what its statement introduces, what a statement needs
stands in its text, and a local variable that stands there is one that the statement keeps, unless it
stands in a text that the plan brings along, such as the type of an element (`Plan.texts`): all other
texts are literals, and names that are selected from a value.
-/

namespace ProviderCodegen.Conversion

open Schema (attrTypesLiteral)
open Source (ExternalName Hole IsLocal LocalsAmong Stands closeBrace emptyComposite fill inQuotes
  line localsAmong_composite localsAmong_fill localsAmong_intercalate localsAmong_literal
  localsAmong_of_mem openBrace stands_self)
open Text (camelCase isWord isWord_append isWord_camelCase isWord_pascalCase pascalCase)

/-! ## Texts of plans -/

/-- The texts of a plan that go into its code as they are. -/
def ValuePlan.texts : ValuePlan → List String
  | function name => [name]
  | collection _ elementType nativeType => [elementType, nativeType]

/-- The texts of a field of an object that go into code as they are. -/
def partTexts (part : String × FieldPlan) : List String :=
  part.1 :: part.2.attrType :: part.2.plan.texts

/-- The texts of a plan that go into preambles and values as they are. -/
def Plan.texts : Plan → List String
  | value plan => plan.texts
  | external _ valueType => [valueType]
  | object fields => fields.flatMap partTexts

theorem isWord_nativeVariable (field : String) : isWord (nativeVariable field) = true := by
  rw [nativeVariable, isWord_append, isWord_camelCase]
  decide

theorem isWord_valueVariable (field : String) : isWord (valueVariable field) = true := by
  rw [valueVariable, isWord_append, isWord_camelCase]
  decide

theorem isWord_partVariable (field part : String) : isWord (partVariable field part) = true := by
  rw [partVariable, isWord_append, isWord_append, isWord_camelCase, isWord_pascalCase]
  decide

section PlanTexts

variable {names given : List String} {text : String}

/-- Behind a point stands a field of a struct, not a variable. -/
theorem localsAmong_nativeField (field : String) :
    LocalsAmong names given (nativeField field) := by
  have filled : nativeField field =
      fill [("apiObject.", .selected (pascalCase field) (isWord_pascalCase field))] "" := by
    simp only [nativeField, fill, Hole.text, String.append_empty]
  rw [filled]
  exact localsAmong_fill rfl trivial

theorem localsAmong_nativePart (field part : String) :
    LocalsAmong names given (nativeField field ++ "." ++ pascalCase part) := by
  have filled : nativeField field ++ "." ++ pascalCase part =
      fill [("apiObject.", .selected (pascalCase field) (isWord_pascalCase field)),
        (".", .selected (pascalCase part) (isWord_pascalCase part))] "" := by
    simp only [nativeField, fill, Hole.text, String.append_empty, String.append_assoc]
  rw [filled]
  exact localsAmong_fill rfl ⟨trivial, trivial⟩

/-- The call brings in nothing but the element type and the source. -/
theorem localsAmong_collectionFrom (kind : Schema.CollectionKind) {elementType source : String}
    (ofElement : LocalsAmong names given elementType) (ofSource : LocalsAmong names given source) :
    LocalsAmong names given (Expression.render (collectionFrom kind elementType source)) := by
  have filled : Expression.render (collectionFrom kind elementType source) =
      fill [("types." ++ kind.name ++ "ValueFrom(ctx, ", .given elementType), (", ", .given source)]
        ")" := by
    rw [collectionFrom, render_singleton]
    simp only [Piece.render, fill, Hole.text, String.append_assoc]
  rw [filled]
  refine localsAmong_fill ?_ ⟨ofElement, ofSource⟩
  cases kind <;> rfl

/-- A definition has the variable that it defines, and those of the value. -/
theorem localsAmong_define {name : String} {value : Expression} (word : isWord name = true)
    (member : name ∈ names) (ofValue : LocalsAmong names given (Expression.render value)) :
    LocalsAmong names given (Statement.define name value).render := by
  have filled : (Statement.define name value).render =
      fill [("", .localName name word), (", d := ", .given (Expression.render value))] "" := by
    simp only [Statement.render_define, fill, Hole.text, String.empty_append, String.append_empty,
      String.append_assoc]
  rw [filled]
  exact localsAmong_fill rfl ⟨member, ofValue⟩

/-! ## The literal of an object -/

/-- Texts that were given for a type may have anything in them, so they are excepted. -/
theorem localsAmong_partEntry {field : String} {part : String × FieldPlan}
    (each : ∀ text ∈ partTexts part, text ∈ given) :
    LocalsAmong (partEntry field part).variables given
      (Expression.render (partEntry field part)) := by
  obtain ⟨name, attrType, valueType, plan⟩ := part
  have ofName : LocalsAmong [] given name := localsAmong_of_mem (each _ (.head _))
  cases plan with
  | function function =>
    have filled : Expression.render (partEntry field
          (name, ⟨attrType, valueType, .function function⟩)) =
        fill [("\"", .given name), ("\"" ++ ": types.", .given function),
          ("(", .given (nativeField field ++ "." ++ pascalCase name))] ")," := by
      rw [partEntry, render_singleton]
      simp only [Piece.render, inQuotes, fill, Hole.text, String.append_assoc]
    rw [filled]
    have ofFunction : LocalsAmong [] given function :=
      localsAmong_of_mem (each _ (.tail _ (.tail _ (.head _))))
    exact localsAmong_fill rfl ⟨ofName, ofFunction, localsAmong_nativePart field name⟩
  | collection kind elementType nativeType =>
    have word := isWord_partVariable field name
    have filled : Expression.render (partEntry field
          (name, ⟨attrType, valueType, .collection kind elementType nativeType⟩)) =
        fill [("\"", .given name),
          ("\"" ++ ": ", .localName (partVariable field name) word)] "," := by
      simp only [partEntry, Expression.render, List.map_cons, List.map_nil, String.join_cons,
        String.join_nil, Piece.render, inQuotes, fill, Hole.text, String.append_assoc,
        String.append_empty]
    rw [filled]
    refine localsAmong_fill rfl ⟨ofName.mono (List.forall_mem_nil _) fun _ own => own, ?_⟩
    exact List.mem_singleton_self _

theorem localsAmong_attrTypesLiteral {types : List (String × String)}
    (each : ∀ entry ∈ types, entry.1 ∈ given ∧ entry.2 ∈ given) :
    LocalsAmong names given (attrTypesLiteral types) := by
  unfold attrTypesLiteral
  split_ifs
  · exact localsAmong_literal rfl
  · refine localsAmong_composite (localsAmong_literal rfl) fun text listed => ?_
    obtain ⟨⟨name, type⟩, member, rfl⟩ := List.mem_map.mp listed
    have filled : inQuotes name ++ ": " ++ type ++ "," =
        fill [("\"", .given name), ("\"" ++ ": ", .given type)] "," := by
      simp only [inQuotes, fill, Hole.text, String.append_assoc]
    change LocalsAmong names given (inQuotes name ++ ": " ++ type ++ ",")
    rw [filled]
    obtain ⟨isName, isType⟩ := each _ member
    exact localsAmong_fill rfl ⟨localsAmong_of_mem isName, localsAmong_of_mem isType⟩

theorem localsAmong_objectValue {field : String} {fields : NameMap FieldPlan}
    (each : ∀ part ∈ fields, ∀ text ∈ partTexts part, text ∈ given) :
    LocalsAmong (objectValue field fields).variables given
      (Expression.render (objectValue field fields)) := by
  have types : LocalsAmong (objectValue field fields).variables given
      (attrTypesLiteral (fields.map fun part => (part.1, part.2.attrType))) := by
    refine localsAmong_attrTypesLiteral fun entry listed => ?_
    obtain ⟨part, member, rfl⟩ := List.mem_map.mp listed
    exact ⟨each part member _ (.head _), each part member _ (.tail _ (.head _))⟩
  have entries : LocalsAmong (objectValue field fields).variables given
      ("\n".intercalate ((fields.map (partEntry field)).map Expression.render)) := by
    rw [List.map_map]
    refine localsAmong_intercalate fun text listed => ?_
    obtain ⟨part, member, rfl⟩ := List.mem_map.mp listed
    refine (localsAmong_partEntry (each part member)).mono (fun name needs => ?_) fun _ own => own
    rw [variables_objectValue]
    exact List.mem_flatMap_of_mem member needs
  have filled : Expression.render (objectValue field fields) =
      fill [("types.ObjectValue(",
          .given (attrTypesLiteral (fields.map fun part => (part.1, part.2.attrType)))),
        (", map[string]attr.Value" ++ openBrace ++ "\n",
          .given ("\n".intercalate ((fields.map (partEntry field)).map Expression.render)))]
        ("\n" ++ closeBrace ++ ")") := by
    rw [objectValue, render_append, render_append, render_singleton, render_singleton,
      render_joinLines]
    simp only [Piece.render, fill, Hole.text, String.append_assoc]
  rw [filled]
  exact localsAmong_fill rfl ⟨types, entries⟩

end PlanTexts

/-! ## What texts show -/

/-- Whether the text of an expression shows its variables, and besides them only local variables that
are in some texts given. -/
structure Expression.Shows (given : List String) (expression : Expression) : Prop where
  locals : LocalsAmong expression.variables given (Expression.render expression)
  stands : ∀ name ∈ expression.variables, Stands name (Expression.render expression)

/-- Whether the text of a statement shows the variables of the statement: it declares those that the
statement introduces, those that it needs stand in it, and other local variables do only if they are
in some texts given. -/
structure Statement.Shows (given : List String) (statement : Statement) : Prop where
  locals : LocalsAmong (statement.introduced ++ statement.needed) given statement.render
  introduced : ∀ name, Declares statement.render name ↔ name ∈ statement.introduced
  needed : ∀ name ∈ statement.needed, Stands name statement.render

structure FieldCode.ShowsLocals (code : FieldCode) (given : List String) : Prop where
  preamble : ∀ statement ∈ code.preamble, statement.Shows given
  value : ∀ value ∈ code.value, Expression.Shows given value

section Statements

variable {given : List String} {name : String}

theorem shows_variable (word : isWord name = true) : Expression.Shows given [.var name] := by
  have filled : Expression.render [.var name] = fill [("", .localName name word)] "" := by
    simp only [render_singleton, Piece.render, fill, Hole.text, String.empty_append,
      String.append_empty]
  refine ⟨?_, List.forall_mem_singleton.mpr ?_⟩
  · rw [filled]
    exact localsAmong_fill rfl (List.mem_singleton_self _)
  · rw [render_singleton]
    exact stands_self name

/-- A text without variables has to be free of local ones. -/
theorem shows_text {text : String} (locals : LocalsAmong [] given (Expression.render [.text text])) :
    Expression.Shows given [.text text] :=
  ⟨locals, List.forall_mem_nil _⟩

/-- The type of a declared variable is among the texts given, since it may be external. -/
theorem shows_declare {type : String} (word : isWord name = true) (member : type ∈ given) :
    (Statement.declare name type).Shows given := by
  have filled : (Statement.declare name type).render =
      fill [("var ", .localName name word), (" ", .given type)] "" := by
    simp only [Statement.render_declare, fill, Hole.text, String.append_empty, String.append_assoc]
  refine ⟨?_, fun other => ?_, List.forall_mem_nil _⟩
  · rw [filled]
    exact localsAmong_fill rfl ⟨.head _, localsAmong_of_mem member⟩
  · rw [Statement.render_declare]
    exact (declares_typed_iff word).trans List.mem_singleton.symm

/-- A definition shows what its value shows. -/
theorem shows_define {value : Expression} (word : isWord name = true)
    (ofValue : Expression.Shows given value) : (Statement.define name value).Shows given := by
  refine ⟨?_, fun other => ?_, fun other needs => ?_⟩
  · refine localsAmong_define word (.head _) (ofValue.locals.mono (fun name needs => ?_)
      fun _ own => own)
    exact List.mem_append_right _ needs
  · rw [Statement.render_define]
    exact declares_defined_iff word
  · rw [Statement.render_define]
    refine (ofValue.stands other needs).behind ?_
    rw [String.toList_append, List.getLast?_append]
    rfl

theorem shows_keepDiagnostics : Statement.keepDiagnostics.Shows given := by
  refine ⟨localsAmong_literal rfl, fun other => ?_, List.forall_mem_singleton.mpr ?_⟩
  · exact iff_of_false (not_declares_call "Append(d...)") List.not_mem_nil
  · have split : Statement.keepDiagnostics.render =
        "diags.Append(" ++ diagnosticsVariable ++ "...)" := rfl
    rw [split]
    exact ((stands_self diagnosticsVariable).behind rfl).before rfl

theorem shows_readElements {field : String} (word : isWord name = true) :
    (Statement.readElements (valueField field) [.var name]).Shows given := by
  have filled : (Statement.readElements (valueField field) [.var name]).render =
      fill [("diags.Append(" ++ "v.", .selected (pascalCase field) (isWord_pascalCase field)),
        (".ElementsAs(ctx, &", .localName name word)] ", false)...)" := by
    simp only [Statement.render_readElements, render_singleton, Piece.render, valueField, fill,
      Hole.text, String.append_assoc]
  refine ⟨?_, fun other => ?_, List.forall_mem_singleton.mpr ?_⟩
  · rw [filled]
    exact localsAmong_fill rfl ⟨trivial, .head _⟩
  · refine iff_of_false ?_ List.not_mem_nil
    rw [Statement.render_readElements]
    have split : "diags.Append(" ++ valueField field ++ ".ElementsAs(ctx, &" ++
        Expression.render [.var name] ++ ", false)...)" =
        "diags." ++ ("Append(" ++ (valueField field ++ (".ElementsAs(ctx, &" ++
          (Expression.render [.var name] ++ ", false)...)")))) := by
      simp only [← String.append_assoc]
      rfl
    rw [split]
    exact not_declares_call _
  · rw [Statement.render_readElements, render_singleton]
    refine ((stands_self name).behind ?_).before rfl
    rw [String.toList_append, List.getLast?_append]
    rfl

end Statements

/-! ## Conversions as texts -/

section Conversions

variable {given : List String}

/-- The entry of a field in the literal of an object shows the variable of the field. -/
theorem stands_partEntry {field name : String} {part : String × FieldPlan}
    (needs : name ∈ (partEntry field part).variables) :
    Stands name (Expression.render (partEntry field part)) := by
  obtain ⟨key, attrType, valueType, plan⟩ := part
  cases plan with
  | function function => cases needs
  | collection kind elementType nativeType =>
    obtain rfl := List.mem_singleton.mp needs
    have split : Expression.render (partEntry field
          (key, ⟨attrType, valueType, .collection kind elementType nativeType⟩)) =
        (inQuotes key ++ ": ") ++ partVariable field key ++ "," := by
      simp only [partEntry, Expression.render, List.map_cons, List.map_nil, String.join_cons,
        String.join_nil, Piece.render, String.append_assoc, String.append_empty]
    rw [split]
    refine ((stands_self _).behind ?_).before rfl
    rw [String.toList_append, List.getLast?_append]
    rfl

private theorem stands_intercalate {name text : String} {texts : List String}
    (stands : Stands name text) (member : text ∈ texts) : Stands name ("\n".intercalate texts) := by
  induction texts with
  | nil => cases member
  | cons first rest ih =>
    cases rest with
    | nil =>
      rw [String.intercalate_singleton]
      exact List.mem_singleton.mp member ▸ stands
    | cons second rest =>
      rw [String.intercalate_cons_cons]
      rcases List.mem_cons.mp member with rfl | member
      · rw [String.append_assoc]
        refine stands.before ?_
        rw [String.toList_append]
        rfl
      · refine (ih member).behind ?_
        rw [String.toList_append, List.getLast?_append]
        rfl

theorem shows_objectValue {field : String} {fields : NameMap FieldPlan}
    (each : ∀ part ∈ fields, ∀ text ∈ partTexts part, text ∈ given) :
    Expression.Shows given (objectValue field fields) := by
  refine ⟨localsAmong_objectValue each, fun name needs => ?_⟩
  rw [variables_objectValue] at needs
  obtain ⟨part, member, needs⟩ := List.mem_flatMap.mp needs
  have inEntries : Stands name
      ("\n".intercalate ((fields.map (partEntry field)).map Expression.render)) :=
    stands_intercalate (stands_partEntry needs)
      (List.mem_map_of_mem (List.mem_map_of_mem member))
  rw [objectValue, render_append, render_append, render_singleton, render_singleton,
    render_joinLines]
  refine (inEntries.behind ?_).before rfl
  rw [Piece.render, String.toList_append, List.getLast?_append]
  rfl

/-- A value that is kept shows its variable, beside what is in front of it. -/
theorem showsLocals_kept {name result : String} (before : List Statement) {value : Expression}
    (word : isWord result = true) (ofBefore : ∀ statement ∈ before, statement.Shows given)
    (ofValue : Expression.Shows given value) :
    FieldCode.ShowsLocals {
      name
      preamble := before ++ [.define result value, .keepDiagnostics]
      value := some [.var result] } given := by
  refine ⟨List.forall_mem_append.mpr ⟨ofBefore, ?_⟩, ?_⟩
  · exact List.forall_mem_cons.mpr
      ⟨shows_define word ofValue, List.forall_mem_singleton.mpr shows_keepDiagnostics⟩
  · rintro _ ⟨⟩
    exact shows_variable word

/-- By cases on whether the part is a collection, which has two statements. -/
theorem shows_partStatements {field : String} {part : String × FieldPlan}
    (each : ∀ text ∈ partTexts part, text ∈ given) :
    ∀ statement ∈ partStatements field part, statement.Shows given := by
  obtain ⟨name, attrType, valueType, plan⟩ := part
  cases plan with
  | function name => exact List.forall_mem_nil _
  | collection kind elementType nativeType =>
    have ofElement : elementType ∈ given := each _ (.tail _ (.tail _ (.head _)))
    refine List.forall_mem_cons.mpr ⟨?_, List.forall_mem_singleton.mpr shows_keepDiagnostics⟩
    exact shows_define (isWord_partVariable field name) (shows_text
      (localsAmong_collectionFrom kind (localsAmong_of_mem ofElement)
        (localsAmong_nativePart field name)))

/-- All texts of a field are those of its statements and its value. -/
theorem Plan.showsLocals_toNative (plan : Plan) (field target : String) :
    (plan.toNative field target).ShowsLocals plan.texts := by
  have word := isWord_nativeVariable field
  cases plan with
  | value plan =>
    cases plan with
    | function name =>
      refine ⟨List.forall_mem_nil _, ?_⟩
      rintro _ ⟨⟩
      have filled : Expression.render [.text (valueField field ++ "." ++ name ++ "()")] =
          fill [("v.", .selected (pascalCase field) (isWord_pascalCase field)), (".", .given name)]
            "()" := by
        simp only [render_singleton, Piece.render, valueField, fill, Hole.text, String.append_assoc]
      refine shows_text ?_
      rw [filled]
      exact localsAmong_fill rfl ⟨trivial, localsAmong_of_mem (.head _)⟩
    | collection kind elementType nativeType =>
      refine ⟨List.forall_mem_cons.mpr ⟨?_, List.forall_mem_singleton.mpr ?_⟩, ?_⟩
      · exact shows_declare word (.tail _ (.head _))
      · exact shows_readElements word
      · rintro _ ⟨⟩
        exact shows_variable word
  | external external valueType =>
    refine showsLocals_kept [] word (List.forall_mem_nil _) (shows_text ?_)
    have method : isWord ("To" ++ (ExternalName.ofType external.type).pascal) = true := by
      rw [isWord_append, ExternalName.pascal, isWord_pascalCase]
      decide
    have filled : Expression.render [.text (valueField field ++ "." ++
          ("To" ++ (ExternalName.ofType external.type).pascal) ++ "(ctx)")] =
        fill [("v.", .selected (pascalCase field) (isWord_pascalCase field)),
          (".", .selected _ method)] "(ctx)" := by
      simp only [render_singleton, Piece.render, valueField, fill, Hole.text, String.append_assoc]
    rw [filled]
    exact localsAmong_fill rfl ⟨trivial, trivial⟩
  | object fields =>
    refine ⟨List.forall_mem_nil _, ?_⟩
    rintro _ ⟨⟩

/-- On the way back the parts of an object have statements of their own. -/
theorem Plan.showsLocals_ofNative (plan : Plan) (field : String) :
    (plan.ofNative field).ShowsLocals plan.texts := by
  have word := isWord_valueVariable field
  cases plan with
  | value plan =>
    cases plan with
    | function name =>
      refine ⟨List.forall_mem_nil _, ?_⟩
      rintro _ ⟨⟩
      have filled : Expression.render [.text ("types." ++ name ++ "(" ++ nativeField field ++ ")")] =
          fill [("types.", .given name), ("(", .given (nativeField field))] ")" := by
        simp only [render_singleton, Piece.render, fill, Hole.text, String.append_assoc]
      refine shows_text ?_
      rw [filled]
      exact localsAmong_fill rfl ⟨localsAmong_of_mem (.head _), localsAmong_nativeField field⟩
    | collection kind elementType nativeType =>
      refine showsLocals_kept [] word (List.forall_mem_nil _) (shows_text ?_)
      exact localsAmong_collectionFrom kind (localsAmong_of_mem (.head _))
        (localsAmong_nativeField field)
  | external external valueType =>
    refine showsLocals_kept [] word (List.forall_mem_nil _) (shows_text ?_)
    have method : isWord ("From" ++ (ExternalName.ofType external.type).pascal) = true := by
      rw [isWord_append, ExternalName.pascal, isWord_pascalCase]
      decide
    have filled : Expression.render [.text (emptyComposite valueType ++ "." ++
          ("From" ++ (ExternalName.ofType external.type).pascal) ++ "(ctx, " ++
          nativeField field ++ ")")] =
        fill [("", .given valueType), (openBrace ++ closeBrace ++ ".", .selected _ method),
          ("(ctx, ", .given (nativeField field))] ")" := by
      simp only [render_singleton, Piece.render, emptyComposite, fill, Hole.text,
        String.empty_append, String.append_assoc]
    rw [filled]
    exact localsAmong_fill rfl
      ⟨localsAmong_of_mem (.head _), trivial, localsAmong_nativeField field⟩
  | object fields =>
    have each : ∀ part ∈ fields, ∀ text ∈ partTexts part, text ∈ Plan.texts (.object fields) :=
      fun part member text own => List.mem_flatMap_of_mem member own
    refine showsLocals_kept _ word ?_ (shows_objectValue each)
    intro statement listed
    obtain ⟨part, member, listed⟩ := List.mem_flatMap.mp listed
    exact shows_partStatements (each part member) statement listed

end Conversions

/-! ## Scope in texts -/

/-- Whether the local variables that stand in the texts of a conversion are declared before, except
for those in some texts given, and whether the variables that are declared stand in a text behind. -/
structure FieldText.Scoped (code : FieldText) (given : List String) : Prop where
  declared : ∀ {before line after}, code.preamble = before ++ line :: after →
    ∀ name, IsLocal name → Stands name line →
      (Declares line name ∨ ∃ earlier ∈ before, Declares earlier name) ∨
        ∃ own ∈ given, Stands name own
  ofValue : ∀ value ∈ code.value, ∀ name, IsLocal name → Stands name value →
    (∃ line ∈ code.preamble, Declares line name) ∨ ∃ own ∈ given, Stands name own
  used : ∀ {before line after}, code.preamble = before ++ line :: after →
    ∀ name, Declares line name →
      (∃ later ∈ after, Stands name later) ∨ ∃ value ∈ code.value, Stands name value

theorem FieldCode.mem_valueVariables_iff {code : FieldCode} {name : String} :
    name ∈ code.valueVariables ↔ ∃ value ∈ code.value, name ∈ value.variables := by
  rw [valueVariables]
  cases code.value with
  | none =>
    refine iff_of_false List.not_mem_nil ?_
    rintro ⟨value, ⟨⟩, -⟩
  | some value =>
    constructor
    · exact fun needs => ⟨value, rfl, needs⟩
    · rintro ⟨_, ⟨⟩, needs⟩
      exact needs

/-- Where the text of a preamble is cut, the statements are. -/
theorem FieldCode.exists_split_of_render {code : FieldCode} {before after : List String}
    {line : String} (split : code.render.preamble = before ++ line :: after) :
    ∃ earlier statement later, code.preamble = earlier ++ statement :: later ∧
      before = earlier.map Statement.render ∧ line = statement.render ∧
      after = later.map Statement.render := by
  obtain ⟨earlier, rest, same, rfl, ofRest⟩ := List.map_eq_append_iff.mp split
  obtain ⟨statement, later, rfl, rfl, rfl⟩ := List.map_eq_cons_iff.mp ofRest
  exact ⟨earlier, statement, later, same, rfl, rfl, rfl⟩

/-- Code whose variables are in scope has texts whose variables are, if the texts show them. -/
theorem FieldCode.Scoped.render {code : FieldCode} {given : List String} (inScope : code.Scoped)
    (shows : code.ShowsLocals given) : code.render.Scoped given := by
  refine ⟨?_, ?_, ?_⟩
  · intro before line after cut name isLocal stands
    obtain ⟨earlier, statement, later, split, rfl, rfl, rfl⟩ := exists_split_of_render cut
    have member : statement ∈ code.preamble :=
      split ▸ List.mem_append_right _ (List.mem_cons_self ..)
    refine ((shows.preamble statement member).locals name isLocal stands).imp_left fun kept => ?_
    rcases List.mem_append.mp kept with introduces | needs
    · exact .inl (((shows.preamble statement member).introduced name).mpr introduces)
    · obtain ⟨first, listed, introduces⟩ := inScope.declared split name needs
      have inPreamble : first ∈ code.preamble := split ▸ List.mem_append_left _ listed
      exact .inr ⟨first.render, List.mem_map_of_mem listed,
        ((shows.preamble first inPreamble).introduced name).mpr introduces⟩
  · intro text isText name isLocal stands
    obtain ⟨value, isValue, rfl⟩ := Option.map_eq_some_iff.mp isText
    refine ((shows.value value isValue).locals name isLocal stands).imp_left fun needs => ?_
    have ofValue := FieldCode.mem_valueVariables_iff.mpr ⟨value, isValue, needs⟩
    obtain ⟨statement, listed, introduces⟩ := inScope.ofValue name ofValue
    exact ⟨statement.render, List.mem_map_of_mem listed,
      ((shows.preamble statement listed).introduced name).mpr introduces⟩
  · intro before line after cut name declares
    obtain ⟨earlier, statement, later, split, rfl, rfl, rfl⟩ := exists_split_of_render cut
    have member : statement ∈ code.preamble :=
      split ▸ List.mem_append_right _ (List.mem_cons_self ..)
    have introduces := ((shows.preamble statement member).introduced name).mp declares
    rcases inScope.used split name introduces with ⟨last, listed, needs⟩ | needs
    · have inPreamble : last ∈ code.preamble :=
        split ▸ List.mem_append_right _ (List.mem_cons_of_mem _ listed)
      exact .inl ⟨last.render, List.mem_map_of_mem listed,
        (shows.preamble last inPreamble).needed name needs⟩
    · obtain ⟨value, isValue, needs⟩ := FieldCode.mem_valueVariables_iff.mp needs
      exact .inr ⟨Expression.render value, Option.map_eq_some_iff.mpr ⟨value, isValue, rfl⟩,
        (shows.value value isValue).stands name needs⟩

/-- Whether the code that converts a field keeps its variables in scope, in statements and in texts. -/
structure FieldCode.InScope (code : FieldCode) (given : List String) : Prop where
  /-- No statement needs a variable that none before it introduces, nor does the value, and what is
  introduced is needed behind, by a statement or by the value. -/
  statements : code.Scoped
  /-- What the text of a statement declares is what the statement introduces. -/
  declares : ∀ statement ∈ code.preamble, ∀ name,
    Declares statement.render name ↔ name ∈ statement.introduced
  /-- The same is true of the texts, except for what is in some texts given. -/
  texts : code.render.Scoped given

/-- Scope is known of statements and carries over to their texts, which show the same variables. -/
theorem FieldCode.Scoped.inScope {code : FieldCode} {given : List String} (statements : code.Scoped)
    (shows : code.ShowsLocals given) : code.InScope given where
  statements
  declares statement listed := (shows.preamble statement listed).introduced
  texts := statements.render shows

section LocalNames

variable (field part : String)

theorem isLocal_nativeVariable : IsLocal (nativeVariable field) :=
  ⟨_, "Field", .head _, rfl, isWord_camelCase field⟩

theorem isLocal_valueVariable : IsLocal (valueVariable field) :=
  ⟨_, "Val", .tail _ (.head _), rfl, isWord_camelCase field⟩

theorem isLocal_partVariable : IsLocal (partVariable field part) := by
  refine ⟨_, "Val", .tail _ (.head _), rfl, ?_⟩
  rw [isWord_append, isWord_camelCase, isWord_pascalCase]
  rfl

end LocalNames

/-! ## Values that are absent -/

theorem append_ne_empty {last : String} (nonempty : last ≠ "") (first : String) :
    first ++ last ≠ "" :=
  fun empty => nonempty (String.append_eq_empty_iff.mp empty).2

theorem render_singleton_ne_empty {piece : Piece} (nonempty : piece.render ≠ "") :
    Expression.render [piece] ≠ "" := by
  rwa [render_singleton]

section Entries

variable {code : FieldText} {text : String}

theorem FieldText.valueEntry_of_value (given : code.value = some text) :
    code.valueEntry = line (code.name ++ ": " ++ text ++ ",") := by
  rw [valueEntry, given]
  rfl

/-- Only a value that is empty would leave its entry out. -/
theorem FieldText.nativeEntry_of_value (given : code.value = some text) (nonempty : text ≠ "") :
    code.nativeEntry = [line (code.name ++ ": " ++ text ++ ",")] := by
  have occupied : text.isEmpty = false := String.isEmpty_eq_false_iff.mpr nonempty
  simp only [nativeEntry, given, occupied]
  rfl

end Entries

namespace Plan

theorem name_toNative (plan : Plan) (field target : String) :
    (plan.toNative field target).name = pascalCase field := by
  cases plan with
  | value plan => cases plan <;> rfl
  | external external valueType => rfl
  | object fields => rfl

theorem name_ofNative (plan : Plan) (field : String) :
    (plan.ofNative field).name = pascalCase field := by
  cases plan with
  | value plan => cases plan <;> rfl
  | external external valueType => rfl
  | object fields => rfl

/-- Code from the native form has a value, whatever the plan. -/
theorem exists_value_ofNative (plan : Plan) (field : String) :
    ∃ value, (plan.ofNative field).value = some value ∧ Expression.render value ≠ "" := by
  have kept : Expression.render [.var (valueVariable field)] ≠ "" :=
    render_singleton_ne_empty (append_ne_empty (by decide) _)
  cases plan with
  | value plan =>
    cases plan with
    | function name => exact ⟨_, rfl, render_singleton_ne_empty (append_ne_empty (by decide) _)⟩
    | collection kind elementType nativeType => exact ⟨_, rfl, kept⟩
  | external external valueType => exact ⟨_, rfl, kept⟩
  | object fields => exact ⟨_, rfl, kept⟩

/-- Code to the native form is a value behind a preamble, or for an object a statement a field. -/
theorem toNative_cases (plan : Plan) (field target : String) :
    ((∃ fields, plan = .object fields) ∧ (plan.toNative field target).value = none) ∨
      (∀ fields, plan ≠ .object fields) ∧ (plan.toNative field target).post = [] ∧
        ∃ value, (plan.toNative field target).value = some value ∧ Expression.render value ≠ "" := by
  have kept : Expression.render [.var (nativeVariable field)] ≠ "" :=
    render_singleton_ne_empty (append_ne_empty (by decide) _)
  cases plan with
  | value plan =>
    refine .inr ⟨nofun, ?_⟩
    cases plan with
    | function name =>
      exact ⟨rfl, _, rfl, render_singleton_ne_empty (append_ne_empty (by decide) _)⟩
    | collection kind elementType nativeType => exact ⟨rfl, _, rfl, kept⟩
  | external external valueType => exact .inr ⟨nofun, rfl, _, rfl, kept⟩
  | object fields => exact .inl ⟨⟨fields, rfl⟩, rfl⟩

/-- What Go asks of the code that converts a field by a plan, in both directions. -/
structure LocalsInScope (plan : Plan) (field target : String) : Prop where
  toNative : (plan.toNative field target).InScope plan.texts
  ofNative : (plan.ofNative field).InScope plan.texts
  /-- The variables that conversions have for fields are local. -/
  areLocal : IsLocal (nativeVariable field) ∧ IsLocal (valueVariable field) ∧
    ∀ part, IsLocal (partVariable field part)
  /-- The code from the native form has a value, so the word for an absent one is never printed. -/
  ofNativeValue : ∃ text, (plan.ofNative field).render.value = some text ∧ text ≠ "" ∧
    (plan.ofNative field).render.valueEntry = line (pascalCase field ++ ": " ++ text ++ ",")
  /-- The code to the native form has none for objects, and for objects only. -/
  toNativeAbsent : (plan.toNative field target).render.value = none ↔ ∃ fields, plan = .object fields
  toNativeValue : ∀ text, (plan.toNative field target).render.value = some text →
    text ≠ "" ∧ (plan.toNative field target).render.post = [] ∧
      (plan.toNative field target).render.nativeEntry =
        [line (pascalCase field ++ ": " ++ text ++ ",")]
  /-- For an object nothing is declared, and there is a statement behind for each field. -/
  ofObject : ∀ fields, plan = .object fields →
    ((plan.toNative field target).preamble = [] ∧
      (plan.toNative field target).render.preamble = []) ∧
      (plan.toNative field target).render.post.length = fields.length

/-- The code that converts a field declares its local variables before it uses them and uses them
after it declares them, in both directions. -/
theorem locals_in_scope (plan : Plan) (field target : String) :
    plan.LocalsInScope field target where
  toNative := (plan.scoped_toNative field target).inScope (plan.showsLocals_toNative field target)
  ofNative := (plan.scoped_ofNative field).inScope (plan.showsLocals_ofNative field)
  areLocal := ⟨isLocal_nativeVariable field, isLocal_valueVariable field, isLocal_partVariable field⟩
  ofNativeValue := by
    obtain ⟨value, given, nonempty⟩ := plan.exists_value_ofNative field
    have shown : (plan.ofNative field).render.value = some (Expression.render value) :=
      congrArg (Option.map _) given
    refine ⟨Expression.render value, shown, nonempty, ?_⟩
    rw [FieldText.valueEntry_of_value shown, FieldCode.render, name_ofNative]
  toNativeAbsent := by
    rcases plan.toNative_cases field target with ⟨isObject, none⟩ | ⟨notObject, -, value, some, -⟩
    · exact iff_of_true (congrArg (Option.map _) none) isObject
    · refine iff_of_false (fun none => ?_) (not_exists.mpr notObject)
      cases none.symm.trans (congrArg (Option.map Expression.render) some)
  toNativeValue := by
    intro text shown
    rcases plan.toNative_cases field target with ⟨-, none⟩ | ⟨-, post, value, some, nonempty⟩
    · cases shown.symm.trans (congrArg (Option.map Expression.render) none)
    · cases shown.symm.trans (congrArg (Option.map Expression.render) some)
      refine ⟨nonempty, congrArg (List.map _) post, ?_⟩
      rw [FieldText.nativeEntry_of_value shown nonempty, FieldCode.render, name_toNative]
  ofObject := by
    rintro fields rfl
    exact ⟨⟨rfl, rfl⟩, (List.length_map ..).trans (List.length_map ..)⟩

end Plan

/-- An object of two lists and a text. -/
def hostPlan : Plan :=
  .object [
    ("addresses", ⟨"types.ListType", "basetypes.ListValue",
      .collection .list "types.StringType" "[]string"⟩),
    ("name", ⟨"types.StringType", "basetypes.StringValue", .function "StringPointerValue"⟩),
    ("ports", ⟨"types.ListType", "basetypes.ListValue",
      .collection .list "types.Int64Type" "[]int64"⟩)]

/-- Each statement that defines a variable is followed by one that keeps the diagnostics. -/
theorem hostPlan_locals :
    (hostPlan.ofNative "host").preamble.map Statement.introduced =
        [["hostAddressesVal", "d"], [], ["hostPortsVal", "d"], [], ["hostVal", "d"], []] ∧
      (hostPlan.ofNative "host").Scoped ∧
      (hostPlan.ofNative "host").render.Scoped hostPlan.texts ∧
      (hostPlan.toNative "host" "target").render.value = none ∧
      (hostPlan.toNative "host" "target").render.preamble = [] ∧
      (hostPlan.toNative "host" "target").render.post.length = 3 := by
  have inScope := Plan.locals_in_scope hostPlan "host" "target"
  obtain ⟨⟨-, nothing⟩, each⟩ := inScope.ofObject _ rfl
  exact ⟨by decide, inScope.ofNative.statements, inScope.ofNative.texts,
    inScope.toNativeAbsent.mpr ⟨_, rfl⟩, nothing, each⟩

end ProviderCodegen.Conversion
