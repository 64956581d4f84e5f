import ProviderCodegen.Proofs.Schema.ConversionLocals
import ProviderCodegen.Proofs.Schema.ObjectTexts
import ProviderCodegen.Proofs.Text.Pascal

/-! # The scope of conversion code

Go refuses a variable that is not declared and one that is declared and not used. In the code that
converts a field, every statement needs only variables that a statement before it introduces, and
what a statement introduces is needed behind it, by a statement or by the value. The statements for
an object grow with its fields: those of one field introduce what its entry in the literal needs
(`partStatements`, `partEntry`), and the literal comes behind them all. Which variables a text
declares is read from the text alone (`Declares`).
-/

namespace ProviderCodegen.Conversion

open Text (isWord)

/-! ## Variables of statements -/

/-- The variable for the diagnostics that come with a value. -/
def diagnosticsVariable : String := "d"

namespace Statement

/-- The variables that a statement brings into scope, the one for diagnostics among them. -/
def introduced : Statement → List String
  | define name _ => [name, diagnosticsVariable]
  | statement => statement.declared

/-- The variables that a statement takes from the scope, the one for diagnostics among them. -/
def needed : Statement → List String
  | keepDiagnostics => [diagnosticsVariable]
  | whenTyped _ _ body => body.needed
  | statement => statement.used

end Statement

def FieldCode.valueVariables (code : FieldCode) : List String :=
  (code.value.map Expression.variables).getD []

/-- Whether the variables of a conversion are declared before they are used and used after they are
declared. -/
structure FieldCode.Scoped (code : FieldCode) : Prop where
  declared : ∀ {before statement after}, code.preamble = before ++ statement :: after →
    ∀ name ∈ statement.needed, ∃ earlier ∈ before, name ∈ earlier.introduced
  ofValue : ∀ name ∈ code.valueVariables, ∃ statement ∈ code.preamble, name ∈ statement.introduced
  used : ∀ {before statement after}, code.preamble = before ++ statement :: after →
    ∀ name ∈ statement.introduced,
      (∃ later ∈ after, name ∈ later.needed) ∨ name ∈ code.valueVariables

/-! ## Statement by statement -/

section Statements

open Statement (introduced needed)

variable {known last : List String} {first second : List Statement}

/-- Whether statements need only what is known or introduced before. -/
def DeclaredFirst (known : List String) : List Statement → Prop
  | [] => True
  | first :: rest =>
      (∀ name ∈ first.needed, name ∈ known) ∧ DeclaredFirst (known ++ first.introduced) rest

/-- Whether what statements introduce is needed behind them, or is among what is needed last. -/
def NeededLater (last : List String) : List Statement → Prop
  | [] => True
  | first :: rest =>
      (∀ name ∈ first.introduced, name ∈ rest.flatMap needed ++ last) ∧ NeededLater last rest

/-- What the first statements introduce is known to those behind them. -/
theorem declaredFirst_append :
    DeclaredFirst known (first ++ second) ↔
      DeclaredFirst known first ∧ DeclaredFirst (known ++ first.flatMap introduced) second := by
  induction first generalizing known with
  | nil => rw [List.flatMap_nil, List.append_nil]; exact (and_iff_right trivial).symm
  | cons statement rest ih =>
    rw [List.cons_append, DeclaredFirst, ih, DeclaredFirst, List.flatMap_cons, List.append_assoc,
      and_assoc]

/-- What the second statements need counts as needed behind the first. -/
theorem neededLater_append :
    NeededLater last (first ++ second) ↔
      NeededLater (second.flatMap needed ++ last) first ∧ NeededLater last second := by
  induction first with
  | nil => exact (and_iff_right trivial).symm
  | cons statement rest ih =>
    rw [List.cons_append, NeededLater, ih, NeededLater, List.flatMap_append, List.append_assoc,
      and_assoc]

theorem NeededLater.mono {more : List String} (needed : NeededLater last first)
    (sub : ∀ name ∈ last, name ∈ more) : NeededLater more first := by
  induction first with
  | nil => trivial
  | cons statement rest ih =>
    refine ⟨fun name introduces => ?_, ih needed.2⟩
    exact List.mem_append.mpr ((List.mem_append.mp (needed.1 name introduces)).imp_right (sub name))

variable {ι : Type} {items : List ι} {statements : ι → List Statement}

/-- Statements that need nothing from those for other items can follow any of them. -/
theorem declaredFirst_flatMap
    (each : ∀ item ∈ items, ∀ known, DeclaredFirst known (statements item)) :
    DeclaredFirst known (items.flatMap statements) := by
  induction items generalizing known with
  | nil => trivial
  | cons item rest ih =>
    obtain ⟨ofItem, ofRest⟩ := List.forall_mem_cons.mp each
    exact declaredFirst_append.mpr ⟨ofItem known, ih ofRest⟩

theorem neededLater_flatMap (each : ∀ item ∈ items, NeededLater last (statements item)) :
    NeededLater last (items.flatMap statements) := by
  induction items with
  | nil => trivial
  | cons item rest ih =>
    obtain ⟨ofItem, ofRest⟩ := List.forall_mem_cons.mp each
    refine neededLater_append.mpr ⟨ofItem.mono fun _ => ?_, ih ofRest⟩
    exact List.mem_append_right _

end Statements

theorem FieldCode.scoped_of {code : FieldCode} (declared : DeclaredFirst [] code.preamble)
    (needed : NeededLater code.valueVariables code.preamble)
    (ofValue : ∀ name ∈ code.valueVariables, name ∈ code.preamble.flatMap Statement.introduced) :
    code.Scoped := by
  refine ⟨?_, fun name needs => List.mem_flatMap.mp (ofValue name needs), ?_⟩
  · intro before statement after split name needs
    rw [split, declaredFirst_append] at declared
    exact List.mem_flatMap.mp (declared.2.1 name needs)
  · intro before statement after split name introduces
    rw [split, neededLater_append] at needed
    exact (List.mem_append.mp (needed.2.1 name introduces)).imp_left List.mem_flatMap.mp

/-! ## Expressions and statements of plans -/

section Plans

variable {known last : List String}

theorem variables_append (first second : Expression) :
    Expression.variables (first ++ second) = first.variables ++ second.variables :=
  List.filterMap_append

theorem variables_joinLines (entries : List Expression) :
    (joinLines entries).variables = entries.flatMap Expression.variables := by
  induction entries with
  | nil => rfl
  | cons first rest ih =>
    cases rest with
    | nil => rw [joinLines, List.flatMap_singleton]
    | cons second rest =>
      have split : joinLines (first :: second :: rest) =
          first ++ [.text "\n"] ++ joinLines (second :: rest) := rfl
      rw [split, variables_append, variables_append, ih]
      exact congrArg (· ++ _) (List.append_nil _)

/-- The literal of an object needs what its entries need. -/
theorem variables_objectValue (field : String) (fields : NameMap FieldPlan) :
    (objectValue field fields).variables =
      fields.flatMap fun part => (partEntry field part).variables := by
  rw [objectValue, variables_append, variables_append, variables_joinLines, List.flatMap_map]
  exact List.append_nil _

/-- A value that is kept with its diagnostics needs its own variables only. -/
theorem declaredFirst_define {name : String} {value : Expression} :
    DeclaredFirst known [.define name value, .keepDiagnostics] ↔
      ∀ needed ∈ value.variables, needed ∈ known := by
  refine and_iff_left ⟨?_, trivial⟩
  exact List.forall_mem_singleton.mpr (List.mem_append_right _ (.tail _ (.head _)))

/-- The diagnostics are always kept in the next statement, so only the value must be needed
later. -/
theorem neededLater_define {name : String} {value : Expression} :
    NeededLater last [.define name value, .keepDiagnostics] ↔
      name ∈ diagnosticsVariable :: last := by
  constructor
  · exact fun needed => needed.1 name (.head _)
  · refine fun member => ⟨List.forall_mem_cons.mpr ⟨member, ?_⟩, nofun, trivial⟩
    exact List.forall_mem_singleton.mpr (.head _)

theorem declaredFirst_partStatements (field : String) (part : String × FieldPlan) :
    DeclaredFirst known (partStatements field part) := by
  unfold partStatements
  cases part.2.plan with
  | function name => trivial
  | collection kind elementType nativeType =>
    exact declaredFirst_define.mpr nofun

/-- What the statements for a field of an object introduce, the entry of the field needs. -/
theorem neededLater_partStatements {field : String} {part : String × FieldPlan}
    (entry : ∀ name ∈ (partEntry field part).variables, name ∈ last) :
    NeededLater last (partStatements field part) := by
  unfold partStatements
  unfold partEntry at entry
  cases given : part.2.plan with
  | function name => trivial
  | collection kind elementType nativeType =>
    rw [given] at entry
    exact neededLater_define.mpr (.tail _ (entry _ (.head _)))

/-- What the entry of a field of an object needs, the statements for the field introduce. -/
theorem introduced_of_partEntry (field : String) (part : String × FieldPlan) :
    ∀ name ∈ (partEntry field part).variables,
      name ∈ (partStatements field part).flatMap Statement.introduced := by
  unfold partStatements partEntry
  cases part.2.plan with
  | function name => exact nofun
  | collection kind elementType nativeType => exact List.forall_mem_singleton.mpr (.head _)

/-- The conversion of a field by a value that is kept, behind statements for what it needs. -/
theorem scoped_kept {name result : String} (before : List Statement) {value : Expression}
    (declared : DeclaredFirst [] before) (needed : NeededLater value.variables before)
    (ofValue : ∀ name ∈ value.variables, name ∈ before.flatMap Statement.introduced) :
    FieldCode.Scoped {
      name
      preamble := before ++ [.define result value, .keepDiagnostics]
      value := some [.var result] } := by
  refine FieldCode.scoped_of ?_ ?_ ?_
  · exact declaredFirst_append.mpr ⟨declared, declaredFirst_define.mpr ofValue⟩
  · refine neededLater_append.mpr ⟨needed.mono ?_, neededLater_define.mpr (.tail _ (.head _))⟩
    exact fun _ needs => List.mem_append_left _ (List.mem_append_left _ needs)
  · rw [List.flatMap_append]
    exact List.forall_mem_singleton.mpr (List.mem_append_right _ (.head _))

end Plans

namespace Plan

/-- A conversion without a preamble is scoped if its value needs nothing. -/
theorem scoped_toNative (plan : Plan) (field target : String) :
    (plan.toNative field target).Scoped := by
  cases plan with
  | value plan =>
    cases plan with
    | function name => exact FieldCode.scoped_of trivial trivial nofun
    | collection kind elementType nativeType =>
      refine FieldCode.scoped_of ⟨nofun, ?_, trivial⟩ ⟨?_, nofun, trivial⟩ ?_
      · exact fun _ needs => needs
      · exact List.forall_mem_singleton.mpr (.head _)
      · exact List.forall_mem_singleton.mpr (.head _)
  | external external valueType =>
    exact scoped_kept [] trivial trivial nofun
  | object fields => exact FieldCode.scoped_of trivial trivial nofun

/-- By cases on the plan, as each has statements of its own form. -/
theorem scoped_ofNative (plan : Plan) (field : String) : (plan.ofNative field).Scoped := by
  cases plan with
  | value plan =>
    cases plan with
    | function name => exact FieldCode.scoped_of trivial trivial nofun
    | collection kind elementType nativeType =>
      exact scoped_kept [] trivial trivial nofun
  | external external valueType =>
    exact scoped_kept [] trivial trivial nofun
  | object fields =>
    refine scoped_kept _ ?_ ?_ ?_
    · exact declaredFirst_flatMap fun part _ _ => declaredFirst_partStatements field part
    · rw [variables_objectValue]
      refine neededLater_flatMap fun part member => neededLater_partStatements ?_
      exact fun _ needs => List.mem_flatMap_of_mem member needs
    · intro name needs
      rw [variables_objectValue] at needs
      obtain ⟨part, member, needs⟩ := List.mem_flatMap.mp needs
      rw [List.flatMap_assoc]
      exact List.mem_flatMap_of_mem member (introduced_of_partEntry field part name needs)

end Plan

/-! ## Declarations in texts -/

/-- Whether a text is the declaration of a variable: of one with a type, or of one with a value and,
beside it, the variable for diagnostics. -/
inductive Declares : String → String → Prop
  | typed (name type : String) (word : isWord name = true) :
      Declares ("var " ++ name ++ " " ++ type) name
  | defined (name value : String) (word : isWord name = true) :
      Declares (name ++ ", d := " ++ value) name
  | beside (name value : String) (word : isWord name = true) :
      Declares (name ++ ", d := " ++ value) diagnosticsVariable

section Declarations

variable {name other : String}

private theorem toList_typed (name type : String) :
    ("var " ++ name ++ " " ++ type).toList =
      "var".toList ++ ' ' :: (name.toList ++ ' ' :: type.toList) := by
  simp only [String.toList_append, List.append_assoc]
  rfl

private theorem toList_defined (name value : String) :
    (name ++ ", d := " ++ value).toList = name.toList ++ ',' :: (" d := " ++ value).toList := by
  simp only [String.toList_append, List.append_assoc]
  rfl

/-- The texts that declare a variable, by the word that they start with. -/
private theorem declares_cases {text : String} (declares : Declares text name) :
    isWord name = true ∧
      ((∃ type, text.toList = "var".toList ++ ' ' :: (name.toList ++ ' ' :: type)) ∨
        ∃ first rest, isWord first = true ∧ text.toList = first.toList ++ ',' :: rest ∧
          (name = first ∨ name = diagnosticsVariable)) := by
  cases declares with
  | typed name type word => exact ⟨word, .inl ⟨_, toList_typed name type⟩⟩
  | defined name value word => exact ⟨word, .inr ⟨_, _, word, toList_defined name value, .inl rfl⟩⟩
  | beside first value word => exact ⟨rfl, .inr ⟨_, _, word, toList_defined first value, .inr rfl⟩⟩

/-- The declaration of a variable with a type declares this variable only. -/
theorem declares_typed_iff {type : String} (word : isWord name = true) :
    Declares ("var " ++ name ++ " " ++ type) other ↔ other = name := by
  constructor
  · intro declares
    obtain ⟨otherWord, ⟨otherType, same⟩ | ⟨first, rest, firstWord, same, -⟩⟩ :=
      declares_cases declares
    · rw [toList_typed] at same
      have tails := (List.cons.inj (List.append_cancel_left same)).2
      exact (Text.eq_of_word_append word otherWord rfl rfl tails).1.symm
    · rw [toList_typed] at same
      cases (Text.eq_of_word_append rfl firstWord rfl rfl same).2.1
  · rintro rfl
    exact .typed other type word

/-- A definition declares its variable and the one for diagnostics. -/
theorem declares_defined_iff {value : String} (word : isWord name = true) :
    Declares (name ++ ", d := " ++ value) other ↔ other ∈ [name, diagnosticsVariable] := by
  rw [List.mem_cons, List.mem_singleton]
  constructor
  · intro declares
    obtain ⟨-, ⟨type, same⟩ | ⟨first, rest, firstWord, same, names⟩⟩ := declares_cases declares
    · rw [toList_defined] at same
      cases (Text.eq_of_word_append word rfl rfl rfl same).2.1
    · rw [toList_defined] at same
      exact (Text.eq_of_word_append word firstWord rfl rfl same).1 ▸ names
  · rintro (rfl | rfl)
    · exact .defined other value word
    · exact .beside name value word

/-- A call of the diagnostics declares nothing. -/
theorem not_declares_call (rest : String) : ¬ Declares ("diags." ++ rest) name := by
  have split : ("diags." ++ rest).toList = "diags".toList ++ '.' :: rest.toList := by
    rw [String.toList_append]
    rfl
  intro declares
  obtain ⟨-, ⟨type, same⟩ | ⟨first, behind, firstWord, same, -⟩⟩ := declares_cases declares
  · rw [split] at same
    cases (Text.eq_of_word_append rfl rfl rfl rfl same).2.1
  · rw [split] at same
    cases (Text.eq_of_word_append rfl firstWord rfl rfl same).2.1

end Declarations

end ProviderCodegen.Conversion
