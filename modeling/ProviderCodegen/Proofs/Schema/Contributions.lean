import ProviderCodegen.Proofs.Schema.Imports

/-! # What each node contributes to the imports

The contributions of a node are listed part by part, each part once and with every repetition of a
path. Whatever way a node collects them, its imports are the first contribution of every path
(`Node.ownImports_eq`): a set that is added twice changes nothing the second time. The imports of a
schema are then the first contributions of the list of all nodes, each node before those inside.
-/

namespace ProviderCodegen.Schema

open Source (Import ImportSet firsts)
open Spec (CustomType ExternalType Snippet)

/-! ## Parts of nodes -/

/-- What a custom type needs, or what is needed in its absence. -/
def customTypeParts (custom : Option CustomType) (absent : List Import) : List Import :=
  match custom with
  | some custom => custom.package.toList
  | none => absent

def externalTypeParts : Option ExternalType → List Import
  | some external => Source.Framework.conversionImports.entries ++ external.package.toList
  | none => []

/-- What pieces of code need, behind the package that they belong to. -/
def snippetParts (path : String) (snippets : List Snippet) : List Import :=
  if snippets.isEmpty then [] else { path } :: snippets.flatMap (·.imports)

/-- What plan modifiers and validators need. -/
def hookParts (planModifiers validators : List Snippet) : List Import :=
  snippetParts Source.Framework.planModifier planModifiers ++
    snippetParts Source.Framework.validator validators

def defaultParts : Option Default → List Import
  | some (.bool _) => [{ path := Source.Framework.boolDefault }]
  | some (.float64 _) => [{ path := Source.Framework.float64Default }]
  | some (.int64 _) => [{ path := Source.Framework.int64Default }]
  | some (.string _) => [{ path := Source.Framework.stringDefault }]
  | some (.custom snippet) => snippet.imports
  | none => []

mutual

/-- What the expression of an element type needs apart from the framework's types. -/
def ElementType.parts : ElementType → List Import
  | primitive _ (some custom) => custom.package.toList
  | collection _ _ (some custom) => custom.package.toList
  | object _ (some custom) => custom.package.toList
  | primitive _ none => []
  | collection _ element none => element.parts
  | object fields none => { path := Source.Framework.attr } :: fieldParts fields

/-- What the expressions of fields need, in their order. -/
def ElementType.fieldParts : Fields → List Import
  | [] => []
  | (_, type) :: rest => type.parts ++ fieldParts rest

end

def ElementType.contributions (type : ElementType) : List Import :=
  { path := Source.Framework.types } :: type.parts

def Fields.contributions (fields : Fields) : List Import :=
  [{ path := Source.Framework.types }, { path := Source.Framework.attr }] ++
    fields.flatMap fun field => field.2.contributions

def Facets.contributions (facets : Facets) : List Import :=
  customTypeParts facets.customType [{ path := Source.Framework.types }] ++
    hookParts facets.planModifiers facets.validators

def objectTypeParts (custom : Option CustomType) : List Import :=
  customTypeParts custom Source.Framework.valueTypeImports.entries ++
    [{ path := Source.Framework.attr }]

/-- What a node needs itself: its types, hooks, default and element types, without what is inside. -/
def Node.contributions : Node → List Import
  | attr (.primitive _ facets default) => facets.contributions ++ defaultParts default
  | attr (.collection _ facets element default) =>
      facets.contributions ++ defaultParts default ++ element.contributions
  | attr (.nested _ facets item _ default) =>
      externalTypeParts item.externalType ++ facets.contributions ++ defaultParts default ++
        objectTypeParts item.customType ++ hookParts item.planModifiers item.validators
  | attr (.singleNested facets _ external default) =>
      externalTypeParts external ++ objectTypeParts facets.customType ++
        hookParts facets.planModifiers facets.validators ++ defaultParts default
  | attr (.object facets fields external default) =>
      externalTypeParts external ++
        (if external.isSome then objectTypeParts facets.customType
          else customTypeParts facets.customType [{ path := Source.Framework.types }] ++
            [{ path := Source.Framework.attr }]) ++
        hookParts facets.planModifiers facets.validators ++ defaultParts default ++
        fields.contributions
  | block (.nested _ facets item _ _) =>
      externalTypeParts item.externalType ++ facets.contributions ++
        objectTypeParts item.customType ++ hookParts item.planModifiers item.validators
  | block (.singleNested facets _ _ external) =>
      externalTypeParts external ++ objectTypeParts facets.customType ++
        hookParts facets.planModifiers facets.validators

/-- What all nodes need, each before those inside it, and then what the schema function needs. -/
def ResourceSchema.contributions (schema : ResourceSchema) : List Import :=
  (schema.nodes.flatMap fun entry => entry.2.contributions) ++
    [{ path := Source.Framework.context }, { path := Source.Framework.resourceSchema }]

/-! ## Sets of parts -/

theorem ofList_entries_ofList (imports : List Import) :
    ImportSet.ofList (ImportSet.ofList imports).entries = .ofList imports :=
  ImportSet.ofList_entries (ImportSet.wellFormed_ofList imports)

/-- Sets united from the left are the set of all their imports in order. -/
theorem ofList_foldl {α : Type} (items : List α) (imports : α → List Import)
    (start : List Import) :
    items.foldl (fun s item => s ∪ .ofList (imports item)) (.ofList start) =
      ImportSet.ofList (start ++ items.flatMap imports) := by
  induction items generalizing start with
  | nil => rw [List.foldl_nil, List.flatMap_nil, List.append_nil]
  | cons item items ih =>
    rw [List.foldl_cons, ← ImportSet.ofList_append, ih, List.flatMap_cons, List.append_assoc]

theorem customTypeImports_eq (custom : Option CustomType) :
    customTypeImports custom =
      .ofList (customTypeParts custom [{ path := Source.Framework.types }]) := by
  cases custom <;> rfl

/-- The package of attribute types comes last, behind that of the custom type. -/
theorem generatedTypeImports_eq (custom : Option CustomType) :
    generatedTypeImports custom ∪ .ofPaths [Source.Framework.attr] =
      .ofList (objectTypeParts custom) := by
  rw [objectTypeParts, ImportSet.ofList_append]
  cases custom with
  | none => exact congrArg (· ∪ _) (ofList_entries_ofList _).symm
  | some custom => rfl

theorem externalTypeImports_eq (external : Option ExternalType) :
    externalTypeImports external = .ofList (externalTypeParts external) := by
  cases external with
  | none => rfl
  | some external =>
    rw [externalTypeParts, ImportSet.ofList_append]
    exact congrArg (· ∪ _) (ofList_entries_ofList _).symm

theorem snippetImports_eq (path : String) (snippets : List Snippet) :
    snippetImports path snippets = .ofList (snippetParts path snippets) := by
  rw [snippetImports, snippetParts]
  split_ifs with without
  · rfl
  · exact ofList_foldl snippets (·.imports) [{ path }]

theorem hookImports_eq (planModifiers validators : List Snippet) :
    hookImports planModifiers validators = .ofList (hookParts planModifiers validators) := by
  rw [hookImports, snippetImports_eq, snippetImports_eq, ← ImportSet.ofList_append, hookParts]

/-- Only defaults that are not custom code need a package of the framework. -/
theorem defaultImports_eq (default : Option Default) :
    defaultImports default = .ofList (defaultParts default) := by
  rcases default with _ | default
  · rfl
  · cases default <;> rfl

theorem Facets.imports_eq (facets : Facets) : facets.imports = .ofList facets.contributions := by
  rw [imports, customTypeImports_eq, hookImports_eq, ← ImportSet.ofList_append, contributions]

mutual

/-- By induction on the type, with the types inside behind the outermost one. -/
theorem ElementType.partImports_eq : ∀ type : ElementType, type.partImports = .ofList type.parts
  | primitive _ (some _) => rfl
  | collection _ _ (some _) => rfl
  | object _ (some _) => rfl
  | primitive _ none => rfl
  | collection _ element none => by rw [partImports, parts, partImports_eq element]
  | object fields none => partImportsAll_ofList [{ path := Source.Framework.attr }] fields

/-- The accumulator holds what the fields before have contributed. -/
theorem ElementType.partImportsAll_ofList (start : List Import) : ∀ fields : Fields,
    partImportsAll (.ofList start) fields = .ofList (start ++ fieldParts fields)
  | [] => by rw [partImportsAll, fieldParts, List.append_nil]
  | (_, type) :: rest => by
    rw [partImportsAll, fieldParts, partImports_eq type, ← ImportSet.ofList_append,
      partImportsAll_ofList (start ++ type.parts) rest, List.append_assoc]

end

theorem ElementType.imports_eq (type : ElementType) : type.imports = .ofList type.contributions := by
  rw [imports, partImports_eq]
  exact (ImportSet.ofList_append [{ path := Source.Framework.types }] type.parts).symm

theorem Fields.imports_eq (fields : Fields) :
    Fields.imports fields = .ofList (Fields.contributions fields) := by
  have each : (fun (s : ImportSet) (field : String × ElementType) => s ∪ field.2.imports) =
      fun s field => s ∪ .ofList field.2.contributions := by
    funext s field
    rw [ElementType.imports_eq]
  rw [Fields.imports, each]
  exact ofList_foldl fields (fun field => field.2.contributions) _

/-! ## Nodes -/

/-- The object of a collection needs the packages of its external type, which the collection has
imported first, so they add nothing. -/
theorem nestedImports_eq_ofList (facets : Facets) (object : ObjectFacets)
    (default : Option Default) :
    nestedImports facets object default .empty .empty =
      .ofList (externalTypeParts object.externalType ++ facets.contributions ++
        defaultParts default ++ objectTypeParts object.customType ++
        hookParts object.planModifiers object.validators) := by
  let external := externalTypeImports object.externalType
  let before := external ∪ facets.imports ∪ defaultImports default
  let generated := generatedTypeImports object.customType ∪ .ofPaths [Source.Framework.attr]
  let hooks := hookImports object.planModifiers object.validators
  have again : before ∪ external = before := by
    refine ImportSet.union_of_subset fun path member named => ?_
    rw [ImportSet.mem_paths_union named, ImportSet.mem_paths_union named]
    exact .inl (.inl member)
  calc before ∪ (external ∪ generatedTypeImports object.customType ∪
          .ofPaths [Source.Framework.attr] ∪ hooks)
      = before ∪ external ∪ generated ∪ hooks := by
        simp only [generated, ImportSet.union_assoc]
    _ = before ∪ generated ∪ hooks := by rw [again]
    _ = _ := by
        simp only [before, external, generated, hooks, externalTypeImports_eq, Facets.imports_eq,
          defaultImports_eq, generatedTypeImports_eq, hookImports_eq, ← ImportSet.ofList_append]

theorem ObjectFacets.imports_eq_ofList (object : ObjectFacets) (hooks : List Import) :
    object.imports (.ofList hooks) .empty .empty =
      .ofList (externalTypeParts object.externalType ++ objectTypeParts object.customType ++
        hooks) := by
  rw [ImportSet.ofList_append, ImportSet.ofList_append, ← externalTypeImports_eq,
    ← generatedTypeImports_eq, ← ImportSet.union_assoc]
  rfl

theorem fixedObjectImports_eq (facets : Facets) (fields : Fields) (external : Option ExternalType)
    (default : Option Default) :
    fixedObjectImports facets fields external default =
      .ofList (Node.contributions (.attr (.object facets fields external default))) := by
  have custom : (if external.isSome then generatedTypeImports facets.customType
        else customTypeImports facets.customType) ∪ .ofPaths [Source.Framework.attr] =
      .ofList (if external.isSome then objectTypeParts facets.customType
          else customTypeParts facets.customType [{ path := Source.Framework.types }] ++
            [{ path := Source.Framework.attr }]) := by
    split_ifs
    · exact generatedTypeImports_eq _
    · rw [customTypeImports_eq, ImportSet.ofList_append]
      rfl
  rw [fixedObjectImports, ImportSet.union_assoc (externalTypeImports external), custom,
    externalTypeImports_eq, hookImports_eq, defaultImports_eq, Fields.imports_eq]
  simp only [Node.contributions, ImportSet.ofList_append]

/-- The imports of a node without what is inside are the first contributions of each path. -/
theorem Node.ownImports_eq (node : Node) : node.ownImports = .ofList node.contributions := by
  cases node with
  | attr node =>
    cases node with
    | primitive kind facets default =>
      change facets.imports ∪ defaultImports default = _
      rw [Facets.imports_eq, defaultImports_eq, contributions, ImportSet.ofList_append]
    | collection kind facets element default =>
      change facets.imports ∪ defaultImports default ∪ element.imports = _
      rw [Facets.imports_eq, defaultImports_eq, ElementType.imports_eq, contributions,
        ImportSet.ofList_append, ImportSet.ofList_append]
    | nested kind facets item attributes default => exact nestedImports_eq_ofList ..
    | singleNested facets attributes external default =>
      change (ObjectFacets.single facets external).imports
        (hookImports facets.planModifiers facets.validators ∪ defaultImports default) .empty .empty = _
      rw [hookImports_eq, defaultImports_eq, ← ImportSet.ofList_append,
        ObjectFacets.imports_eq_ofList, ← List.append_assoc]
      rfl
    | object facets fields external default => exact fixedObjectImports_eq ..
  | block node =>
    cases node with
    | nested kind facets item attributes blocks =>
      refine (nestedImports_eq_ofList ..).trans ?_
      rw [defaultParts, List.append_nil, contributions]
    | singleNested facets attributes blocks external =>
      change (ObjectFacets.single facets external).imports
        (hookImports facets.planModifiers facets.validators) .empty .empty = _
      rw [hookImports_eq, ObjectFacets.imports_eq_ofList]
      rfl

/-- What a node and the nodes inside it need, each before those inside it. -/
def Node.allContributions (node : Node) : List Import :=
  node.contributions ++ node.inside.flatMap fun entry => entry.2.contributions

/-- Collecting attributes and blocks one by one collects what they list. -/
theorem imports_namedNodes {attributes : Attributes} {blocks : Blocks}
    (each : ∀ entry ∈ namedNodes attributes blocks,
      entry.2.imports = .ofList entry.2.allContributions) :
    Attributes.imports attributes ∪ Blocks.imports blocks =
      .ofList ((namedNodes attributes blocks).flatMap fun entry => entry.2.allContributions) := by
  have ofAttributes : Attributes.imports attributes =
      .ofList (attributes.flatMap fun entry => (Node.attr entry.2).allContributions) := by
    rw [Attributes.imports, Attribute.importsAll_eq]
    refine Eq.trans (List.foldl_ext _ _ _ fun s entry listed => ?_) (ofList_foldl attributes _ [])
    exact congrArg (s ∪ ·) (each _ (mem_namedNodes.mpr (.inl ⟨entry, listed, rfl⟩)))
  have ofBlocks : Blocks.imports blocks =
      .ofList (blocks.flatMap fun entry => (Node.block entry.2).allContributions) := by
    rw [Blocks.imports, Block.importsAll_eq]
    refine Eq.trans (List.foldl_ext _ _ _ fun s entry listed => ?_) (ofList_foldl blocks _ [])
    exact congrArg (s ∪ ·) (each _ (mem_namedNodes.mpr (.inr ⟨entry, listed, rfl⟩)))
  rw [ofAttributes, ofBlocks, ← ImportSet.ofList_append, namedNodes, List.flatMap_append,
    List.flatMap_map, List.flatMap_map]

/-- The import set of a node is that of all contributions at or below it, in pre-order. -/
theorem Node.imports_eq_ofList (node : Node) : node.imports = .ofList node.allContributions := by
  induction node with
  | step node ih =>
    rw [Node.imports_eq, ImportSet.union_assoc, imports_namedNodes ih, Node.ownImports_eq,
      ← ImportSet.ofList_append, allContributions, Node.flatMap_inside]
    rfl

/-- Where one path is contributed under two names, the first contribution counts. -/
theorem ResourceSchema.imports_eq (schema : ResourceSchema) :
    schema.imports = .ofList schema.contributions := by
  have ofNodes : Attributes.imports schema.attributes ∪ Blocks.imports schema.blocks = _ :=
    imports_namedNodes fun entry _ => entry.2.imports_eq_ofList
  rw [imports, ofNodes, contributions, flatMap_nodes, ImportSet.ofList_append]
  rfl

/-- The schema itself needs just two paths. -/
theorem ResourceSchema.exists_contribution_iff {path : String} (schema : ResourceSchema) :
    (∃ i ∈ schema.contributions, i.path = path) ↔
      (∃ entry ∈ schema.nodes, ∃ i ∈ entry.2.contributions, i.path = path) ∨
        path = Source.Framework.context ∨ path = Source.Framework.resourceSchema := by
  constructor
  · rintro ⟨i, listed, rfl⟩
    rcases List.mem_append.mp listed with ofNode | ofFunction
    · obtain ⟨entry, isNode, contributed⟩ := List.mem_flatMap.mp ofNode
      exact .inl ⟨entry, isNode, i, contributed, rfl⟩
    · simp only [List.mem_cons, List.not_mem_nil, or_false] at ofFunction
      rcases ofFunction with rfl | rfl
      · exact .inr (.inl rfl)
      · exact .inr (.inr rfl)
  · rintro (⟨entry, isNode, i, contributed, rfl⟩ | rfl | rfl)
    · exact ⟨i, List.mem_append_left _ (List.mem_flatMap.mpr ⟨entry, isNode, contributed⟩), rfl⟩
    · exact ⟨_, List.mem_append_right _ (List.mem_cons_self ..), rfl⟩
    · exact ⟨_, List.mem_append_right _ (List.mem_cons_of_mem _ (List.mem_cons_self ..)), rfl⟩

/-- Collecting imports over a tree loses and invents nothing. The imports of a node are those of the
node without its children, then those of the attributes inside, then those of the blocks inside. The
imports of a schema are the first contribution of every path among those of all nodes, each node
before those inside it, and of the schema function: a path is imported when some node or the function
contributes it, under the name that its first contribution gives. -/
theorem imports_of_contributions :
    (∀ node : Node,
      node.imports.entries =
        (node.emptied.imports ∪ Attributes.imports node.attributes ∪
          Blocks.imports node.blocks).entries ∧
      node.emptied.imports.entries = firsts node.contributions) ∧
    ∀ schema : ResourceSchema,
      schema.imports.entries = firsts schema.contributions ∧
      (∀ path, path ∈ schema.imports.paths ↔ path ≠ "" ∧
        ((∃ entry ∈ schema.nodes, ∃ i ∈ entry.2.contributions, i.path = path) ∨
          path = Source.Framework.context ∨ path = Source.Framework.resourceSchema)) ∧
      ∀ i, i ∈ schema.imports.entries ↔
        i.path ≠ "" ∧ schema.contributions.find? (·.path == i.path) = some i := by
  refine ⟨fun node => ⟨?_, ?_⟩, fun schema => ⟨?_, fun path => ?_, fun i => ?_⟩⟩
  · rw [Node.imports_eq, Node.imports_emptied]
  · rw [Node.imports_emptied, Node.ownImports_eq, ImportSet.entries_ofList_eq_firsts]
  · rw [schema.imports_eq, ImportSet.entries_ofList_eq_firsts]
  · rw [schema.imports_eq, ImportSet.mem_paths_ofList]
    exact and_congr_right fun _ => schema.exists_contribution_iff
  · rw [schema.imports_eq, ImportSet.mem_entries_ofList_iff]

end ProviderCodegen.Schema
