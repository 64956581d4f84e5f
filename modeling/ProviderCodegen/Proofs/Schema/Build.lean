import ProviderCodegen.Proofs.NameMap
import ProviderCodegen.Proofs.Schema.Tree

/-! # What building gives

Children are added to a map one by one, attributes and blocks alike, so both are instances of
`addChildren`. A map that is built is in ascending order of names, and each of its entries comes
from a specification of that name. Which kind of a specification a node comes from is said for each
kind once; from this follows that in a schema that is built all maps are in order, at any depth.
-/

namespace ProviderCodegen.Schema

theorem bind_eq_ok {ε α β : Type} {first : Except ε α} {next : α → Except ε β} {result : β} :
    (first >>= next) = .ok result ↔ ∃ value, first = .ok value ∧ next value = .ok result := by
  cases first with
  | error fault => simp only [bind, Except.bind, reduceCtorEq, false_and, exists_false]
  | ok value => simp only [bind, Except.bind, Except.ok.injEq, exists_eq_left']

section Children

variable {α : Type} {kind : Spec.ChildKind} {built nodes : NameMap α}

/-- Add named nodes in their order, each with its own outcome. -/
def addChildren (kind : Spec.ChildKind) :
    NameMap α → List (String × Except BuildError α) → Except BuildError (NameMap α)
  | built, [] => .ok built
  | built, (name, node) :: rest => do addChildren kind (← addChild kind built name node) rest

/-- A node is added when its name is free and it has been built. -/
theorem addChild_eq_ok_iff {name : String} {node : Except BuildError α} :
    addChild kind built name node = .ok nodes ↔
      name ∉ built.names ∧ ∃ value, node = .ok value ∧ nodes = built.insert name value := by
  by_cases taken : name ∈ built.names
  · simp only [addChild, NameMap.contains_iff.mpr taken, if_true, reduceCtorEq, taken,
      not_true_eq_false, false_and]
  · have free : built.contains name = false :=
      Bool.eq_false_iff.mpr fun contained => taken (NameMap.contains_iff.mp contained)
    cases node with
    | error fault => simp only [addChild, free, Bool.false_eq_true, if_false, Except.map,
        reduceCtorEq, false_and, exists_false, and_false]
    | ok value => simp only [addChild, free, Bool.false_eq_true, if_false, Except.map,
        Except.ok.injEq, taken, not_false_eq_true, true_and, exists_eq_left', eq_comm]

/-- Children are kept in the order of their names, in which they need not have been given. -/
theorem ordered_addChildren {outcomes : List (String × Except BuildError α)}
    (ordered : NameMap.Ordered built) (added : addChildren kind built outcomes = .ok nodes) :
    NameMap.Ordered nodes := by
  induction outcomes generalizing built with
  | nil => cases added; exact ordered
  | cons outcome rest ih =>
    obtain ⟨larger, first, added⟩ := bind_eq_ok.mp added
    obtain ⟨-, value, -, rfl⟩ := addChild_eq_ok_iff.mp first
    exact ih (ordered.insert _ _) added

/-- Nothing but the nodes that were built is added to a map. -/
theorem mem_addChildren {outcomes : List (String × Except BuildError α)}
    (added : addChildren kind built outcomes = .ok nodes) {entry : String × α}
    (member : entry ∈ nodes) :
    entry ∈ built ∨ (entry.1, .ok entry.2) ∈ outcomes := by
  induction outcomes generalizing built with
  | nil => cases added; exact .inl member
  | cons outcome rest ih =>
    obtain ⟨name, node⟩ := outcome
    obtain ⟨larger, first, added⟩ := bind_eq_ok.mp added
    obtain ⟨-, value, rfl, rfl⟩ := addChild_eq_ok_iff.mp first
    rcases ih added with inserted | later
    · rcases NameMap.mem_insert inserted with rfl | old
      · exact .inr (List.mem_cons_self ..)
      · exact .inl old
    · exact .inr (List.mem_cons_of_mem _ later)

/-- A change of the nodes that keeps their names can as well be made later. -/
theorem addChild_map (f : α → α) (built : NameMap α) (name : String) (node : Except BuildError α) :
    addChild kind (built.map (Prod.map id f)) name (node.map f) =
      (addChild kind built name node).map (List.map (Prod.map id f)) := by
  have same : NameMap.contains (built.map (Prod.map id f)) name = built.contains name := by
    rw [Bool.eq_iff_iff, NameMap.contains_iff, NameMap.contains_iff, NameMap.names_map]
  unfold addChild
  rw [same]
  split_ifs with taken
  · rfl
  · cases node with
    | error fault => rfl
    | ok value => exact congrArg Except.ok (NameMap.map_insert f built name value).symm

theorem addChildren_map (f : α → α) (built : NameMap α)
    (outcomes : List (String × Except BuildError α)) :
    addChildren kind (built.map (Prod.map id f)) (outcomes.map (Prod.map id (Except.map f))) =
      (addChildren kind built outcomes).map (List.map (Prod.map id f)) := by
  induction outcomes generalizing built with
  | nil => rfl
  | cons outcome rest ih =>
    obtain ⟨name, node⟩ := outcome
    rw [List.map_cons, Prod.map_apply, id_eq, addChildren, addChild_map, addChildren]
    cases addChild kind built name node with
    | error fault => rfl
    | ok larger => exact ih larger

/-- The first kind that is set gives an outcome that is changed like those of all kinds. -/
theorem getD_findSome?_map (f : α → α) {κ : Type} {kinds : List κ}
    {first second : κ → Option (Except BuildError α)} (fault : BuildError)
    (each : ∀ kind, second kind = (first kind).map (Except.map f)) :
    (kinds.findSome? second).getD (.error fault) =
      ((kinds.findSome? first).getD (.error fault)).map f := by
  have whole : kinds.findSome? second = (kinds.findSome? first).map (Except.map f) := by
    rw [List.map_findSome?, funext each]
    rfl
  rw [whole]
  exact Option.getD_map (Except.map f) (.error fault) _

end Children

/-- What building each of some attributes gives, under their names. -/
def Attribute.outcomes (specs : List Spec.Attribute) :
    List (String × Except BuildError Attribute) :=
  specs.map fun spec => (spec.name, Attribute.build spec)

/-- What building each of some blocks gives, under their names. -/
def Block.outcomes (specs : List Spec.Block) : List (String × Except BuildError Block) :=
  specs.map fun spec => (spec.name, Block.build spec)

/-- The recursion is the loop over the outcomes of the attributes, started with no node. -/
theorem Attributes.build_eq (specs : List Spec.Attribute) :
    Attributes.build specs = addChildren .attr [] (Attribute.outcomes specs) := by
  have general (built : Attributes) : Attribute.buildAll built specs =
      addChildren .attr built (Attribute.outcomes specs) := by
    induction specs generalizing built with
    | nil => rfl
    | cons spec rest ih =>
      simp only [Attribute.buildAll, Attribute.outcomes, List.map_cons, addChildren, ih,
        Attribute.build]
  exact general []

theorem Blocks.build_eq (specs : List Spec.Block) :
    Blocks.build specs = addChildren .block [] (Block.outcomes specs) := by
  have general (built : Blocks) : Block.buildAll built specs =
      addChildren .block built (Block.outcomes specs) := by
    induction specs generalizing built with
    | nil => rfl
    | cons spec rest ih =>
      simp only [Block.buildAll, Block.outcomes, List.map_cons, addChildren, ih, Block.build]
  exact general []

section Lists

variable {attributes : Attributes} {blocks : Blocks}

theorem Attributes.ordered_of_build {specs : List Spec.Attribute}
    (built : Attributes.build specs = .ok attributes) : NameMap.Ordered attributes :=
  ordered_addChildren NameMap.ordered_nil (Attributes.build_eq specs ▸ built)

theorem Blocks.ordered_of_build {specs : List Spec.Block}
    (built : Blocks.build specs = .ok blocks) : NameMap.Ordered blocks :=
  ordered_addChildren NameMap.ordered_nil (Blocks.build_eq specs ▸ built)

/-- Every attribute comes from a specification of its name. -/
theorem Attributes.exists_spec_of_build {specs : List Spec.Attribute}
    (built : Attributes.build specs = .ok attributes) {entry : String × Attribute}
    (member : entry ∈ attributes) :
    ∃ spec ∈ specs, spec.name = entry.1 ∧ Attribute.build spec = .ok entry.2 := by
  rw [Attributes.build_eq] at built
  rcases mem_addChildren built member with none | listed
  · exact absurd none List.not_mem_nil
  · obtain ⟨spec, given, same⟩ := List.mem_map.mp listed
    exact ⟨spec, given, congrArg Prod.fst same, congrArg Prod.snd same⟩

/-- Every block comes from a specification of its name. -/
theorem Blocks.exists_spec_of_build {specs : List Spec.Block}
    (built : Blocks.build specs = .ok blocks) {entry : String × Block} (member : entry ∈ blocks) :
    ∃ spec ∈ specs, spec.name = entry.1 ∧ Block.build spec = .ok entry.2 := by
  rw [Blocks.build_eq] at built
  rcases mem_addChildren built member with none | listed
  · exact absurd none List.not_mem_nil
  · obtain ⟨spec, given, same⟩ := List.mem_map.mp listed
    exact ⟨spec, given, congrArg Prod.fst same, congrArg Prod.snd same⟩

end Lists

/-! ## The kind of a node -/

/-- The collection of objects that a specification sets for a kind. -/
def nestedOf (spec : Spec.Attribute) : CollectionKind → Option Spec.NestedAttribute
  | .list => spec.listNested
  | .map => spec.mapNested
  | .set => spec.setNested

/-- The collection of elements that a specification sets for a kind. -/
def collectionOf (spec : Spec.Attribute) : CollectionKind → Option Spec.CollectionAttribute
  | .list => spec.list
  | .map => spec.map
  | .set => spec.set

/-- The collection of block objects that a specification sets for a kind. -/
def repeatedOf (spec : Spec.Block) : RepeatedKind → Option Spec.NestedBlock
  | .list => spec.listNested
  | .set => spec.setNested

theorem Attribute.buildKind?_nested (kind : CollectionKind) (spec : Spec.Attribute) :
    Attribute.buildKind? (.nested kind) spec = Attribute.buildNested? kind (nestedOf spec kind) := by
  cases kind <;> cases spec <;> rfl

theorem Attribute.buildKind?_collection (kind : CollectionKind) (spec : Spec.Attribute) :
    Attribute.buildKind? (.collection kind) spec =
      Attribute.buildCollection? kind (collectionOf spec kind) := by
  cases kind <;> cases spec <;> rfl

theorem Attribute.buildKind?_singleNested (spec : Spec.Attribute) :
    Attribute.buildKind? .singleNested spec = Attribute.buildSingle? spec.singleNested := by
  cases spec; rfl

theorem Attribute.buildKind?_object (spec : Spec.Attribute) :
    Attribute.buildKind? .object spec = Attribute.buildObject? spec.object := by
  cases spec; rfl

theorem Block.buildKind?_nested (kind : RepeatedKind) (spec : Spec.Block) :
    Block.buildKind? (.nested kind) spec = Block.buildNested? kind (repeatedOf spec kind) := by
  cases kind <;> cases spec <;> rfl

theorem Block.buildKind?_singleNested (spec : Spec.Block) :
    Block.buildKind? .singleNested spec = Block.buildSingle? spec.singleNested := by
  cases spec; rfl

/-- What is built from the first kind that is set is what one of the kinds gives. -/
private theorem exists_of_findSome? {κ α : Type} {kinds : List κ}
    {outcome : κ → Option (Except BuildError α)} {fault : BuildError} {node : α}
    (built : (kinds.findSome? outcome).getD (.error fault) = .ok node) :
    ∃ kind, outcome kind = some (.ok node) := by
  cases found : kinds.findSome? outcome with
  | none => rw [found] at built; cases built
  | some first =>
    rw [found] at built
    cases built
    obtain ⟨kind, -, given⟩ := List.exists_of_findSome?_eq_some found
    exact ⟨kind, given⟩

/-- An element type is built as one of the kinds that its specification sets, whatever fault it
would be that there is none. -/
theorem ElementType.exists_kind_of_build {spec : Spec.ElementType} {fault : BuildError}
    {type : ElementType}
    (built : (ElementKind.all.findSome? fun kind => buildKind? kind spec).getD (.error fault) =
      .ok type) :
    ∃ kind, ElementType.buildKind? kind spec = some (.ok type) :=
  exists_of_findSome? built

/-- An attribute is built as one of the kinds that its specification sets. -/
theorem Attribute.exists_kind_of_build {spec : Spec.Attribute} {node : Attribute}
    (built : Attribute.build spec = .ok node) :
    ∃ kind, Attribute.buildKind? kind spec = some (.ok node) :=
  exists_of_findSome? built

/-- A block is built as one of the kinds that its specification sets. -/
theorem Block.exists_kind_of_build {spec : Spec.Block} {node : Block}
    (built : Block.build spec = .ok node) :
    ∃ kind, Block.buildKind? kind spec = some (.ok node) :=
  exists_of_findSome? built

/-- The attributes inside are built before anything else, so theirs is the fault that is told. -/
theorem Attribute.buildNested?_some (kind : CollectionKind) (given : Spec.NestedAttribute) :
    Attribute.buildNested? kind (some given) = some do
      let attributes ← Attributes.build given.nestedObject.attributes
      return .nested kind (.ofAttribute given.facets)
        (.ofSpec given.nestedObject.customType given.nestedObject.externalType
          given.nestedObject.planModifiers given.nestedObject.validators)
        attributes (Default.ofCustom given.default) := by
  obtain ⟨facets, ⟨attributes, custom, external, planModifiers, validators⟩, default⟩ := given
  rfl

theorem Attribute.buildSingle?_some (given : Spec.SingleNestedAttribute) :
    Attribute.buildSingle? (some given) = some do
      let attributes ← Attributes.build given.attributes
      return .singleNested (.ofAttribute given.facets) attributes given.externalType
        (Default.ofCustom given.default) := by
  obtain ⟨facets, attributes, external, default⟩ := given
  rfl

/-- Attributes inside are built before the blocks inside. -/
theorem Block.buildNested?_some (kind : RepeatedKind) (given : Spec.NestedBlock) :
    Block.buildNested? kind (some given) = some do
      let attributes ← Attributes.build given.nestedObject.attributes
      let blocks ← Blocks.build given.nestedObject.blocks
      return .nested kind (.ofBlock given.facets)
        (.ofSpec given.nestedObject.customType given.nestedObject.externalType
          given.nestedObject.planModifiers given.nestedObject.validators)
        attributes blocks := by
  obtain ⟨facets, ⟨attributes, blocks, custom, external, planModifiers, validators⟩⟩ := given
  rfl

theorem Block.buildSingle?_some (given : Spec.SingleNestedBlock) :
    Block.buildSingle? (some given) = some do
      let attributes ← Attributes.build given.attributes
      let blocks ← Blocks.build given.blocks
      return .singleNested (.ofBlock given.facets) attributes blocks given.externalType := by
  obtain ⟨facets, attributes, blocks, external⟩ := given
  rfl

/-- Primitive attributes have nothing inside that could fail. -/
theorem Attribute.buildPrimitive?_eq_some {δ : Type} {kind : PrimitiveKind}
    {default : Option δ → Option Default} {spec : Option (Spec.PrimitiveAttribute δ)}
    {node : Attribute} (built : Attribute.buildPrimitive? kind default spec = some (.ok node)) :
    ∃ given, spec = some given ∧
      node = .primitive kind (.ofAttribute given.facets) (default given.default) := by
  obtain ⟨given, set, result⟩ := Option.map_eq_some_iff.mp built
  cases result
  exact ⟨given, set, rfl⟩

/-- A collection attribute is built exactly from its facets, its element type and its default. -/
theorem Attribute.buildCollection?_eq_some {kind : CollectionKind}
    {spec : Option Spec.CollectionAttribute} {node : Attribute}
    (built : Attribute.buildCollection? kind spec = some (.ok node)) :
    ∃ given element, spec = some given ∧ ElementType.build given.elementType = .ok element ∧
      node = .collection kind (.ofAttribute given.facets) element
        (Default.ofCustom given.default) := by
  obtain ⟨given, set, built⟩ := Option.map_eq_some_iff.mp built
  obtain ⟨element, inside, result⟩ := bind_eq_ok.mp built
  cases result
  exact ⟨given, element, set, inside, rfl⟩

/-- The fields of an object attribute are types, not attributes. -/
theorem Attribute.buildObject?_eq_some {spec : Option Spec.ObjectAttribute} {node : Attribute}
    (built : Attribute.buildObject? spec = some (.ok node)) :
    ∃ given fields, spec = some given ∧ Fields.build given.attributeTypes = .ok fields ∧
      node = .object (.ofAttribute given.facets) fields given.externalType
        (Default.ofCustom given.default) := by
  obtain ⟨given, set, built⟩ := Option.map_eq_some_iff.mp built
  obtain ⟨fields, inside, result⟩ := bind_eq_ok.mp built
  cases result
  exact ⟨given, fields, set, inside, rfl⟩

/-- The facets of the attribute and those of its object stay apart. -/
theorem Attribute.buildNested?_eq_some {kind : CollectionKind} {spec : Option Spec.NestedAttribute}
    {node : Attribute} (built : Attribute.buildNested? kind spec = some (.ok node)) :
    ∃ given attributes, spec = some given ∧
      Attributes.build given.nestedObject.attributes = .ok attributes ∧
      node = .nested kind (.ofAttribute given.facets)
        (.ofSpec given.nestedObject.customType given.nestedObject.externalType
          given.nestedObject.planModifiers given.nestedObject.validators)
        attributes (Default.ofCustom given.default) := by
  cases spec with
  | none => cases built
  | some given =>
    rw [buildNested?_some] at built
    obtain ⟨attributes, inside, result⟩ := bind_eq_ok.mp (Option.some.inj built)
    cases result
    exact ⟨given, attributes, rfl, inside, rfl⟩

/-- A single nested attribute has no facets of an object besides its own. -/
theorem Attribute.buildSingle?_eq_some {spec : Option Spec.SingleNestedAttribute}
    {node : Attribute} (built : Attribute.buildSingle? spec = some (.ok node)) :
    ∃ given attributes, spec = some given ∧ Attributes.build given.attributes = .ok attributes ∧
      node = .singleNested (.ofAttribute given.facets) attributes given.externalType
        (Default.ofCustom given.default) := by
  cases spec with
  | none => cases built
  | some given =>
    rw [buildSingle?_some] at built
    obtain ⟨attributes, inside, result⟩ := bind_eq_ok.mp (Option.some.inj built)
    cases result
    exact ⟨given, attributes, rfl, inside, rfl⟩

/-- As for nested attributes, with the blocks inside and without a default. -/
theorem Block.buildNested?_eq_some {kind : RepeatedKind} {spec : Option Spec.NestedBlock}
    {node : Block} (built : Block.buildNested? kind spec = some (.ok node)) :
    ∃ given attributes blocks, spec = some given ∧
      Attributes.build given.nestedObject.attributes = .ok attributes ∧
      Blocks.build given.nestedObject.blocks = .ok blocks ∧
      node = .nested kind (.ofBlock given.facets)
        (.ofSpec given.nestedObject.customType given.nestedObject.externalType
          given.nestedObject.planModifiers given.nestedObject.validators)
        attributes blocks := by
  cases spec with
  | none => cases built
  | some given =>
    rw [buildNested?_some] at built
    obtain ⟨attributes, inside, result⟩ := bind_eq_ok.mp (Option.some.inj built)
    obtain ⟨blocks, below, result⟩ := bind_eq_ok.mp result
    cases result
    exact ⟨given, attributes, blocks, rfl, inside, below, rfl⟩

theorem Block.buildSingle?_eq_some {spec : Option Spec.SingleNestedBlock} {node : Block}
    (built : Block.buildSingle? spec = some (.ok node)) :
    ∃ given attributes blocks, spec = some given ∧
      Attributes.build given.attributes = .ok attributes ∧
      Blocks.build given.blocks = .ok blocks ∧
      node = .singleNested (.ofBlock given.facets) attributes blocks given.externalType := by
  cases spec with
  | none => cases built
  | some given =>
    rw [buildSingle?_some] at built
    obtain ⟨attributes, inside, result⟩ := bind_eq_ok.mp (Option.some.inj built)
    obtain ⟨blocks, below, result⟩ := bind_eq_ok.mp result
    cases result
    exact ⟨given, attributes, blocks, rfl, inside, below, rfl⟩

/-! ## Nodes and their specifications -/

/-- The lists of attributes directly inside a specification, whichever kind counts. -/
inductive HoldsAttributes (spec : Spec.Attribute) : List Spec.Attribute → Prop
  | nested {kind : CollectionKind} {given : Spec.NestedAttribute}
      (set : nestedOf spec kind = some given) : HoldsAttributes spec given.nestedObject.attributes
  | singleNested {given : Spec.SingleNestedAttribute} (set : spec.singleNested = some given) :
      HoldsAttributes spec given.attributes

/-- The lists of attributes and blocks directly inside the specification of a block. -/
inductive HoldsChildren (spec : Spec.Block) : List Spec.Attribute → List Spec.Block → Prop
  | nested {kind : RepeatedKind} {given : Spec.NestedBlock}
      (set : repeatedOf spec kind = some given) :
      HoldsChildren spec given.nestedObject.attributes given.nestedObject.blocks
  | singleNested {given : Spec.SingleNestedBlock} (set : spec.singleNested = some given) :
      HoldsChildren spec given.attributes given.blocks

/-- The attributes inside an attribute, if any, are built from a list in its specification. -/
theorem Attribute.attributes_of_build {spec : Spec.Attribute} {node : Attribute}
    (built : Attribute.build spec = .ok node) :
    node.attributes? = none ∨ ∃ specs attributes, HoldsAttributes spec specs ∧
      Attributes.build specs = .ok attributes ∧ node.attributes? = some attributes := by
  obtain ⟨kind, given⟩ := exists_kind_of_build built
  cases kind with
  | nested kind =>
    rw [buildKind?_nested] at given
    obtain ⟨given, attributes, set, inside, rfl⟩ := buildNested?_eq_some given
    exact .inr ⟨_, attributes, .nested set, inside, rfl⟩
  | singleNested =>
    rw [buildKind?_singleNested] at given
    obtain ⟨given, attributes, set, inside, rfl⟩ := buildSingle?_eq_some given
    exact .inr ⟨_, attributes, .singleNested set, inside, rfl⟩
  | object =>
    rw [buildKind?_object] at given
    obtain ⟨-, -, -, -, rfl⟩ := buildObject?_eq_some given
    exact .inl rfl
  | collection kind =>
    rw [buildKind?_collection] at given
    obtain ⟨-, -, -, -, rfl⟩ := buildCollection?_eq_some given
    exact .inl rfl
  | primitive kind =>
    cases spec
    cases kind <;> obtain ⟨-, -, rfl⟩ := buildPrimitive?_eq_some given <;> exact .inl rfl

/-- What is inside a block is built from lists in its specification. -/
theorem Block.children_of_build {spec : Spec.Block} {node : Block}
    (built : Block.build spec = .ok node) :
    ∃ attributes blocks, HoldsChildren spec attributes blocks ∧
      Attributes.build attributes = .ok node.attributes ∧
      Blocks.build blocks = .ok node.blocks := by
  obtain ⟨kind, given⟩ := exists_kind_of_build built
  cases kind with
  | nested kind =>
    rw [buildKind?_nested] at given
    obtain ⟨given, attributes, blocks, set, inside, below, rfl⟩ := buildNested?_eq_some given
    exact ⟨_, _, .nested set, inside, below⟩
  | singleNested =>
    rw [buildKind?_singleNested] at given
    obtain ⟨given, attributes, blocks, set, inside, below, rfl⟩ := buildSingle?_eq_some given
    exact ⟨_, _, .singleNested set, inside, below⟩

section Specifications

variable {attributeSpec : Spec.Attribute → Prop} {blockSpec : Spec.Block → Prop}

/-- Properties of specifications that pass to everything directly inside. -/
structure Inherited (attributeSpec : Spec.Attribute → Prop) (blockSpec : Spec.Block → Prop) :
    Prop where
  attributes : ∀ {spec specs}, attributeSpec spec → HoldsAttributes spec specs →
    ∀ inside ∈ specs, attributeSpec inside
  blocks : ∀ {spec attributes blocks}, blockSpec spec → HoldsChildren spec attributes blocks →
    (∀ inside ∈ attributes, attributeSpec inside) ∧ ∀ inside ∈ blocks, blockSpec inside

/-- Whether a node is built, under its name, from a specification with a property. -/
inductive Node.BuiltFrom (attributeSpec : Spec.Attribute → Prop) (blockSpec : Spec.Block → Prop) :
    String → Node → Prop
  | attr {spec : Spec.Attribute} {node : Attribute} (given : attributeSpec spec)
      (built : Attribute.build spec = .ok node) :
      BuiltFrom attributeSpec blockSpec spec.name (.attr node)
  | block {spec : Spec.Block} {node : Block} (given : blockSpec spec)
      (built : Block.build spec = .ok node) :
      BuiltFrom attributeSpec blockSpec spec.name (.block node)

private theorem builtFrom_namedNodes {attributeSpecs : List Spec.Attribute}
    {blockSpecs : List Spec.Block} {attributes : Attributes} {blocks : Blocks}
    (builtAttributes : Attributes.build attributeSpecs = .ok attributes)
    (builtBlocks : Blocks.build blockSpecs = .ok blocks)
    (givenAttributes : ∀ spec ∈ attributeSpecs, attributeSpec spec)
    (givenBlocks : ∀ spec ∈ blockSpecs, blockSpec spec) :
    ∀ entry ∈ namedNodes attributes blocks,
      Node.BuiltFrom attributeSpec blockSpec entry.1 entry.2 := by
  intro entry member
  obtain ⟨inside, listed, rfl⟩ | ⟨inside, listed, rfl⟩ := mem_namedNodes.mp member
  · obtain ⟨spec, given, named, built⟩ := Attributes.exists_spec_of_build builtAttributes listed
    exact named ▸ .attr (givenAttributes spec given) built
  · obtain ⟨spec, given, named, built⟩ := Blocks.exists_spec_of_build builtBlocks listed
    exact named ▸ .block (givenBlocks spec given) built

private theorem builtFrom_children (inherited : Inherited attributeSpec blockSpec) {name : String}
    {node : Node} (source : Node.BuiltFrom attributeSpec blockSpec name node) :
    ∀ child ∈ node.children, Node.BuiltFrom attributeSpec blockSpec child.1 child.2 := by
  cases source with
  | @attr spec node given built =>
    rcases Attribute.attributes_of_build built with none | ⟨specs, attributes, holds, inside, some⟩
    · simp only [Node.children, Node.attributes, Node.blocks, none, Option.getD_none]
      exact fun _ member => absurd member List.not_mem_nil
    · simp only [Node.children, Node.attributes, Node.blocks, some, Option.getD_some]
      exact builtFrom_namedNodes inside (Blocks.build_eq []) (inherited.attributes given holds)
        fun _ member => absurd member List.not_mem_nil
  | @block spec node given built =>
    obtain ⟨attributes, blocks, holds, inside, below⟩ := Block.children_of_build built
    obtain ⟨givenAttributes, givenBlocks⟩ := inherited.blocks given holds
    exact builtFrom_namedNodes inside below givenAttributes givenBlocks

/-- The two maps of a schema are built from the two lists of its specification. -/
theorem ResourceSchema.build_eq_ok {spec : Spec.Schema} {schema : ResourceSchema}
    (built : ResourceSchema.build spec = .ok schema) :
    Attributes.build spec.attributes = .ok schema.attributes ∧
      Blocks.build spec.blocks = .ok schema.blocks := by
  obtain ⟨attributes, inside, built⟩ := bind_eq_ok.mp built
  obtain ⟨blocks, below, built⟩ := bind_eq_ok.mp built
  cases built
  exact ⟨inside, below⟩

/-- What all specifications at the top have and pass to what they hold, the specification of every
node has. -/
theorem ResourceSchema.builtFrom_nodes {spec : Spec.Schema} {schema : ResourceSchema}
    (built : ResourceSchema.build spec = .ok schema)
    (inherited : Inherited attributeSpec blockSpec)
    (givenAttributes : ∀ inside ∈ spec.attributes, attributeSpec inside)
    (givenBlocks : ∀ inside ∈ spec.blocks, blockSpec inside) :
    ∀ entry ∈ schema.nodes, Node.BuiltFrom attributeSpec blockSpec entry.1 entry.2 := by
  obtain ⟨inside, below⟩ := ResourceSchema.build_eq_ok built
  exact forall_nodes (builtFrom_namedNodes inside below givenAttributes givenBlocks)
    fun _ _ => builtFrom_children inherited

end Specifications

/-- The children of every node of a schema that is built are in ascending order of names. -/
theorem ResourceSchema.ordered_nodes {spec : Spec.Schema} {schema : ResourceSchema}
    (built : ResourceSchema.build spec = .ok schema) :
    ∀ entry ∈ schema.nodes,
      NameMap.Ordered entry.2.attributes ∧ NameMap.Ordered entry.2.blocks := by
  intro entry member
  have anything : Inherited (fun _ => True) (fun _ => True) :=
    ⟨fun _ _ _ _ => trivial, fun _ _ => ⟨fun _ _ => trivial, fun _ _ => trivial⟩⟩
  have source := builtFrom_nodes built anything (fun _ _ => trivial) (fun _ _ => trivial) entry member
  obtain ⟨name, node⟩ := entry
  cases source with
  | attr given built =>
    refine ⟨?_, NameMap.ordered_nil⟩
    rcases Attribute.attributes_of_build built with none | ⟨specs, attributes, -, inside, some⟩
    · simp only [Node.attributes, none, Option.getD_none]
      exact NameMap.ordered_nil
    · simp only [Node.attributes, some, Option.getD_some]
      exact Attributes.ordered_of_build inside
  | block given built =>
    obtain ⟨attributes, blocks, -, inside, below⟩ := Block.children_of_build built
    exact ⟨Attributes.ordered_of_build inside, Blocks.ordered_of_build below⟩

end ProviderCodegen.Schema
