import ProviderCodegen.Proofs.Schema.Outcome

/-! # What a schema binds

A map that is built has the names of its list, in ascending order, and binds each name to what is
built from its own entry (`Binds`). Which list a node is built from is decided by the first kind that
its specification sets (`attributesHeld`, `childrenHeld`), so the same holds of the maps in a node
and, by induction on the node, of all maps inside it (`Realizes`).
-/

namespace ProviderCodegen

namespace Schema

/-! ## What a map holds -/

section Binds

variable {σ α : Type} {name : σ → String} {build : σ → Except BuildError α} {specs : List σ}
  {nodes : NameMap α}

/-- Whether a map holds the names of a list in ascending order and no others, each name bound to
what is built from its own entry in the list. -/
structure Binds (name : σ → String) (build : σ → Except BuildError α) (specs : List σ)
    (nodes : NameMap α) : Prop where
  ordered : NameMap.Ordered nodes
  names : nodes.names.Perm (specs.map name)
  bound : ∀ spec ∈ specs, ∃ node, build spec = .ok node ∧ nodes.find? (name spec) = some node

theorem binds_nil : Binds name build [] [] :=
  ⟨NameMap.ordered_nil, .refl _, nofun⟩

/-- Where children are added, all of them have been built, and they are what is added. -/
theorem perm_addChildren {kind : Spec.ChildKind} {outcomes : List (String × Except BuildError α)}
    {built : NameMap α} (added : addChildren kind built outcomes = .ok nodes) :
    ∃ values : List (String × α), outcomes = values.map (fun (name, value) => (name, .ok value)) ∧
      nodes.Perm (values ++ built) := by
  induction outcomes generalizing built with
  | nil =>
    cases added
    exact ⟨[], rfl, .refl _⟩
  | cons outcome rest ih =>
    obtain ⟨name, node⟩ := outcome
    obtain ⟨larger, first, added⟩ := bind_eq_ok.mp added
    obtain ⟨free, value, rfl, rfl⟩ := addChild_eq_ok_iff.mp first
    obtain ⟨values, rfl, perm⟩ := ih added
    refine ⟨(name, value) :: values, rfl, perm.trans ?_⟩
    exact ((NameMap.insert_perm free value).append_left values).trans List.perm_middle

/-- Adding children one by one permutes them into the order of their names. -/
theorem binds_of_addChildren {kind : Spec.ChildKind}
    (added : addChildren kind [] (specs.map fun spec => (name spec, build spec)) = .ok nodes) :
    Binds name build specs nodes := by
  have ordered := ordered_addChildren NameMap.ordered_nil added
  obtain ⟨values, given, perm⟩ := perm_addChildren added
  rw [List.append_nil] at perm
  refine ⟨ordered, ?_, fun spec member => ?_⟩
  · have same : values.map Prod.fst = specs.map name := by
      have firsts := congrArg (List.map Prod.fst) given
      rw [List.map_map, List.map_map] at firsts
      exact firsts.symm
    exact same ▸ perm.map Prod.fst
  · have listed := List.mem_map_of_mem (f := fun spec => (name spec, build spec)) member
    rw [given] at listed
    obtain ⟨⟨other, node⟩, kept, same⟩ := List.mem_map.mp listed
    obtain ⟨rfl, result⟩ := Prod.mk.inj same
    exact ⟨node, result.symm, ordered.find?_of_mem (perm.mem_iff.mpr kept)⟩

end Binds

theorem Attributes.binds_of_build {specs : List Spec.Attribute} {attributes : Attributes}
    (built : Attributes.build specs = .ok attributes) :
    Binds (·.name) Attribute.build specs attributes :=
  binds_of_addChildren (Attributes.build_eq specs ▸ built)

theorem Blocks.binds_of_build {specs : List Spec.Block} {blocks : Blocks}
    (built : Blocks.build specs = .ok blocks) : Binds (·.name) Block.build specs blocks :=
  binds_of_addChildren (Blocks.build_eq specs ▸ built)

/-! ## What a node holds -/

def Attribute.attributes (node : Attribute) : Attributes :=
  node.attributes?.getD []

/-- No attributes, if a kind is set. -/
def nothing? {κ σ : Type} (kind : Option κ) : Option (List σ) :=
  kind.map fun _ => []

/-- The attributes in the kind of an attribute that counts. -/
def attributesHeld (spec : Spec.Attribute) : List Spec.Attribute :=
  firstSet [nothing? spec.bool, nothing? spec.float64, nothing? spec.int64, nothing? spec.number,
    nothing? spec.string, nothing? spec.list, nothing? spec.map, nothing? spec.set,
    spec.listNested.map (·.nestedObject.attributes),
    spec.mapNested.map (·.nestedObject.attributes),
    spec.setNested.map (·.nestedObject.attributes), spec.singleNested.map (·.attributes),
    nothing? spec.object] []

/-- The attributes and blocks in the kind of a block that counts. -/
def childrenHeld (spec : Spec.Block) : List Spec.Attribute × List Spec.Block :=
  firstSet
    [spec.listNested.map fun given => (given.nestedObject.attributes, given.nestedObject.blocks),
      spec.setNested.map fun given => (given.nestedObject.attributes, given.nestedObject.blocks),
      spec.singleNested.map fun given => (given.attributes, given.blocks)] ([], [])

/-- Whether an attribute, if it is built, binds the attributes of a list. -/
private def BindsAttributes (outcome : Except BuildError Attribute) (held : List Spec.Attribute) :
    Prop :=
  ∀ node, outcome = .ok node → Binds (·.name) Attribute.build held node.attributes

private theorem binds_primitive {δ : Type} (kind : PrimitiveKind)
    (default : Option δ → Option Default) (spec : Option (Spec.PrimitiveAttribute δ)) :
    Option.Rel BindsAttributes (Attribute.buildPrimitive? kind default spec) (nothing? spec) := by
  cases spec with
  | none => exact .none
  | some given =>
    refine .some fun node built => ?_
    cases built
    exact binds_nil

private theorem binds_collection (kind : CollectionKind) (spec : Option Spec.CollectionAttribute) :
    Option.Rel BindsAttributes (Attribute.buildCollection? kind spec) (nothing? spec) := by
  cases spec with
  | none => exact .none
  | some given =>
    refine .some fun node built => ?_
    obtain ⟨element, -, result⟩ := bind_eq_ok.mp built
    cases result
    exact binds_nil

private theorem binds_object (spec : Option Spec.ObjectAttribute) :
    Option.Rel BindsAttributes (Attribute.buildObject? spec) (nothing? spec) := by
  cases spec with
  | none => exact .none
  | some given =>
    refine .some fun node built => ?_
    obtain ⟨fields, -, result⟩ := bind_eq_ok.mp built
    cases result
    exact binds_nil

private theorem binds_nested (kind : CollectionKind) (spec : Option Spec.NestedAttribute) :
    Option.Rel BindsAttributes (Attribute.buildNested? kind spec)
      (spec.map (·.nestedObject.attributes)) := by
  cases spec with
  | none => exact .none
  | some given =>
    rw [Attribute.buildNested?_some]
    refine .some fun node built => ?_
    obtain ⟨attributes, inside, result⟩ := bind_eq_ok.mp built
    cases result
    exact Attributes.binds_of_build inside

private theorem binds_single (spec : Option Spec.SingleNestedAttribute) :
    Option.Rel BindsAttributes (Attribute.buildSingle? spec) (spec.map (·.attributes)) := by
  cases spec with
  | none => exact .none
  | some given =>
    rw [Attribute.buildSingle?_some]
    refine .some fun node built => ?_
    obtain ⟨attributes, inside, result⟩ := bind_eq_ok.mp built
    cases result
    exact Attributes.binds_of_build inside

private theorem bindsAttributes_build (spec : Spec.Attribute) :
    BindsAttributes (Attribute.build spec) (attributesHeld spec) := by
  obtain ⟨_, bool, float64, int64, number, string, list, map, set, listNested, mapNested, setNested,
    single, object⟩ := spec
  refine related_first ?_ nofun
  exact .cons (binds_primitive _ _ bool) <| .cons (binds_primitive _ _ float64) <|
    .cons (binds_primitive _ _ int64) <| .cons (binds_primitive _ _ number) <|
    .cons (binds_primitive _ _ string) <| .cons (binds_collection _ list) <|
    .cons (binds_collection _ map) <| .cons (binds_collection _ set) <|
    .cons (binds_nested _ listNested) <| .cons (binds_nested _ mapNested) <|
    .cons (binds_nested _ setNested) <| .cons (binds_single single) <|
    .cons (binds_object object) .nil

/-- What an attribute holds is built from what its specification holds. -/
theorem Attribute.binds_of_build {spec : Spec.Attribute} {node : Attribute}
    (built : Attribute.build spec = .ok node) :
    Binds (·.name) Attribute.build (attributesHeld spec) node.attributes :=
  bindsAttributes_build spec node built

/-- Whether a block, if it is built, binds attributes and blocks of two lists. -/
private def BindsChildren (outcome : Except BuildError Block)
    (held : List Spec.Attribute × List Spec.Block) : Prop :=
  ∀ node, outcome = .ok node → Binds (·.name) Attribute.build held.1 node.attributes ∧
    Binds (·.name) Block.build held.2 node.blocks

private theorem binds_nestedBlock (kind : RepeatedKind) (spec : Option Spec.NestedBlock) :
    Option.Rel BindsChildren (Block.buildNested? kind spec)
      (spec.map fun given => (given.nestedObject.attributes, given.nestedObject.blocks)) := by
  cases spec with
  | none => exact .none
  | some given =>
    rw [Block.buildNested?_some]
    refine .some fun node built => ?_
    obtain ⟨attributes, inside, built⟩ := bind_eq_ok.mp built
    obtain ⟨blocks, below, result⟩ := bind_eq_ok.mp built
    cases result
    exact ⟨Attributes.binds_of_build inside, Blocks.binds_of_build below⟩

private theorem binds_singleBlock (spec : Option Spec.SingleNestedBlock) :
    Option.Rel BindsChildren (Block.buildSingle? spec)
      (spec.map fun given => (given.attributes, given.blocks)) := by
  cases spec with
  | none => exact .none
  | some given =>
    rw [Block.buildSingle?_some]
    refine .some fun node built => ?_
    obtain ⟨attributes, inside, built⟩ := bind_eq_ok.mp built
    obtain ⟨blocks, below, result⟩ := bind_eq_ok.mp built
    cases result
    exact ⟨Attributes.binds_of_build inside, Blocks.binds_of_build below⟩

private theorem bindsChildren_build (spec : Spec.Block) :
    BindsChildren (Block.build spec) (childrenHeld spec) := by
  obtain ⟨_, listNested, setNested, single⟩ := spec
  refine related_first ?_ nofun
  exact .cons (binds_nestedBlock _ listNested) <| .cons (binds_nestedBlock _ setNested) <|
    .cons (binds_singleBlock single) .nil

/-- What a block holds is built from what its specification holds. -/
theorem Block.binds_of_build {spec : Spec.Block} {node : Block}
    (built : Block.build spec = .ok node) :
    Binds (·.name) Attribute.build (childrenHeld spec).1 node.attributes ∧
      Binds (·.name) Block.build (childrenHeld spec).2 node.blocks :=
  bindsChildren_build spec node built

/-! ## Every depth -/

/-- Whether an attribute is built from a specification and binds what the specification holds, and so
does everything inside it. -/
inductive Attribute.Realizes : Spec.Attribute → Attribute → Prop
  | intro {spec : Spec.Attribute} {node : Attribute} (built : Attribute.build spec = .ok node)
      (binds : Binds (·.name) Attribute.build (attributesHeld spec) node.attributes)
      (inside : ∀ held ∈ attributesHeld spec, ∀ child,
        NameMap.find? node.attributes held.name = some child → Realizes held child) :
      Realizes spec node

/-- Whether a block is built from a specification and binds what the specification holds, and so does
everything inside it. -/
inductive Block.Realizes : Spec.Block → Block → Prop
  | intro {spec : Spec.Block} {node : Block} (built : Block.build spec = .ok node)
      (bindsAttributes : Binds (·.name) Attribute.build (childrenHeld spec).1 node.attributes)
      (bindsBlocks : Binds (·.name) Block.build (childrenHeld spec).2 node.blocks)
      (attributesInside : ∀ held ∈ (childrenHeld spec).1, ∀ child,
        NameMap.find? node.attributes held.name = some child → Attribute.Realizes held child)
      (blocksInside : ∀ held ∈ (childrenHeld spec).2, ∀ child,
        NameMap.find? node.blocks held.name = some child → Realizes held child) :
      Realizes spec node

/-- What is bound to the name of a specification is built from the specification. -/
theorem Binds.build_eq {σ α : Type} {name : σ → String} {build : σ → Except BuildError α}
    {specs : List σ} {nodes : NameMap α} (binds : Binds name build specs nodes) {spec : σ}
    (member : spec ∈ specs) {node : α} (found : nodes.find? (name spec) = some node) :
    build spec = .ok node := by
  obtain ⟨bound, built, same⟩ := binds.bound spec member
  obtain rfl := Option.some.inj (same.symm.trans found)
  exact built

/-- Whether a node realizes each specification that it is built from. -/
private def Node.RealizesSpec : Node → Prop
  | .attr node => ∀ spec, Attribute.build spec = .ok node → Attribute.Realizes spec node
  | .block node => ∀ spec, Block.build spec = .ok node → Block.Realizes spec node

private theorem realizesSpec (node : Node) : node.RealizesSpec := by
  induction node with
  | step node ih =>
    have ofAttribute : ∀ {name : String} {child : Attribute},
        NameMap.find? node.attributes name = some child → Node.RealizesSpec (.attr child) := fun found =>
      ih (_, _) (mem_namedNodes.mpr (.inl ⟨_, NameMap.mem_of_find? found, rfl⟩))
    have ofBlock : ∀ {name : String} {child : Block},
        NameMap.find? node.blocks name = some child → Node.RealizesSpec (.block child) := fun found =>
      ih (_, _) (mem_namedNodes.mpr (.inr ⟨_, NameMap.mem_of_find? found, rfl⟩))
    cases node with
    | attr node =>
      intro spec built
      have binds := Attribute.binds_of_build built
      exact .intro built binds fun held member child found =>
        ofAttribute found held (binds.build_eq member found)
    | block node =>
      intro spec built
      obtain ⟨bindsAttributes, bindsBlocks⟩ := Block.binds_of_build built
      exact .intro built bindsAttributes bindsBlocks
        (fun held member child found => ofAttribute found held (bindsAttributes.build_eq member found))
        (fun held member child found => ofBlock found held (bindsBlocks.build_eq member found))

/-- Building succeeds exactly for specifications in which every value sets a kind and no list gives a
name twice, where of each value the first kind that is set counts. If it fails, the error is the first
fault that a walk meets. If it succeeds, every map at any depth binds the names of its list, in
ascending order, to the nodes built from their own entries. -/
theorem ResourceSchema.build_characterized (spec : Spec.Schema) :
    ((∃ schema, build spec = .ok schema) ↔ (Outline.ofSchema spec).WellFormed) ∧
      (∀ fault, build spec = .error fault ↔ (Outline.ofSchema spec).faults.head? = some fault) ∧
      ∀ schema, build spec = .ok schema →
        (Binds (·.name) Attribute.build spec.attributes schema.attributes ∧
          ∀ inside ∈ spec.attributes, ∀ node,
            schema.attributes.find? inside.name = some node → Attribute.Realizes inside node) ∧
        Binds (·.name) Block.build spec.blocks schema.blocks ∧
          ∀ inside ∈ spec.blocks, ∀ node,
            schema.blocks.find? inside.name = some node → Block.Realizes inside node := by
  have foretold : fault? (build spec) = _ := foretold_build spec
  refine ⟨?_, fun fault => ?_, fun schema built => ?_⟩
  · rw [← fault?_eq_none_iff, foretold, List.head?_eq_none_iff, Outline.faults_eq_nil_iff]
  · rw [← fault?_eq_some_iff, foretold]
  · obtain ⟨inside, below⟩ := ResourceSchema.build_eq_ok built
    have attributes := Attributes.binds_of_build inside
    have blocks := Blocks.binds_of_build below
    exact ⟨⟨attributes, fun held member node found =>
        realizesSpec (.attr node) held (attributes.build_eq member found)⟩,
      blocks, fun held member node found =>
        realizesSpec (.block node) held (blocks.build_eq member found)⟩

end Schema

end ProviderCodegen
