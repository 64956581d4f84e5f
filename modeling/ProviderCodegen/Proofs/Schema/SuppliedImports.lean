import ProviderCodegen.Proofs.Schema.Build
import ProviderCodegen.Proofs.Schema.Imports
import ProviderCodegen.Proofs.Spec.Supplied

/-! # Where the imports of a schema come from

An import under a name of its own comes from the specification: the generator imports packages under
their own names only. This holds for every set that is put together, from the types of elements up
to the schema.
-/

namespace ProviderCodegen

open Source (Import ImportSet)

/-! ## Sets of supplied imports -/

namespace Source.ImportSet

variable {s t : ImportSet} {given more : List Import}

/-- Whether all imports under names of their own are among those given. -/
def SuppliedBy (s : ImportSet) (given : List Import) : Prop :=
  ∀ i ∈ s.entries, i.localName = none ∨ i ∈ given

theorem SuppliedBy.mono (supplied : s.SuppliedBy given) (subset : given ⊆ more) :
    s.SuppliedBy more :=
  fun i member => (supplied i member).imp_right (@subset i)

theorem SuppliedBy.union (ofFirst : s.SuppliedBy given) (ofSecond : t.SuppliedBy given) :
    (s ∪ t).SuppliedBy given :=
  fun i member => (mem_entries_union member).elim (ofFirst i) (ofSecond i)

theorem SuppliedBy.foldl {α : Type} {items : List α} {imports : α → ImportSet}
    (ofStart : s.SuppliedBy given) (ofItems : ∀ item ∈ items, (imports item).SuppliedBy given) :
    (items.foldl (fun s item => s ∪ imports item) s).SuppliedBy given := by
  intro i member
  rcases mem_entries_foldl_union member with inStart | ⟨item, listed, inside⟩
  · exact ofStart i inStart
  · exact ofItems item listed i inside

theorem suppliedBy_empty : empty.SuppliedBy given :=
  fun _ member => absurd member List.not_mem_nil

/-- Paths alone are imported under no name of their own. -/
theorem suppliedBy_ofPaths (paths : List String) : (ofPaths paths).SuppliedBy given :=
  fun _ member => .inl (mem_entries_ofPaths member).2

theorem suppliedBy_ofList {imports : List Import} (subset : imports ⊆ given) :
    (ofList imports).SuppliedBy given :=
  fun _ member => .inr (subset (mem_entries_ofList member))

end Source.ImportSet

namespace Schema

open Source.ImportSet (suppliedBy_empty suppliedBy_ofPaths suppliedBy_ofList)

variable {given : List Import}

/-- The package of a custom type is the only import it brings. -/
theorem suppliedBy_customType {custom : Option Spec.CustomType}
    (subset : Spec.CustomType.supplied custom ⊆ given) :
    (customTypeImports custom).SuppliedBy given ∧ (generatedTypeImports custom).SuppliedBy given := by
  cases custom with
  | none => exact ⟨suppliedBy_ofPaths _, suppliedBy_ofPaths _⟩
  | some custom => exact ⟨suppliedBy_ofList subset, suppliedBy_ofList subset⟩

theorem suppliedBy_externalType {external : Option Spec.ExternalType}
    (subset : Spec.ExternalType.supplied external ⊆ given) :
    (externalTypeImports external).SuppliedBy given := by
  cases external with
  | none => exact suppliedBy_empty
  | some external => exact (suppliedBy_ofPaths _).union (suppliedBy_ofList subset)

private theorem suppliedBy_snippets {path : String} {snippets : List Spec.Snippet}
    (subset : ∀ snippet ∈ snippets, snippet.imports ⊆ given) :
    (snippetImports path snippets).SuppliedBy given := by
  unfold snippetImports
  split
  · exact suppliedBy_empty
  · exact (suppliedBy_ofPaths _).foldl fun snippet listed => suppliedBy_ofList (subset snippet listed)

private theorem suppliedBy_customHooks {path : String} {hooks : List Spec.Hook}
    (subset : Spec.Hook.supplied hooks ⊆ given) :
    (snippetImports path (customHooks hooks)).SuppliedBy given := by
  refine suppliedBy_snippets fun snippet member i supplied => subset ?_
  obtain ⟨hook, listed, code⟩ := List.mem_filterMap.mp member
  refine List.mem_flatMap.mpr ⟨hook, listed, ?_⟩
  rw [Spec.Snippet.supplied, code]
  exact supplied

theorem suppliedBy_hooks {planModifiers validators : List Spec.Hook}
    (ofModifiers : Spec.Hook.supplied planModifiers ⊆ given)
    (ofValidators : Spec.Hook.supplied validators ⊆ given) :
    (hookImports (customHooks planModifiers) (customHooks validators)).SuppliedBy given :=
  (suppliedBy_customHooks ofModifiers).union (suppliedBy_customHooks ofValidators)

theorem suppliedBy_customDefault {default : Option Spec.CustomDefault}
    (subset : Spec.CustomDefault.supplied default ⊆ given) :
    (defaultImports (Default.ofCustom default)).SuppliedBy given := by
  rcases default with _ | ⟨_ | snippet⟩
  · exact suppliedBy_empty
  · exact suppliedBy_empty
  · exact suppliedBy_ofList subset

/-- If a literal and code are both given, the literal counts and the code is ignored. -/
theorem suppliedBy_literalDefault {α : Type} {literal : α → Default}
    {default : Option (Spec.LiteralDefault α)}
    (ofLiteral : ∀ value, (literal value).imports.SuppliedBy given)
    (subset : Spec.LiteralDefault.supplied default ⊆ given) :
    (defaultImports (Default.ofLiteral literal default)).SuppliedBy given := by
  rcases default with _ | ⟨_ | value, _ | snippet⟩
  · exact suppliedBy_empty
  · exact suppliedBy_empty
  · exact suppliedBy_ofList subset
  · exact ofLiteral value
  · exact ofLiteral value

theorem suppliedBy_attributeFacets {facets : Spec.AttributeFacets}
    (subset : facets.supplied ⊆ given) : (Facets.ofAttribute facets).imports.SuppliedBy given := by
  obtain ⟨subset, ofValidators⟩ := List.append_subset.mp subset
  obtain ⟨ofCustom, ofModifiers⟩ := List.append_subset.mp subset
  exact (suppliedBy_customType ofCustom).1.union (suppliedBy_hooks ofModifiers ofValidators)

theorem suppliedBy_blockFacets {facets : Spec.BlockFacets}
    (subset : facets.supplied ⊆ given) : (Facets.ofBlock facets).imports.SuppliedBy given := by
  obtain ⟨subset, ofValidators⟩ := List.append_subset.mp subset
  obtain ⟨ofCustom, ofModifiers⟩ := List.append_subset.mp subset
  exact (suppliedBy_customType ofCustom).1.union (suppliedBy_hooks ofModifiers ofValidators)

/-- What an object that holds attributes needs, whether single or in a collection. -/
theorem suppliedBy_object {object : ObjectFacets} {hooks : ImportSet}
    (ofCustom : Spec.CustomType.supplied object.customType ⊆ given)
    (ofExternal : Spec.ExternalType.supplied object.externalType ⊆ given)
    (ofHooks : hooks.SuppliedBy given) :
    (object.imports hooks .empty .empty).SuppliedBy given :=
  ((((((suppliedBy_externalType ofExternal).union (suppliedBy_customType ofCustom).2).union
    (suppliedBy_ofPaths _)).union ofHooks).union suppliedBy_empty).union suppliedBy_empty)

/-! ## Element types -/

/-- A custom type takes the place of everything below it. -/
private theorem suppliedBy_custom {custom : Spec.CustomType} :
    (ImportSet.ofList custom.package.toList).SuppliedBy (Spec.CustomType.supplied (some custom)) :=
  suppliedBy_ofList (List.Subset.refl _)

private theorem suppliedBy_primitive {kind : PrimitiveKind} {spec : Option Spec.PrimitiveType}
    {type : ElementType} (built : ElementType.buildPrimitive? kind spec = some (.ok type)) :
    type.partImports.SuppliedBy (Spec.PrimitiveType.supplied spec) := by
  obtain ⟨primitive, rfl, result⟩ := Option.map_eq_some_iff.mp built
  obtain ⟨custom⟩ := primitive
  cases result
  cases custom with
  | none => exact suppliedBy_empty
  | some custom => exact suppliedBy_custom

mutual

private theorem suppliedBy_kind : ∀ (spec : Spec.ElementType) (kind : ElementKind)
    {type : ElementType}, ElementType.buildKind? kind spec = some (.ok type) →
    type.partImports.SuppliedBy spec.supplied
  | ⟨bool, float64, int64, number, string, list, map, set, object⟩, kind, type, built => by
    cases kind with
    | primitive kind =>
      cases kind <;>
        exact (suppliedBy_primitive built).mono fun i member => by
          simp only [Spec.ElementType.supplied, List.mem_append, member, true_or, or_true]
    | collection kind =>
      cases kind with
      | list =>
        exact (suppliedBy_collection list built).mono fun i member => by
          simp only [Spec.ElementType.supplied, List.mem_append, member, true_or, or_true]
      | map =>
        exact (suppliedBy_collection map built).mono fun i member => by
          simp only [Spec.ElementType.supplied, List.mem_append, member, true_or, or_true]
      | set =>
        exact (suppliedBy_collection set built).mono fun i member => by
          simp only [Spec.ElementType.supplied, List.mem_append, member, true_or, or_true]
    | object =>
      exact (suppliedBy_objectType object built).mono (List.subset_append_right _ _)

private theorem suppliedBy_collection : ∀ (spec : Option Spec.CollectionType)
    {kind : CollectionKind} {type : ElementType},
    ElementType.buildCollection? kind spec = some (.ok type) →
    type.partImports.SuppliedBy (Spec.CollectionType.supplied spec)
  | none, _, _, built => nomatch built
  | some ⟨element, custom⟩, kind, type, built => by
    obtain ⟨inside, ofElement, result⟩ := bind_eq_ok.mp (Option.some.inj built)
    cases result
    cases custom with
    | some custom => exact suppliedBy_custom.mono (List.subset_append_left _ _)
    | none =>
      obtain ⟨kind, ofKind⟩ := ElementType.exists_kind_of_build ofElement
      have inElement := suppliedBy_kind element kind ofKind
      exact inElement

private theorem suppliedBy_objectType : ∀ (spec : Option Spec.ObjectType) {type : ElementType},
    ElementType.buildObject? spec = some (.ok type) →
    type.partImports.SuppliedBy (Spec.ObjectType.supplied spec)
  | none, _, built => nomatch built
  | some ⟨specs, custom⟩, type, built => by
    obtain ⟨fields, ofFields, result⟩ := bind_eq_ok.mp (Option.some.inj built)
    cases result
    cases custom with
    | some custom => exact suppliedBy_custom.mono (List.subset_append_left _ _)
    | none =>
      rw [ElementType.partImports, ElementType.partImportsAll_eq]
      exact (suppliedBy_ofPaths _).foldl (suppliedBy_fields specs ofFields)

private theorem suppliedBy_fields : ∀ (specs : List Spec.ObjectField) {fields : Fields},
    ElementType.buildFields specs = .ok fields →
    ∀ field ∈ fields, field.2.partImports.SuppliedBy (Spec.ObjectField.supplied specs)
  | [], _, built => by
    cases built
    exact fun _ member => absurd member List.not_mem_nil
  | ⟨name, spec⟩ :: rest, _, built => by
    obtain ⟨type, ofType, built⟩ := bind_eq_ok.mp built
    obtain ⟨fields, ofRest, result⟩ := bind_eq_ok.mp built
    cases result
    obtain ⟨kind, ofKind⟩ := ElementType.exists_kind_of_build ofType
    intro field member
    rcases List.mem_cons.mp member with rfl | member
    · exact (suppliedBy_kind spec kind ofKind).mono (List.subset_append_left _ _)
    · exact (suppliedBy_fields rest ofRest field member).mono (List.subset_append_right _ _)

end

/-- What is supplied for kinds that do not count is not imported. -/
theorem suppliedBy_elementType {spec : Spec.ElementType} {type : ElementType}
    (built : ElementType.build spec = .ok type) : type.imports.SuppliedBy spec.supplied := by
  obtain ⟨kind, ofKind⟩ := ElementType.exists_kind_of_build built
  exact (suppliedBy_ofPaths _).union (suppliedBy_kind spec kind ofKind)

theorem suppliedBy_objectFields {specs : List Spec.ObjectField} {fields : Fields}
    (built : Fields.build specs = .ok fields) :
    (Fields.imports fields).SuppliedBy (Spec.ObjectField.supplied specs) := by
  have ofFields := suppliedBy_fields specs built
  exact (suppliedBy_ofPaths _).foldl fun field listed =>
    (suppliedBy_ofPaths _).union (ofFields field listed)

/-! ## Nodes -/

private theorem suppliedBy_literalAttribute {α : Type} {kind : PrimitiveKind}
    (literal : α → Default) {spec : Option (Spec.PrimitiveAttribute (Spec.LiteralDefault α))}
    {node : Attribute} (ofLiteral : ∀ value, (literal value).imports.SuppliedBy
      (Spec.PrimitiveAttribute.supplied Spec.LiteralDefault.supplied spec))
    (built : Attribute.buildPrimitive? kind (Default.ofLiteral literal) spec = some (.ok node)) :
    node.ownImports.SuppliedBy
      (Spec.PrimitiveAttribute.supplied Spec.LiteralDefault.supplied spec) := by
  obtain ⟨set, rfl, rfl⟩ := Attribute.buildPrimitive?_eq_some built
  exact (suppliedBy_attributeFacets (List.subset_append_left _ _)).union
    (suppliedBy_literalDefault ofLiteral (List.subset_append_right _ _))

private theorem suppliedBy_customAttribute {kind : PrimitiveKind}
    {spec : Option (Spec.PrimitiveAttribute Spec.CustomDefault)} {node : Attribute}
    (built : Attribute.buildPrimitive? kind Default.ofCustom spec = some (.ok node)) :
    node.ownImports.SuppliedBy
      (Spec.PrimitiveAttribute.supplied Spec.CustomDefault.supplied spec) := by
  obtain ⟨set, rfl, rfl⟩ := Attribute.buildPrimitive?_eq_some built
  exact (suppliedBy_attributeFacets (List.subset_append_left _ _)).union
    (suppliedBy_customDefault (List.subset_append_right _ _))

private theorem suppliedBy_collectionAttribute {kind : CollectionKind}
    {spec : Option Spec.CollectionAttribute} {node : Attribute}
    (built : Attribute.buildCollection? kind spec = some (.ok node)) :
    node.ownImports.SuppliedBy (Spec.CollectionAttribute.supplied spec) := by
  obtain ⟨set, element, rfl, ofElement, rfl⟩ := Attribute.buildCollection?_eq_some built
  obtain ⟨rest, inDefault⟩ := List.append_subset.mp
    (List.Subset.refl (Spec.CollectionAttribute.supplied (some set)))
  obtain ⟨inFacets, inElement⟩ := List.append_subset.mp rest
  exact ((suppliedBy_attributeFacets inFacets).union (suppliedBy_customDefault inDefault)).union
    ((suppliedBy_elementType ofElement).mono inElement)

private theorem suppliedBy_objectAttribute {spec : Option Spec.ObjectAttribute} {node : Attribute}
    (built : Attribute.buildObject? spec = some (.ok node)) :
    node.ownImports.SuppliedBy (Spec.ObjectAttribute.supplied spec) := by
  obtain ⟨set, fields, rfl, ofFields, rfl⟩ := Attribute.buildObject?_eq_some built
  obtain ⟨rest, inDefault⟩ := List.append_subset.mp
    (List.Subset.refl (Spec.ObjectAttribute.supplied (some set)))
  obtain ⟨rest, inExternal⟩ := List.append_subset.mp rest
  obtain ⟨inFacets, inFields⟩ := List.append_subset.mp rest
  obtain ⟨rest, inValidators⟩ := List.append_subset.mp inFacets
  obtain ⟨inCustom, inModifiers⟩ := List.append_subset.mp rest
  have custom : (if set.externalType.isSome then generatedTypeImports set.facets.customType
      else customTypeImports set.facets.customType).SuppliedBy
        (Spec.ObjectAttribute.supplied (some set)) := by
    split
    · exact (suppliedBy_customType inCustom).2
    · exact (suppliedBy_customType inCustom).1
  exact (((((suppliedBy_externalType inExternal).union custom).union (suppliedBy_ofPaths _)).union
    (suppliedBy_hooks inModifiers inValidators)).union (suppliedBy_customDefault inDefault)).union
    ((suppliedBy_objectFields ofFields).mono inFields)

private theorem suppliedBy_nestedAttribute {kind : CollectionKind}
    {spec : Option Spec.NestedAttribute} {node : Attribute}
    (built : Attribute.buildNested? kind spec = some (.ok node)) :
    node.ownImports.SuppliedBy (Spec.NestedAttribute.supplied spec) := by
  obtain ⟨set, attributes, rfl, -, rfl⟩ := Attribute.buildNested?_eq_some built
  obtain ⟨rest, -⟩ := List.append_subset.mp (Spec.NestedAttribute.subset_supplied set)
  obtain ⟨rest, inDefault⟩ := List.append_subset.mp rest
  obtain ⟨rest, inValidators⟩ := List.append_subset.mp rest
  obtain ⟨rest, inModifiers⟩ := List.append_subset.mp rest
  obtain ⟨rest, inExternal⟩ := List.append_subset.mp rest
  obtain ⟨inFacets, inCustom⟩ := List.append_subset.mp rest
  exact (((suppliedBy_externalType inExternal).union (suppliedBy_attributeFacets inFacets)).union
    (suppliedBy_customDefault inDefault)).union
    (suppliedBy_object inCustom inExternal (suppliedBy_hooks inModifiers inValidators))

private theorem suppliedBy_singleAttribute {spec : Option Spec.SingleNestedAttribute}
    {node : Attribute} (built : Attribute.buildSingle? spec = some (.ok node)) :
    node.ownImports.SuppliedBy (Spec.SingleNestedAttribute.supplied spec) := by
  obtain ⟨set, attributes, rfl, -, rfl⟩ := Attribute.buildSingle?_eq_some built
  obtain ⟨rest, -⟩ := List.append_subset.mp (Spec.SingleNestedAttribute.subset_supplied set)
  obtain ⟨rest, inDefault⟩ := List.append_subset.mp rest
  obtain ⟨inFacets, inExternal⟩ := List.append_subset.mp rest
  obtain ⟨rest, inValidators⟩ := List.append_subset.mp inFacets
  obtain ⟨inCustom, inModifiers⟩ := List.append_subset.mp rest
  exact suppliedBy_object inCustom inExternal
    ((suppliedBy_hooks inModifiers inValidators).union (suppliedBy_customDefault inDefault))

private theorem suppliedBy_nestedBlock {kind : RepeatedKind} {spec : Option Spec.NestedBlock}
    {node : Block} (built : Block.buildNested? kind spec = some (.ok node)) :
    node.ownImports.SuppliedBy (Spec.NestedBlock.supplied spec) := by
  obtain ⟨set, attributes, blocks, rfl, -, -, rfl⟩ := Block.buildNested?_eq_some built
  obtain ⟨rest, -⟩ := List.append_subset.mp (Spec.NestedBlock.subset_supplied set)
  obtain ⟨rest, -⟩ := List.append_subset.mp rest
  obtain ⟨rest, inValidators⟩ := List.append_subset.mp rest
  obtain ⟨rest, inModifiers⟩ := List.append_subset.mp rest
  obtain ⟨rest, inExternal⟩ := List.append_subset.mp rest
  obtain ⟨inFacets, inCustom⟩ := List.append_subset.mp rest
  exact (((suppliedBy_externalType inExternal).union (suppliedBy_blockFacets inFacets)).union
    suppliedBy_empty).union
    (suppliedBy_object inCustom inExternal (suppliedBy_hooks inModifiers inValidators))

private theorem suppliedBy_singleBlock {spec : Option Spec.SingleNestedBlock} {node : Block}
    (built : Block.buildSingle? spec = some (.ok node)) :
    node.ownImports.SuppliedBy (Spec.SingleNestedBlock.supplied spec) := by
  obtain ⟨set, attributes, blocks, rfl, -, -, rfl⟩ := Block.buildSingle?_eq_some built
  obtain ⟨rest, -⟩ := List.append_subset.mp (Spec.SingleNestedBlock.subset_supplied set)
  obtain ⟨rest, -⟩ := List.append_subset.mp rest
  obtain ⟨inFacets, inExternal⟩ := List.append_subset.mp rest
  obtain ⟨rest, inValidators⟩ := List.append_subset.mp inFacets
  obtain ⟨inCustom, inModifiers⟩ := List.append_subset.mp rest
  exact suppliedBy_object inCustom inExternal (suppliedBy_hooks inModifiers inValidators)

section Parts

variable {i : Import}

private theorem supplied_collectionOf (spec : Spec.Attribute) (kind : CollectionKind) :
    Spec.CollectionAttribute.supplied (collectionOf spec kind) ⊆ spec.supplied := by
  cases spec
  cases kind <;> intro i member <;> simp only [collectionOf] at member <;>
    simp only [Spec.Attribute.supplied, List.mem_append, member, true_or, or_true]

private theorem supplied_nestedOf (spec : Spec.Attribute) (kind : CollectionKind) :
    Spec.NestedAttribute.supplied (nestedOf spec kind) ⊆ spec.supplied := by
  cases spec
  cases kind <;> intro i member <;> simp only [nestedOf] at member <;>
    simp only [Spec.Attribute.supplied, List.mem_append, member, true_or, or_true]

private theorem supplied_singleNested (spec : Spec.Attribute) :
    Spec.SingleNestedAttribute.supplied spec.singleNested ⊆ spec.supplied := by
  cases spec
  intro i member
  simp only at member
  simp only [Spec.Attribute.supplied, List.mem_append, member, true_or, or_true]

private theorem supplied_object (spec : Spec.Attribute) :
    Spec.ObjectAttribute.supplied spec.object ⊆ spec.supplied := by
  cases spec
  exact List.subset_append_right _ _

private theorem supplied_repeatedOf (spec : Spec.Block) (kind : RepeatedKind) :
    Spec.NestedBlock.supplied (repeatedOf spec kind) ⊆ spec.supplied := by
  cases spec
  cases kind <;> intro i member <;> simp only [repeatedOf] at member <;>
    simp only [Spec.Block.supplied, List.mem_append, member, true_or, or_true]

private theorem supplied_singleBlock (spec : Spec.Block) :
    Spec.SingleNestedBlock.supplied spec.singleNested ⊆ spec.supplied := by
  cases spec
  exact List.subset_append_right _ _

end Parts

private theorem suppliedBy_primitiveKind {kind : PrimitiveKind} {spec : Spec.Attribute}
    {node : Attribute} (built : Attribute.buildKind? (.primitive kind) spec = some (.ok node)) :
    node.ownImports.SuppliedBy spec.supplied := by
  cases spec
  cases kind with
  | bool =>
    refine (suppliedBy_literalAttribute .bool (fun _ => suppliedBy_ofPaths _) built).mono ?_
    intro i member
    simp only [Spec.Attribute.supplied, List.mem_append, member, true_or]
  | float64 =>
    refine (suppliedBy_literalAttribute .float64 (fun _ => suppliedBy_ofPaths _) built).mono ?_
    intro i member
    simp only [Spec.Attribute.supplied, List.mem_append, member, true_or, or_true]
  | int64 =>
    refine (suppliedBy_literalAttribute .int64 (fun _ => suppliedBy_ofPaths _) built).mono ?_
    intro i member
    simp only [Spec.Attribute.supplied, List.mem_append, member, true_or, or_true]
  | number =>
    refine (suppliedBy_customAttribute built).mono ?_
    intro i member
    simp only [Spec.Attribute.supplied, List.mem_append, member, true_or, or_true]
  | string =>
    refine (suppliedBy_literalAttribute .string (fun _ => suppliedBy_ofPaths _) built).mono ?_
    intro i member
    simp only [Spec.Attribute.supplied, List.mem_append, member, true_or, or_true]

private theorem suppliedBy_attribute {spec : Spec.Attribute} {node : Attribute}
    (built : Attribute.build spec = .ok node) : node.ownImports.SuppliedBy spec.supplied := by
  obtain ⟨kind, ofKind⟩ := Attribute.exists_kind_of_build built
  cases kind with
  | primitive kind => exact suppliedBy_primitiveKind ofKind
  | collection kind =>
    rw [Attribute.buildKind?_collection] at ofKind
    exact (suppliedBy_collectionAttribute ofKind).mono (supplied_collectionOf spec kind)
  | nested kind =>
    rw [Attribute.buildKind?_nested] at ofKind
    exact (suppliedBy_nestedAttribute ofKind).mono (supplied_nestedOf spec kind)
  | singleNested =>
    rw [Attribute.buildKind?_singleNested] at ofKind
    exact (suppliedBy_singleAttribute ofKind).mono (supplied_singleNested spec)
  | object =>
    rw [Attribute.buildKind?_object] at ofKind
    exact (suppliedBy_objectAttribute ofKind).mono (supplied_object spec)

private theorem suppliedBy_block {spec : Spec.Block} {node : Block}
    (built : Block.build spec = .ok node) : node.ownImports.SuppliedBy spec.supplied := by
  obtain ⟨kind, ofKind⟩ := Block.exists_kind_of_build built
  cases kind with
  | nested kind =>
    rw [Block.buildKind?_nested] at ofKind
    exact (suppliedBy_nestedBlock ofKind).mono (supplied_repeatedOf spec kind)
  | singleNested =>
    rw [Block.buildKind?_singleNested] at ofKind
    exact (suppliedBy_singleBlock ofKind).mono (supplied_singleBlock spec)

private theorem supplied_mem_attributes {spec : Spec.Attribute} {specs : List Spec.Attribute}
    (member : spec ∈ specs) : spec.supplied ⊆ Spec.Attribute.suppliedAll specs := by
  induction specs with
  | nil => exact absurd member List.not_mem_nil
  | cons first rest ih =>
    rcases List.mem_cons.mp member with rfl | member
    · exact List.subset_append_left _ _
    · exact List.subset_append_of_subset_right _ (ih member)

private theorem supplied_mem_blocks {spec : Spec.Block} {specs : List Spec.Block}
    (member : spec ∈ specs) : spec.supplied ⊆ Spec.Block.suppliedAll specs := by
  induction specs with
  | nil => exact absurd member List.not_mem_nil
  | cons first rest ih =>
    rcases List.mem_cons.mp member with rfl | member
    · exact List.subset_append_left _ _
    · exact List.subset_append_of_subset_right _ (ih member)

/-- What is supplied inside a specification, the specification supplies. -/
private theorem inherited_supplied :
    Inherited (fun spec => spec.supplied ⊆ given) (fun spec => spec.supplied ⊆ given) := by
  constructor
  · intro spec specs subset holds inside member
    refine List.Subset.trans (List.Subset.trans (supplied_mem_attributes member) ?_) subset
    cases holds with
    | @nested kind set isSet =>
      have parts := supplied_nestedOf spec kind
      rw [isSet] at parts
      obtain ⟨-, above⟩ := List.append_subset.mp (Spec.NestedAttribute.subset_supplied set)
      exact List.Subset.trans above parts
    | @singleNested set isSet =>
      have parts := supplied_singleNested spec
      rw [isSet] at parts
      obtain ⟨-, above⟩ := List.append_subset.mp (Spec.SingleNestedAttribute.subset_supplied set)
      exact List.Subset.trans above parts
  · intro spec attributes blocks subset holds
    have parts : Spec.Attribute.suppliedAll attributes ⊆ spec.supplied ∧
        Spec.Block.suppliedAll blocks ⊆ spec.supplied := by
      cases holds with
      | @nested kind set isSet =>
        have parts := supplied_repeatedOf spec kind
        rw [isSet] at parts
        obtain ⟨rest, below⟩ := List.append_subset.mp (Spec.NestedBlock.subset_supplied set)
        obtain ⟨-, above⟩ := List.append_subset.mp rest
        exact ⟨List.Subset.trans above parts, List.Subset.trans below parts⟩
      | @singleNested set isSet =>
        have parts := supplied_singleBlock spec
        rw [isSet] at parts
        obtain ⟨rest, below⟩ := List.append_subset.mp (Spec.SingleNestedBlock.subset_supplied set)
        obtain ⟨-, above⟩ := List.append_subset.mp rest
        exact ⟨List.Subset.trans above parts, List.Subset.trans below parts⟩
    exact ⟨fun inside member =>
        List.Subset.trans (supplied_mem_attributes member) (List.Subset.trans parts.1 subset),
      fun inside member =>
        List.Subset.trans (supplied_mem_blocks member) (List.Subset.trans parts.2 subset)⟩

/-- The imports of a schema that is built are those that its specification supplies, and packages
under their own names. -/
theorem ResourceSchema.suppliedBy_of_build {spec : Spec.Schema} {schema : ResourceSchema}
    (built : ResourceSchema.build spec = .ok schema) : schema.imports.SuppliedBy spec.supplied := by
  have sources := builtFrom_nodes built inherited_supplied
    (fun inside member =>
      List.Subset.trans (supplied_mem_attributes member) (List.subset_append_left _ _))
    fun inside member =>
      List.Subset.trans (supplied_mem_blocks member) (List.subset_append_right _ _)
  intro i member
  rcases exists_node_of_mem_imports member with ⟨⟨name, node⟩, listed, own⟩ | ownName
  · cases sources _ listed with
    | attr subset built => exact (suppliedBy_attribute built).mono subset i own
    | block subset built => exact (suppliedBy_block built).mono subset i own
  · exact .inl ownName

end Schema

end ProviderCodegen
