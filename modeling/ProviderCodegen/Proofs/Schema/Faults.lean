import ProviderCodegen.Proofs.Schema.Build

/-! # Faults that building finds

A node is built as a kind only where its specification sets the kind, so a kind that is not set is
never a fault of a schema, whatever else is wrong in it at any depth.
-/

namespace ProviderCodegen.Schema

/-- Whether a fault is that a kind is asked for which is not set. -/
def BuildError.isNil : BuildError → Bool
  | nilAttribute _ => true
  | nilBlock _ => true
  | _ => false

/-- Whether building something never fails because a kind is not set. -/
def NeverNil {α : Type} (outcome : Except BuildError α) : Prop :=
  ∀ fault, outcome = .error fault → fault.isNil = false

section Outcomes

variable {α β κ : Type} {kind : Spec.ChildKind} {fault : BuildError}

theorem neverNil_ok (value : α) : NeverNil (.ok value) :=
  fun _ failed => nomatch failed

theorem neverNil_error (other : fault.isNil = false) : NeverNil (.error fault : Except _ α) := by
  intro found failed
  cases failed
  exact other

theorem NeverNil.bind {first : Except BuildError α} (never : NeverNil first)
    {next : α → Except BuildError β} (step : ∀ value, NeverNil (next value)) :
    NeverNil (first >>= next) := by
  cases first with
  | ok value => exact step value
  | error fault =>
    intro found failed
    exact never found (congrArg Except.error (Except.error.inj failed))

/-- No kind fails in this way by itself, nor does the fault that no kind is set. -/
theorem neverNil_first (kinds : List κ) (fault : BuildError) (other : fault.isNil = false)
    {outcome : κ → Option (Except BuildError α)}
    (each : ∀ kind result, outcome kind = some result → NeverNil result) :
    NeverNil ((kinds.findSome? outcome).getD (.error fault)) := by
  cases found : kinds.findSome? outcome with
  | none => exact neverNil_error other
  | some result =>
    obtain ⟨kind, -, given⟩ := List.exists_of_findSome?_eq_some found
    exact each kind result given

/-- A name that is taken is a fault of another sort. -/
theorem neverNil_addChild {built : NameMap α} {name : String} {node : Except BuildError α}
    (never : NeverNil node) : NeverNil (addChild kind built name node) := by
  unfold addChild
  split_ifs
  · exact neverNil_error rfl
  · cases node with
    | ok value => exact neverNil_ok _
    | error fault => exact neverNil_error (never fault rfl)

end Outcomes

/-! ## Element types -/

private theorem neverNil_primitiveType {kind : PrimitiveKind} {spec : Option Spec.PrimitiveType}
    {result : Except BuildError ElementType}
    (built : ElementType.buildPrimitive? kind spec = some result) : NeverNil result := by
  obtain ⟨given, -, rfl⟩ := Option.map_eq_some_iff.mp built
  exact neverNil_ok _

mutual

private theorem neverNil_elementKind : ∀ (spec : Spec.ElementType) (kind : ElementKind) result,
    ElementType.buildKind? kind spec = some result → NeverNil result
  | ⟨bool, float64, int64, number, string, list, map, set, object⟩, kind, result, built => by
    cases kind with
    | primitive kind => cases kind <;> exact neverNil_primitiveType built
    | collection kind =>
      cases kind with
      | list => exact neverNil_collectionType list built
      | map => exact neverNil_collectionType map built
      | set => exact neverNil_collectionType set built
    | object => exact neverNil_objectType object built

private theorem neverNil_collectionType : ∀ (spec : Option Spec.CollectionType)
    {kind : CollectionKind} {result : Except BuildError ElementType},
    ElementType.buildCollection? kind spec = some result → NeverNil result
  | none, _, _, built => nomatch built
  | some ⟨element, custom⟩, _, _, built => by
    cases built
    have inside := neverNil_first ElementKind.all .undefinedElement rfl (neverNil_elementKind element)
    exact inside.bind fun _ => neverNil_ok _

private theorem neverNil_objectType : ∀ (spec : Option Spec.ObjectType)
    {result : Except BuildError ElementType},
    ElementType.buildObject? spec = some result → NeverNil result
  | none, _, built => nomatch built
  | some ⟨fields, custom⟩, _, built => by
    cases built
    exact (neverNil_fieldTypes fields).bind fun _ => neverNil_ok _

private theorem neverNil_fieldTypes : ∀ specs : List Spec.ObjectField,
    NeverNil (ElementType.buildFields specs)
  | [] => neverNil_ok _
  | ⟨name, spec⟩ :: rest => by
    have first := neverNil_first ElementKind.all (.undefinedField name) rfl (neverNil_elementKind spec)
    refine first.bind fun _ => ?_
    exact (neverNil_fieldTypes rest).bind fun _ => neverNil_ok _

end

/-- An element type without a kind has a fault of its own. -/
theorem ElementType.neverNil_build (spec : Spec.ElementType) : NeverNil (ElementType.build spec) :=
  neverNil_first ElementKind.all .undefinedElement rfl (neverNil_elementKind spec)

theorem Fields.neverNil_build (specs : List Spec.ObjectField) : NeverNil (Fields.build specs) :=
  neverNil_fieldTypes specs

/-! ## Attributes -/

private theorem neverNil_primitiveAttribute {δ : Type} {kind : PrimitiveKind}
    {default : Option δ → Option Default} {spec : Option (Spec.PrimitiveAttribute δ)}
    {result : Except BuildError Attribute}
    (built : Attribute.buildPrimitive? kind default spec = some result) : NeverNil result := by
  obtain ⟨given, -, rfl⟩ := Option.map_eq_some_iff.mp built
  exact neverNil_ok _

private theorem neverNil_collectionAttribute {kind : CollectionKind}
    {spec : Option Spec.CollectionAttribute} {result : Except BuildError Attribute}
    (built : Attribute.buildCollection? kind spec = some result) : NeverNil result := by
  obtain ⟨given, -, rfl⟩ := Option.map_eq_some_iff.mp built
  exact (ElementType.neverNil_build given.elementType).bind fun _ => neverNil_ok _

private theorem neverNil_objectAttribute {spec : Option Spec.ObjectAttribute}
    {result : Except BuildError Attribute}
    (built : Attribute.buildObject? spec = some result) : NeverNil result := by
  obtain ⟨given, -, rfl⟩ := Option.map_eq_some_iff.mp built
  exact (Fields.neverNil_build given.attributeTypes).bind fun _ => neverNil_ok _

mutual

private theorem neverNil_attributeKind : ∀ (spec : Spec.Attribute) (kind : AttributeKind) result,
    Attribute.buildKind? kind spec = some result → NeverNil result
  | ⟨_, bool, float64, int64, number, string, list, map, set, listNested, mapNested, setNested,
      single, fixed⟩, kind, result, built => by
    cases kind with
    | primitive kind => cases kind <;> exact neverNil_primitiveAttribute built
    | collection kind => cases kind <;> exact neverNil_collectionAttribute built
    | nested kind =>
      cases kind with
      | list => exact neverNil_nestedAttribute listNested built
      | map => exact neverNil_nestedAttribute mapNested built
      | set => exact neverNil_nestedAttribute setNested built
    | singleNested => exact neverNil_singleAttribute single built
    | object => exact neverNil_objectAttribute built

private theorem neverNil_nestedAttribute : ∀ (spec : Option Spec.NestedAttribute)
    {kind : CollectionKind} {result : Except BuildError Attribute},
    Attribute.buildNested? kind spec = some result → NeverNil result
  | none, _, _, built => nomatch built
  | some ⟨_, ⟨attributes, _, _, _, _⟩, _⟩, _, _, built => by
    cases built
    exact (neverNil_attributes attributes []).bind fun _ => neverNil_ok _

private theorem neverNil_singleAttribute : ∀ (spec : Option Spec.SingleNestedAttribute)
    {result : Except BuildError Attribute},
    Attribute.buildSingle? spec = some result → NeverNil result
  | none, _, built => nomatch built
  | some ⟨_, attributes, _, _⟩, _, built => by
    cases built
    exact (neverNil_attributes attributes []).bind fun _ => neverNil_ok _

private theorem neverNil_attributes : ∀ (specs : List Spec.Attribute) built,
    NeverNil (Attribute.buildAll built specs)
  | [], _ => neverNil_ok _
  | spec :: rest, built => by
    have node := neverNil_first AttributeKind.all (.undefinedAttribute spec.name) rfl
      (neverNil_attributeKind spec)
    exact (neverNil_addChild node).bind fun larger => neverNil_attributes rest larger

end

/-- Attributes without a kind are faults that tell the name. -/
theorem Attributes.neverNil_build (specs : List Spec.Attribute) :
    NeverNil (Attributes.build specs) :=
  neverNil_attributes specs []

/-! ## Blocks -/

mutual

private theorem neverNil_blockKind : ∀ (spec : Spec.Block) (kind : BlockKind) result,
    Block.buildKind? kind spec = some result → NeverNil result
  | ⟨_, listNested, setNested, single⟩, kind, result, built => by
    cases kind with
    | nested kind =>
      cases kind with
      | list => exact neverNil_nestedBlock listNested built
      | set => exact neverNil_nestedBlock setNested built
    | singleNested => exact neverNil_singleBlock single built

private theorem neverNil_nestedBlock : ∀ (spec : Option Spec.NestedBlock)
    {kind : RepeatedKind} {result : Except BuildError Block},
    Block.buildNested? kind spec = some result → NeverNil result
  | none, _, _, built => nomatch built
  | some ⟨_, ⟨attributes, blocks, _, _, _, _⟩⟩, _, _, built => by
    cases built
    refine (Attributes.neverNil_build attributes).bind fun _ => ?_
    exact (neverNil_blocks blocks []).bind fun _ => neverNil_ok _

private theorem neverNil_singleBlock : ∀ (spec : Option Spec.SingleNestedBlock)
    {result : Except BuildError Block},
    Block.buildSingle? spec = some result → NeverNil result
  | none, _, built => nomatch built
  | some ⟨_, attributes, blocks, _⟩, _, built => by
    cases built
    refine (Attributes.neverNil_build attributes).bind fun _ => ?_
    exact (neverNil_blocks blocks []).bind fun _ => neverNil_ok _

private theorem neverNil_blocks : ∀ (specs : List Spec.Block) built,
    NeverNil (Block.buildAll built specs)
  | [], _ => neverNil_ok _
  | spec :: rest, built => by
    have node := neverNil_first BlockKind.all (.undefinedBlock spec.name) rfl
      (neverNil_blockKind spec)
    exact (neverNil_addChild node).bind fun larger => neverNil_blocks rest larger

end

theorem Blocks.neverNil_build (specs : List Spec.Block) : NeverNil (Blocks.build specs) :=
  neverNil_blocks specs []

/-- No schema has the fault that a kind is not set. -/
theorem ResourceSchema.neverNil_build (spec : Spec.Schema) :
    NeverNil (ResourceSchema.build spec) := by
  refine (Attributes.neverNil_build spec.attributes).bind fun _ => ?_
  exact (Blocks.neverNil_build spec.blocks).bind fun _ => neverNil_ok _

end ProviderCodegen.Schema
