import ProviderCodegen.Proofs.ImportBlock
import ProviderCodegen.Proofs.Schema.FieldsByName

/-! # The order of typed fields

The order in which the fields of objects are declared has no influence on what is generated, as long
as no path is imported under two names: then it decides which of the names is in the file.
`Permuted` relates specifications that differ in such orders at any number of levels. What is built
from them agrees when all fields are sorted, or neither can be built.
-/

namespace ProviderCodegen

namespace Spec

mutual

/-- Element types that differ in the order of fields inside. -/
inductive ElementType.Permuted : ElementType → ElementType → Prop
  | inside (spec : ElementType) {list list' map map' set set' : Option CollectionType}
      {object object' : Option ObjectType} (ofList : CollectionType.Permuted list list')
      (ofMap : CollectionType.Permuted map map') (ofSet : CollectionType.Permuted set set')
      (ofObject : ObjectType.Permuted object object') :
      ElementType.Permuted { spec with list := list, map := map, set := set, object := object }
        { spec with list := list', map := map', set := set', object := object' }

/-- Collections, which may be missing, that differ in the order of fields inside. -/
inductive CollectionType.Permuted : Option CollectionType → Option CollectionType → Prop
  | refl (spec : Option CollectionType) : CollectionType.Permuted spec spec
  | inside (spec : CollectionType) {element element' : ElementType}
      (permuted : ElementType.Permuted element element') :
      CollectionType.Permuted (some { spec with elementType := element })
        (some { spec with elementType := element' })

/-- Objects, which may be missing, that differ in the order of fields, there and inside. -/
inductive ObjectType.Permuted : Option ObjectType → Option ObjectType → Prop
  | refl (spec : Option ObjectType) : ObjectType.Permuted spec spec
  | inside (spec : ObjectType) {fields fields' : List ObjectField}
      (permuted : FieldsPermuted fields fields') :
      ObjectType.Permuted (some { spec with attributeTypes := fields })
        (some { spec with attributeTypes := fields' })

/-- Lists of fields that differ in the order of fields, there and inside. Fields of one name stay in
their order. -/
inductive FieldsPermuted : List ObjectField → List ObjectField → Prop
  | perm {first second : List ObjectField} (distinct : (first.map (·.name)).Nodup)
      (perm : first.Perm second) : FieldsPermuted first second
  | cons (name : String) {kind kind' : ElementType} {rest rest' : List ObjectField}
      (head : ElementType.Permuted kind kind') (tail : FieldsPermuted rest rest') :
      FieldsPermuted (⟨name, kind⟩ :: rest) (⟨name, kind'⟩ :: rest')
  | trans {first second third : List ObjectField} (left : FieldsPermuted first second)
      (right : FieldsPermuted second third) : FieldsPermuted first third

end

/-- Collections of elements that differ in the order of fields inside. -/
inductive CollectionAttribute.Permuted :
    Option CollectionAttribute → Option CollectionAttribute → Prop
  | refl (spec : Option CollectionAttribute) : CollectionAttribute.Permuted spec spec
  | inside (spec : CollectionAttribute) {element element' : ElementType}
      (permuted : ElementType.Permuted element element') :
      CollectionAttribute.Permuted (some { spec with elementType := element })
        (some { spec with elementType := element' })

/-- Objects of typed fields that differ in the order of fields, there and inside. -/
inductive ObjectAttribute.Permuted : Option ObjectAttribute → Option ObjectAttribute → Prop
  | refl (spec : Option ObjectAttribute) : ObjectAttribute.Permuted spec spec
  | inside (spec : ObjectAttribute) {fields fields' : List ObjectField}
      (permuted : FieldsPermuted fields fields') :
      ObjectAttribute.Permuted (some { spec with attributeTypes := fields })
        (some { spec with attributeTypes := fields' })

mutual

/-- Attributes that differ in the order of fields inside. -/
inductive Attribute.Permuted : Attribute → Attribute → Prop
  | inside (spec : Attribute) {list list' map map' set set' : Option CollectionAttribute}
      {listNested listNested' mapNested mapNested' setNested setNested' : Option NestedAttribute}
      {single single' : Option SingleNestedAttribute} {object object' : Option ObjectAttribute}
      (ofList : CollectionAttribute.Permuted list list')
      (ofMap : CollectionAttribute.Permuted map map')
      (ofSet : CollectionAttribute.Permuted set set')
      (ofListNested : NestedAttribute.Permuted listNested listNested')
      (ofMapNested : NestedAttribute.Permuted mapNested mapNested')
      (ofSetNested : NestedAttribute.Permuted setNested setNested')
      (ofSingle : SingleNestedAttribute.Permuted single single')
      (ofObject : ObjectAttribute.Permuted object object') :
      Attribute.Permuted
        { spec with
          list := list, map := map, set := set, listNested := listNested, mapNested := mapNested,
          setNested := setNested, singleNested := single, object := object }
        { spec with
          list := list', map := map', set := set', listNested := listNested',
          mapNested := mapNested', setNested := setNested', singleNested := single',
          object := object' }

/-- Collections of objects that differ in the order of fields inside. -/
inductive NestedAttribute.Permuted : Option NestedAttribute → Option NestedAttribute → Prop
  | refl (spec : Option NestedAttribute) : NestedAttribute.Permuted spec spec
  | inside (spec : NestedAttribute) {attributes attributes' : List Attribute}
      (permuted : AttributesPermuted attributes attributes') :
      NestedAttribute.Permuted
        (some { spec with nestedObject := { spec.nestedObject with attributes := attributes } })
        (some { spec with nestedObject := { spec.nestedObject with attributes := attributes' } })

/-- Single objects that differ in the order of fields inside. -/
inductive SingleNestedAttribute.Permuted :
    Option SingleNestedAttribute → Option SingleNestedAttribute → Prop
  | refl (spec : Option SingleNestedAttribute) : SingleNestedAttribute.Permuted spec spec
  | inside (spec : SingleNestedAttribute) {attributes attributes' : List Attribute}
      (permuted : AttributesPermuted attributes attributes') :
      SingleNestedAttribute.Permuted (some { spec with attributes := attributes })
        (some { spec with attributes := attributes' })

/-- Attributes in one order that differ in the order of fields inside. -/
inductive AttributesPermuted : List Attribute → List Attribute → Prop
  | nil : AttributesPermuted [] []
  | cons {first second : Attribute} {rest rest' : List Attribute}
      (head : Attribute.Permuted first second) (tail : AttributesPermuted rest rest') :
      AttributesPermuted (first :: rest) (second :: rest')

end

mutual

/-- Blocks that differ in the order of fields inside. -/
inductive Block.Permuted : Block → Block → Prop
  | inside (spec : Block) {list list' set set' : Option NestedBlock}
      {single single' : Option SingleNestedBlock} (ofList : NestedBlock.Permuted list list')
      (ofSet : NestedBlock.Permuted set set')
      (ofSingle : SingleNestedBlock.Permuted single single') :
      Block.Permuted { spec with listNested := list, setNested := set, singleNested := single }
        { spec with listNested := list', setNested := set', singleNested := single' }

/-- Collections of block objects that differ in the order of fields inside. -/
inductive NestedBlock.Permuted : Option NestedBlock → Option NestedBlock → Prop
  | refl (spec : Option NestedBlock) : NestedBlock.Permuted spec spec
  | inside (spec : NestedBlock) {attributes attributes' : List Attribute}
      {blocks blocks' : List Block} (ofAttributes : AttributesPermuted attributes attributes')
      (ofBlocks : BlocksPermuted blocks blocks') :
      NestedBlock.Permuted
        (some { spec with nestedObject := {
          spec.nestedObject with attributes := attributes, blocks := blocks } })
        (some { spec with nestedObject := {
          spec.nestedObject with attributes := attributes', blocks := blocks' } })

/-- Single blocks that differ in the order of fields inside. -/
inductive SingleNestedBlock.Permuted : Option SingleNestedBlock → Option SingleNestedBlock → Prop
  | refl (spec : Option SingleNestedBlock) : SingleNestedBlock.Permuted spec spec
  | inside (spec : SingleNestedBlock) {attributes attributes' : List Attribute}
      {blocks blocks' : List Block} (ofAttributes : AttributesPermuted attributes attributes')
      (ofBlocks : BlocksPermuted blocks blocks') :
      SingleNestedBlock.Permuted (some { spec with attributes := attributes, blocks := blocks })
        (some { spec with attributes := attributes', blocks := blocks' })

/-- Blocks in one order that differ in the order of fields inside. -/
inductive BlocksPermuted : List Block → List Block → Prop
  | nil : BlocksPermuted [] []
  | cons {first second : Block} {rest rest' : List Block} (head : Block.Permuted first second)
      (tail : BlocksPermuted rest rest') : BlocksPermuted (first :: rest) (second :: rest')

end

/-- Resources that differ in the order of fields. -/
inductive Resource.Permuted : Resource → Resource → Prop
  | inside (spec : Resource) {attributes attributes' : List Attribute} {blocks blocks' : List Block}
      (ofAttributes : AttributesPermuted attributes attributes')
      (ofBlocks : BlocksPermuted blocks blocks') :
      Resource.Permuted
        { spec with schema := { spec.schema with attributes := attributes, blocks := blocks } }
        { spec with schema := { spec.schema with attributes := attributes', blocks := blocks' } }

end Spec

namespace Schema

open Spec (AttributesPermuted BlocksPermuted FieldsPermuted)

/-! ## Outcomes that agree -/

section Agree

variable {ε α β γ δ κ : Type} {seen : α → γ} {shown : β → δ} {first second : Except ε α}

/-- Whether two outcomes are the same as far as is seen: both are faults, or they show the same. -/
def Agree (seen : α → γ) (first second : Except ε α) : Prop :=
  first.toOption.map seen = second.toOption.map seen

theorem Agree.ok {value other : α} (same : seen value = seen other) :
    Agree seen (.ok value : Except ε α) (.ok other) :=
  congrArg some same

/-- The faults themselves are not compared, as the first one depends on the order. -/
theorem Agree.cases (agree : Agree seen first second) :
    (∃ fault fault', first = .error fault ∧ second = .error fault') ∨
      ∃ value other, first = .ok value ∧ second = .ok other ∧ seen value = seen other := by
  cases first with
  | error fault =>
    cases second with
    | error fault' => exact .inl ⟨fault, fault', rfl, rfl⟩
    | ok other => cases agree
  | ok value =>
    cases second with
    | error fault' => cases agree
    | ok other => exact .inr ⟨value, other, rfl, rfl, Option.some.inj agree⟩

/-- Steps that look at no more than is seen keep outcomes alike. -/
theorem Agree.bind {next next' : α → Except ε β} (agree : Agree seen first second)
    (later : ∀ value other, seen value = seen other → Agree shown (next value) (next' other)) :
    Agree shown (first >>= next) (second >>= next') := by
  obtain ⟨fault, fault', rfl, rfl⟩ | ⟨value, other, rfl, rfl, same⟩ := agree.cases
  · rfl
  · exact later value other same

theorem agreeAll_refl (outcome : Option (Except ε α)) :
    Option.Rel (Agree seen) outcome outcome := by
  cases outcome with
  | none => exact .none
  | some outcome => exact .some rfl

/-- The first kinds that are set agree if all kinds do. -/
theorem Agree.findSome? {first second : κ → Option (Except ε α)}
    (each : ∀ kind, Option.Rel (Agree seen) (first kind) (second kind)) (kinds : List κ)
    (fault fault' : ε) :
    Agree seen ((kinds.findSome? first).getD (.error fault))
      ((kinds.findSome? second).getD (.error fault')) := by
  induction kinds with
  | nil => rfl
  | cons kind rest ih =>
    have here := each kind
    rw [List.findSome?_cons, List.findSome?_cons]
    cases ofFirst : first kind <;> cases ofSecond : second kind <;> rw [ofFirst, ofSecond] at here
    · exact ih
    · cases here
    · cases here
    · cases here with
      | some agree => exact agree

end Agree

section Children

variable {α : Type} {kind : Spec.ChildKind} {f : α → α} {built built' : NameMap α}

/-- A child that is added to two maps clashes in both or in neither, as both have the same names. -/
theorem Agree.addChild {first second : Except BuildError α} (name : String)
    (same : built.map (Prod.map id f) = built'.map (Prod.map id f)) (agree : Agree f first second) :
    Agree (List.map (Prod.map id f)) (Schema.addChild kind built name first)
      (Schema.addChild kind built' name second) := by
  have names : built.names = built'.names := by
    rw [← NameMap.names_map f built, same, NameMap.names_map]
  have taken : built.contains name = built'.contains name := by
    rw [Bool.eq_iff_iff, NameMap.contains_iff, NameMap.contains_iff, names]
  unfold Schema.addChild
  rw [taken]
  split_ifs
  · rfl
  · obtain ⟨fault, fault', rfl, rfl⟩ | ⟨value, other, rfl, rfl, shown⟩ := agree.cases
    · rfl
    · refine Agree.ok ?_
      rw [NameMap.map_insert, NameMap.map_insert, same, shown]

end Children

/-! ## Element types -/

namespace ElementType

def buildField (field : Spec.ObjectField) : Except BuildError ElementType :=
  (ElementKind.all.findSome? fun kind => buildKind? kind field.kind).getD
    (.error (.undefinedField field.name))

theorem buildFields_cons (field : Spec.ObjectField) (rest : List Spec.ObjectField) :
    buildFields (field :: rest) = do
      let type ← buildField field
      return (field.name, type) :: (← buildFields rest) := by
  cases field
  rfl

private theorem byName_cons_congr {name : String} {type type' : ElementType} {rest rest' : Fields}
    (head : type.byName = type'.byName) (tail : Fields.byName rest = Fields.byName rest') :
    Fields.byName ((name, type) :: rest) = Fields.byName ((name, type') :: rest') := by
  rw [Fields.byName, Fields.byName, allByName, allByName, head]
  exact NameMap.sorted_cons_congr _ tail

private theorem agree_buildFields_cons {field field' : Spec.ObjectField}
    {rest rest' : List Spec.ObjectField} (name : field.name = field'.name)
    (head : Agree byName (buildField field) (buildField field'))
    (tail : Agree Fields.byName (buildFields rest) (buildFields rest')) :
    Agree Fields.byName (buildFields (field :: rest)) (buildFields (field' :: rest')) := by
  rw [buildFields_cons, buildFields_cons, name]
  exact head.bind fun _ _ sameType => tail.bind fun _ _ sameRest =>
    .ok (byName_cons_congr sameType sameRest)

/-- Fields of different names can be declared in any order. -/
private theorem agree_buildFields_perm {first second : List Spec.ObjectField}
    (perm : first.Perm second) (distinct : (first.map (·.name)).Nodup) :
    Agree Fields.byName (buildFields first) (buildFields second) := by
  induction perm with
  | nil => rfl
  | cons field _ ih => exact agree_buildFields_cons rfl rfl (ih distinct.of_cons)
  | swap field other rest =>
    have differ : other.name ≠ field.name := fun same =>
      (List.nodup_cons.mp distinct).1 (List.mem_cons.mpr (.inl same))
    rw [buildFields_cons, buildFields_cons, buildFields_cons, buildFields_cons]
    cases buildField field with
    | error fault => cases buildField other <;> rfl
    | ok type =>
      cases buildField other with
      | error fault => rfl
      | ok type' =>
        cases buildFields rest with
        | error fault => rfl
        | ok fields => exact .ok (NameMap.sorted_swap differ (allByName fields))
  | trans left _ ofLeft ofRight =>
    exact (ofLeft distinct).trans (ofRight ((left.map _).nodup_iff.mp distinct))

mutual

private theorem agree_buildKind? : ∀ {first second : Spec.ElementType}, first.Permuted second →
    ∀ kind, Option.Rel (Agree byName) (buildKind? kind first) (buildKind? kind second)
  | _, _, .inside spec ofList ofMap ofSet ofObject, kind => by
    cases kind with
    | primitive kind => cases kind <;> exact agreeAll_refl _
    | collection kind =>
      cases kind with
      | list => exact agree_buildCollection? ofList .list
      | map => exact agree_buildCollection? ofMap .map
      | set => exact agree_buildCollection? ofSet .set
    | object => exact agree_buildObject? ofObject

private theorem agree_buildCollection? : ∀ {first second : Option Spec.CollectionType},
    Spec.CollectionType.Permuted first second → ∀ kind,
    Option.Rel (Agree byName) (buildCollection? kind first) (buildCollection? kind second)
  | _, _, .refl _, _ => agreeAll_refl _
  | _, _, .inside spec permuted, kind => by
    have element := Agree.findSome? (agree_buildKind? permuted) ElementKind.all .undefinedElement
      .undefinedElement
    exact .some (element.bind fun _ _ same =>
      .ok (congrArg (collection kind · spec.customType) same))

private theorem agree_buildObject? : ∀ {first second : Option Spec.ObjectType},
    Spec.ObjectType.Permuted first second →
    Option.Rel (Agree byName) (buildObject? first) (buildObject? second)
  | _, _, .refl _ => agreeAll_refl _
  | _, _, .inside spec permuted =>
    .some ((agree_buildFields permuted).bind fun _ _ same =>
      .ok (congrArg (object · spec.customType) same))

private theorem agree_buildFields : ∀ {first second : List Spec.ObjectField},
    FieldsPermuted first second → Agree Fields.byName (buildFields first) (buildFields second)
  | _, _, .perm distinct perm => agree_buildFields_perm perm distinct
  | _, _, .cons name head tail =>
    agree_buildFields_cons rfl (.findSome? (agree_buildKind? head) _ _ _) (agree_buildFields tail)
  | _, _, .trans left right => (agree_buildFields left).trans (agree_buildFields right)

end

/-- Besides the fields of the type itself those of all objects inside may be reordered. -/
theorem agree_build {first second : Spec.ElementType} (permuted : first.Permuted second) :
    Agree byName (ElementType.build first) (ElementType.build second) :=
  .findSome? (agree_buildKind? permuted) _ _ _

end ElementType

theorem Fields.agree_build {first second : List Spec.ObjectField}
    (permuted : FieldsPermuted first second) :
    Agree Fields.byName (Fields.build first) (Fields.build second) :=
  ElementType.agree_buildFields permuted

/-! ## Attributes and blocks -/

namespace Attribute

private theorem agree_buildCollection? {first second : Option Spec.CollectionAttribute}
    (permuted : Spec.CollectionAttribute.Permuted first second) (kind : CollectionKind) :
    Option.Rel (Agree (changed .byName)) (buildCollection? kind first)
      (buildCollection? kind second) := by
  cases permuted with
  | refl => exact agreeAll_refl _
  | inside spec permuted =>
    refine .some ((ElementType.agree_build permuted).bind fun _ _ same => .ok ?_)
    exact congrArg (collection kind _ · _) same

private theorem agree_buildObject? {first second : Option Spec.ObjectAttribute}
    (permuted : Spec.ObjectAttribute.Permuted first second) :
    Option.Rel (Agree (changed .byName)) (buildObject? first) (buildObject? second) := by
  cases permuted with
  | refl => exact agreeAll_refl _
  | inside spec permuted =>
    refine .some ((Fields.agree_build permuted).bind fun _ _ same => .ok ?_)
    exact congrArg (object _ · _ _) same

/-- Lists of attributes agree if what they are added to does not matter. -/
private theorem agree_build_of_add {first second : List Spec.Attribute}
    (add : ∀ {built built' : Attributes},
      built.map (Prod.map id (changed .byName)) = built'.map (Prod.map id (changed .byName)) →
      Agree (List.map (Prod.map id (changed .byName)))
        (addChildren .attr built (Attribute.outcomes first))
        (addChildren .attr built' (Attribute.outcomes second))) :
    Agree (allChanged .byName) (Attributes.build first) (Attributes.build second) := by
  rw [Attributes.build_eq, Attributes.build_eq, funext (allChanged_eq .byName)]
  exact add rfl

mutual

private theorem agree_attribute : ∀ {first second : Spec.Attribute}, first.Permuted second →
    first.name = second.name ∧
      Agree (changed .byName) (Attribute.build first) (Attribute.build second)
  | _, _, .inside spec ofList ofMap ofSet ofListNested ofMapNested ofSetNested ofSingle
      ofObject => by
    refine ⟨rfl, .findSome? (fun kind => ?_) _ _ _⟩
    cases kind with
    | primitive kind => cases kind <;> exact agreeAll_refl _
    | collection kind =>
      cases kind with
      | list => exact agree_buildCollection? ofList .list
      | map => exact agree_buildCollection? ofMap .map
      | set => exact agree_buildCollection? ofSet .set
    | nested kind =>
      cases kind with
      | list => exact agree_buildNested? ofListNested .list
      | map => exact agree_buildNested? ofMapNested .map
      | set => exact agree_buildNested? ofSetNested .set
    | singleNested => exact agree_buildSingle? ofSingle
    | object => exact agree_buildObject? ofObject

private theorem agree_buildNested? : ∀ {first second : Option Spec.NestedAttribute},
    Spec.NestedAttribute.Permuted first second → ∀ kind,
    Option.Rel (Agree (changed .byName)) (buildNested? kind first) (buildNested? kind second)
  | _, _, .refl _, _ => agreeAll_refl _
  | _, _, .inside spec permuted, kind => by
    have inside := agree_build_of_add (agree_addAttributes permuted)
    rw [buildNested?_some, buildNested?_some]
    refine .some (inside.bind fun _ _ same => .ok ?_)
    exact congrArg (nested kind _ _ · _) same

private theorem agree_buildSingle? : ∀ {first second : Option Spec.SingleNestedAttribute},
    Spec.SingleNestedAttribute.Permuted first second →
    Option.Rel (Agree (changed .byName)) (buildSingle? first) (buildSingle? second)
  | _, _, .refl _ => agreeAll_refl _
  | _, _, .inside spec permuted => by
    have inside := agree_build_of_add (agree_addAttributes permuted)
    rw [buildSingle?_some, buildSingle?_some]
    refine .some (inside.bind fun _ _ same => .ok ?_)
    exact congrArg (singleNested _ · _ _) same

private theorem agree_addAttributes : ∀ {first second : List Spec.Attribute},
    AttributesPermuted first second → ∀ {built built' : Attributes},
    built.map (Prod.map id (changed .byName)) = built'.map (Prod.map id (changed .byName)) →
    Agree (List.map (Prod.map id (changed .byName)))
      (addChildren .attr built (Attribute.outcomes first))
      (addChildren .attr built' (Attribute.outcomes second))
  | _, _, .nil, _, _, same => .ok same
  | _, _, .cons head tail, _, _, same => by
    obtain ⟨name, agree⟩ := agree_attribute head
    rw [Attribute.outcomes, Attribute.outcomes, List.map_cons, List.map_cons, name]
    exact (agree.addChild _ same).bind fun _ _ => agree_addAttributes tail

end

end Attribute

/-- Permuted attributes are in the same order but for the fields of their object types. -/
theorem Attributes.agree_build {first second : List Spec.Attribute}
    (permuted : AttributesPermuted first second) :
    Agree (Attribute.allChanged .byName) (Attributes.build first) (Attributes.build second) :=
  Attribute.agree_build_of_add (Attribute.agree_addAttributes permuted)

namespace Block

/-- Lists of blocks agree if what they are added to does not matter. -/
private theorem agree_build_of_add {first second : List Spec.Block}
    (add : ∀ {built built' : Blocks},
      built.map (Prod.map id (changed .byName)) = built'.map (Prod.map id (changed .byName)) →
      Agree (List.map (Prod.map id (changed .byName)))
        (addChildren .block built (Block.outcomes first))
        (addChildren .block built' (Block.outcomes second))) :
    Agree (allChanged .byName) (Blocks.build first) (Blocks.build second) := by
  rw [Blocks.build_eq, Blocks.build_eq, funext (allChanged_eq .byName)]
  exact add rfl

mutual

private theorem agree_block : ∀ {first second : Spec.Block}, first.Permuted second →
    first.name = second.name ∧ Agree (changed .byName) (Block.build first) (Block.build second)
  | _, _, .inside spec ofList ofSet ofSingle => by
    refine ⟨rfl, .findSome? (fun kind => ?_) _ _ _⟩
    cases kind with
    | nested kind =>
      cases kind with
      | list => exact agree_buildNested? ofList .list
      | set => exact agree_buildNested? ofSet .set
    | singleNested => exact agree_buildSingle? ofSingle

private theorem agree_buildNested? : ∀ {first second : Option Spec.NestedBlock},
    Spec.NestedBlock.Permuted first second → ∀ kind,
    Option.Rel (Agree (changed .byName)) (buildNested? kind first) (buildNested? kind second)
  | _, _, .refl _, _ => agreeAll_refl _
  | _, _, .inside spec ofAttributes ofBlocks, kind => by
    have inside := Attributes.agree_build ofAttributes
    have below := agree_build_of_add (agree_addBlocks ofBlocks)
    rw [buildNested?_some, buildNested?_some]
    refine .some (inside.bind fun _ _ same => below.bind fun _ _ sameBelow => .ok ?_)
    exact congrArg₂ (nested kind _ _) same sameBelow

private theorem agree_buildSingle? : ∀ {first second : Option Spec.SingleNestedBlock},
    Spec.SingleNestedBlock.Permuted first second →
    Option.Rel (Agree (changed .byName)) (buildSingle? first) (buildSingle? second)
  | _, _, .refl _ => agreeAll_refl _
  | _, _, .inside spec ofAttributes ofBlocks => by
    have inside := Attributes.agree_build ofAttributes
    have below := agree_build_of_add (agree_addBlocks ofBlocks)
    rw [buildSingle?_some, buildSingle?_some]
    refine .some (inside.bind fun _ _ same => below.bind fun _ _ sameBelow => .ok ?_)
    exact congrArg₂ (singleNested _ · · _) same sameBelow

private theorem agree_addBlocks : ∀ {first second : List Spec.Block},
    BlocksPermuted first second → ∀ {built built' : Blocks},
    built.map (Prod.map id (changed .byName)) = built'.map (Prod.map id (changed .byName)) →
    Agree (List.map (Prod.map id (changed .byName)))
      (addChildren .block built (Block.outcomes first))
      (addChildren .block built' (Block.outcomes second))
  | _, _, .nil, _, _, same => .ok same
  | _, _, .cons head tail, _, _, same => by
    obtain ⟨name, agree⟩ := agree_block head
    rw [Block.outcomes, Block.outcomes, List.map_cons, List.map_cons, name]
    exact (agree.addChild _ same).bind fun _ _ => agree_addBlocks tail

end

end Block

theorem Blocks.agree_build {first second : List Spec.Block}
    (permuted : BlocksPermuted first second) :
    Agree (Block.allChanged .byName) (Blocks.build first) (Blocks.build second) :=
  Block.agree_build_of_add (Block.agree_addBlocks permuted)

/-- Permuted resources build to schemas that differ by the order of fields alone. -/
theorem ResourceSchema.agree_build {first second : Spec.Resource}
    (permuted : first.Permuted second) :
    Agree (changed .byName) (ResourceSchema.build first.schema)
      (ResourceSchema.build second.schema) := by
  obtain ⟨spec, ofAttributes, ofBlocks⟩ := permuted
  refine (Attributes.agree_build ofAttributes).bind fun _ _ same => ?_
  refine (Blocks.agree_build ofBlocks).bind fun _ _ sameBelow => .ok ?_
  exact congrArg₂ (ResourceSchema.mk · · _ _ _) same sameBelow

end Schema

/-! ## Files -/

open Schema (Change ResourceSchema)
open Source (OneName)

/-- Schemas that are the same with all fields sorted have the same parts. -/
private theorem sections_byName {schema second : ResourceSchema}
    (same : schema.changed .byName = second.changed .byName) (name : String)
    (options : GenerateOptions) : sections schema name options = sections second name options := by
  rw [← Schema.sections_changed Change.keepsText_byName schema, same,
    Schema.sections_changed Change.keepsText_byName second]

private theorem contributions_byName {schema second : ResourceSchema}
    (same : schema.changed .byName = second.changed .byName) :
    schema.contributions.Perm second.contributions := by
  have sorted (schema : ResourceSchema) :
      (schema.changed .byName).contributions.Perm schema.contributions :=
    schema.contributions_changed Schema.keptByAppend_perm Change.contributes_byName
  exact (sorted schema).symm.trans (same ▸ sorted second)

private theorem importBlock_byName {schema second : ResourceSchema}
    (same : schema.changed .byName = second.changed .byName)
    (oneName : OneName schema.contributions) (name : String) (options : GenerateOptions) :
    importBlock schema name options = importBlock second name options := by
  refine importBlock_eq_iff_mem.mpr fun i => ?_
  rw [mem_importBlock, mem_importBlock, sections_byName same, schema.imports_eq, second.imports_eq,
    oneName.mem_entries_perm (contributions_byName same)]

/-- The order of typed fields has no influence on generation, at any level. For two resources that
differ in it only, either generation fails for both, or it gives the same file for both if no path
is imported under two names. The imports are all that are collected for the schema: those of code
and of custom types, and those that are added to each schema, which have no names. -/
theorem generateResource_permuted {first second : Spec.Resource} (permuted : first.Permuted second)
    (oneName : ∀ schema, ResourceSchema.build first.schema = .ok schema →
      OneName schema.contributions) (options : GenerateOptions) :
    ((∃ fault, generateResource first options = .error fault) ↔
        ∃ fault, generateResource second options = .error fault) ∧
      ∀ file, generateResource first options = .ok file ↔
        generateResource second options = .ok file := by
  have name : first.name = second.name := by
    obtain ⟨spec, -, -⟩ := permuted
    rfl
  rcases (ResourceSchema.agree_build permuted).cases with
    ⟨fault, fault', ofFirst, ofSecond⟩ | ⟨schema, schema', ofFirst, ofSecond, same⟩
  · have failed : generateResource first options = .error fault := by
      rw [generateResource, ofFirst]; rfl
    have failed' : generateResource second options = .error fault' := by
      rw [generateResource, ofSecond]; rfl
    rw [failed, failed']
    exact ⟨iff_of_true ⟨_, rfl⟩ ⟨_, rfl⟩, fun file => by simp only [reduceCtorEq]⟩
  · have made : generateResource first options = .ok _ :=
      generateResource_eq_ok_iff.mpr ⟨schema, ofFirst, rfl⟩
    have made' : generateResource second options = .ok _ :=
      generateResource_eq_ok_iff.mpr ⟨schema', ofSecond, rfl⟩
    rw [importBlock_byName same (oneName schema ofFirst), sections_byName same, name] at made
    rw [made, made']
    exact ⟨Iff.rfl, fun file => Iff.rfl⟩

/-- A field with an address, whose type is custom and of a package with a name. -/
def addressField (name : String) : Spec.ObjectField where
  name
  kind.string := some { customType := some {
    package := some { path := "example.com/net-types", localName := some "nettypes" }
    type := "nettypes.AddressType"
    valueType := "nettypes.Address" } }

def portField : Spec.ObjectField where
  name := "port"
  kind.int64 := some { customType := none }

/-- A resource with an object and a list of objects. -/
def routedResource (fields elements : List Spec.ObjectField) : Spec.Resource where
  name := "route"
  schema.attributes := [
    { name := "target"
      object := some {
        facets := {}
        attributeTypes := fields
        externalType := none
        default := none } },
    { name := "hops"
      list := some {
        facets := {}
        elementType := { object := some { attributeTypes := elements, customType := none } }
        default := none } }]

/-- The resource with addresses before ports in the object and behind them in the list. -/
def addressedRoute : Spec.Resource :=
  routedResource [addressField "host", portField]
    [portField, addressField "from", addressField "to"]

/-- The same fields in another order. -/
def portedRoute : Spec.Resource :=
  routedResource [portField, addressField "host"]
    [addressField "from", addressField "to", portField]

/-- The fields of an object inside an object are permuted here. -/
theorem generateResource_routes : ∃ file, generateResource addressedRoute {} = .ok file ∧
    generateResource portedRoute {} = .ok file := by
  have fields : Spec.FieldsPermuted [addressField "host", portField]
      [portField, addressField "host"] :=
    .perm (by decide) (.swap ..)
  have elements : Spec.FieldsPermuted [portField, addressField "from", addressField "to"]
      [addressField "from", addressField "to", portField] :=
    .perm (by decide) (.trans (.swap ..) (.cons _ (.swap ..)))
  have permuted : addressedRoute.Permuted portedRoute := by
    refine .inside (routedResource [] []) (.cons ?_ (.cons ?_ .nil)) .nil
    · exact .inside { name := "target" } (.refl _) (.refl _) (.refl _) (.refl _) (.refl _) (.refl _)
        (.refl _) (.inside ⟨{}, [], none, none⟩ fields)
    · refine .inside { name := "hops" } (.inside ⟨{}, {}, none⟩ ?_) (.refl _) (.refl _) (.refl _)
        (.refl _) (.refl _) (.refl _) (.refl _)
      exact .inside {} (.refl _) (.refl _) (.refl _) (.inside ⟨[], none⟩ elements)
  have oneName : ∀ schema, ResourceSchema.build addressedRoute.schema = .ok schema →
      OneName schema.contributions := by
    rintro _ ⟨⟩
    decide
  have made : generateResource addressedRoute {} = .ok _ := rfl
  exact ⟨_, made, ((generateResource_permuted permuted oneName {}).2 _).mp made⟩

end ProviderCodegen
