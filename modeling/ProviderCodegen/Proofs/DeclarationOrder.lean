import ProviderCodegen.Generate
import ProviderCodegen.Proofs.Schema.Build

/-! # The order of declarations

The order in which a specification lists attributes and blocks has no influence on what is
generated. Names are unique at every level, so a map of children depends only on what is added to
it, and a fault anywhere is a fault in every order, though another one may be found first.
`Reordered` relates specifications that differ in such orders at any number of levels.
-/

namespace ProviderCodegen

namespace Spec

mutual

/-- Attributes that differ in the order of declarations inside. -/
inductive Attribute.Reordered : Attribute → Attribute → Prop
  | inside (spec : Attribute) {list list' map map' set set' : Option NestedAttribute}
      {single single' : Option SingleNestedAttribute} (ofList : NestedAttribute.Reordered list list')
      (ofMap : NestedAttribute.Reordered map map') (ofSet : NestedAttribute.Reordered set set')
      (ofSingle : SingleNestedAttribute.Reordered single single') :
      Attribute.Reordered
        { spec with listNested := list, mapNested := map, setNested := set, singleNested := single }
        { spec with
          listNested := list', mapNested := map', setNested := set', singleNested := single' }

/-- Collections of objects that differ in the order of declarations inside. -/
inductive NestedAttribute.Reordered : Option NestedAttribute → Option NestedAttribute → Prop
  | refl (spec : Option NestedAttribute) : NestedAttribute.Reordered spec spec
  | inside (spec : NestedAttribute) {attributes attributes' : List Attribute}
      (reordered : AttributesReordered attributes attributes') :
      NestedAttribute.Reordered
        (some { spec with nestedObject := { spec.nestedObject with attributes := attributes } })
        (some { spec with nestedObject := { spec.nestedObject with attributes := attributes' } })

/-- Single objects that differ in the order of declarations inside. -/
inductive SingleNestedAttribute.Reordered :
    Option SingleNestedAttribute → Option SingleNestedAttribute → Prop
  | refl (spec : Option SingleNestedAttribute) : SingleNestedAttribute.Reordered spec spec
  | inside (spec : SingleNestedAttribute) {attributes attributes' : List Attribute}
      (reordered : AttributesReordered attributes attributes') :
      SingleNestedAttribute.Reordered (some { spec with attributes := attributes })
        (some { spec with attributes := attributes' })

/-- Lists of attributes that differ in the order of declarations, there and inside. -/
inductive AttributesReordered : List Attribute → List Attribute → Prop
  | perm {first second : List Attribute} (perm : first.Perm second) :
      AttributesReordered first second
  | cons {first second : Attribute} {rest rest' : List Attribute}
      (head : Attribute.Reordered first second) (tail : AttributesReordered rest rest') :
      AttributesReordered (first :: rest) (second :: rest')
  | trans {first second third : List Attribute} (left : AttributesReordered first second)
      (right : AttributesReordered second third) : AttributesReordered first third

end

mutual

/-- Blocks that differ in the order of declarations inside. -/
inductive Block.Reordered : Block → Block → Prop
  | inside (spec : Block) {list list' set set' : Option NestedBlock}
      {single single' : Option SingleNestedBlock} (ofList : NestedBlock.Reordered list list')
      (ofSet : NestedBlock.Reordered set set') (ofSingle : SingleNestedBlock.Reordered single single') :
      Block.Reordered
        { spec with listNested := list, setNested := set, singleNested := single }
        { spec with listNested := list', setNested := set', singleNested := single' }

/-- Collections of block objects that differ in the order of declarations inside. -/
inductive NestedBlock.Reordered : Option NestedBlock → Option NestedBlock → Prop
  | refl (spec : Option NestedBlock) : NestedBlock.Reordered spec spec
  | inside (spec : NestedBlock) {attributes attributes' : List Attribute}
      {blocks blocks' : List Block} (ofAttributes : AttributesReordered attributes attributes')
      (ofBlocks : BlocksReordered blocks blocks') :
      NestedBlock.Reordered
        (some { spec with nestedObject := {
          spec.nestedObject with attributes := attributes, blocks := blocks } })
        (some { spec with nestedObject := {
          spec.nestedObject with attributes := attributes', blocks := blocks' } })

/-- Single blocks that differ in the order of declarations inside. -/
inductive SingleNestedBlock.Reordered :
    Option SingleNestedBlock → Option SingleNestedBlock → Prop
  | refl (spec : Option SingleNestedBlock) : SingleNestedBlock.Reordered spec spec
  | inside (spec : SingleNestedBlock) {attributes attributes' : List Attribute}
      {blocks blocks' : List Block} (ofAttributes : AttributesReordered attributes attributes')
      (ofBlocks : BlocksReordered blocks blocks') :
      SingleNestedBlock.Reordered
        (some { spec with attributes := attributes, blocks := blocks })
        (some { spec with attributes := attributes', blocks := blocks' })

/-- Lists of blocks that differ in the order of declarations, there and inside. -/
inductive BlocksReordered : List Block → List Block → Prop
  | perm {first second : List Block} (perm : first.Perm second) : BlocksReordered first second
  | cons {first second : Block} {rest rest' : List Block} (head : Block.Reordered first second)
      (tail : BlocksReordered rest rest') : BlocksReordered (first :: rest) (second :: rest')
  | trans {first second third : List Block} (left : BlocksReordered first second)
      (right : BlocksReordered second third) : BlocksReordered first third

end

/-- Resources that differ in the order of declarations. -/
inductive Resource.Reordered : Resource → Resource → Prop
  | inside (spec : Resource) {attributes attributes' : List Attribute} {blocks blocks' : List Block}
      (ofAttributes : AttributesReordered attributes attributes')
      (ofBlocks : BlocksReordered blocks blocks') :
      Resource.Reordered
        { spec with schema := { spec.schema with attributes := attributes, blocks := blocks } }
        { spec with schema := { spec.schema with attributes := attributes', blocks := blocks' } }

end Spec

namespace Schema

/-! ## Outcomes -/

section Outcomes

variable {ε α β κ : Type}

theorem toOption_eq_some_iff {outcome : Except ε α} {value : α} :
    outcome.toOption = some value ↔ outcome = .ok value := by
  cases outcome with
  | error fault => exact ⟨nofun, nofun⟩
  | ok value => exact ⟨fun same => congrArg _ (Option.some.inj same), fun same => by cases same; rfl⟩

/-- Any fault will do, since the fault itself is forgotten. -/
theorem toOption_eq_none_iff {outcome : Except ε α} :
    outcome.toOption = none ↔ ∃ fault, outcome = .error fault := by
  cases outcome with
  | error fault => exact ⟨fun _ => ⟨fault, rfl⟩, fun _ => rfl⟩
  | ok value => exact ⟨nofun, nofun⟩

theorem toOption_bind (outcome : Except ε α) (next : α → Except ε β) :
    (outcome >>= next).toOption = outcome.toOption.bind fun value => (next value).toOption := by
  cases outcome <;> rfl

/-- The first kind that is set gives outcomes that agree if all kinds give outcomes that agree. -/
theorem toOption_findSome? {first second : κ → Option (Except ε α)}
    (same : ∀ kind, (first kind).map Except.toOption = (second kind).map Except.toOption)
    (kinds : List κ) (fault fault' : ε) :
    ((kinds.findSome? first).getD (.error fault)).toOption =
      ((kinds.findSome? second).getD (.error fault')).toOption := by
  induction kinds with
  | nil => rfl
  | cons kind rest ih =>
    have here := same kind
    rw [List.findSome?_cons, List.findSome?_cons]
    cases ofFirst : first kind <;> cases ofSecond : second kind <;> rw [ofFirst, ofSecond] at here
    · exact ih
    · cases here
    · cases here
    · exact Option.some.inj here

end Outcomes

section Children

variable {α : Type} {kind : Spec.ChildKind} {built nodes : NameMap α}

/-- Maps of children agree if the children agree one by one. -/
theorem addChildren_cons_congr {name : String} {first second : Except BuildError α}
    {rest rest' : List (String × Except BuildError α)} (head : first.toOption = second.toOption)
    (tail : ∀ built, (addChildren kind built rest).toOption = (addChildren kind built rest').toOption) :
    (addChildren kind built ((name, first) :: rest)).toOption =
      (addChildren kind built ((name, second) :: rest')).toOption := by
  have added : (addChild kind built name first).toOption = (addChild kind built name second).toOption := by
    cases first <;> cases second
    · unfold addChild; split <;> rfl
    · cases head
    · cases head
    · cases head; rfl
  rw [addChildren, addChildren, toOption_bind, toOption_bind, added]
  exact congrArg _ (funext tail)

private theorem addChildren_swap_eq_ok {name other : String} {first second : Except BuildError α}
    {rest : List (String × Except BuildError α)}
    (added : addChildren kind built ((name, first) :: (other, second) :: rest) = .ok nodes) :
    addChildren kind built ((other, second) :: (name, first) :: rest) = .ok nodes := by
  obtain ⟨larger, ofFirst, added⟩ := bind_eq_ok.mp added
  obtain ⟨nameFree, value, rfl, rfl⟩ := addChild_eq_ok_iff.mp ofFirst
  obtain ⟨largest, ofSecond, added⟩ := bind_eq_ok.mp added
  obtain ⟨otherFree, kept, rfl, rfl⟩ := addChild_eq_ok_iff.mp ofSecond
  rw [NameMap.mem_names_insert, not_or] at otherFree
  obtain ⟨distinct, otherFree⟩ := otherFree
  have nameStillFree : name ∉ (built.insert other kept).names := by
    rw [NameMap.mem_names_insert, not_or]
    exact ⟨Ne.symm distinct, nameFree⟩
  refine bind_eq_ok.mpr ⟨_, addChild_eq_ok_iff.mpr ⟨otherFree, kept, rfl, rfl⟩, ?_⟩
  refine bind_eq_ok.mpr ⟨_, addChild_eq_ok_iff.mpr ⟨nameStillFree, value, rfl, rfl⟩, ?_⟩
  rw [NameMap.insert_comm (Ne.symm distinct)]
  exact added

/-- Maps of children agree whatever the order in which the children are added. -/
theorem addChildren_perm {outcomes outcomes' : List (String × Except BuildError α)}
    (perm : outcomes.Perm outcomes') (built : NameMap α) :
    (addChildren kind built outcomes).toOption = (addChildren kind built outcomes').toOption := by
  induction perm generalizing built with
  | nil => rfl
  | cons outcome _ ih => exact addChildren_cons_congr rfl ih
  | swap first second rest =>
    apply Option.ext
    intro nodes
    rw [toOption_eq_some_iff, toOption_eq_some_iff]
    exact ⟨addChildren_swap_eq_ok, addChildren_swap_eq_ok⟩
  | trans _ _ left right => exact (left built).trans (right built)

end Children

/-! ## Specifications -/

open Spec (AttributesReordered BlocksReordered)

section Specifications

/-- Lists of attributes agree if they do whatever has been added before. -/
private theorem toOption_build_attributes {first second : List Spec.Attribute}
    (same : ∀ built, (addChildren .attr built (Attribute.outcomes first)).toOption =
      (addChildren .attr built (Attribute.outcomes second)).toOption) :
    (Attributes.build first).toOption = (Attributes.build second).toOption := by
  rw [Attributes.build_eq, Attributes.build_eq]
  exact same []

/-- Lists of blocks agree if they do whatever has been added before. -/
private theorem toOption_build_blocks {first second : List Spec.Block}
    (same : ∀ built, (addChildren .block built (Block.outcomes first)).toOption =
      (addChildren .block built (Block.outcomes second)).toOption) :
    (Blocks.build first).toOption = (Blocks.build second).toOption := by
  rw [Blocks.build_eq, Blocks.build_eq]
  exact same []

mutual

private theorem toOption_attribute : ∀ {first second : Spec.Attribute}, first.Reordered second →
    first.name = second.name ∧
      (Attribute.build first).toOption = (Attribute.build second).toOption
  | _, _, .inside spec ofList ofMap ofSet ofSingle => by
    refine ⟨rfl, toOption_findSome? (fun kind => ?_) _ _ _⟩
    cases kind with
    | primitive kind => cases kind <;> rfl
    | collection kind => cases kind <;> rfl
    | object => rfl
    | nested kind =>
      rw [Attribute.buildKind?_nested, Attribute.buildKind?_nested]
      cases kind with
      | list => exact toOption_nested ofList .list
      | map => exact toOption_nested ofMap .map
      | set => exact toOption_nested ofSet .set
    | singleNested =>
      rw [Attribute.buildKind?_singleNested, Attribute.buildKind?_singleNested]
      exact toOption_single ofSingle

private theorem toOption_nested : ∀ {first second : Option Spec.NestedAttribute},
    Spec.NestedAttribute.Reordered first second → ∀ kind,
    (Attribute.buildNested? kind first).map Except.toOption =
      (Attribute.buildNested? kind second).map Except.toOption
  | _, _, .refl _, _ => rfl
  | _, _, .inside spec reordered, kind => by
    have same := toOption_build_attributes (toOption_addAttributes reordered)
    simp only [Attribute.buildNested?_some, Option.map_some, toOption_bind, same]

private theorem toOption_single : ∀ {first second : Option Spec.SingleNestedAttribute},
    Spec.SingleNestedAttribute.Reordered first second →
    (Attribute.buildSingle? first).map Except.toOption =
      (Attribute.buildSingle? second).map Except.toOption
  | _, _, .refl _ => rfl
  | _, _, .inside spec reordered => by
    have same := toOption_build_attributes (toOption_addAttributes reordered)
    simp only [Attribute.buildSingle?_some, Option.map_some, toOption_bind, same]

private theorem toOption_addAttributes : ∀ {first second : List Spec.Attribute},
    AttributesReordered first second → ∀ built,
    (addChildren .attr built (Attribute.outcomes first)).toOption =
      (addChildren .attr built (Attribute.outcomes second)).toOption
  | _, _, .perm perm, built => addChildren_perm (perm.map _) built
  | _, _, .cons head tail, built => by
    obtain ⟨named, same⟩ := toOption_attribute head
    rw [Attribute.outcomes, Attribute.outcomes, List.map_cons, List.map_cons, named]
    exact addChildren_cons_congr same (toOption_addAttributes tail)
  | _, _, .trans left right, built =>
    (toOption_addAttributes left built).trans (toOption_addAttributes right built)

end

mutual

private theorem toOption_block : ∀ {first second : Spec.Block}, first.Reordered second →
    first.name = second.name ∧ (Block.build first).toOption = (Block.build second).toOption
  | _, _, .inside spec ofList ofSet ofSingle => by
    refine ⟨rfl, toOption_findSome? (fun kind => ?_) _ _ _⟩
    cases kind with
    | nested kind =>
      rw [Block.buildKind?_nested, Block.buildKind?_nested]
      cases kind with
      | list => exact toOption_nestedBlock ofList .list
      | set => exact toOption_nestedBlock ofSet .set
    | singleNested =>
      rw [Block.buildKind?_singleNested, Block.buildKind?_singleNested]
      exact toOption_singleBlock ofSingle

private theorem toOption_nestedBlock : ∀ {first second : Option Spec.NestedBlock},
    Spec.NestedBlock.Reordered first second → ∀ kind,
    (Block.buildNested? kind first).map Except.toOption =
      (Block.buildNested? kind second).map Except.toOption
  | _, _, .refl _, _ => rfl
  | _, _, .inside spec ofAttributes ofBlocks, kind => by
    have above := toOption_build_attributes (toOption_addAttributes ofAttributes)
    have below := toOption_build_blocks (toOption_addBlocks ofBlocks)
    simp only [Block.buildNested?_some, Option.map_some, toOption_bind, above, below]

private theorem toOption_singleBlock : ∀ {first second : Option Spec.SingleNestedBlock},
    Spec.SingleNestedBlock.Reordered first second →
    (Block.buildSingle? first).map Except.toOption = (Block.buildSingle? second).map Except.toOption
  | _, _, .refl _ => rfl
  | _, _, .inside spec ofAttributes ofBlocks => by
    have above := toOption_build_attributes (toOption_addAttributes ofAttributes)
    have below := toOption_build_blocks (toOption_addBlocks ofBlocks)
    simp only [Block.buildSingle?_some, Option.map_some, toOption_bind, above, below]

private theorem toOption_addBlocks : ∀ {first second : List Spec.Block},
    BlocksReordered first second → ∀ built,
    (addChildren .block built (Block.outcomes first)).toOption =
      (addChildren .block built (Block.outcomes second)).toOption
  | _, _, .perm perm, built => addChildren_perm (perm.map _) built
  | _, _, .cons head tail, built => by
    obtain ⟨named, same⟩ := toOption_block head
    rw [Block.outcomes, Block.outcomes, List.map_cons, List.map_cons, named]
    exact addChildren_cons_congr same (toOption_addBlocks tail)
  | _, _, .trans left right, built =>
    (toOption_addBlocks left built).trans (toOption_addBlocks right built)

end

/-- Reordered schemas build to the same maps or both fail, possibly with different faults. -/
theorem toOption_build_reordered (spec : Spec.Schema)
    {attributes attributes' : List Spec.Attribute} {blocks blocks' : List Spec.Block}
    (ofAttributes : AttributesReordered attributes attributes')
    (ofBlocks : BlocksReordered blocks blocks') :
    (ResourceSchema.build { spec with attributes := attributes, blocks := blocks }).toOption =
      (ResourceSchema.build { spec with
        attributes := attributes', blocks := blocks' }).toOption := by
  have above := toOption_build_attributes (toOption_addAttributes ofAttributes)
  have below := toOption_build_blocks (toOption_addBlocks ofBlocks)
  simp only [ResourceSchema.build, toOption_bind, above, below]

end Specifications

end Schema

open Schema (toOption_bind toOption_eq_some_iff)

private theorem toOption_generateResource {first second : Spec.Resource}
    (reordered : first.Reordered second) (options : GenerateOptions) :
    (generateResource first options).toOption = (generateResource second options).toOption := by
  obtain ⟨spec, ofAttributes, ofBlocks⟩ := reordered
  have same := Schema.toOption_build_reordered spec.schema ofAttributes ofBlocks
  simp only [generateResource, toOption_bind, same]

/-- The order of declarations has no influence on generation, at any level: for two resources that
differ in it only, either generation fails for both, or it gives the same file for both. -/
theorem generateResource_reordered {first second : Spec.Resource}
    (reordered : first.Reordered second) (options : GenerateOptions) :
    ((∃ fault, generateResource first options = .error fault) ↔
        ∃ fault, generateResource second options = .error fault) ∧
      ∀ file, generateResource first options = .ok file ↔
        generateResource second options = .ok file := by
  have same := toOption_generateResource reordered options
  constructor
  · rw [← Schema.toOption_eq_none_iff, ← Schema.toOption_eq_none_iff, same]
  · intro file
    rw [← toOption_eq_some_iff, ← toOption_eq_some_iff, same]

def stringSpec (name : String) : Spec.Attribute where
  name
  string := some { facets := {}, default := none }

/-- A single object that holds attributes. -/
def ownerSpec (attributes : List Spec.Attribute) : Spec.Attribute where
  name := "owner"
  singleNested := some { facets := {}, attributes, externalType := none, default := none }

def ownedResource (attributes : List Spec.Attribute) : Spec.Resource where
  name := "owned"
  schema := { attributes }

/-- Attributes are reordered here on two levels at once. -/
theorem generateResource_owned_reordered :
    ∃ file, generateResource (ownedResource
        [stringSpec "name", ownerSpec [stringSpec "id", stringSpec "mail"]]) {} = .ok file ∧
      generateResource (ownedResource
        [ownerSpec [stringSpec "mail", stringSpec "id"], stringSpec "name"]) {} = .ok file := by
  have reordered : (ownedResource
      [stringSpec "name", ownerSpec [stringSpec "id", stringSpec "mail"]]).Reordered (ownedResource
      [ownerSpec [stringSpec "mail", stringSpec "id"], stringSpec "name"]) := by
    refine .inside (ownedResource []) (.trans (.perm (.swap ..)) (.cons ?_ (.perm .rfl)))
      (.perm .rfl)
    exact .inside (ownerSpec []) (.refl none) (.refl none) (.refl none)
      (.inside { facets := {}, attributes := [], externalType := none, default := none }
        (.perm (.swap ..)))
  have made : generateResource (ownedResource
      [stringSpec "name", ownerSpec [stringSpec "id", stringSpec "mail"]]) {} = .ok _ := rfl
  exact ⟨_, made, ((generateResource_reordered reordered {}).2 _).mp made⟩

end ProviderCodegen
