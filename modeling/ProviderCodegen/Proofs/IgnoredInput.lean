import ProviderCodegen.Proofs.Schema.Change

/-! # Input that is ignored

A specification can say more than is looked at: hooks without code, kinds behind the first one that
is set, code next to a literal default, defaults that are empty, and that a value is not sensitive.
`normalized` removes all of this at every depth. What is built from a normalized specification is
what is built without normalizing, apart from the marks that values are not sensitive, and these
show in no text and need no import.
-/

namespace ProviderCodegen

open Schema (AttributeKind BlockKind CollectionKind ElementKind PrimitiveKind RepeatedKind)

namespace Spec

/-! ## Normalized specifications -/

def withCode (hooks : List Hook) : List Hook :=
  hooks.filter (·.custom.isSome)

/-- The facets without hooks that have no code and without a mark that says nothing. -/
def AttributeFacets.normalized (facets : AttributeFacets) : AttributeFacets where
  __ := facets
  sensitive := facets.sensitive.filter id
  planModifiers := withCode facets.planModifiers
  validators := withCode facets.validators

/-- The facets without hooks that have no code. -/
def BlockFacets.normalized (facets : BlockFacets) : BlockFacets where
  __ := facets
  planModifiers := withCode facets.planModifiers
  validators := withCode facets.validators

def CustomDefault.normalized : CustomDefault → Option CustomDefault
  | ⟨some snippet⟩ => some ⟨some snippet⟩
  | ⟨none⟩ => none

/-- The default without code next to a literal, if it has either. -/
def LiteralDefault.normalized {α : Type} : LiteralDefault α → Option (LiteralDefault α)
  | ⟨some value, _⟩ => some ⟨some value, none⟩
  | ⟨none, some snippet⟩ => some ⟨none, some snippet⟩
  | ⟨none, none⟩ => none

/-- What is given for a kind, if the kind is the one that counts. -/
def onlyFor {κ α : Type} [DecidableEq κ] (counts : Option κ) (kind : κ) (given : Option α) :
    Option α :=
  if counts = some kind then given else none

def ElementType.sets (spec : ElementType) : ElementKind → Bool
  | .primitive .bool => spec.bool.isSome
  | .primitive .float64 => spec.float64.isSome
  | .primitive .int64 => spec.int64.isSome
  | .primitive .number => spec.number.isSome
  | .primitive .string => spec.string.isSome
  | .collection .list => spec.list.isSome
  | .collection .map => spec.map.isSome
  | .collection .set => spec.set.isSome
  | .object => spec.object.isSome

/-- The element type with only the first kind that is set. -/
def ElementType.firstKind (spec : ElementType) : ElementType :=
  let counts := ElementKind.all.find? spec.sets
  { bool := onlyFor counts (.primitive .bool) spec.bool
    float64 := onlyFor counts (.primitive .float64) spec.float64
    int64 := onlyFor counts (.primitive .int64) spec.int64
    number := onlyFor counts (.primitive .number) spec.number
    string := onlyFor counts (.primitive .string) spec.string
    list := onlyFor counts (.collection .list) spec.list
    map := onlyFor counts (.collection .map) spec.map
    set := onlyFor counts (.collection .set) spec.set
    object := onlyFor counts .object spec.object }

mutual

/-- The element type with only the first kind that is set, there and inside. -/
def ElementType.normalized : ElementType → ElementType
  | ⟨bool, float64, int64, number, string, list, map, set, object⟩ =>
      ElementType.firstKind ⟨bool, float64, int64, number, string,
        CollectionType.normalized? list, CollectionType.normalized? map,
        CollectionType.normalized? set, ObjectType.normalized? object⟩

def CollectionType.normalized? : Option CollectionType → Option CollectionType
  | none => none
  | some ⟨element, custom⟩ => some ⟨element.normalized, custom⟩

def ObjectType.normalized? : Option ObjectType → Option ObjectType
  | none => none
  | some ⟨fields, custom⟩ => some ⟨ObjectField.allNormalized fields, custom⟩

/-- Fields with only the first kind that is set, there and inside. -/
def ObjectField.allNormalized : List ObjectField → List ObjectField
  | [] => []
  | ⟨name, kind⟩ :: rest => ⟨name, kind.normalized⟩ :: ObjectField.allNormalized rest

end

/-- The attribute without what is ignored, given what becomes of its default. -/
def PrimitiveAttribute.normalized {δ : Type} (onDefault : δ → Option δ)
    (spec : PrimitiveAttribute δ) : PrimitiveAttribute δ where
  facets := spec.facets.normalized
  default := spec.default.bind onDefault

def CollectionAttribute.normalized (spec : CollectionAttribute) : CollectionAttribute where
  facets := spec.facets.normalized
  elementType := spec.elementType.normalized
  default := spec.default.bind CustomDefault.normalized

def ObjectAttribute.normalized (spec : ObjectAttribute) : ObjectAttribute where
  facets := spec.facets.normalized
  attributeTypes := ObjectField.allNormalized spec.attributeTypes
  externalType := spec.externalType
  default := spec.default.bind CustomDefault.normalized

def Attribute.sets (spec : Attribute) : AttributeKind → Bool
  | .primitive .bool => spec.bool.isSome
  | .primitive .float64 => spec.float64.isSome
  | .primitive .int64 => spec.int64.isSome
  | .primitive .number => spec.number.isSome
  | .primitive .string => spec.string.isSome
  | .collection .list => spec.list.isSome
  | .collection .map => spec.map.isSome
  | .collection .set => spec.set.isSome
  | .nested .list => spec.listNested.isSome
  | .nested .map => spec.mapNested.isSome
  | .nested .set => spec.setNested.isSome
  | .singleNested => spec.singleNested.isSome
  | .object => spec.object.isSome

/-- The attribute with only the first kind that is set. -/
def Attribute.firstKind (spec : Attribute) : Attribute :=
  let counts := AttributeKind.all.find? spec.sets
  { name := spec.name
    bool := onlyFor counts (.primitive .bool) spec.bool
    float64 := onlyFor counts (.primitive .float64) spec.float64
    int64 := onlyFor counts (.primitive .int64) spec.int64
    number := onlyFor counts (.primitive .number) spec.number
    string := onlyFor counts (.primitive .string) spec.string
    list := onlyFor counts (.collection .list) spec.list
    map := onlyFor counts (.collection .map) spec.map
    set := onlyFor counts (.collection .set) spec.set
    listNested := onlyFor counts (.nested .list) spec.listNested
    mapNested := onlyFor counts (.nested .map) spec.mapNested
    setNested := onlyFor counts (.nested .set) spec.setNested
    singleNested := onlyFor counts .singleNested spec.singleNested
    object := onlyFor counts .object spec.object }

mutual

/-- The attribute without what is ignored, there and inside. -/
def Attribute.normalized : Attribute → Attribute
  | ⟨name, bool, float64, int64, number, string, list, map, set, listNested, mapNested, setNested,
      single, object⟩ =>
      Attribute.firstKind ⟨name, bool.map (·.normalized LiteralDefault.normalized),
        float64.map (·.normalized LiteralDefault.normalized),
        int64.map (·.normalized LiteralDefault.normalized),
        number.map (·.normalized CustomDefault.normalized),
        string.map (·.normalized LiteralDefault.normalized),
        list.map CollectionAttribute.normalized, map.map CollectionAttribute.normalized,
        set.map CollectionAttribute.normalized, NestedAttribute.normalized? listNested,
        NestedAttribute.normalized? mapNested, NestedAttribute.normalized? setNested,
        SingleNestedAttribute.normalized? single, object.map ObjectAttribute.normalized⟩

def NestedAttribute.normalized? : Option NestedAttribute → Option NestedAttribute
  | none => none
  | some ⟨facets, ⟨attributes, custom, external, planModifiers, validators⟩, default⟩ =>
      some ⟨facets.normalized,
        ⟨Attribute.allNormalized attributes, custom, external, withCode planModifiers,
          withCode validators⟩,
        default.bind CustomDefault.normalized⟩

def SingleNestedAttribute.normalized? :
    Option SingleNestedAttribute → Option SingleNestedAttribute
  | none => none
  | some ⟨facets, attributes, external, default⟩ =>
      some ⟨facets.normalized, Attribute.allNormalized attributes, external,
        default.bind CustomDefault.normalized⟩

/-- Attributes without what is ignored. -/
def Attribute.allNormalized : List Attribute → List Attribute
  | [] => []
  | first :: rest => first.normalized :: Attribute.allNormalized rest

end

def Block.sets (spec : Block) : BlockKind → Bool
  | .nested .list => spec.listNested.isSome
  | .nested .set => spec.setNested.isSome
  | .singleNested => spec.singleNested.isSome

/-- The block with only the first kind that is set. -/
def Block.firstKind (spec : Block) : Block :=
  let counts := BlockKind.all.find? spec.sets
  { name := spec.name
    listNested := onlyFor counts (.nested .list) spec.listNested
    setNested := onlyFor counts (.nested .set) spec.setNested
    singleNested := onlyFor counts .singleNested spec.singleNested }

mutual

/-- The block without what is ignored, there and inside. -/
def Block.normalized : Block → Block
  | ⟨name, listNested, setNested, single⟩ =>
      Block.firstKind ⟨name, NestedBlock.normalized? listNested, NestedBlock.normalized? setNested,
        SingleNestedBlock.normalized? single⟩

def NestedBlock.normalized? : Option NestedBlock → Option NestedBlock
  | none => none
  | some ⟨facets, ⟨attributes, blocks, custom, external, planModifiers, validators⟩⟩ =>
      some ⟨facets.normalized,
        ⟨Attribute.allNormalized attributes, Block.allNormalized blocks, custom, external,
          withCode planModifiers, withCode validators⟩⟩

def SingleNestedBlock.normalized? : Option SingleNestedBlock → Option SingleNestedBlock
  | none => none
  | some ⟨facets, attributes, blocks, external⟩ =>
      some ⟨facets.normalized, Attribute.allNormalized attributes, Block.allNormalized blocks,
        external⟩

/-- Blocks without what is ignored. -/
def Block.allNormalized : List Block → List Block
  | [] => []
  | first :: rest => first.normalized :: Block.allNormalized rest

end

/-- The resource without what is ignored. -/
def Resource.normalized (spec : Resource) : Resource where
  __ := spec
  schema := {
    spec.schema with
    attributes := Attribute.allNormalized spec.schema.attributes
    blocks := Block.allNormalized spec.schema.blocks }

end Spec

namespace Schema

open Spec (onlyFor withCode)

/-- Drop the marks that values are not sensitive. -/
def Change.unmarked : Change where
  facets facets := { facets with sensitive := facets.sensitive.filter id }

/-! ## The kind that counts -/

section Kinds

variable {κ α : Type} [DecidableEq κ]

/-- The first kind that gives something is the first that is set, so no other one is needed. -/
theorem findSome?_onlyFor {kinds : List κ} {outcome : κ → Option α} {sets : κ → Bool}
    (isSet : ∀ kind, (outcome kind).isSome = sets kind) :
    (kinds.findSome? fun kind => onlyFor (kinds.find? sets) kind (outcome kind)) =
      kinds.findSome? outcome := by
  have unset {kind : κ} (notSet : sets kind = false) : outcome kind = none := by
    rw [← isSet] at notSet
    exact Option.not_isSome_iff_eq_none.mp (Bool.eq_false_iff.mp notSet)
  cases found : kinds.find? sets with
  | none =>
    have nothing (kind : κ) (member : kind ∈ kinds) : outcome kind = none :=
      unset (Bool.eq_false_iff.mpr (List.find?_eq_none.mp found kind member))
    rw [List.findSome?_eq_none_iff.mpr nothing]
    exact List.findSome?_eq_none_iff.mpr fun kind _ => if_neg nofun
  | some first =>
    obtain ⟨isFirst, before, behind, rfl, notBefore⟩ := List.find?_eq_some_iff_append.mp found
    have skips (result : κ → Option α) (skipped : ∀ kind ∈ before, result kind = none)
        (given : result first = outcome first) :
        (before ++ first :: behind).findSome? result = outcome first := by
      rw [List.findSome?_append, List.findSome?_eq_none_iff.mpr skipped, Option.none_or,
        List.findSome?_cons, given]
      obtain ⟨value, some⟩ := Option.isSome_iff_exists.mp ((isSet first).trans isFirst)
      rw [some]
    have nothing (kind : κ) (member : kind ∈ before) : outcome kind = none :=
      unset (Bool.not_eq_true' _ ▸ notBefore kind member)
    rw [skips outcome nothing rfl]
    refine skips _ (fun kind member => ?_) (if_pos rfl)
    rw [onlyFor, nothing kind member, ite_self]

/-- What is built for a kind is not built if the kind does not count. -/
theorem build_onlyFor {β : Type} (build : Option α → Option β) (none : build none = none)
    (counts : Option κ) (kind : κ) (given : Option α) :
    build (onlyFor counts kind given) = onlyFor counts kind (build given) := by
  unfold onlyFor
  split_ifs
  · rfl
  · exact none

end Kinds

namespace ElementType

/-- Whether a kind is tried at all depends only on its being set. -/
theorem isSome_buildKind? (spec : Spec.ElementType) (kind : ElementKind) :
    (buildKind? kind spec).isSome = spec.sets kind := by
  have ofCollection (kind : CollectionKind) (given : Option Spec.CollectionType) :
      (buildCollection? kind given).isSome = given.isSome := by
    rcases given with _ | ⟨element, custom⟩ <;> rfl
  cases spec with
  | mk bool float64 int64 number string list map set objectType =>
    cases kind with
    | primitive kind => cases kind <;> exact Option.isSome_map
    | collection kind => cases kind <;> exact ofCollection _ _
    | object => rcases objectType with _ | ⟨fields, custom⟩ <;> rfl

/-- Kinds behind the first that is set are never looked at. -/
theorem findSome?_firstKind (spec : Spec.ElementType) :
    (ElementKind.all.findSome? fun kind => buildKind? kind spec.firstKind) =
      ElementKind.all.findSome? fun kind => buildKind? kind spec := by
  rw [← findSome?_onlyFor (isSome_buildKind? spec)]
  refine congrArg (ElementKind.all.findSome? ·) (funext fun kind => ?_)
  cases spec with
  | mk bool float64 int64 number string list map set objectType =>
    cases kind with
    | primitive kind => cases kind <;> exact build_onlyFor (buildPrimitive? _) rfl _ _ _
    | collection kind => cases kind <;> exact build_onlyFor (buildCollection? _) rfl _ _ _
    | object => exact build_onlyFor buildObject? rfl _ _ _

mutual

/-- By induction on the type, as the elements of a collection are normalized too. -/
theorem findSome?_normalized : ∀ spec : Spec.ElementType,
    (ElementKind.all.findSome? fun kind => buildKind? kind spec.normalized) =
      ElementKind.all.findSome? fun kind => buildKind? kind spec
  | ⟨bool, float64, int64, number, string, list, map, set, objectType⟩ => by
    rw [Spec.ElementType.normalized, findSome?_firstKind]
    refine congrArg (ElementKind.all.findSome? ·) (funext fun kind => ?_)
    cases kind with
    | primitive kind => cases kind <;> rfl
    | collection kind =>
      cases kind with
      | list => exact buildCollection?_normalized .list list
      | map => exact buildCollection?_normalized .map map
      | set => exact buildCollection?_normalized .set set
    | object => exact buildObject?_normalized objectType

theorem buildCollection?_normalized (kind : CollectionKind) :
    ∀ spec : Option Spec.CollectionType,
      buildCollection? kind (Spec.CollectionType.normalized? spec) = buildCollection? kind spec
  | none => rfl
  | some ⟨element, custom⟩ => by
    rw [Spec.CollectionType.normalized?, buildCollection?, buildCollection?,
      findSome?_normalized element]

theorem buildObject?_normalized : ∀ spec : Option Spec.ObjectType,
    buildObject? (Spec.ObjectType.normalized? spec) = buildObject? spec
  | none => rfl
  | some ⟨fields, custom⟩ => by
    rw [Spec.ObjectType.normalized?, buildObject?, buildObject?, buildFields_normalized fields]

theorem buildFields_normalized : ∀ specs : List Spec.ObjectField,
    buildFields (Spec.ObjectField.allNormalized specs) = buildFields specs
  | [] => rfl
  | ⟨name, kind⟩ :: rest => by
    rw [Spec.ObjectField.allNormalized, buildFields, buildFields, findSome?_normalized kind,
      buildFields_normalized rest]

end

/-- Nothing that normalizing an element type takes away is ever built. -/
theorem build_normalized (spec : Spec.ElementType) :
    ElementType.build spec.normalized = ElementType.build spec := by
  rw [ElementType.build, findSome?_normalized, ← ElementType.build]

end ElementType

/-! ## Attributes and blocks -/

/-- Hooks without code make no snippet, so dropping them changes nothing. -/
theorem customHooks_withCode (hooks : List Spec.Hook) :
    customHooks (withCode hooks) = customHooks hooks := by
  induction hooks with
  | nil => rfl
  | cons hook rest ih =>
    obtain ⟨_ | snippet⟩ := hook
    · exact ih
    · exact congrArg (snippet :: ·) ih

/-- All that is lost is the mark that a value is not sensitive. -/
theorem Facets.ofAttribute_normalized (facets : Spec.AttributeFacets) :
    Facets.ofAttribute facets.normalized = Change.unmarked.facets (.ofAttribute facets) := by
  simp only [Facets.ofAttribute, Spec.AttributeFacets.normalized, customHooks_withCode,
    Change.unmarked]

theorem Facets.ofBlock_normalized (facets : Spec.BlockFacets) :
    Facets.ofBlock facets.normalized = Change.unmarked.facets (.ofBlock facets) := by
  simp only [Facets.ofBlock, Spec.BlockFacets.normalized, customHooks_withCode, Change.unmarked,
    Option.filter_none]

theorem ObjectFacets.ofSpec_withCode (custom : Option Spec.CustomType)
    (external : Option Spec.ExternalType) (planModifiers validators : List Spec.Hook) :
    ObjectFacets.ofSpec custom external (withCode planModifiers) (withCode validators) =
      ObjectFacets.ofSpec custom external planModifiers validators := by
  simp only [ObjectFacets.ofSpec, customHooks_withCode]

/-- A default with neither a literal nor code is the same as none. -/
theorem Default.ofLiteral_normalized {α : Type} (literal : α → Default)
    (given : Option (Spec.LiteralDefault α)) :
    Default.ofLiteral literal (given.bind Spec.LiteralDefault.normalized) =
      (Default.ofLiteral literal given).map Change.unmarked.default := by
  rcases given with _ | ⟨_ | value, _ | snippet⟩ <;> rfl

theorem Default.ofCustom_normalized (given : Option Spec.CustomDefault) :
    Default.ofCustom (given.bind Spec.CustomDefault.normalized) =
      (Default.ofCustom given).map Change.unmarked.default := by
  rcases given with _ | ⟨_ | snippet⟩ <;> rfl

namespace Attribute

theorem isSome_buildKind? (spec : Spec.Attribute) (kind : AttributeKind) :
    (buildKind? kind spec).isSome = spec.sets kind := by
  have ofNested (kind : CollectionKind) (given : Option Spec.NestedAttribute) :
      (buildNested? kind given).isSome = given.isSome := by
    cases given with
    | none => rfl
    | some given => rw [buildNested?_some]; rfl
  cases spec with
  | mk name bool float64 int64 number string list map set listNested mapNested setNested single
      object =>
    cases kind with
    | primitive kind => cases kind <;> exact Option.isSome_map
    | collection kind => cases kind <;> exact Option.isSome_map
    | nested kind => cases kind <;> exact ofNested _ _
    | singleNested =>
      rw [buildKind?_singleNested]
      cases single with
      | none => rfl
      | some given => rw [buildSingle?_some]; rfl
    | object => exact Option.isSome_map

theorem findSome?_firstKind (spec : Spec.Attribute) :
    (AttributeKind.all.findSome? fun kind => buildKind? kind spec.firstKind) =
      AttributeKind.all.findSome? fun kind => buildKind? kind spec := by
  rw [← findSome?_onlyFor (isSome_buildKind? spec)]
  refine congrArg (AttributeKind.all.findSome? ·) (funext fun kind => ?_)
  cases spec with
  | mk name bool float64 int64 number string list map set listNested mapNested setNested single
      object =>
    cases kind with
    | primitive kind => cases kind <;> exact build_onlyFor (buildPrimitive? _ _) rfl _ _ _
    | collection kind => cases kind <;> exact build_onlyFor (buildCollection? _) rfl _ _ _
    | nested kind => cases kind <;> exact build_onlyFor (buildNested? _) rfl _ _ _
    | singleNested => exact build_onlyFor buildSingle? rfl _ _ _
    | object => exact build_onlyFor buildObject? rfl _ _ _

private theorem buildPrimitive?_normalized {kind : PrimitiveKind} {δ : Type}
    {default : Option δ → Option Default} {onDefault : δ → Option δ}
    (same : ∀ given, default (given.bind onDefault) =
      (default given).map Change.unmarked.default)
    (spec : Option (Spec.PrimitiveAttribute δ)) :
    buildPrimitive? kind default (spec.map (·.normalized onDefault)) =
      (buildPrimitive? kind default spec).map (Except.map (changed .unmarked)) := by
  refine buildPrimitive?_changed (fun given => ?_) (fun given => ?_) spec
  · exact Facets.ofAttribute_normalized given.facets
  · exact same given.default

private theorem buildCollection?_normalized {kind : CollectionKind}
    (spec : Option Spec.CollectionAttribute) :
    buildCollection? kind (spec.map Spec.CollectionAttribute.normalized) =
      (buildCollection? kind spec).map (Except.map (changed .unmarked)) := by
  refine buildCollection?_changed (fun given => ?_) (fun given => ?_) (fun given => ?_) spec
  · exact Facets.ofAttribute_normalized given.facets
  · rw [Spec.CollectionAttribute.normalized, ElementType.build_normalized]
    exact (congrFun Except.map_id _).symm
  · exact Default.ofCustom_normalized given.default

private theorem buildObject?_normalized (spec : Option Spec.ObjectAttribute) :
    buildObject? (spec.map Spec.ObjectAttribute.normalized) =
      (buildObject? spec).map (Except.map (changed .unmarked)) := by
  refine buildObject?_changed (fun given => ?_) (fun given => ?_) (fun given => ?_)
    (fun given => ?_) spec
  · exact Facets.ofAttribute_normalized given.facets
  · rw [Spec.ObjectAttribute.normalized, Fields.build, ElementType.buildFields_normalized]
    exact (congrFun Except.map_id _).symm
  · rfl
  · exact Default.ofCustom_normalized given.default

mutual

private theorem build_normalized : ∀ spec : Spec.Attribute,
    Attribute.build spec.normalized = (Attribute.build spec).map (changed .unmarked)
  | ⟨name, bool, float64, int64, number, string, list, map, set, listNested, mapNested, setNested,
      single, fixed⟩ => by
    rw [Spec.Attribute.normalized, Attribute.build, findSome?_firstKind]
    refine getD_findSome?_map _ _ fun kind => ?_
    cases kind with
    | primitive kind =>
      cases kind with
      | bool => exact buildPrimitive?_normalized (Default.ofLiteral_normalized _) bool
      | float64 => exact buildPrimitive?_normalized (Default.ofLiteral_normalized _) float64
      | int64 => exact buildPrimitive?_normalized (Default.ofLiteral_normalized _) int64
      | number => exact buildPrimitive?_normalized Default.ofCustom_normalized number
      | string => exact buildPrimitive?_normalized (Default.ofLiteral_normalized _) string
    | collection kind => cases kind <;> exact buildCollection?_normalized _
    | nested kind =>
      cases kind with
      | list => exact buildNested?_normalized .list listNested
      | map => exact buildNested?_normalized .map mapNested
      | set => exact buildNested?_normalized .set setNested
    | singleNested => exact buildSingle?_normalized single
    | object => exact buildObject?_normalized fixed

private theorem buildNested?_normalized (kind : CollectionKind) :
    ∀ spec : Option Spec.NestedAttribute,
      buildNested? kind (Spec.NestedAttribute.normalized? spec) =
        (buildNested? kind spec).map (Except.map (changed .unmarked))
  | none => rfl
  | some ⟨facets, ⟨attributes, _, _, _, _⟩, default⟩ =>
    buildNested?_changed (Facets.ofAttribute_normalized facets) (ObjectFacets.ofSpec_withCode ..)
      (Attributes.build_changed (outcomes_normalized attributes))
      (Default.ofCustom_normalized default)

private theorem buildSingle?_normalized : ∀ spec : Option Spec.SingleNestedAttribute,
    buildSingle? (Spec.SingleNestedAttribute.normalized? spec) =
      (buildSingle? spec).map (Except.map (changed .unmarked))
  | none => rfl
  | some ⟨facets, attributes, _, default⟩ =>
    buildSingle?_changed (Facets.ofAttribute_normalized facets) rfl
      (Attributes.build_changed (outcomes_normalized attributes))
      (Default.ofCustom_normalized default)

private theorem outcomes_normalized : ∀ specs : List Spec.Attribute,
    outcomes (Spec.Attribute.allNormalized specs) =
      (outcomes specs).map (Prod.map id (Except.map (changed .unmarked)))
  | [] => rfl
  | spec :: rest => by
    have name : spec.normalized.name = spec.name := by cases spec; rfl
    exact outcomes_cons_changed name (build_normalized spec) (outcomes_normalized rest)

end

end Attribute

/-- Faults are the same as well, since normalizing keeps the names and the order. -/
theorem Attributes.build_normalized (specs : List Spec.Attribute) :
    Attributes.build (Spec.Attribute.allNormalized specs) =
      (Attributes.build specs).map (Attribute.allChanged .unmarked) :=
  Attributes.build_changed (Attribute.outcomes_normalized specs)

namespace Block

theorem isSome_buildKind? (spec : Spec.Block) (kind : BlockKind) :
    (buildKind? kind spec).isSome = spec.sets kind := by
  have ofNested (kind : RepeatedKind) (given : Option Spec.NestedBlock) :
      (buildNested? kind given).isSome = given.isSome := by
    cases given with
    | none => rfl
    | some given => rw [buildNested?_some]; rfl
  cases spec with
  | mk name listNested setNested single =>
    cases kind with
    | nested kind => cases kind <;> exact ofNested _ _
    | singleNested =>
      rw [buildKind?_singleNested]
      cases single with
      | none => rfl
      | some given => rw [buildSingle?_some]; rfl

theorem findSome?_firstKind (spec : Spec.Block) :
    (BlockKind.all.findSome? fun kind => buildKind? kind spec.firstKind) =
      BlockKind.all.findSome? fun kind => buildKind? kind spec := by
  rw [← findSome?_onlyFor (isSome_buildKind? spec)]
  refine congrArg (BlockKind.all.findSome? ·) (funext fun kind => ?_)
  cases spec with
  | mk name listNested setNested single =>
    cases kind with
    | nested kind => cases kind <;> exact build_onlyFor (buildNested? _) rfl _ _ _
    | singleNested => exact build_onlyFor buildSingle? rfl _ _ _

mutual

private theorem build_normalized : ∀ spec : Spec.Block,
    Block.build spec.normalized = (Block.build spec).map (changed .unmarked)
  | ⟨name, listNested, setNested, single⟩ => by
    rw [Spec.Block.normalized, Block.build, findSome?_firstKind]
    refine getD_findSome?_map _ _ fun kind => ?_
    cases kind with
    | nested kind =>
      cases kind with
      | list => exact buildNested?_normalized .list listNested
      | set => exact buildNested?_normalized .set setNested
    | singleNested => exact buildSingle?_normalized single

private theorem buildNested?_normalized (kind : RepeatedKind) :
    ∀ spec : Option Spec.NestedBlock,
      buildNested? kind (Spec.NestedBlock.normalized? spec) =
        (buildNested? kind spec).map (Except.map (changed .unmarked))
  | none => rfl
  | some ⟨facets, ⟨attributes, blocks, _, _, _, _⟩⟩ =>
    buildNested?_changed (Facets.ofBlock_normalized facets) (ObjectFacets.ofSpec_withCode ..)
      (Attributes.build_normalized attributes) (Blocks.build_changed (outcomes_normalized blocks))

private theorem buildSingle?_normalized : ∀ spec : Option Spec.SingleNestedBlock,
    buildSingle? (Spec.SingleNestedBlock.normalized? spec) =
      (buildSingle? spec).map (Except.map (changed .unmarked))
  | none => rfl
  | some ⟨facets, attributes, blocks, _⟩ =>
    buildSingle?_changed (Facets.ofBlock_normalized facets) rfl
      (Attributes.build_normalized attributes) (Blocks.build_changed (outcomes_normalized blocks))

private theorem outcomes_normalized : ∀ specs : List Spec.Block,
    outcomes (Spec.Block.allNormalized specs) =
      (outcomes specs).map (Prod.map id (Except.map (changed .unmarked)))
  | [] => rfl
  | spec :: rest => by
    have name : spec.normalized.name = spec.name := by cases spec; rfl
    exact outcomes_cons_changed name (build_normalized spec) (outcomes_normalized rest)

end

end Block

theorem Blocks.build_normalized (specs : List Spec.Block) :
    Blocks.build (Spec.Block.allNormalized specs) =
      (Blocks.build specs).map (Block.allChanged .unmarked) :=
  Blocks.build_changed (Block.outcomes_normalized specs)

/-! ## What shows -/

/-- The schema of a normalized resource is the one built before, without marks. -/
theorem ResourceSchema.build_normalized (spec : Spec.Resource) :
    ResourceSchema.build spec.normalized.schema =
      (ResourceSchema.build spec.schema).map (changed .unmarked) := by
  rw [ResourceSchema.build, ResourceSchema.build, Spec.Resource.normalized,
    Attributes.build_normalized, Blocks.build_normalized]
  cases Attributes.build spec.schema.attributes with
  | error fault => rfl
  | ok attributes => cases Blocks.build spec.schema.blocks <;> rfl

/-- A value that is not sensitive has no entry for that, marked or not. -/
theorem Change.keepsText_unmarked : Change.unmarked.KeepsText where
  customType _ := rfl
  planModifiers _ := rfl
  validators _ := rfl
  expression _ := rfl
  nativeType _ := rfl
  literal _ := rfl
  valueFields _ := rfl
  converted _ := rfl
  plan _ _ _ := rfl
  default _ := rfl
  entries facets custom type := by
    have same : sensitiveEntry (facets.sensitive.filter id) = sensitiveEntry facets.sensitive := by
      rcases facets.sensitive with _ | _ | _ <;> rfl
    simp only [unmarked, Facets.entries, same]

theorem ResourceSchema.imports_unmarked (schema : ResourceSchema) :
    (schema.changed .unmarked).imports = schema.imports := by
  have contributes : Change.unmarked.Contributes Eq :=
    { Change.keepsText_unmarked with
      default := fun _ => rfl
      element := fun _ => rfl
      fields := fun _ => rfl }
  rw [imports_eq, imports_eq, schema.contributions_changed keptByAppend_eq contributes]

end Schema

open Schema (Change ResourceSchema)

/-- What is ignored has no influence on generation: with it and without it a resource has the same
file, or the same fault stops both. -/
theorem generateResource_normalized (resource : Spec.Resource) (options : GenerateOptions) :
    generateResource resource.normalized options = generateResource resource options := by
  rw [generateResource, generateResource, ResourceSchema.build_normalized]
  cases ResourceSchema.build resource.schema with
  | error fault => rfl
  | ok schema =>
    have parts := Schema.sections_changed Change.keepsText_unmarked schema resource.name options
    have imports := schema.imports_unmarked
    change Except.ok _ = Except.ok _
    simp only [Spec.Resource.normalized, usedImports, parts, imports]

/-- A bit of all that is ignored, and what is left. -/
example : Spec.Resource.normalized {
    name := "host"
    schema.attributes := [{
      name := "port"
      int64 := some {
        facets := {
          sensitive := some false
          validators := [⟨none⟩, ⟨some ⟨[], "portvalidator.Free()"⟩⟩] }
        default := some { literal := some 80, custom := some ⟨[], "portdefault.Free()"⟩ } }
      string := some { facets := {}, default := some ⟨none, none⟩ } }] } = {
    name := "host"
    schema.attributes := [{
      name := "port"
      int64 := some {
        facets := { validators := [⟨some ⟨[], "portvalidator.Free()"⟩⟩] }
        default := some { literal := some 80, custom := none } } }] } :=
  rfl

end ProviderCodegen
