import ProviderCodegen.Proofs.Schema.GeneratedTypes
import ProviderCodegen.Proofs.Schema.Places

/-! # Where conversion methods are made

A pair of conversion methods is made for a place by rules that look at the node there and at the
nodes around it only: the node is a single object, a set of objects or an object of typed fields and
has an external type, its value type belongs to the generated package, and every node around it is a
single object or a set of objects with an external type. The methods of a schema are those of its
places, in their order.
-/

namespace ProviderCodegen.Schema

open Conversion (ConversionMethods ConvertedField)
open Source (isLocalType)

namespace Node

def externalType : Node → Option Spec.ExternalType
  | attr (.nested _ _ item _ _) => item.externalType
  | attr (.singleNested _ _ external _) => external
  | attr (.object _ _ external _) => external
  | block (.nested _ _ item _ _) => item.externalType
  | block (.singleNested _ _ _ external) => external
  | _ => none

def converted : Node → List ConvertedField
  | attr (.object _ fields _ _) => Fields.converted fields
  | node => Attributes.converted node.attributes ++ Blocks.converted node.blocks

/-- The value type of the object of a node: for a collection that of the object it repeats. -/
def receiver (name : String) : Node → String
  | attr (.nested _ _ item _ _) => item.valueType name
  | block (.nested _ _ item _ _) => item.valueType name
  | node => node.valueType name

/-- Whether a node is a single object with nodes inside, or a set of such objects. -/
def isSingleOrSet : Node → Bool
  | attr (.nested kind _ _ _ _) => kind = .set
  | attr (.singleNested _ _ _ _) => true
  | block (.nested kind _ _ _ _) => kind = .set
  | block (.singleNested _ _ _ _) => true
  | _ => false

def isTypedObject : Node → Bool
  | attr (.object _ _ _ _) => true
  | _ => false

/-- Only object attributes give their fields as types. -/
theorem eq_object_of_typed {node : Node} (typed : node.isTypedObject = true) :
    ∃ facets fields external default, node = .attr (.object facets fields external default) := by
  cases node with
  | block node => cases typed
  | attr node =>
    cases node with
    | object facets fields external default => exact ⟨facets, fields, external, default, rfl⟩
    | _ => cases typed

/-- Objects of typed fields have no nodes inside. -/
theorem untyped_of_child {node : Node} {child : String × Node} (isChild : child ∈ node.children) :
    node.isTypedObject = false := by
  refine Bool.eq_false_iff.mpr fun typed => ?_
  obtain ⟨facets, fields, external, default, rfl⟩ := eq_object_of_typed typed
  cases isChild

/-- Whether methods are made inside a node. -/
def opensInside (node : Node) : Bool :=
  node.isSingleOrSet && node.externalType.isSome

/-- The methods of a node and of what is inside. -/
def methods (name : String) : Node → List ConversionMethods
  | attr node => supported (node.methods name)
  | block node => supported (node.methods name)

end Node

namespace Place

/-- Whether methods are made for the node at a place if it has an external type. -/
def converts (place : Place) : Bool :=
  (place.node.isSingleOrSet || place.node.isTypedObject) &&
    isLocalType (place.node.receiver place.name) && place.around.all (·.2.opensInside)

/-- The methods of the node at a place, if they are made. -/
def methods? (place : Place) : Option ConversionMethods :=
  if place.converts then place.node.externalType.map fun external =>
    { receiver := place.node.receiver place.name, external, fields := place.node.converted }
  else none

/-- What has to hold for methods to be made for a place, and what is in them. What the value types of
the nodes around it are does not matter. -/
structure Makes (place : Place) (methods : ConversionMethods) : Prop where
  kind : place.node.isSingleOrSet = true ∨ place.node.isTypedObject = true
  external : place.node.externalType = some methods.external
  isLocal : '.' ∉ methods.receiver.toList
  around : ∀ above ∈ place.around,
    above.2.isSingleOrSet = true ∧ above.2.externalType.isSome = true
  receiver : methods.receiver = place.node.receiver place.name
  fields : methods.fields = place.node.converted

/-- The relation says what is written, and the function finds it. -/
theorem methods?_eq_some_iff {place : Place} {methods : ConversionMethods} :
    place.methods? = some methods ↔ place.Makes methods := by
  rw [methods?, Option.ite_none_right_eq_some, Option.map_eq_some_iff]
  simp only [converts, Bool.and_eq_true, Bool.or_eq_true, isLocalType, Bool.not_eq_true',
    List.contains_eq_mem, decide_eq_false_iff_not, List.all_eq_true, Node.opensInside]
  constructor
  · rintro ⟨⟨⟨kind, isLocal⟩, around⟩, external, given, rfl⟩
    exact ⟨kind, given, isLocal, around, rfl, rfl⟩
  · rintro ⟨kind, given, isLocal, around, receiver, fields⟩
    exact ⟨⟨⟨kind, receiver ▸ isLocal⟩, around⟩, methods.external, given,
      by rw [← receiver, ← fields]⟩

end Place

/-! ## The methods of one node -/

/-- The methods of named nodes, attributes first. -/
theorem methods_namedNodes (attributes : Attributes) (blocks : Blocks) :
    (return (← Attributes.methods attributes) ++ (← Blocks.methods blocks)) =
      (Except.ok ((namedNodes attributes blocks).flatMap fun entry => entry.2.methods entry.1) :
        Except Unsupported (List ConversionMethods)) := by
  rw [Attributes.methods, Blocks.methods, Attribute.methodsAll_eq, Block.methodsAll_eq, namedNodes,
    List.flatMap_append, List.flatMap_map, List.flatMap_map]
  rfl

private theorem methods_attributes (attributes : Attributes) :
    Attribute.methodsAll attributes =
      .ok ((namedNodes attributes []).flatMap fun entry => entry.2.methods entry.1) := by
  rw [← methods_namedNodes, Attributes.methods, Attribute.methodsAll_eq]
  exact congrArg Except.ok (List.append_nil _).symm

/-- The methods of an object are those made for its node, then those inside if it has an external
type. -/
private theorem supported_objectMethods {object : ObjectFacets} {name : String} (node : Node)
    (holds : (node.isSingleOrSet || node.isTypedObject) = true)
    (external : node.externalType = object.externalType)
    (receiver : ∀ given, object.externalType = some given →
      node.receiver name = object.valueType name) (inside : List ConversionMethods) :
    supported (object.methods name node.converted (.ok inside)) =
      (Place.methods? ⟨[], name, node⟩).toList ++
        if node.externalType.isSome then inside else [] := by
  unfold ObjectFacets.methods
  rw [external]
  cases given : object.externalType with
  | none =>
    have nothing : Place.methods? ⟨[], name, node⟩ = none := by
      simp only [Place.methods?, external, given, Option.map_none, ite_self]
    rw [nothing]
    rfl
  | some type =>
    have own : Place.methods? ⟨[], name, node⟩ =
        if isLocalType (object.valueType name) then
          some { receiver := object.valueType name, external := type, fields := node.converted }
        else none := by
      simp only [Place.methods?, Place.converts, holds, receiver type given, external, given,
        Bool.true_and, List.all_nil, Bool.and_true, Option.map_some]
    change ownMethods (object.valueType name) type node.converted ++ inside = _
    rw [own, ownMethods]
    split <;> rfl

/-- The methods of a collection of objects are those of its node, then those inside if it is a set
with an external type. -/
private theorem supported_collectionMethods {object : ObjectFacets} {name : String} (node : Node)
    {kind : CollectionKind} (isSet : node.isSingleOrSet = decide (kind = .set))
    (nodesInside : node.isTypedObject = false) (external : node.externalType = object.externalType)
    (receiver : node.receiver name = object.valueType name) (child : Spec.ChildKind)
    (inside : List ConversionMethods) :
    supported (collectionMethods kind child name object
        (object.methods name node.converted (.ok inside))) =
      (Place.methods? ⟨[], name, node⟩).toList ++ if node.opensInside then inside else [] := by
  by_cases same : kind = .set
  · subst same
    rw [Node.opensInside, isSet]
    exact supported_objectMethods node (by rw [isSet]; rfl) external (fun _ _ => receiver) inside
  · have closed : node.isSingleOrSet = false := isSet.trans (decide_eq_false same)
    have nothing : Place.methods? ⟨[], name, node⟩ = none := by
      simp only [Place.methods?, Place.converts, closed, nodesInside, Bool.or_false,
        Bool.false_and, Bool.false_eq_true, if_false]
    have unsupported : collectionMethods kind child name object
        (object.methods name node.converted (.ok inside)) =
          if object.externalType.isSome then .error (nestedUnsupported kind child name)
          else .ok [] := by
      cases kind with
      | set => exact absurd rfl same
      | list => rfl
      | map => rfl
    rw [unsupported, nothing, Node.opensInside, closed]
    split <;> rfl

/-- A node has the methods made for itself, then those of its children if any are made inside. -/
theorem Node.methods_eq (name : String) (node : Node) :
    node.methods name = (Place.methods? ⟨[], name, node⟩).toList ++
      if node.opensInside then node.children.flatMap fun entry => entry.2.methods entry.1
      else [] := by
  cases node with
  | attr node =>
    have fields (attributes : Attributes) : Attributes.converted attributes =
        Attributes.converted attributes ++ Blocks.converted [] := (List.append_nil _).symm
    cases node with
    | primitive kind facets default => rfl
    | collection kind facets element default => rfl
    | nested kind facets item attributes default =>
      rw [Node.methods, Attribute.methods, methods_attributes, fields]
      exact supported_collectionMethods (.attr (.nested kind facets item attributes default))
        rfl rfl rfl rfl _ _
    | singleNested facets attributes external default =>
      rw [Node.methods, Attribute.methods, methods_attributes, fields]
      exact supported_objectMethods (.attr (.singleNested facets attributes external default))
        rfl rfl (fun _ _ => rfl) _
    | object facets fields external default =>
      have same (given : Spec.ExternalType) (some : external = .some given) :
          Node.receiver name (.attr (.object facets fields external default)) =
            (ObjectFacets.single facets external).valueType name := by
        subst some
        rfl
      refine (supported_objectMethods (.attr (.object facets fields external default))
        rfl rfl same []).trans (congrArg _ ?_)
      rw [ite_self]
      rfl
  | block node =>
    cases node with
    | nested kind facets item attributes blocks =>
      have isSet : decide (kind = .set) = decide (kind.collection = .set) := by
        cases kind <;> rfl
      rw [Node.methods, Block.methods, ← Blocks.methods, methods_namedNodes]
      exact supported_collectionMethods (.block (.nested kind facets item attributes blocks))
        isSet rfl rfl rfl _ _
    | singleNested facets attributes blocks external =>
      rw [Node.methods, Block.methods, ← Blocks.methods, methods_namedNodes]
      exact supported_objectMethods (.block (.singleNested facets attributes blocks external))
        rfl rfl (fun _ _ => rfl) _

/-! ## The methods of a schema -/

private theorem methods?_of_opens {around : List (String × Node)}
    (opens : around.all (·.2.opensInside) = true) (name : String) (node : Node) :
    Place.methods? ⟨around, name, node⟩ = Place.methods? ⟨[], name, node⟩ := by
  simp only [Place.methods?, Place.converts, opens]
  rfl

private theorem filterMap_methods?_of_closed {around : List (String × Node)}
    (closed : around.all (·.2.opensInside) = false) {places : List Place}
    (inside : ∀ place ∈ places, around <+: place.around) :
    places.filterMap Place.methods? = [] := by
  refine List.filterMap_eq_nil_iff.mpr fun place member => ?_
  have stillClosed : place.around.all (·.2.opensInside) = false := by
    obtain ⟨rest, same⟩ := inside place member
    rw [← same, List.all_append, closed, Bool.false_and]
  simp only [Place.methods?, Place.converts, stillClosed, Bool.and_false, Bool.false_eq_true,
    if_false]

/-- Under nodes inside which methods are made, the methods of a node are those of its places. -/
private theorem methods_eq_filterMap {node : Node} :
    ∀ {around : List (String × Node)} {name : String}, around.all (·.2.opensInside) = true →
      node.methods name = (Node.placesFrom around (name, node)).filterMap Place.methods? := by
  induction node with
  | step node ih =>
    intro around name opens
    have split : (Node.placesFrom around (name, node)).filterMap Place.methods? =
        (Place.methods? ⟨[], name, node⟩).toList ++
          (node.places (around ++ [(name, node)])).filterMap Place.methods? := by
      rw [Node.placesFrom, List.filterMap_cons, methods?_of_opens opens]
      cases Place.methods? ⟨[], name, node⟩ <;> rfl
    rw [Node.methods_eq, split]
    congr 1
    have below : (around ++ [(name, node)]).all (·.2.opensInside) = node.opensInside := by
      rw [List.all_append, opens, Bool.true_and, List.all_cons, List.all_nil, Bool.and_true]
    cases opened : node.opensInside with
    | true =>
      rw [Node.places_eq, List.filterMap_flatMap, if_pos rfl]
      exact List.flatMap_congr fun child isChild => ih child isChild (below.trans opened)
    | false =>
      refine (filterMap_methods?_of_closed (below.trans opened) fun place member => ?_).symm
      rw [Node.places_eq] at member
      obtain ⟨child, -, inside⟩ := List.mem_flatMap.mp member
      exact isPrefix_of_mem_placesFrom place inside

/-- The methods of a schema are those of its places. -/
theorem ResourceSchema.collectMethods_eq (schema : ResourceSchema) :
    schema.collectMethods = .ok (schema.places.filterMap Place.methods?) := by
  rw [places_eq, List.filterMap_flatMap]
  refine (methods_namedNodes schema.attributes schema.blocks).trans (congrArg Except.ok ?_)
  exact List.flatMap_congr fun entry _ => methods_eq_filterMap rfl

/-- Pairs of methods are collected in the order of the places that they are for. -/
theorem ResourceSchema.methods_eq (schema : ResourceSchema) :
    schema.methods = schema.places.filterMap Place.methods? :=
  Except.ok.inj (schema.collectMethods_eq_ok.symm.trans schema.collectMethods_eq)

/-- Every pair of methods is made for a place. -/
theorem ResourceSchema.exists_place_of_methods {schema : ResourceSchema}
    {methods : ConversionMethods} (member : methods ∈ schema.methods) :
    ∃ place ∈ schema.places, place.methods? = some methods := by
  rw [methods_eq] at member
  exact List.mem_filterMap.mp member

/-! ## Siblings that do not convert -/

/-- An attribute that does not convert leaves the methods of the attributes beside it as they are. -/
theorem Attributes.methods_of_error {name : String} {node : Attribute} {unsupported : Unsupported}
    (stopped : node.methods name = .error unsupported) (before after : Attributes) :
    Attributes.methods (before ++ (name, node) :: after) = Attributes.methods (before ++ after) := by
  simp only [Attributes.methods, Attribute.methodsAll_eq, List.flatMap_append, List.flatMap_cons,
    stopped, supported, List.nil_append]

/-- A block that does not convert leaves the methods of the blocks beside it as they are. -/
theorem Blocks.methods_of_error {name : String} {node : Block} {unsupported : Unsupported}
    (stopped : node.methods name = .error unsupported) (before after : Blocks) :
    Blocks.methods (before ++ (name, node) :: after) = Blocks.methods (before ++ after) := by
  simp only [Blocks.methods, Block.methodsAll_eq, List.flatMap_append, List.flatMap_cons, stopped,
    supported, List.nil_append]

/-- In a schema that is built, what is inside each place is in order of names. -/
theorem ResourceSchema.ordered_places {spec : Spec.Schema} {schema : ResourceSchema}
    (built : ResourceSchema.build spec = .ok schema) {place : Place}
    (member : place ∈ schema.places) :
    NameMap.Ordered place.node.attributes ∧ NameMap.Ordered place.node.blocks :=
  ordered_nodes built place.entry (map_entry_places schema ▸ List.mem_map_of_mem member)

/-- Which nodes get conversion methods. The methods of a schema, which nothing stops, are made for
its places in pre-order: at every level attributes before blocks, by name in a schema that is built,
and each node before what is inside. The places are the nodes at any depth with the nodes around
them, and methods are made for exactly those places that `Place.Makes` describes. An attribute or a
block that stops with an error takes away no methods of those beside it. -/
theorem ResourceSchema.makes_methods_of_places (schema : ResourceSchema) :
    schema.collectMethods = .ok (schema.places.filterMap Place.methods?) ∧
      (∀ (place : Place) methods, place.methods? = some methods ↔ place.Makes methods) ∧
      (∀ place, place ∈ schema.places ↔ schema.Reaches place.around place.entry) ∧
      (schema.places = schema.children.flatMap (Node.placesFrom []) ∧
        ∀ around entry, Node.placesFrom around entry =
          ⟨around, entry.1, entry.2⟩ ::
            entry.2.children.flatMap (Node.placesFrom (around ++ [entry]))) ∧
      (∀ spec, ResourceSchema.build spec = .ok schema →
        (NameMap.Ordered schema.attributes ∧ NameMap.Ordered schema.blocks) ∧
          ∀ place ∈ schema.places,
            NameMap.Ordered place.node.attributes ∧ NameMap.Ordered place.node.blocks) ∧
      (∀ name (node : Attribute) unsupported, node.methods name = .error unsupported →
        ∀ before after,
          Attributes.methods (before ++ (name, node) :: after) =
            Attributes.methods (before ++ after)) ∧
      ∀ name (node : Block) unsupported, node.methods name = .error unsupported →
        ∀ before after,
          Blocks.methods (before ++ (name, node) :: after) = Blocks.methods (before ++ after) := by
  refine ⟨collectMethods_eq schema, fun _ _ => Place.methods?_eq_some_iff, fun _ => mem_places_iff,
    ⟨places_eq schema, fun around entry => ?_⟩, fun spec built => ?_,
    fun _ _ _ => Attributes.methods_of_error, fun _ _ _ => Blocks.methods_of_error⟩
  · rw [Node.placesFrom, Node.places_eq]
  · obtain ⟨inside, below⟩ := build_eq_ok built
    exact ⟨⟨Attributes.ordered_of_build inside, Blocks.ordered_of_build below⟩,
      fun _ => ordered_places built⟩

/-- A set of objects whose value type is not of the generated package, with a typed object and a
list of objects inside, all with external types. -/
def portsSchema : ResourceSchema where
  attributes := [("rules", .nested .set {}
    { customType := some { package := none, type := "sdk.RuleType", valueType := "sdk.RuleValue" }
      externalType := some { package := none, type := "*sdk.Rule" } }
    [("hosts", .nested .list {} { externalType := some { package := none, type := "sdk.Host" } }
        [("port", .object {} [] (some { package := none, type := "sdk.Port" }) none)] none),
      ("target", .singleNested {}
        [("port", .object {} [] (some { package := none, type := "sdk.Port" }) none)]
        (some { package := none, type := "sdk.Target" }) none)]
    none)]
  blocks := []
  description := none
  markdownDescription := none
  deprecationMessage := none

/-- Of the five places only the single object and the object inside it have methods. -/
theorem portsSchema_methods :
    (portsSchema.collectMethods.map fun methods => methods.map (·.receiver)) =
      .ok ["TargetValue", "PortValue"] := by
  rw [(ResourceSchema.makes_methods_of_places portsSchema).1]
  rfl

end ProviderCodegen.Schema
