import ProviderCodegen.Proofs.Schema.Build

/-! # What building looks at

Of every value in a specification building looks at the first kind that is set and at what this kind
holds. The outline of a specification keeps just this: which values set no kind, and under which
names the others stand. A walk through an outline lists the faults in the order in which they are
met (`Outline.faults`); an outline without faults is well-formed, and the other way round.
-/

namespace ProviderCodegen.Schema

open Spec (ChildKind)

/-- A value of a specification as building sees it. -/
inductive Outline
  /-- A value that sets no kind. -/
  | unset (fault : BuildError)
  /-- A value that sets a kind, with the types of elements or fields, the attributes and the blocks
  that the kind holds. -/
  | holding (types : List Outline) (attributes blocks : List (String × Outline))

namespace Outline

mutual

/-- The faults that a walk meets, each value before the next one beside it. -/
def faults : Outline → List BuildError
  | unset fault => [fault]
  | holding types attributes blocks =>
      typeFaults types ++ namedFaults .attr [] attributes ++ namedFaults .block [] blocks

def typeFaults : List Outline → List BuildError
  | [] => []
  | first :: rest => first.faults ++ typeFaults rest

/-- The faults of attributes or blocks, given the names before them. That a name is given again comes
before the faults inside. -/
def namedFaults (kind : ChildKind) : List String → List (String × Outline) → List BuildError
  | _, [] => []
  | before, (name, first) :: rest =>
      (if name ∈ before then [.duplicateName kind name] else []) ++ first.faults ++
        namedFaults kind (name :: before) rest

end

mutual

/-- Whether every value sets a kind and no list gives a name twice. -/
def WellFormed : Outline → Prop
  | unset _ => False
  | holding types attributes blocks =>
      TypesWellFormed types ∧
        ((attributes.map Prod.fst).Nodup ∧ NamedWellFormed attributes) ∧
        (blocks.map Prod.fst).Nodup ∧ NamedWellFormed blocks

def TypesWellFormed : List Outline → Prop
  | [] => True
  | first :: rest => first.WellFormed ∧ TypesWellFormed rest

def NamedWellFormed : List (String × Outline) → Prop
  | [] => True
  | (_, first) :: rest => first.WellFormed ∧ NamedWellFormed rest

end

mutual

/-- A well-formed outline is one without faults. -/
theorem faults_eq_nil_iff : ∀ outline : Outline, outline.faults = [] ↔ outline.WellFormed
  | unset fault => iff_of_false (List.cons_ne_nil _ _) id
  | holding types attributes blocks => by
      have fresh (names : List String) : ∀ name ∈ names, name ∉ ([] : List String) :=
        fun _ _ => List.not_mem_nil
      rw [faults, WellFormed, List.append_eq_nil_iff, List.append_eq_nil_iff, typeFaults_eq_nil_iff,
        namedFaults_eq_nil_iff, namedFaults_eq_nil_iff, and_iff_left (fresh _),
        and_iff_left (fresh _), and_assoc]

private theorem typeFaults_eq_nil_iff : ∀ types : List Outline,
    typeFaults types = [] ↔ TypesWellFormed types
  | [] => iff_of_true rfl trivial
  | first :: rest => by
      rw [typeFaults, TypesWellFormed, List.append_eq_nil_iff, faults_eq_nil_iff first,
        typeFaults_eq_nil_iff rest]

private theorem namedFaults_eq_nil_iff (kind : ChildKind) (before : List String) :
    ∀ entries : List (String × Outline), namedFaults kind before entries = [] ↔
      ((entries.map Prod.fst).Nodup ∧ NamedWellFormed entries) ∧
        ∀ name ∈ entries.map Prod.fst, name ∉ before
  | [] => iff_of_true rfl ⟨⟨List.nodup_nil, trivial⟩, nofun⟩
  | (name, first) :: rest => by
      have later := namedFaults_eq_nil_iff kind (name :: before) rest
      have fresh : (if name ∈ before then [BuildError.duplicateName kind name] else []) = [] ↔
          name ∉ before := by
        by_cases taken : name ∈ before
        · rw [if_pos taken]
          exact iff_of_false (List.cons_ne_nil _ _) (not_not_intro taken)
        · rw [if_neg taken]
          exact iff_of_true rfl taken
      rw [namedFaults, List.append_eq_nil_iff, List.append_eq_nil_iff, faults_eq_nil_iff first, later,
        fresh, NamedWellFormed, List.map_cons, List.nodup_cons, List.forall_mem_cons]
      simp only [List.mem_cons, not_or]
      constructor
      · rintro ⟨⟨new, ofFirst⟩, ⟨distinct, ofRest⟩, apart⟩
        exact ⟨⟨⟨fun again => (apart name again).1 rfl, distinct⟩, ofFirst, ofRest⟩, new,
          fun other member => (apart other member).2⟩
      · rintro ⟨⟨⟨once, distinct⟩, ofFirst, ofRest⟩, new, apart⟩
        exact ⟨⟨new, ofFirst⟩, ⟨distinct, ofRest⟩,
          fun other member => ⟨fun same => once (same ▸ member), apart other member⟩⟩

end

end Outline

/-! ## Outlines of specifications -/

/-- The first of some kinds that is set. -/
def firstSet {α : Type} (kinds : List (Option α)) (unset : α) : α :=
  (kinds.findSome? id).getD unset

namespace Outline

/-- The outline of a kind that holds nothing, if the kind is set. -/
def leaf? {α : Type} (kind : Option α) : Option Outline :=
  kind.map fun _ => holding [] [] []

mutual

/-- The outline of an element type, given the fault that it is to set no kind. -/
def ofType (missing : BuildError) : Spec.ElementType → Outline
  | ⟨bool, float64, int64, number, string, list, map, set, object⟩ =>
      firstSet [leaf? bool, leaf? float64, leaf? int64, leaf? number, leaf? string,
        ofCollection? list, ofCollection? map, ofCollection? set, ofObject? object] (unset missing)

def ofCollection? : Option Spec.CollectionType → Option Outline
  | none => none
  | some ⟨element, _⟩ => some (holding [ofType .undefinedElement element] [] [])

def ofObject? : Option Spec.ObjectType → Option Outline
  | none => none
  | some ⟨fields, _⟩ => some (holding (ofFields fields) [] [])

def ofFields : List Spec.ObjectField → List Outline
  | [] => []
  | ⟨name, kind⟩ :: rest => ofType (.undefinedField name) kind :: ofFields rest

end

mutual

def ofAttribute : Spec.Attribute → Outline
  | ⟨name, bool, float64, int64, number, string, list, map, set, listNested, mapNested, setNested,
      singleNested, object⟩ =>
      firstSet [leaf? bool, leaf? float64, leaf? int64, leaf? number, leaf? string,
        ofElements? list, ofElements? map, ofElements? set, ofNested? listNested,
        ofNested? mapNested, ofNested? setNested, ofSingle? singleNested, ofTyped? object]
        (unset (.undefinedAttribute name))
where
  /-- The outline of a collection of elements. -/
  ofElements? (kind : Option Spec.CollectionAttribute) : Option Outline :=
    kind.map fun given => holding [ofType .undefinedElement given.elementType] [] []
  /-- The outline of an object of typed fields. -/
  ofTyped? (kind : Option Spec.ObjectAttribute) : Option Outline :=
    kind.map fun given => holding (ofFields given.attributeTypes) [] []

def ofNested? : Option Spec.NestedAttribute → Option Outline
  | none => none
  | some ⟨_, ⟨attributes, _, _, _, _⟩, _⟩ => some (holding [] (ofAttributes attributes) [])

def ofSingle? : Option Spec.SingleNestedAttribute → Option Outline
  | none => none
  | some ⟨_, attributes, _, _⟩ => some (holding [] (ofAttributes attributes) [])

/-- The outlines of attributes, under their names. -/
def ofAttributes : List Spec.Attribute → List (String × Outline)
  | [] => []
  | first :: rest => (first.name, ofAttribute first) :: ofAttributes rest

end

mutual

def ofBlock : Spec.Block → Outline
  | ⟨name, listNested, setNested, singleNested⟩ =>
      firstSet [ofNestedBlock? listNested, ofNestedBlock? setNested, ofSingleBlock? singleNested]
        (unset (.undefinedBlock name))

def ofNestedBlock? : Option Spec.NestedBlock → Option Outline
  | none => none
  | some ⟨_, ⟨attributes, blocks, _, _, _, _⟩⟩ =>
      some (holding [] (ofAttributes attributes) (ofBlocks blocks))

def ofSingleBlock? : Option Spec.SingleNestedBlock → Option Outline
  | none => none
  | some ⟨_, attributes, blocks, _⟩ => some (holding [] (ofAttributes attributes) (ofBlocks blocks))

/-- The outlines of blocks, under their names. -/
def ofBlocks : List Spec.Block → List (String × Outline)
  | [] => []
  | first :: rest => (first.name, ofBlock first) :: ofBlocks rest

end

def ofSchema (spec : Spec.Schema) : Outline :=
  holding [] (ofAttributes spec.attributes) (ofBlocks spec.blocks)

/-- A fault inside an attribute comes before the attribute beside it, and a name that is taken before
the faults of what it names. -/
example : (ofSchema {
    attributes := [
      { name := "a", singleNested := some ⟨{}, [{ name := "x" }], none, none⟩ },
      { name := "a" }] }).faults =
    [.undefinedAttribute "x", .duplicateName .attr "a", .undefinedAttribute "a"] := rfl

end Outline

end ProviderCodegen.Schema
