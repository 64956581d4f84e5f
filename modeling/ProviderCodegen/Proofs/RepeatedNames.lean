import ProviderCodegen.Proofs.Acceptance
import ProviderCodegen.Proofs.Schema.Bindings
import ProviderCodegen.Proofs.Spec.RoundTrip
import ProviderCodegen.Proofs.Traversal

/-! # Names that are given twice

Names at the top of a resource are looked at twice: a specification is checked before anything is
built, and building a schema adds its nodes to maps one by one. The check looks at all names of a
list, building only at those before the first node that cannot be built. So building finds no name
taken at the top that the check has not found, and where the check finds one, building fails, for
that name or for a node before it.
-/

namespace ProviderCodegen

open Schema (Attribute Attributes Block Blocks BuildError ResourceSchema addChild addChildren
  bind_eq_ok)
open Spec (ChildKind)

/-! ## The first name that occurred before -/

/-- Whether a name is the first of a list that occurs before itself. -/
def IsFirstRepeated (name : String) (names : List String) : Prop :=
  ∃ before after, names = before ++ name :: after ∧ before.Nodup ∧ name ∈ before

section Names

variable {name : String} {seen names : List String}

/-- The name found is the first that is among those seen or among those before it. -/
theorem firstRepeated?_eq_some_iff :
    firstRepeated? seen names = some name ↔ ∃ before after, names = before ++ name :: after ∧
      before.Nodup ∧ (∀ other ∈ before, other ∉ seen) ∧ (name ∈ before ∨ name ∈ seen) := by
  induction names generalizing seen with
  | nil =>
    refine iff_of_false ?_ ?_
    · rintro ⟨⟩
    · rintro ⟨before, after, split, -⟩
      cases before <;> cases split
  | cons first rest ih =>
    rw [firstRepeated?]
    split_ifs with repeated <;> rw [List.contains_iff_mem] at repeated
    · constructor
      · rintro ⟨⟩
        exact ⟨[], rest, rfl, List.nodup_nil, List.forall_mem_nil _, .inr repeated⟩
      · rintro ⟨before, after, split, -, fresh, -⟩
        cases before with
        | nil => cases split; rfl
        | cons other before => cases split; exact absurd repeated (fresh _ (List.mem_cons_self ..))
    · rw [ih]
      constructor
      · rintro ⟨before, after, rfl, distinct, fresh, member⟩
        have others : ∀ other ∈ before, other ≠ first ∧ other ∉ seen := fun other listed =>
          not_or.mp fun known => fresh other listed (List.mem_cons.mpr known)
        refine ⟨first :: before, after, rfl, List.nodup_cons.mpr ⟨?_, distinct⟩, ?_, ?_⟩
        · exact fun listed => (others first listed).1 rfl
        · exact List.forall_mem_cons.mpr ⟨repeated, fun other listed => (others other listed).2⟩
        · rw [List.mem_cons, or_assoc, or_left_comm, ← List.mem_cons]
          exact member
      · rintro ⟨before, after, split, distinct, fresh, member⟩
        cases before with
        | nil =>
          cases split
          exact absurd (member.resolve_left List.not_mem_nil) repeated
        | cons other before =>
          cases split
          obtain ⟨apart, distinct⟩ := List.nodup_cons.mp distinct
          refine ⟨before, after, rfl, distinct, fun other listed known => ?_, ?_⟩
          · rcases List.mem_cons.mp known with rfl | known
            · exact apart listed
            · exact fresh other (List.mem_cons_of_mem _ listed) known
          · rw [List.mem_cons, or_left_comm, ← or_assoc, ← List.mem_cons]
            exact member

/-- At the start of a list no name has been seen. -/
theorem firstRepeated?_nil_eq_some_iff :
    firstRepeated? [] names = some name ↔ IsFirstRepeated name names := by
  rw [firstRepeated?_eq_some_iff]
  simp only [List.not_mem_nil, not_false_eq_true, implies_true, true_and, or_false]
  rfl

/-- A list has a first repeated name exactly if it repeats one. -/
theorem exists_isFirstRepeated_iff : (∃ name, IsFirstRepeated name names) ↔ ¬ names.Nodup := by
  have none : firstRepeated? [] names = none ↔ names.Nodup :=
    firstRepeated?_eq_none_iff.trans (and_iff_left fun _ _ => List.not_mem_nil)
  rw [← none, ← ne_eq, Option.ne_none_iff_exists']
  exact exists_congr fun name => firstRepeated?_nil_eq_some_iff.symm

/-- The only complaint is about the name that is first to occur again. -/
theorem checkNames_eq_error_iff {resource : String} {kind : ChildKind} {fault : SpecError} :
    checkNames resource kind names = .error fault ↔
      ∃ name, IsFirstRepeated name names ∧ fault = .duplicateName resource kind name := by
  rw [checkNames]
  cases found : firstRepeated? [] names with
  | none =>
    refine iff_of_false ?_ ?_
    · rintro ⟨⟩
    · rintro ⟨name, first, -⟩
      cases found.symm.trans (firstRepeated?_nil_eq_some_iff.mpr first)
  | some repeated =>
    constructor
    · rintro ⟨⟩
      exact ⟨repeated, firstRepeated?_nil_eq_some_iff.mp found, rfl⟩
    · rintro ⟨name, first, rfl⟩
      cases found.symm.trans (firstRepeated?_nil_eq_some_iff.mpr first)
      rfl

end Names

/-! ## Checking resources -/

def Spec.Resource.topNames (resource : Spec.Resource) : ChildKind → List String
  | .attr => resource.schema.attributes.map (·.name)
  | .block => resource.schema.blocks.map (·.name)

/-- Whether a name is the first that a resource repeats at the top, attributes before blocks. -/
inductive Spec.Resource.FirstRepeats (resource : Spec.Resource) : ChildKind → String → Prop
  | attr {name : String} (first : IsFirstRepeated name (resource.topNames .attr)) :
      FirstRepeats resource .attr name
  | block {name : String} (distinct : (resource.topNames .attr).Nodup)
      (first : IsFirstRepeated name (resource.topNames .block)) : FirstRepeats resource .block name

/-- Whether a resource repeats no name at the top. -/
def Spec.Resource.Distinct (resource : Spec.Resource) : Prop :=
  ∀ kind, (resource.topNames kind).Nodup

section Resources

variable {resource : Spec.Resource} {kind : ChildKind} {name : String} {fault : SpecError}

/-- A name of an attribute may be that of a block, as the two lists are checked apart. -/
theorem Spec.Resource.exists_firstRepeats_iff :
    (∃ kind name, resource.FirstRepeats kind name) ↔ ¬ resource.Distinct := by
  constructor
  · rintro ⟨kind, name, first | ⟨-, first⟩⟩ distinct
    · exact exists_isFirstRepeated_iff.mp ⟨name, first⟩ (distinct .attr)
    · exact exists_isFirstRepeated_iff.mp ⟨name, first⟩ (distinct .block)
  · intro repeats
    by_cases attributes : (resource.topNames .attr).Nodup
    · have blocks : ¬ (resource.topNames .block).Nodup := by
        refine fun blocks => repeats fun kind => ?_
        cases kind with
        | attr => exact attributes
        | block => exact blocks
      obtain ⟨name, first⟩ := exists_isFirstRepeated_iff.mpr blocks
      exact ⟨.block, name, .block attributes first⟩
    · obtain ⟨name, first⟩ := exists_isFirstRepeated_iff.mpr attributes
      exact ⟨.attr, name, .attr first⟩

/-- Attributes are checked before blocks, so blocks are told of only where attributes have distinct
names. -/
theorem Spec.Resource.check_eq_error_iff :
    resource.check = .error fault ↔
      ∃ kind name, resource.FirstRepeats kind name ∧
        fault = .duplicateName resource.name kind name := by
  rw [check]
  by_cases attributes : (resource.topNames .attr).Nodup
  · have passes : checkNames resource.name .attr (resource.schema.attributes.map (·.name)) =
        .ok () := checkNames_of_nodup attributes resource.name .attr
    rw [passes]
    refine checkNames_eq_error_iff.trans ⟨?_, ?_⟩
    · rintro ⟨name, first, rfl⟩
      exact ⟨.block, name, .block attributes first, rfl⟩
    · rintro ⟨kind, name, first | ⟨-, first⟩, rfl⟩
      · exact absurd attributes (exists_isFirstRepeated_iff.mp ⟨name, first⟩)
      · exact ⟨name, first, rfl⟩
  · obtain ⟨name, first⟩ := exists_isFirstRepeated_iff.mpr attributes
    have stops : checkNames resource.name .attr (resource.schema.attributes.map (·.name)) =
        .error (.duplicateName resource.name .attr name) :=
      checkNames_eq_error_iff.mpr ⟨name, first, rfl⟩
    rw [stops]
    constructor
    · rintro ⟨⟩
      exact ⟨.attr, name, .attr first, rfl⟩
    · rintro ⟨kind, other, found | ⟨distinct, -⟩, rfl⟩
      · exact stops.symm.trans (checkNames_eq_error_iff.mpr ⟨other, found, rfl⟩)
      · exact absurd distinct attributes

/-- A resource that repeats no name passes, and no other. -/
theorem Spec.Resource.check_eq_ok_iff : resource.check = .ok () ↔ resource.Distinct := by
  rw [← not_iff_not, ← exists_firstRepeats_iff]
  constructor
  · intro fails
    cases checked : resource.check with
    | ok passed => exact absurd checked fails
    | error fault =>
      obtain ⟨kind, name, first, -⟩ := check_eq_error_iff.mp checked
      exact ⟨kind, name, first⟩
  · rintro ⟨kind, name, first⟩ passes
    cases passes.symm.trans (check_eq_error_iff.mpr ⟨kind, name, first, rfl⟩)

end Resources

/-! ## Checking specifications -/

namespace Specification

/-- Whether a resource is the first of a specification that repeats a name at the top. -/
def FirstRepeating (spec : Specification) (resource : Spec.Resource) : Prop :=
  ∃ before after, spec.resources = before ++ resource :: after ∧
    (∀ earlier ∈ before, earlier.Distinct) ∧ ¬ resource.Distinct

variable {spec : Specification}

theorem isSupportedVersion_iff {version : String} :
    isSupportedVersion version = true ↔ "0.".toList <+: version.toList :=
  List.isPrefixOf_iff_prefix

/-- The resource is the first one with a repeated name, and the version is looked at before any. -/
theorem check_eq_duplicateName_iff {owner name : String} {kind : ChildKind} :
    spec.check = .error (.duplicateName owner kind name) ↔
      "0.".toList <+: spec.version.toList ∧ ∃ resource, spec.FirstRepeating resource ∧
        resource.FirstRepeats kind name ∧ owner = resource.name := by
  rw [check, ← isSupportedVersion_iff]
  split_ifs with supported
  · rw [forM_eq_error_iff, FirstFailure]
    refine Iff.trans ?_ (and_iff_right supported).symm
    constructor
    · rintro ⟨before, resource, after, split, earlier, failed⟩
      obtain ⟨_, _, first, ⟨⟩⟩ := Spec.Resource.check_eq_error_iff.mp failed
      refine ⟨resource, ⟨before, after, split, fun other listed => ?_, ?_⟩, first, rfl⟩
      · obtain ⟨⟨⟩, passes⟩ := earlier other listed
        exact Spec.Resource.check_eq_ok_iff.mp passes
      · exact Spec.Resource.exists_firstRepeats_iff.mp ⟨kind, name, first⟩
    · rintro ⟨resource, ⟨before, after, split, earlier, -⟩, first, rfl⟩
      refine ⟨before, resource, after, split, fun other listed => ⟨(), ?_⟩, ?_⟩
      · exact Spec.Resource.check_eq_ok_iff.mpr (earlier other listed)
      · exact Spec.Resource.check_eq_error_iff.mpr ⟨kind, name, first, rfl⟩
  · refine iff_of_false ?_ fun given => supported given.1
    rintro ⟨⟩

/-- Names of different resources are never compared. -/
theorem check_eq_ok_iff : spec.check = .ok () ↔
    "0.".toList <+: spec.version.toList ∧ ∀ resource ∈ spec.resources, resource.Distinct := by
  rw [check, ← isSupportedVersion_iff]
  split_ifs with supported
  · rw [forM_eq_ok_iff, and_iff_right supported]
    exact forall₂_congr fun resource _ => Spec.Resource.check_eq_ok_iff
  · refine iff_of_false ?_ fun given => supported given.1
    rintro ⟨⟩

/-- A specification of a known version is refused for a name if any of its resources repeats one. -/
theorem exists_check_eq_duplicateName_iff :
    (∃ owner kind name, spec.check = .error (.duplicateName owner kind name)) ↔
      "0.".toList <+: spec.version.toList ∧ ∃ resource ∈ spec.resources, ¬ resource.Distinct := by
  constructor
  · rintro ⟨owner, kind, name, refused⟩
    obtain ⟨supported, resource, ⟨before, after, split, -, repeats⟩, -⟩ :=
      check_eq_duplicateName_iff.mp refused
    exact ⟨supported, resource, split ▸ List.mem_append_right _ (List.mem_cons_self ..), repeats⟩
  · rintro ⟨supported, resource, listed, repeats⟩
    have known : isSupportedVersion spec.version = true := isSupportedVersion_iff.mpr supported
    cases checked : spec.resources.forM (·.check) with
    | ok passed =>
      have passes := forM_eq_ok_iff.mp checked resource listed
      exact absurd (Spec.Resource.check_eq_ok_iff.mp passes) repeats
    | error fault =>
      obtain ⟨before, first, after, -, -, failed⟩ := forM_eq_error_iff.mp checked
      obtain ⟨kind, name, -, rfl⟩ := Spec.Resource.check_eq_error_iff.mp failed
      exact ⟨first.name, kind, name, (if_pos known).trans checked⟩

end Specification

/-! ## Building schemas -/

namespace Schema

section Children

variable {α σ : Type} {kind : ChildKind} {built : NameMap α} {fault : BuildError}

/-- A node is not added when its name is taken, whatever it is, and else when it has a fault. -/
theorem addChild_eq_error_iff {name : String} {node : Except BuildError α} :
    addChild kind built name node = .error fault ↔
      name ∈ built.names ∧ fault = .duplicateName kind name ∨
        name ∉ built.names ∧ node = .error fault := by
  rw [addChild, ← NameMap.contains_iff]
  split_ifs with taken
  · rw [Except.error.injEq, eq_comm, and_iff_right taken]
    exact (or_iff_left fun free => free.1 taken).symm
  · rw [map_eq_error_iff, and_iff_right taken]
    exact (or_iff_right fun found => taken found.1).symm

/-- Adding children fails at the first that cannot be added to those before it. -/
theorem addChildren_eq_error_iff {name : σ → String} {build : σ → Except BuildError α}
    {specs : List σ} :
    addChildren kind built (specs.map fun spec => (name spec, build spec)) = .error fault ↔
      ∃ before given after nodes, specs = before ++ given :: after ∧
        addChildren kind built (before.map fun spec => (name spec, build spec)) = .ok nodes ∧
        addChild kind nodes (name given) (build given) = .error fault := by
  induction specs generalizing built with
  | nil =>
    refine iff_of_false ?_ ?_
    · rintro ⟨⟩
    · rintro ⟨before, given, after, nodes, split, -⟩
      cases before <;> cases split
  | cons spec rest ih =>
    rw [List.map_cons, addChildren, bind_eq_error_iff]
    constructor
    · rintro (failed | ⟨larger, added, failed⟩)
      · exact ⟨[], spec, rest, built, rfl, rfl, failed⟩
      · obtain ⟨before, given, after, nodes, rfl, earlier, failed⟩ := ih.mp failed
        refine ⟨spec :: before, given, after, nodes, rfl, ?_, failed⟩
        exact bind_eq_ok.mpr ⟨larger, added, earlier⟩
    · rintro ⟨before, given, after, nodes, split, earlier, failed⟩
      cases before with
      | nil =>
        cases split
        cases earlier
        exact .inl failed
      | cons first before =>
        cases split
        obtain ⟨larger, added, earlier⟩ := bind_eq_ok.mp earlier
        exact .inr ⟨larger, added, ih.mpr ⟨before, given, after, nodes, rfl, earlier, failed⟩⟩

end Children

section Specifications

variable {fault : BuildError}

/-- The fault comes from the first attribute that cannot be added, all those before it being
built. -/
theorem Attributes.build_eq_error_iff {specs : List Spec.Attribute} :
    Attributes.build specs = .error fault ↔
      ∃ before given after attributes, specs = before ++ given :: after ∧
        Attributes.build before = .ok attributes ∧
        addChild .attr attributes given.name (Attribute.build given) = .error fault := by
  simp only [Attributes.build_eq]
  exact addChildren_eq_error_iff

theorem Blocks.build_eq_error_iff {specs : List Spec.Block} :
    Blocks.build specs = .error fault ↔
      ∃ before given after blocks, specs = before ++ given :: after ∧
        Blocks.build before = .ok blocks ∧
        addChild .block blocks given.name (Block.build given) = .error fault := by
  simp only [Blocks.build_eq]
  exact addChildren_eq_error_iff

/-- The names of a map that is built are those of its list, and they are different. -/
theorem Binds.nodup {σ α : Type} {name : σ → String} {build : σ → Except BuildError α}
    {specs : List σ} {nodes : NameMap α} (binds : Binds name build specs nodes) :
    (specs.map name).Nodup :=
  binds.names.nodup_iff.mp binds.ordered.nodup_names

/-- Whether building comes to a name at the top of a schema that is taken: everything before it has
been built, and something before it in the same list has that name. -/
inductive TakenName (spec : Spec.Schema) : ChildKind → String → Prop
  | attr {before after : List Spec.Attribute} {given : Spec.Attribute} {attributes : Attributes}
      (split : spec.attributes = before ++ given :: after)
      (built : Attributes.build before = .ok attributes) (taken : given.name ∈ attributes.names) :
      TakenName spec .attr given.name
  | block {before after : List Spec.Block} {given : Spec.Block} {attributes : Attributes}
      {blocks : Blocks} (inside : Attributes.build spec.attributes = .ok attributes)
      (split : spec.blocks = before ++ given :: after)
      (built : Blocks.build before = .ok blocks) (taken : given.name ∈ blocks.names) :
      TakenName spec .block given.name

/-- Whether building comes to a node at the top of a schema that cannot be built, with a fault of its
own: everything before it has been built, and its name is free. -/
inductive FaultInside (spec : Spec.Schema) : BuildError → Prop
  | attr {before after : List Spec.Attribute} {given : Spec.Attribute} {attributes : Attributes}
      {fault : BuildError} (split : spec.attributes = before ++ given :: after)
      (built : Attributes.build before = .ok attributes) (free : given.name ∉ attributes.names)
      (failed : Attribute.build given = .error fault) : FaultInside spec fault
  | block {before after : List Spec.Block} {given : Spec.Block} {attributes : Attributes}
      {blocks : Blocks} {fault : BuildError}
      (inside : Attributes.build spec.attributes = .ok attributes)
      (split : spec.blocks = before ++ given :: after)
      (built : Blocks.build before = .ok blocks) (free : given.name ∉ blocks.names)
      (failed : Block.build given = .error fault) : FaultInside spec fault

/-- A schema is not built if a name at the top is taken or a node there has a fault. -/
theorem ResourceSchema.build_eq_error_iff {spec : Spec.Schema} :
    ResourceSchema.build spec = .error fault ↔
      (∃ kind name, TakenName spec kind name ∧ fault = .duplicateName kind name) ∨
        FaultInside spec fault := by
  have steps : ResourceSchema.build spec = .error fault ↔
      Attributes.build spec.attributes = .error fault ∨
        ∃ attributes, Attributes.build spec.attributes = .ok attributes ∧
          Blocks.build spec.blocks = .error fault := by
    rw [ResourceSchema.build, bind_eq_error_iff]
    refine or_congr_right (exists_congr fun attributes => and_congr_right fun _ => ?_)
    rw [bind_eq_error_iff]
    refine or_iff_left ?_
    rintro ⟨blocks, -, ⟨⟩⟩
  rw [steps, Attributes.build_eq_error_iff, Blocks.build_eq_error_iff]
  simp only [addChild_eq_error_iff]
  constructor
  · rintro (⟨before, given, after, attributes, split, built, ⟨taken, rfl⟩ | ⟨free, failed⟩⟩ |
      ⟨attributes, inside, before, given, after, blocks, split, built, ⟨taken, rfl⟩ | ⟨free, failed⟩⟩)
    · exact .inl ⟨.attr, _, .attr split built taken, rfl⟩
    · exact .inr (.attr split built free failed)
    · exact .inl ⟨.block, _, .block inside split built taken, rfl⟩
    · exact .inr (.block inside split built free failed)
  · rintro (⟨kind, name, ⟨split, built, taken⟩ | ⟨inside, split, built, taken⟩, rfl⟩ |
      ⟨split, built, free, failed⟩ | ⟨inside, split, built, free, failed⟩)
    · exact .inl ⟨_, _, _, _, split, built, .inl ⟨taken, rfl⟩⟩
    · exact .inr ⟨_, inside, _, _, _, _, split, built, .inl ⟨taken, rfl⟩⟩
    · exact .inl ⟨_, _, _, _, split, built, .inr ⟨free, failed⟩⟩
    · exact .inr ⟨_, inside, _, _, _, _, split, built, .inr ⟨free, failed⟩⟩

end Specifications

end Schema

/-! ## Both checks -/

open Schema (Binds FaultInside TakenName)

namespace Spec.Resource

variable {resource : Spec.Resource} {kind : ChildKind} {name : String}

/-- A name at the top that is taken is the first that is repeated. -/
theorem firstRepeats_of_takenName (found : TakenName resource.schema kind name) :
    resource.FirstRepeats kind name := by
  cases found with
  | attr split built taken =>
    have binds := Attributes.binds_of_build built
    have names := congrArg (List.map (·.name)) split
    rw [List.map_append, List.map_cons] at names
    exact .attr ⟨_, _, names, binds.nodup, binds.names.mem_iff.mp taken⟩
  | block inside split built taken =>
    have binds := Blocks.binds_of_build built
    have names := congrArg (List.map (·.name)) split
    rw [List.map_append, List.map_cons] at names
    exact .block (Attributes.binds_of_build inside).nodup
      ⟨_, _, names, binds.nodup, binds.names.mem_iff.mp taken⟩

/-- A resource whose schema is built repeats no name. -/
theorem distinct_of_build {schema : ResourceSchema}
    (built : ResourceSchema.build resource.schema = .ok schema) : resource.Distinct := by
  obtain ⟨inside, below⟩ := ResourceSchema.build_eq_ok built
  rintro (_ | _)
  · exact (Attributes.binds_of_build inside).nodup
  · exact (Blocks.binds_of_build below).nodup

/-- Of a resource there is one first repeated name. -/
theorem FirstRepeats.unique {other : ChildKind} {second : String}
    (first : resource.FirstRepeats kind name) (found : resource.FirstRepeats other second) :
    other = kind ∧ second = name := by
  have refused := check_eq_error_iff.mpr ⟨kind, name, first, rfl⟩
  cases refused.symm.trans (check_eq_error_iff.mpr ⟨other, second, found, rfl⟩)
  exact ⟨rfl, rfl⟩

/-- Where a name is repeated, building fails for it or for a node before it. -/
theorem exists_build_error_of_firstRepeats (first : resource.FirstRepeats kind name) :
    ∃ fault, ResourceSchema.build resource.schema = .error fault ∧
      (TakenName resource.schema kind name ∧ fault = .duplicateName kind name ∨
        FaultInside resource.schema fault) := by
  cases outcome : ResourceSchema.build resource.schema with
  | ok schema =>
    exact absurd (distinct_of_build outcome) (exists_firstRepeats_iff.mp ⟨kind, name, first⟩)
  | error fault =>
    refine ⟨fault, rfl, ?_⟩
    rcases ResourceSchema.build_eq_error_iff.mp outcome with ⟨other, second, taken, rfl⟩ | inside
    · obtain ⟨rfl, rfl⟩ := first.unique (firstRepeats_of_takenName taken)
      exact .inl ⟨taken, rfl⟩
    · exact .inr inside

end Spec.Resource

/-- Whether the check of a specification and the building of its schemas find the same repeated
names. -/
structure Specification.FindsRepeated (spec : Specification) : Prop where
  /-- What is told is the first resource that repeats a name and its first such name, attributes
  before blocks. -/
  told : ∀ owner kind name, spec.check = .error (.duplicateName owner kind name) ↔
    "0.".toList <+: spec.version.toList ∧ ∃ resource, spec.FirstRepeating resource ∧
      resource.FirstRepeats kind name ∧ owner = resource.name
  /-- A specification is refused for a name when its version is known and a resource repeats one. -/
  refused : (∃ owner kind name, spec.check = .error (.duplicateName owner kind name)) ↔
    "0.".toList <+: spec.version.toList ∧ ∃ resource ∈ spec.resources, ¬ resource.Distinct
  /-- Of an accepted specification no schema fails because a name at the top is taken. -/
  accepted : spec.check = .ok () → ∀ resource ∈ spec.resources,
    (∀ kind name, ¬ TakenName resource.schema kind name) ∧
      ∀ fault, ResourceSchema.build resource.schema = .error fault →
        FaultInside resource.schema fault
  /-- Where a name is repeated the schema is not built either, because this name is taken or for a
  fault before it. -/
  notBuilt : ∀ resource : Spec.Resource, ∀ kind name, resource.FirstRepeats kind name →
    ∃ fault, ResourceSchema.build resource.schema = .error fault ∧
      (TakenName resource.schema kind name ∧ fault = .duplicateName kind name ∨
        FaultInside resource.schema fault)
  /-- So nothing is refused for a name that files could be generated for. -/
  notGenerated : ∀ owner kind name, spec.check = .error (.duplicateName owner kind name) →
    ∀ options, ∃ fault, generate spec options = .error fault
  /-- Building a schema fails for nothing but names that are taken at the top and faults inside. -/
  faults : ∀ schema fault, ResourceSchema.build schema = .error fault ↔
    (∃ kind name, TakenName schema kind name ∧ fault = .duplicateName kind name) ∨
      FaultInside schema fault

/-- A specification that passes the check has no repeated name on the top level for the build to
find. -/
theorem Specification.not_takenName_of_check {spec : Specification} (passes : spec.check = .ok ())
    {resource : Spec.Resource} (listed : resource ∈ spec.resources) (kind : ChildKind)
    (name : String) : ¬ TakenName resource.schema kind name := by
  intro taken
  have repeats : ¬ resource.Distinct := Spec.Resource.exists_firstRepeats_iff.mp
    ⟨kind, name, Spec.Resource.firstRepeats_of_takenName taken⟩
  exact repeats ((check_eq_ok_iff.mp passes).2 resource listed)

/-- The check of a specification before anything is built and the building of its schemas agree on
repeated names, although one looks at lists of names and the other at maps of nodes. -/
theorem Specification.check_finds_repeated (spec : Specification) : spec.FindsRepeated where
  told _ _ _ := check_eq_duplicateName_iff
  refused := exists_check_eq_duplicateName_iff
  accepted := by
    intro passes resource listed
    have free := not_takenName_of_check passes listed
    refine ⟨free, fun fault failed => ?_⟩
    refine (ResourceSchema.build_eq_error_iff.mp failed).resolve_left ?_
    rintro ⟨kind, name, taken, -⟩
    exact free kind name taken
  notBuilt _ _ _ := Spec.Resource.exists_build_error_of_firstRepeats
  notGenerated := by
    intro owner kind name refused options
    obtain ⟨-, resource, ⟨before, after, split, -⟩, first, -⟩ :=
      check_eq_duplicateName_iff.mp refused
    obtain ⟨fault, failed, -⟩ := Spec.Resource.exists_build_error_of_firstRepeats first
    refine (exists_generate_error_iff options).mpr ⟨resource, ?_, fault, failed⟩
    exact split ▸ List.mem_append_right _ (List.mem_cons_self ..)
  faults _ _ := ResourceSchema.build_eq_error_iff

section Example

open Spec

/-- A lamp that repeats two names, behind an attribute of no kind. -/
def lampResource : Resource where
  name := "lamp"
  schema := {
    attributes := [
      { name := "id" },
      { name := "hue", string := some ⟨{}, none⟩ },
      { name := "hue" },
      { name := "id" }] }

/-- A shade with an object that repeats a name. -/
def shadeResource : Resource where
  name := "shade"
  schema := {
    attributes := [{
      name := "size"
      singleNested := some ⟨{}, [
        { name := "width", int64 := some ⟨{}, none⟩ },
        { name := "width" }], none, none⟩ }] }

/-- A specification that repeats names in its second resource. -/
def lampSpec : Specification where
  version := "0.1"
  resources := [shadeResource, lampResource]

/-- A specification that repeats a name below the top only. -/
def shadeSpec : Specification where
  version := "0.1"
  resources := [shadeResource]

/-- Two attributes of a resource share a name here, and in the other resource two inside a nested
one do. -/
theorem lampSpec_refused :
    lampSpec.check = .error (.duplicateName "lamp" .attr "hue") ∧
      (∃ fault, generate lampSpec {} = .error fault) ∧ shadeSpec.check = .ok () ∧
      FaultInside shadeResource.schema (.duplicateName .attr "width") := by
  have lamp := Specification.check_finds_repeated lampSpec
  have shade := Specification.check_finds_repeated shadeSpec
  have refused : lampSpec.check = .error (.duplicateName "lamp" .attr "hue") := rfl
  have accepted : shadeSpec.check = .ok () := rfl
  obtain ⟨-, inside⟩ := shade.accepted accepted shadeResource (List.mem_cons_self ..)
  exact ⟨refused, lamp.notGenerated _ _ _ refused {}, accepted, inside _ rfl⟩

end Example

end ProviderCodegen
