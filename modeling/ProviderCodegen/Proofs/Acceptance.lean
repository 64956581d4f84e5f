import ProviderCodegen.CommandLine.Run
import ProviderCodegen.Proofs.ImportBlock
import ProviderCodegen.Proofs.Schema.Faults
import ProviderCodegen.Proofs.Traversal

/-! # Accepted specifications

Generating, summarizing and validating take the resources of a specification one by one and stop at
the first whose schema cannot be built. They do so for nothing else: all that follows for a resource
whose schema is built succeeds, whatever conversions there are for which no code is generated. So
all three accept the same specifications, and refuse the others with the same fault.
-/

namespace ProviderCodegen

open CommandLine (Action Failure Transcript validateResource)
open Schema (Attributes Blocks BuildError NeverNil ResourceSchema bind_eq_ok)

namespace Specification

/-- Whether the schemas of all resources can be built. -/
def AllBuild (spec : Specification) : Prop :=
  ∀ resource ∈ spec.resources, ∃ schema, ResourceSchema.build resource.schema = .ok schema

/-- Whether a resource is the first whose schema cannot be built, for a fault in it. -/
def FirstFault (spec : Specification) (resource : Spec.Resource) (fault : BuildError) : Prop :=
  ∃ before after, spec.resources = before ++ resource :: after ∧
    (∀ earlier ∈ before, ∃ schema, ResourceSchema.build earlier.schema = .ok schema) ∧
    ResourceSchema.build resource.schema = .error fault

/-- Whether checking the schemas of all resources, whatever has been told before, ends with an
outcome and no effect but on what is told. -/
def Validates (spec : Specification) (outcome : Except Failure Unit) : Prop :=
  ∀ {m : Type → Type} [Monad m] [LawfulMonad m] (before : Transcript),
    ∃ after, (spec.resources.forM validateResource : Action m Unit).run.run before =
      pure (outcome, after)

/-- A specification that is good for everything. -/
structure Passes (spec : Specification) : Prop where
  allBuild : spec.AllBuild
  generates : ∀ options, ∃ files, generate spec options = .ok files
  summarizes : ∃ summary, Summary.ofSpecification spec = .ok summary
  validates : spec.Validates (.ok ())

/-- A specification that is good for nothing, because of a fault in one of its resources. -/
structure FailsAt (spec : Specification) (resource : Spec.Resource) (fault : BuildError) : Prop where
  first : spec.FirstFault resource fault
  generates : ∀ options, generate spec options = .error fault
  summarizes : Summary.ofSpecification spec = .error ⟨resource.name, fault⟩
  validates : spec.Validates (.error (.invalidResource ⟨resource.name, fault⟩))

/-- All schemas can be built, or one is the first that cannot. -/
theorem allBuild_or_firstFault (spec : Specification) :
    spec.AllBuild ∨ ∃ resource fault, spec.FirstFault resource fault := by
  obtain ⟨version, resources⟩ := spec
  induction resources with
  | nil => exact .inl fun _ member => absurd member List.not_mem_nil
  | cons first rest ih =>
    cases built : ResourceSchema.build first.schema with
    | error fault => exact .inr ⟨first, fault, [], rest, rfl, nofun, built⟩
    | ok schema =>
      rcases ih with allBuild | ⟨resource, fault, before, after, split, earlier, failed⟩
      · refine .inl fun resource member => ?_
        rcases List.mem_cons.mp member with rfl | member
        · exact ⟨schema, built⟩
        · exact allBuild resource member
      · refine .inr ⟨resource, fault, first :: before, after, congrArg (first :: ·) split, ?_, failed⟩
        intro other member
        rcases List.mem_cons.mp member with rfl | member
        · exact ⟨schema, built⟩
        · exact earlier other member

end Specification

/-! ## One resource after the other -/

section Resources

variable {resource : Spec.Resource} {schema : ResourceSchema} {fault : BuildError}

theorem buildResource_of_ok (built : ResourceSchema.build resource.schema = .ok schema) :
    buildResource resource = .ok schema := by
  rw [buildResource, built]
  rfl

/-- A fault in the schema is reported together with the name of its resource. -/
theorem buildResource_of_error (failed : ResourceSchema.build resource.schema = .error fault) :
    buildResource resource = .error ⟨resource.name, fault⟩ := by
  rw [buildResource, failed]
  rfl

theorem summary_of_ok (built : ResourceSchema.build resource.schema = .ok schema) :
    ResourceSummary.ofResource resource = .ok (.ofSchema resource.name schema) := by
  rw [ResourceSummary.ofResource, buildResource_of_ok built]
  rfl

/-- A summary fails where the build fails, with the same resource and fault. -/
theorem summary_of_error (failed : ResourceSchema.build resource.schema = .error fault) :
    ResourceSummary.ofResource resource = .error ⟨resource.name, fault⟩ := by
  rw [ResourceSummary.ofResource, buildResource_of_error failed]
  rfl

/-- Whatever the options, the file of a resource fails with the fault of its schema. -/
theorem generateResource_of_error (failed : ResourceSchema.build resource.schema = .error fault)
    (options : GenerateOptions) : generateResource resource options = .error fault := by
  rw [generateResource, failed]
  rfl

end Resources

/-! ## Validation -/

section Validation

variable {m : Type → Type} [Monad m] [LawfulMonad m] {α β : Type} {first : Action m α}
  {next : α → Action m β} {before after : Transcript}

private theorem run_bind_of_ok {value : α} (ran : first.run.run before = pure (.ok value, after)) :
    (first >>= next).run.run before = (next value).run.run after := by
  rw [ExceptT.run_bind, StateT.run_bind, ran, pure_bind]

private theorem run_bind_of_error {failure : Failure}
    (ran : first.run.run before = pure (.error failure, after)) :
    (first >>= next).run.run before = pure (.error failure, after) := by
  rw [ExceptT.run_bind, StateT.run_bind, ran, pure_bind]
  rfl

private theorem run_tell (message : String) :
    (CommandLine.tell message : Action m Unit).run.run before =
      pure (.ok (), { before with messages := before.messages ++ message ++ "\n" }) := by
  have lifted : (CommandLine.tell message : Action m Unit) =
      ExceptT.lift (modify fun told : Transcript =>
        { told with messages := told.messages ++ message ++ "\n" }) := rfl
  rw [lifted, ExceptT.run_lift]
  simp

variable {resource : Spec.Resource} {fault : BuildError}

private theorem run_validateResource_of_ok {schema : ResourceSchema}
    (built : ResourceSchema.build resource.schema = .ok schema) (before : Transcript) :
    ∃ after, (validateResource resource : Action m Unit).run.run before = pure (.ok (), after) := by
  unfold validateResource
  rw [buildResource_of_ok built]
  exact ⟨_, (run_bind_of_ok rfl).trans (run_tell _)⟩

private theorem run_validateResource_of_error
    (failed : ResourceSchema.build resource.schema = .error fault) (before : Transcript) :
    (validateResource resource : Action m Unit).run.run before =
      pure (.error (.invalidResource ⟨resource.name, fault⟩), before) := by
  unfold validateResource
  rw [buildResource_of_error failed]
  exact run_bind_of_error rfl

private theorem run_forM_of_ok {resources : List Spec.Resource}
    (each : ∀ resource ∈ resources, ∃ schema, ResourceSchema.build resource.schema = .ok schema) :
    ∀ before, ∃ after,
      (resources.forM validateResource : Action m Unit).run.run before = pure (.ok (), after) := by
  induction resources with
  | nil => exact fun before => ⟨before, rfl⟩
  | cons first rest ih =>
    intro before
    obtain ⟨schema, built⟩ := each first (List.mem_cons_self ..)
    obtain ⟨between, ofFirst⟩ := run_validateResource_of_ok (m := m) built before
    obtain ⟨after, ofRest⟩ := ih (fun other member => each other (List.mem_cons_of_mem _ member)) between
    exact ⟨after, (run_bind_of_ok ofFirst).trans ofRest⟩

private theorem run_forM_of_error {earlier later : List Spec.Resource}
    (each : ∀ resource ∈ earlier, ∃ schema, ResourceSchema.build resource.schema = .ok schema)
    (failed : ResourceSchema.build resource.schema = .error fault) :
    ∀ before, ∃ after,
      ((earlier ++ resource :: later).forM validateResource : Action m Unit).run.run before =
        pure (.error (.invalidResource ⟨resource.name, fault⟩), after) := by
  intro before
  obtain ⟨between, ofEarlier⟩ := run_forM_of_ok (m := m) each before
  have stopped := run_validateResource_of_error (m := m) failed between
  have split : ((earlier ++ resource :: later).forM validateResource : Action m Unit) =
      earlier.forM validateResource >>= fun _ => (resource :: later).forM validateResource :=
    List.forM_append
  rw [split, run_bind_of_ok ofEarlier]
  exact ⟨between, run_bind_of_error stopped⟩

end Validation

/-! ## Whole specifications -/

namespace Specification

variable {spec : Specification}

/-- If every schema builds, generating and summarizing succeed with any options. -/
theorem passes_of_allBuild (allBuild : spec.AllBuild) : spec.Passes := by
  refine ⟨allBuild, fun options => ?_, ?_, run_forM_of_ok allBuild⟩
  · refine exists_mapM_iff.mpr fun resource member => ?_
    obtain ⟨schema, built⟩ := allBuild resource member
    exact ⟨_, generateResource_eq_ok_iff.mpr ⟨schema, built, rfl⟩⟩
  · have each : ∀ resource ∈ spec.resources, ∃ summary,
        ResourceSummary.ofResource resource = .ok summary := by
      intro resource member
      obtain ⟨schema, built⟩ := allBuild resource member
      exact ⟨_, summary_of_ok built⟩
    obtain ⟨summaries, made⟩ := exists_mapM_iff.mpr each
    exact ⟨_, bind_eq_ok.mpr ⟨summaries, made, rfl⟩⟩

/-- What is built before the first faulty resource does not show in the outcome. -/
theorem failsAt_of_firstFault {resource : Spec.Resource} {fault : BuildError}
    (first : spec.FirstFault resource fault) : spec.FailsAt resource fault := by
  have found := first
  obtain ⟨before, after, split, earlier, failed⟩ := found
  refine ⟨first, fun options => ?_, ?_, fun told => ?_⟩
  · have generated : ∀ other ∈ before, ∃ file, generateResource other options = .ok file := by
      intro other member
      obtain ⟨schema, built⟩ := earlier other member
      exact ⟨_, generateResource_eq_ok_iff.mpr ⟨schema, built, rfl⟩⟩
    exact mapM_eq_error_iff.mpr
      ⟨before, resource, after, split, generated, generateResource_of_error failed options⟩
  · have summarized : ∀ other ∈ before, ∃ summary,
        ResourceSummary.ofResource other = .ok summary := by
      intro other member
      obtain ⟨schema, built⟩ := earlier other member
      exact ⟨_, summary_of_ok built⟩
    have stops := mapM_eq_error_iff.mpr
      ⟨before, resource, after, split, summarized, summary_of_error failed⟩
    rw [Summary.ofSpecification, stops]
    rfl
  · rw [split]
    exact run_forM_of_error earlier failed told

/-- There is no third outcome, since some resource is the first that does not build or none is. -/
theorem passes_or_failsAt (spec : Specification) :
    spec.Passes ∨ ∃ resource fault, spec.FailsAt resource fault := by
  rcases spec.allBuild_or_firstFault with allBuild | ⟨resource, fault, first⟩
  · exact .inl (passes_of_allBuild allBuild)
  · exact .inr ⟨resource, fault, failsAt_of_firstFault first⟩

/-- Generation fails if and only if the schema of some resource cannot be built. -/
theorem exists_generate_error_iff (options : GenerateOptions) :
    (∃ fault, generate spec options = .error fault) ↔
      ∃ resource ∈ spec.resources, ∃ fault,
        ResourceSchema.build resource.schema = .error fault := by
  rcases spec.passes_or_failsAt with passes | ⟨first, fault, fails⟩
  · refine iff_of_false ?_ ?_
    · rintro ⟨found, stopped⟩
      obtain ⟨files, made⟩ := passes.generates options
      cases made.symm.trans stopped
    · rintro ⟨resource, member, found, failed⟩
      obtain ⟨schema, built⟩ := passes.allBuild resource member
      cases built.symm.trans failed
  · refine iff_of_true ⟨fault, fails.generates options⟩ ?_
    obtain ⟨before, after, split, -, failed⟩ := fails.first
    refine ⟨first, ?_, fault, failed⟩
    rw [split]
    exact List.mem_append_right _ (List.mem_cons_self ..)

/-- Generating, summarizing and validating accept the same specifications. Either all schemas of a
specification can be built and all three succeed, or there is a first resource whose schema cannot be
built and all three fail with the fault in it. So whether generation fails depends on no option, only
on whether the schema of some resource cannot be built. A conversion for which no code is generated,
wherever it is, stops no attributes, no blocks and no schema from giving methods: what does not
convert gives none. And a kind that is not set is never the fault. -/
theorem accepted_alike (spec : Specification) :
    (spec.Passes ∨ ∃ resource fault, spec.FailsAt resource fault) ∧
      (∀ options, (∃ fault, generate spec options = .error fault) ↔
        ∃ resource ∈ spec.resources, ∃ fault, ResourceSchema.build resource.schema = .error fault) ∧
      ((∀ attributes, Attributes.methods attributes =
          .ok (attributes.flatMap fun (name, node) => Schema.supported (node.methods name))) ∧
        (∀ blocks, Blocks.methods blocks =
          .ok (blocks.flatMap fun (name, node) => Schema.supported (node.methods name))) ∧
        ∀ schema : ResourceSchema, schema.collectMethods = .ok schema.methods) ∧
      ∀ schema fault, ResourceSchema.build schema = .error fault →
        (∀ kind, fault ≠ .nilAttribute kind) ∧ ∀ kind, fault ≠ .nilBlock kind := by
  refine ⟨passes_or_failsAt spec, exists_generate_error_iff, ⟨?_, ?_, ?_⟩, ?_⟩
  · exact Schema.Attribute.methodsAll_eq
  · exact Schema.Block.methodsAll_eq
  · exact ResourceSchema.collectMethods_eq_ok
  · intro schema fault failed
    have other := ResourceSchema.neverNil_build schema fault failed
    constructor
    · rintro kind rfl
      cases other
    · rintro kind rfl
      cases other

end Specification

/-- A specification with a good resource before one that has an attribute of no kind. -/
def kindlessSpec : Specification where
  version := "0.1"
  resources := [thingResource, { name := "kindless", schema := { attributes := [{ name := "id" }] } }]

/-- An attribute of which no kind is set fails the build even if neither the model nor the
conversions are asked for. -/
theorem kindlessSpec_fails :
    (∃ fault, generate kindlessSpec { model := false, conversions := false } = .error fault) ∧
      Summary.ofSpecification kindlessSpec = .error ⟨"kindless", .undefinedAttribute "id"⟩ := by
  obtain ⟨-, generates, -, -⟩ := Specification.accepted_alike kindlessSpec
  refine ⟨(generates _).mpr ⟨_, List.mem_cons_of_mem _ (List.mem_cons_self ..), _, rfl⟩, rfl⟩

end ProviderCodegen
