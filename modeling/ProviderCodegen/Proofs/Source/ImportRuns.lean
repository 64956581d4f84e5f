import Mathlib.Data.List.Induction
import ProviderCodegen.Proofs.Source.ImportUnion

/-! # Sets of imports over time

A set is built from the empty one by steps that add imports, start over from a list, or keep what a
text refers to. After every run of steps the paths are distinct and none is empty. A step that adds
leaves the entries that are there as a beginning of the new ones. So an entry is the first import of
its path among those that were added since the path was last absent (`KeptSince`).
-/

namespace ProviderCodegen.Source.ImportSet

variable {s : ImportSet} {i : Import}

/-- A step in the life of a set of imports. -/
inductive Step
  | insert (i : Import)
  | insertPath (path : String)
  /-- Add another set, whatever its entries are. -/
  | union (t : ImportSet)
  /-- Start over with the set of a list. -/
  | collect (imports : List Import)
  | keepReferenced (body : String)

namespace Step

def apply (s : ImportSet) : Step → ImportSet
  | insert i => s.insert i
  | insertPath path => s.insertPath path
  | union t => s ∪ t
  | collect imports => ofList imports
  | keepReferenced body => s.referencedIn body

/-- The imports that a step offers, in their order. -/
def offered : Step → List Import
  | insert i => [i]
  | insertPath path => [{ path }]
  | union t => t.entries
  | collect imports => imports
  | keepReferenced _ => []

/-- Whether a step adds to what is there. -/
def isAdding : Step → Bool
  | insert _ | insertPath _ | union _ => true
  | collect _ | keepReferenced _ => false

/-- Whether a step gives up what is there before it adds. -/
def startsOver : Step → Bool
  | collect _ => true
  | _ => false

variable {step : Step}

/-- All ways of adding come down to one insertion after another. -/
theorem apply_eq_foldl (adding : step.isAdding = true) :
    step.apply s = step.offered.foldl ImportSet.insert s := by
  cases step with
  | insert i => rfl
  | insertPath path => rfl
  | union t => rfl
  | collect imports => cases adding
  | keepReferenced body => cases adding

/-- No step introduces an empty path or a second entry for a path. -/
theorem wellFormed_apply (wellFormed : s.WellFormed) (step : Step) : (step.apply s).WellFormed := by
  cases step with
  | insert i => exact wellFormed.insert i
  | insertPath path => exact wellFormed.insert _
  | union t => exact wellFormed.union t
  | collect imports => exact wellFormed_ofList imports
  | keepReferenced body => exact wellFormed_ofList _

/-- A step that adds puts new entries behind those that are there. -/
theorem isPrefix_apply (adding : step.isAdding = true) (s : ImportSet) :
    s.entries <+: (step.apply s).entries := by
  rw [apply_eq_foldl adding, entries_foldl_insert]
  exact List.prefix_append _ _

/-- An entry after a step was there before, or it is the first import of a path that was absent. -/
theorem mem_entries_apply (wellFormed : s.WellFormed) (member : i ∈ (step.apply s).entries) :
    (i ∈ s.entries ∧ step.startsOver = false) ∨
      ((step.startsOver = true ∨ i.path ∉ s.paths) ∧
        step.offered.find? (·.path == i.path) = some i) := by
  have ofAdding (adding : step.isAdding = true) (stays : step.startsOver = false) :
      (i ∈ s.entries ∧ step.startsOver = false) ∨
        ((step.startsOver = true ∨ i.path ∉ s.paths) ∧
          step.offered.find? (·.path == i.path) = some i) := by
    rw [apply_eq_foldl adding, mem_entries_foldl_insert_iff wellFormed] at member
    rcases member with kept | ⟨-, absent, isFirst⟩
    · exact .inl ⟨kept, stays⟩
    · exact .inr ⟨.inr absent, isFirst⟩
  cases step with
  | insert j => exact ofAdding rfl rfl
  | insertPath path => exact ofAdding rfl rfl
  | union t => exact ofAdding rfl rfl
  | collect imports => exact .inr ⟨.inl rfl, (mem_entries_ofList_iff.mp member).2⟩
  | keepReferenced body =>
    have kept : i ∈ (s.referencedIn body).entries := member
    rw [entries_referencedIn wellFormed] at kept
    exact .inl ⟨(List.mem_filter.mp kept).1, rfl⟩

end Step

/-- The set after a run of steps. -/
def run (steps : List Step) : ImportSet :=
  steps.foldl Step.apply empty

theorem run_concat (steps : List Step) (step : Step) :
    run (steps ++ [step]) = step.apply (run steps) := by
  rw [run, List.foldl_append]
  rfl

/-- By induction on the steps, from the empty set. -/
theorem wellFormed_run (steps : List Step) : (run steps).WellFormed := by
  induction steps using List.reverseRecOn with
  | nil => exact wellFormed_empty
  | append_singleton steps step ih =>
    rw [run_concat]
    exact step.wellFormed_apply ih

/-- Whether an entry has been in the set since a step before which its path was absent, and is the
first import of the path that this step offered. A step that starts over finds no path present. -/
def KeptSince (steps : List Step) (i : Import) : Prop :=
  ∃ before step after, steps = before ++ step :: after ∧
    (step.startsOver = true ∨ i.path ∉ (run before).paths) ∧
    step.offered.find? (·.path == i.path) = some i ∧
    (∀ later ∈ after, later.startsOver = false) ∧
    ∀ between, between <+: after → i ∈ (run (before ++ step :: between)).entries

/-- By induction on the steps, which either keep an entry or have just added it. -/
theorem keptSince_of_mem {steps : List Step} (member : i ∈ (run steps).entries) :
    KeptSince steps i := by
  -- The entry is traced back until the step that put it there.
  induction steps using List.reverseRecOn with
  | nil => exact absurd member List.not_mem_nil
  | append_singleton steps last ih =>
    have inLast := member
    rw [run_concat] at inLast
    rcases last.mem_entries_apply (wellFormed_run steps) inLast with ⟨kept, stays⟩ | ⟨absent, isFirst⟩
    · obtain ⟨before, step, after, rfl, absent, isFirst, stayed, present⟩ := ih kept
      refine ⟨before, step, after ++ [last], ?_, absent, isFirst, ?_, ?_⟩
      · rw [List.append_assoc, List.cons_append]
      · intro later listed
        rcases List.mem_append.mp listed with earlier | isLast
        · exact stayed later earlier
        · rw [List.mem_singleton.mp isLast]
          exact stays
      · intro between shorter
        rcases List.prefix_concat_iff.mp shorter with rfl | shorter
        · rwa [List.append_assoc, List.cons_append] at member
        · exact present between shorter
    · refine ⟨steps, last, [], rfl, absent, isFirst, fun _ listed => ?_, fun between shorter => ?_⟩
      · exact absurd listed List.not_mem_nil
      · rwa [List.prefix_nil.mp shorter]

/-- What holds after every run of steps. The paths are distinct and not empty, each leads to the
entry that has it, and the tests and the size speak of the entries. A further step that adds leaves
the entries as they are, in front of the new ones; one that keeps what a text refers to selects
entries and leaves them in order. Each entry is the first import of its path since the path was last
absent. The order by path is strict and has the entries of the set. -/
theorem run_invariant (steps : List Step) :
    ((run steps).paths.Nodup ∧ "" ∉ (run steps).paths) ∧
      (∀ path i, (run steps).entries.find? (·.path == path) = some i ↔
        i ∈ (run steps).entries ∧ i.path = path) ∧
      (∀ path, (run steps).contains path = true ↔ ∃ i ∈ (run steps).entries, i.path = path) ∧
      (run steps).size = (run steps).entries.length ∧
      (∀ step : Step, step.isAdding = true →
        (run steps).entries <+: (run (steps ++ [step])).entries) ∧
      (∀ i ∈ (run steps).entries, KeptSince steps i) ∧
      (∀ body, (run (steps ++ [.keepReferenced body])).entries =
        (run steps).entries.filter (·.isReferenced body)) ∧
      (run steps).sorted.Perm (run steps).entries ∧
      (run steps).sorted.Pairwise fun i j => i.path < j.path := by
  have wellFormed := wellFormed_run steps
  refine ⟨⟨wellFormed.distinct, wellFormed.named⟩, ?_, ?_, rfl, ?_, ?_, ?_, ?_, ?_⟩
  · intro path i
    exact wellFormed.find?_eq_some_iff
  · intro path
    rw [contains_iff, mem_paths]
  · intro step adding
    rw [run_concat]
    exact step.isPrefix_apply adding _
  · intro i member
    exact keptSince_of_mem member
  · intro body
    rw [run_concat]
    exact entries_referencedIn wellFormed body
  · exact List.mergeSort_perm _ _
  · exact sorted_pairwise wellFormed

/-- Steps after which a path is present that was present, dropped and added again. -/
def readdingSteps : List Step :=
  [.union (ofList [{ path := "b", localName := some "x" }, { path := "" }, { path := "a" }]),
    .insert { path := "b", localName := some "y" },
    .keepReferenced "a.F()",
    .insert { path := "b", localName := some "z" }]

/-- The path has the name under which it is added again, as it was absent before. -/
theorem run_readdingSteps :
    (run readdingSteps).entries = [{ path := "a" }, { path := "b", localName := some "z" }] ∧
      KeptSince readdingSteps { path := "b", localName := some "z" } ∧
      (run readdingSteps).entries <+: (run (readdingSteps ++ [.insertPath "c"])).entries := by
  obtain ⟨-, -, -, -, adding, kept, -⟩ := run_invariant readdingSteps
  exact ⟨by decide, kept _ (by decide), adding _ rfl⟩

end ProviderCodegen.Source.ImportSet
