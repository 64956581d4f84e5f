import ProviderCodegen.Files.Tree
import ProviderCodegen.Proofs.Acceptance
import ProviderCodegen.Proofs.Spec.RoundTrip

/-! # Runs that change nothing

Generating makes the texts of all files before it asks for the first change. Until then it only
reads. So whatever fails before the files are written leaves the file system as it was, and none of
the resources before the one that fails has a file of its own by then.
-/

namespace ProviderCodegen.CommandLine

open Schema (BuildError ResourceSchema)

section Reading

variable {σ α β : Type}

/-! ## Actions that read -/

/-- How an action ends when it starts in a state of the file system. -/
def outcome (action : Action (StateM σ) α) (store : σ) : Except Failure α :=
  ((action.run.run {}).run store).1.1

/-- Whether an action does nothing but ask: it tells nothing and leaves all files as they are. -/
def Reads (action : Action (StateM σ) α) : Prop :=
  ∀ told store, ((action.run.run told).run store : (Except Failure α × Transcript) × σ) =
    ((outcome action store, told), store)

/-- Whether an action fails in a state of the file system and leaves it as it is, whatever has been
told before. -/
def Refuses (action : Action (StateM σ) α) (store : σ) (failure : Failure) : Prop :=
  ∀ told, ∃ after, ((action.run.run told).run store : (Except Failure α × Transcript) × σ) =
    ((.error failure, after), store)

variable {action : Action (StateM σ) α} {rest : α → Action (StateM σ) β} {store : σ}
  {failure : Failure}

theorem reads_pure (value : α) : Reads (pure value : Action (StateM σ) α) :=
  fun _ _ => rfl

/-- Failing counts as reading, since it changes no file. -/
theorem reads_throw (failure : Failure) : Reads (throw failure : Action (StateM σ) α) :=
  fun _ _ => rfl

/-- An outcome computed without files is as harmless as a failure. -/
theorem reads_orFail {ε : Type} (result : Except ε α) (failure : ε → Failure) :
    Reads (orFail result failure : Action (StateM σ) α) := by
  cases result with
  | ok value => exact reads_pure value
  | error e => exact reads_throw (failure e)

theorem reads_ask {operation : StateM σ α} (keeps : ∀ store : σ, (operation.run store).2 = store) :
    Reads (ask operation) := by
  intro told store
  have ran : ((ask operation : Action (StateM σ) α).run.run told).run store =
      (((.ok (operation.run store).1, told), (operation.run store).2) :
        (Except Failure α × Transcript) × σ) := rfl
  rw [ran, keeps]
  rfl

/-- After an action that reads and ends with a value, what follows starts where the action did. -/
theorem Reads.run_bind_of_ok (reads : Reads action) {value : α}
    (done : outcome action store = .ok value) (told : Transcript) :
    (((action >>= rest).run.run told).run store : (Except Failure β × Transcript) × σ) =
      ((rest value).run.run told).run store := by
  rw [ExceptT.run_bind, StateT.run_bind, StateT.run_bind, reads told store, done]
  rfl

/-- Nothing follows an action that fails. -/
theorem Reads.run_bind_of_error (reads : Reads action)
    (failed : outcome action store = .error failure) (told : Transcript) :
    (((action >>= rest).run.run told).run store : (Except Failure β × Transcript) × σ) =
      ((.error failure, told), store) := by
  rw [ExceptT.run_bind, StateT.run_bind, StateT.run_bind, reads told store, failed]
  rfl

/-- What follows a successful read starts from the store that the read was given. -/
theorem Reads.outcome_bind_of_ok (reads : Reads action) {value : α}
    (done : outcome action store = .ok value) :
    outcome (action >>= rest) store = outcome (rest value) store := by
  rw [outcome, outcome, reads.run_bind_of_ok done]

/-- Reading goes on through a sequence of actions, whatever value the first one gives. -/
theorem Reads.bind (reads : Reads action) (each : ∀ value, Reads (rest value)) :
    Reads (action >>= rest) := by
  intro told store
  cases ended : outcome action store with
  | error failure =>
    have stopped : outcome (action >>= rest) store = .error failure := by
      rw [outcome, reads.run_bind_of_error ended]
    rw [reads.run_bind_of_error ended, stopped]
  | ok value =>
    rw [reads.run_bind_of_ok ended, each value, reads.outcome_bind_of_ok ended]

/-- Once a read has failed, the actions behind it are never reached. -/
theorem Reads.refuses_of_error (reads : Reads action)
    (failed : outcome action store = .error failure) : Refuses (action >>= rest) store failure :=
  fun told => ⟨told, reads.run_bind_of_error failed told⟩

/-- A refusal behind a successful read refuses the whole sequence. -/
theorem Reads.refuses_of_ok (reads : Reads action) {value : α}
    (done : outcome action store = .ok value) (refuses : Refuses (rest value) store failure) :
    Refuses (action >>= rest) store failure := by
  intro told
  obtain ⟨after, ran⟩ := refuses told
  exact ⟨after, (reads.run_bind_of_ok done told).trans ran⟩

/-- What has been told makes no difference. -/
theorem Refuses.of_tell {remaining : Action (StateM σ) β}
    (refuses : Refuses remaining store failure) (message : String) :
    Refuses (tell message >>= fun _ => remaining) store failure :=
  fun told => refuses { told with messages := told.messages ++ message ++ "\n" }

end Reading

/-! ## What generating reads -/

/-- A file system in which asking for a file changes nothing. -/
class KeepsWhenRead (σ : Type) [FileStore (StateM σ)] : Prop where
  exists_keeps : ∀ (path : String) (store : σ),
    ((FileStore.exists? path : StateM σ Bool).run store).2 = store
  read_keeps : ∀ (path : String) (store : σ),
    ((FileStore.read path : StateM σ (Except FileError String)).run store).2 = store

instance : KeepsWhenRead FileTree where
  exists_keeps _ _ := rfl
  read_keeps _ _ := rfl

section Generating

variable {σ : Type} [FileStore (StateM σ)] {store : σ} {config : Config} {input : Option String}
  {spec : Specification} {failure : Failure}

/-- Whether a command fails and leaves the file system as it is: it ends with the failure, and what
is told in the end is the report of the failure. -/
structure Command.Refused (command : Command) (store : σ) (failure : Failure) : Prop where
  refuses : Refuses command.action store failure
  reported : ∃ told : Transcript, (command.run : StateM σ Report).run store =
    (⟨1, { told with messages := told.messages ++ failure.report }⟩, store)

/-- The outcome of a command is that of its action, with what has been told up to the failure. -/
theorem Command.refused_of_refuses {command : Command}
    (refuses : Refuses command.action store failure) : command.Refused store failure := by
  refine ⟨refuses, ?_⟩
  obtain ⟨told, ran⟩ := refuses {}
  refine ⟨told, ?_⟩
  unfold Command.run
  rw [StateT.run_bind, ran]
  rfl

variable [KeepsWhenRead σ]

theorem reads_loadConfig : Reads (loadConfig : Action (StateM σ) Config) := by
  unfold loadConfig
  refine (reads_ask (KeepsWhenRead.exists_keeps _)).bind fun present => ?_
  split
  · refine (reads_ask (KeepsWhenRead.read_keeps _)).bind fun text => ?_
    refine (reads_orFail text _).bind fun text => ?_
    split
    · exact reads_pure _
    · exact reads_throw _
  · exact reads_pure _

theorem reads_loadSpecification (path : String) :
    Reads (loadSpecification path : Action (StateM σ) Specification) := by
  unfold loadSpecification
  refine (reads_ask (KeepsWhenRead.read_keeps _)).bind fun text => ?_
  exact (reads_orFail text _).bind fun text => reads_orFail _ _

/-- A configuration that cannot be loaded stops the run before the input is looked for. -/
theorem refuses_of_loadConfig (output : Option String)
    (failed : outcome loadConfig store = .error failure) :
    Refuses (runGenerate input output) store failure :=
  reads_loadConfig.refuses_of_error failed

/-- An input that is missing or cannot be parsed stops the run before anything is generated. -/
theorem refuses_of_loadSpecification (output : Option String)
    (loaded : outcome loadConfig store = .ok config)
    (failed : outcome (loadSpecification (input.getD config.input)) store = .error failure) :
    Refuses (runGenerate input output) store failure :=
  reads_loadConfig.refuses_of_ok loaded ((reads_loadSpecification _).refuses_of_error failed)

/-- All files are generated before the first is written, so a fault leaves no file behind. -/
theorem refuses_of_generate (output : Option String) {fault : BuildError}
    (loaded : outcome loadConfig store = .ok config)
    (parsed : outcome (loadSpecification (input.getD config.input)) store = .ok spec)
    (failed : generate spec config.generate = .error fault) :
    Refuses (runGenerate input output) store (.generation (input.getD config.input) fault) := by
  have present : ¬ spec.resources.isEmpty := by
    intro empty
    rw [generate, List.isEmpty_iff.mp empty] at failed
    cases failed
  refine reads_loadConfig.refuses_of_ok loaded ?_
  refine (reads_loadSpecification _).refuses_of_ok parsed ?_
  rw [if_neg present, failed]
  exact ((reads_throw _).refuses_of_error rfl).of_tell _

/-- One resource that fails is enough for all to fail. -/
theorem exists_generate_error {options : GenerateOptions} {resource : Spec.Resource}
    (member : resource ∈ spec.resources)
    (failed : ∃ fault, generateResource resource options = .error fault) :
    ∃ fault, generate spec options = .error fault := by
  refine (Specification.exists_generate_error_iff options).mpr ⟨resource, member, ?_⟩
  obtain ⟨fault, failed⟩ := failed
  cases built : ResourceSchema.build resource.schema with
  | error fault => exact ⟨fault, rfl⟩
  | ok schema => cases failed.symm.trans (generateResource_eq_ok_iff.mpr ⟨schema, built, rfl⟩)

/-- Generating fails and leaves the file system as it is whenever the configuration cannot be
loaded, the specification cannot be read or is not accepted, or any one of the resources has no
file. -/
theorem generate_refused (store : σ) (input output : Option String) :
    (∀ failure, outcome loadConfig store = .error failure →
      (Command.generate input output).Refused store failure) ∧
    ∀ config, outcome loadConfig store = .ok config →
      (∀ failure, outcome (loadSpecification (input.getD config.input)) store = .error failure →
        (Command.generate input output).Refused store failure) ∧
      ∀ spec, outcome (loadSpecification (input.getD config.input)) store = .ok spec →
        ∀ resource ∈ spec.resources,
          (∃ fault, generateResource resource config.generate = .error fault) →
          ∃ fault, generate spec config.generate = .error fault ∧
            (Command.generate input output).Refused store
              (.generation (input.getD config.input) fault) := by
  refine ⟨fun failure failed => Command.refused_of_refuses (refuses_of_loadConfig output failed),
    fun config loaded => ⟨fun failure failed => ?_, fun spec parsed resource member failed => ?_⟩⟩
  · exact Command.refused_of_refuses (refuses_of_loadSpecification output loaded failed)
  · obtain ⟨fault, stopped⟩ := exists_generate_error member failed
    have refuses := refuses_of_generate output loaded parsed stopped
    exact ⟨fault, stopped, Command.refused_of_refuses refuses⟩

end Generating

/-- Loading a specification that can be read is parsing it. -/
theorem outcome_loadSpecification {tree : FileTree} {path text : String}
    (readable : tree.read path = .ok text) :
    outcome (loadSpecification path) tree =
      (Specification.parse (formatOf path) text).mapError .specification := by
  have asked : Reads (ask (FileStore.read path : StateM FileTree _)) := reads_ask fun _ => rfl
  have found : outcome (ask (FileStore.read path)) tree = .ok (.ok text) := congrArg _ readable
  have accepted : outcome (orFail (.ok text) (Failure.readInput path)) tree = .ok text := rfl
  unfold loadSpecification
  rw [asked.outcome_bind_of_ok found, (reads_orFail _ _).outcome_bind_of_ok accepted]
  cases Specification.parse (formatOf path) text with
  | ok spec => rfl
  | error e => rfl

/-- A directory with nothing but a specification whose second resource has no file. -/
def kindlessTree : FileTree where
  entries := [(["provider_code_spec.json"], .file kindlessSpec.toJson)]

/-- A tree whose only file is a specification with a faulty attribute stays as it is. -/
theorem kindlessTree_refused :
    ∃ fault, generate kindlessSpec {} = .error fault ∧
      (Command.generate none none).Refused kindlessTree
        (.generation "provider_code_spec.json" fault) := by
  have parsed : Specification.parse .json kindlessSpec.toJson = .ok kindlessSpec :=
    Specification.parse_toJson_of_check rfl (by decide) rfl
  have loaded : outcome (loadSpecification "provider_code_spec.json") kindlessTree =
      .ok kindlessSpec := by
    have readable : kindlessTree.read "provider_code_spec.json" = .ok kindlessSpec.toJson := by
      unfold kindlessTree
      generalize kindlessSpec.toJson = text
      rfl
    have isJson : formatOf "provider_code_spec.json" = .json := by decide
    rw [outcome_loadSpecification readable, isJson, parsed]
    rfl
  have failed : ResourceSchema.build { attributes := [{ name := "id" }] } =
      .error (.undefinedAttribute "id") := rfl
  obtain ⟨-, configured⟩ := generate_refused kindlessTree none none
  obtain ⟨-, accepted⟩ := configured {} rfl
  exact accepted kindlessSpec loaded _ (List.mem_cons_of_mem _ (List.mem_cons_self ..))
    ⟨_, generateResource_of_error failed {}⟩

end ProviderCodegen.CommandLine
