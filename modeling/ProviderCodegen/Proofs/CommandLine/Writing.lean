import ProviderCodegen.CommandLine.Run
import ProviderCodegen.Proofs.Files.Tree

/-! # Writing files

Files are written one after the other. One write makes the directories that it needs and puts a text
where the path of the file leads, over whatever file is there. So in the end a location has the text
of the last file whose path leads there.
-/

namespace ProviderCodegen.CommandLine

open FileTree (KeepsDirectories KeepsEntries)

variable {α β : Type} {told between after : Transcript} {tree next changed : FileTree}

/-! ## Actions that come to an end -/

/-- Whether an action on a file tree succeeds, with its value, what has been told, and the tree that
it leaves. -/
def Completes (action : Action (StateM FileTree) α) (told : Transcript) (tree : FileTree)
    (value : α) (after : Transcript) (changed : FileTree) : Prop :=
  ((action.run.run told).run tree : (Except Failure α × Transcript) × FileTree) =
    ((.ok value, after), changed)

/-- A sequence completes only through a tree between its two parts. -/
theorem Completes.of_bind {action : Action (StateM FileTree) α}
    {rest : α → Action (StateM FileTree) β} {result : β}
    (done : Completes (action >>= rest) told tree result after changed) :
    ∃ value between next, Completes action told tree value between next ∧
      Completes (rest value) between next result after changed := by
  rw [Completes, ExceptT.run_bind, StateT.run_bind, StateT.run_bind] at done
  unfold Completes
  rcases ran : (action.run.run told).run tree with ⟨⟨failure | value, between⟩, next⟩
  · rw [ran] at done
    cases done
  · rw [ran] at done
    exact ⟨value, between, next, rfl, done⟩

theorem Completes.bind {action : Action (StateM FileTree) α}
    {rest : α → Action (StateM FileTree) β} {value : α} {result : β}
    (first : Completes action told tree value between next)
    (second : Completes (rest value) between next result after changed) :
    Completes (action >>= rest) told tree result after changed := by
  rw [Completes, ExceptT.run_bind, StateT.run_bind, StateT.run_bind, first]
  exact second

/-- An operation on files tells nothing. -/
theorem completes_ask_iff {operation : StateM FileTree α} {value : α} :
    Completes (ask operation) told tree value after changed ↔
      (operation.run tree : α × FileTree) = (value, changed) ∧ told = after := by
  have ran : ((ask operation : Action (StateM FileTree) α).run.run told).run tree =
      (((.ok (operation.run tree).1, told), (operation.run tree).2) :
        (Except Failure α × Transcript) × FileTree) := rfl
  rw [Completes, ran, Prod.mk.injEq, Prod.mk.injEq, Except.ok.injEq, Prod.ext_iff, and_right_comm]

/-- Unwrapping an outcome neither reads nor writes files. -/
theorem Completes.of_orFail {ε : Type} {outcome : Except ε α} {failure : ε → Failure} {value : α}
    (done : Completes (orFail outcome failure) told tree value after changed) :
    outcome = .ok value ∧ tree = changed := by
  cases outcome with
  | error fault => cases done
  | ok result =>
    cases done
    exact ⟨rfl, rfl⟩

theorem Completes.of_tell {message : String} {value : Unit}
    (done : Completes (tell message) told tree value after changed) : tree = changed := by
  cases done
  rfl

/-! ## Making directories -/

/-- Whether an operation leaves all that is in a tree where it is. -/
def Keeping (operation : StateM FileTree α) : Prop :=
  ∀ tree, KeepsEntries tree (operation.run tree : α × FileTree).2

theorem keeping_pure (value : α) : Keeping (pure value) :=
  fun tree => KeepsEntries.refl tree

theorem Keeping.bind {operation : StateM FileTree α} {rest : α → StateM FileTree β}
    (first : Keeping operation) (each : ∀ value, Keeping (rest value)) :
    Keeping (operation >>= rest) :=
  fun tree => (first tree).trans (each _ _)

/-- Nothing of the tree is lost by an operation that keeps entries, if it completes. -/
theorem Keeping.of_completes {operation : StateM FileTree α} {value : α}
    (keeping : Keeping operation) (done : Completes (ask operation) told tree value after changed) :
    KeepsEntries tree changed := by
  have kept := keeping tree
  rwa [(completes_ask_iff.mp done).1] at kept

/-- An operation that is refused leaves the tree as it is. -/
theorem keeping_makeDirectory (path : String) :
    Keeping (FileStore.makeDirectory path : StateM FileTree _) := by
  intro tree
  change KeepsEntries tree ((FileTree.change (·.makeDirectory path)).run tree).2
  cases made : tree.makeDirectory path with
  | ok changed =>
    rw [FileTree.run_change_of_ok made]
    exact FileTree.makeDirectory_keeps made
  | error e =>
    rw [FileTree.run_change_of_error made]
    exact KeepsEntries.refl tree

theorem keeping_orDirectory (path : String) (refusal : FileError) :
    Keeping (FileStore.orDirectory path refusal : StateM FileTree _) :=
  fun tree => KeepsEntries.refl tree

/-- Nothing is lost while a directory is made with all those above it. -/
theorem keeping_makeLineage (paths : List String) :
    Keeping (FileStore.makeLineage paths : StateM FileTree _) := by
  induction paths with
  | nil => exact keeping_pure _
  | cons path ancestors ih =>
    unfold FileStore.makeLineage
    split_ifs
    · exact keeping_pure _
    · refine (keeping_makeDirectory path).bind fun made => ?_
      split
      · exact keeping_pure _
      · refine ih.bind fun parents => ?_
        split
        · exact keeping_pure _
        · refine (keeping_makeDirectory path).bind fun again => ?_
          split
          · exact keeping_pure _
          · exact keeping_orDirectory path _
      · exact keeping_orDirectory path _

/-! ## One file -/

private theorem run_write_iff {path text : String} :
    ((FileStore.write path text : StateM FileTree _).run tree : Except FileError Unit × FileTree) =
      (.ok (), changed) ↔ tree.write path text = .ok changed := by
  change (FileTree.change (·.write path text)).run tree = _ ↔ _
  cases written : tree.write path text with
  | ok next =>
    rw [FileTree.run_change_of_ok written, Except.ok.injEq]
    exact ⟨fun same => (Prod.mk.inj same).2, fun same => by rw [same]⟩
  | error e =>
    rw [FileTree.run_change_of_error written]
    exact iff_of_false nofun nofun

private theorem write_of_completes {path text message : String} {failure : FileError → Failure}
    (done : Completes (do
      orFail (← ask (FileStore.write path text)) failure
      tell message) told tree () after changed) :
    tree.write path text = .ok changed := by
  obtain ⟨outcome, _, next, asked, done⟩ := done.of_bind
  obtain ⟨_, _, last, accepted, told⟩ := done.of_bind
  obtain ⟨rfl, rfl⟩ := accepted.of_orFail
  obtain rfl := told.of_tell
  exact run_write_iff.mp (completes_ask_iff.mp asked).1

/-- Writing a file makes directories, then puts the text where the path leads. -/
theorem exists_write_of_writeFile {directory : String} {file : GeneratedFile}
    (done : Completes (writeFile directory file) told tree () after changed) :
    ∃ prepared, KeepsEntries tree prepared ∧
      prepared.write (Path.join directory file.path) file.content = .ok changed := by
  unfold writeFile at done
  dsimp only at done
  cases isIn : Path.parent? (Path.join directory file.path) with
  | none =>
    rw [isIn] at done
    exact ⟨tree, KeepsEntries.refl tree, write_of_completes done⟩
  | some parent =>
    rw [isIn] at done
    obtain ⟨outcome, _, prepared, made, done⟩ := done.of_bind
    obtain ⟨_, _, _, accepted, done⟩ := done.of_bind
    obtain ⟨-, rfl⟩ := accepted.of_orFail
    exact ⟨prepared, (keeping_makeLineage _).of_completes made, write_of_completes done⟩

/-- When the directory of a file can be made and the text can be written, the file is written. -/
theorem exists_completes_writeFile {directory parent : String} (file : GeneratedFile)
    {prepared : FileTree} (isIn : Path.parent? (Path.join directory file.path) = some parent)
    (made : (FileStore.makeDirectories parent : StateM FileTree _).run tree = (.ok (), prepared))
    (written : prepared.write (Path.join directory file.path) file.content = .ok changed)
    (told : Transcript) :
    ∃ after, Completes (writeFile directory file) told tree () after changed := by
  have asked : Completes (ask (FileStore.makeDirectories parent)) told tree (.ok ()) told
      prepared :=
    completes_ask_iff.mpr ⟨made, rfl⟩
  have stored : Completes (ask (FileStore.write (Path.join directory file.path) file.content)) told
      prepared (.ok ()) told changed :=
    completes_ask_iff.mpr ⟨run_write_iff.mpr written, rfl⟩
  have accepted (failure : FileError → Failure) (tree : FileTree) :
      Completes (orFail (.ok ()) failure) told tree () told tree := rfl
  have ended : Completes (tell ("  wrote " ++ Path.join directory file.path)) told changed () _
      changed := rfl
  unfold writeFile
  dsimp only
  rw [isIn]
  exact ⟨_, asked.bind ((accepted _ _).bind (stored.bind ((accepted _ _).bind ended)))⟩

/-! ## All files -/

/-- Whether a file is the last of some that leads to a location. -/
def LastAt (tree : FileTree) (directory : String) (location : Location) (files : List GeneratedFile)
    (latest : GeneratedFile) : Prop :=
  ∃ before after, files = before ++ latest :: after ∧
    tree.locate (Path.join directory latest.path) = .ok location ∧
    ∀ later ∈ after, tree.locate (Path.join directory later.path) ≠ .ok location

/-- What the writing of files in a directory makes of a tree. -/
structure Wrote (directory : String) (files : List GeneratedFile) (tree changed : FileTree) :
    Prop where
  directories : KeepsDirectories tree changed
  /-- Files that no path leads to are left alone. -/
  untouched : ∀ {location text}, tree.find? location = some (.file text) →
    (∀ file ∈ files, changed.locate (Path.join directory file.path) ≠ .ok location) →
    changed.find? location = some (.file text)
  /-- Where a path leads is the text of the last file whose path leads there. -/
  latest : ∀ {file}, file ∈ files → ∃ location last,
    changed.locate (Path.join directory file.path) = .ok location ∧
      Path.endsWithSlash (Path.join directory file.path) = false ∧
      LastAt changed directory location files last ∧
      changed.find? location = some (.file last.content)

/-- A file in front of others does not change which of them is written last. -/
theorem LastAt.cons {directory : String} {location : Location} {files : List GeneratedFile}
    {latest : GeneratedFile} (last : LastAt tree directory location files latest)
    (first : GeneratedFile) : LastAt tree directory location (first :: files) latest := by
  obtain ⟨before, after, rfl, rest⟩ := last
  exact ⟨first :: before, after, rfl, rest⟩

theorem Wrote.cons {directory : String} {file : GeneratedFile} {rest : List GeneratedFile}
    {prepared : FileTree} (kept : KeepsEntries tree prepared)
    (written : prepared.write (Path.join directory file.path) file.content = .ok next)
    (wrote : Wrote directory rest next changed) :
    Wrote directory (file :: rest) tree changed := by
  obtain ⟨location, located, noSlash, noDirectory, rfl⟩ := FileTree.write_eq_ok.mp written
  have stay := (FileTree.keepsDirectories_put noDirectory).trans wrote.directories
  have leads := stay.locate located
  have below : location ≠ [] := by
    rintro rfl
    exact noDirectory rfl
  refine ⟨kept.directories.trans stay, fun {other text} present free => ?_,
    fun {asked} member => ?_⟩
  -- The file is not where `other` is, since a path that led there would lead there still.
  · have apart : other ≠ location := by
      rintro rfl
      exact free file (List.mem_cons_self ..) leads
    refine wrote.untouched ?_ fun later member => free later (List.mem_cons_of_mem _ member)
    rw [FileTree.find?_put_of_ne apart]
    exact kept.entry present
  · rcases List.mem_cons.mp member with rfl | later
    · by_cases again :
        ∃ later ∈ rest, changed.locate (Path.join directory later.path) = .ok location
      · obtain ⟨later, member, same⟩ := again
        obtain ⟨place, latest, led, -, last, found⟩ := wrote.latest member
        obtain rfl : place = location := Except.ok.inj (led.symm.trans same)
        exact ⟨place, latest, leads, noSlash, last.cons asked, found⟩
      · have free : ∀ later ∈ rest,
            changed.locate (Path.join directory later.path) ≠ .ok location :=
          fun later member same => again ⟨later, member, same⟩
        have found := wrote.untouched (FileTree.find?_put_self below) free
        exact ⟨location, asked, leads, noSlash, ⟨[], rest, rfl, leads, free⟩, found⟩
    · obtain ⟨place, latest, led, plain, last, found⟩ := wrote.latest later
      exact ⟨place, latest, led, plain, last.cons file, found⟩

/-- Files are written one after the other, each to the tree that the one before it leaves. -/
theorem Completes.cons {directory : String} {file : GeneratedFile} {rest : List GeneratedFile}
    (first : Completes (writeFile directory file) told tree () between next)
    (others : Completes (rest.forM (writeFile directory)) between next () after changed) :
    Completes ((file :: rest).forM (writeFile directory)) told tree () after changed :=
  first.bind others

theorem wrote_of_completes {directory : String} {files : List GeneratedFile}
    (done : Completes (files.forM (writeFile directory)) told tree () after changed) :
    Wrote directory files tree changed := by
  induction files generalizing told tree with
  | nil =>
    cases done
    exact ⟨KeepsDirectories.refl _, fun present _ => present, fun member => nomatch member⟩
  | cons file rest ih =>
    obtain ⟨_, _, next, first, done⟩ := Completes.of_bind done
    obtain ⟨prepared, kept, written⟩ := exists_write_of_writeFile first
    exact Wrote.cons kept written (ih done)

/-! ## What can be read -/

/-- Whether all of some files can be read below a directory with their own texts. -/
def AllKept (directory : String) (files : List GeneratedFile) (tree : FileTree) : Prop :=
  ∀ file ∈ files, tree.read (Path.join directory file.path) = .ok file.content

section Reading

variable {directory : String} {files : List GeneratedFile} {file : GeneratedFile}

/-- The text that is read of a file is that of the last file whose path leads to the same place. -/
theorem Wrote.read_last (wrote : Wrote directory files tree changed) (member : file ∈ files) :
    ∃ location last, changed.locate (Path.join directory file.path) = .ok location ∧
      LastAt changed directory location files last ∧
      changed.read (Path.join directory file.path) = .ok last.content := by
  obtain ⟨location, last, located, noSlash, isLast, found⟩ := wrote.latest member
  exact ⟨location, last, located, isLast, FileTree.read_of_locate located noSlash found⟩

/-- Every file can be read afterwards exactly when files that lead to one location have the same
content. -/
theorem Wrote.allKept_iff (wrote : Wrote directory files tree changed) :
    AllKept directory files changed ↔
      ∀ first ∈ files, ∀ second ∈ files,
        changed.locate (Path.join directory first.path) =
          changed.locate (Path.join directory second.path) →
        first.content = second.content := by
  constructor
  · intro kept first isFirst second isSecond same
    obtain ⟨place, -, located, noSlash, -⟩ := wrote.latest isFirst
    obtain ⟨other, last, led, plain, -, found⟩ := wrote.latest isSecond
    obtain rfl : place = other := Except.ok.inj (located.symm.trans (same.trans led))
    have readFirst := FileTree.read_of_locate located noSlash found
    have readSecond := FileTree.read_of_locate led plain found
    have text := (kept first isFirst).symm.trans readFirst
    exact Except.ok.inj (text.trans ((kept second isSecond).symm.trans readSecond).symm)
  · intro alike file member
    obtain ⟨location, last, located, ⟨before, after, rfl, led, -⟩, read⟩ := wrote.read_last member
    have isLast : last ∈ before ++ last :: after := List.mem_append_right _ (List.mem_cons_self ..)
    rw [read, alike file member last isLast (located.trans led.symm)]

/-- Files with names of their own in the directory are kept unless one takes the name of another. -/
theorem Wrote.allKept_iff_of_isName (wrote : Wrote directory files tree changed)
    (names : ∀ file ∈ files, FileTree.IsName file.path) :
    AllKept directory files changed ↔
      ∀ first ∈ files, ∀ second ∈ files, first.path = second.path →
        first.content = second.content := by
  rw [wrote.allKept_iff]
  refine forall₂_congr fun first isFirst => forall₂_congr fun second isSecond => ?_
  obtain ⟨place, -, located, -⟩ := wrote.latest isFirst
  refine imp_congr_left ⟨fun same => ?_, fun same => by rw [same]⟩
  exact FileTree.locate_join_inj (names first isFirst) (names second isSecond) located
    (same.symm.trans located)

end Reading

end ProviderCodegen.CommandLine
