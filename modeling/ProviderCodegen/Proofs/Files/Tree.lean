import ProviderCodegen.Files.Tree
import ProviderCodegen.Proofs.Schema.Build

/-! # What a file tree keeps

No operation on a file tree takes a directory away or puts a file in its place. So a path that leads
to a location leads there for good, and what is at the location changes only when the location is
written to.
-/

namespace ProviderCodegen.FileTree

open Schema (bind_eq_ok)

variable {tree next changed : FileTree} {location other place : Location} {entry : FileEntry}
  {path name text : String}

/-! ## Entries -/

/-- The root is a directory in every tree. -/
@[simp] theorem find?_root (tree : FileTree) : tree.find? [] = some .directory := rfl

theorem find?_eq_lookup (below : location ≠ []) :
    tree.find? location = tree.entries.lookup location := by
  rw [find?, if_neg (by rwa [List.isEmpty_iff])]

private theorem lookup_filter_of_ne (apart : other ≠ location)
    (entries : List (Location × FileEntry)) :
    (entries.filter (·.1 ≠ location)).lookup other = entries.lookup other := by
  induction entries with
  | nil => rfl
  | cons first rest ih =>
    obtain ⟨key, entry⟩ := first
    by_cases dropped : key = location
    · have elsewhere : (other == key) = false := beq_eq_false_iff_ne.mpr (dropped ▸ apart)
      rw [List.filter_cons_of_neg (by simpa using dropped), ih, List.lookup_cons, elsewhere]
    · rw [List.filter_cons_of_pos (by simpa using dropped), List.lookup_cons, List.lookup_cons, ih]

theorem find?_put_self (below : location ≠ []) :
    (tree.put location entry).find? location = some entry := by
  rw [find?_eq_lookup below, put, List.lookup_cons_self]

theorem find?_put_of_ne (apart : other ≠ location) :
    (tree.put location entry).find? other = tree.find? other := by
  by_cases root : other = []
  · rw [root, find?_root, find?_root]
  · rw [find?_eq_lookup root, find?_eq_lookup root, put, List.lookup_cons,
      beq_eq_false_iff_ne.mpr apart]
    exact lookup_filter_of_ne apart tree.entries

/-! ## Directories stay -/

/-- Whether the directories of a tree are in another one, which is seen from the same place. -/
structure KeepsDirectories (tree changed : FileTree) : Prop where
  current : changed.current = tree.current
  directory : ∀ {location}, tree.find? location = some .directory →
    changed.find? location = some .directory

/-- Whether all that is in a tree is in another one, which is seen from the same place. -/
structure KeepsEntries (tree changed : FileTree) : Prop where
  current : changed.current = tree.current
  entry : ∀ {location entry}, tree.find? location = some entry → changed.find? location = some entry

theorem KeepsEntries.directories (kept : KeepsEntries tree changed) :
    KeepsDirectories tree changed :=
  ⟨kept.current, kept.entry⟩

theorem KeepsEntries.refl (tree : FileTree) : KeepsEntries tree tree :=
  ⟨rfl, id⟩

theorem KeepsEntries.trans (first : KeepsEntries tree next) (second : KeepsEntries next changed) :
    KeepsEntries tree changed :=
  ⟨second.current.trans first.current, fun found => second.entry (first.entry found)⟩

theorem KeepsDirectories.refl (tree : FileTree) : KeepsDirectories tree tree :=
  (KeepsEntries.refl tree).directories

theorem KeepsDirectories.trans (first : KeepsDirectories tree next)
    (second : KeepsDirectories next changed) : KeepsDirectories tree changed :=
  ⟨second.current.trans first.current, fun found => second.directory (first.directory found)⟩

/-- A directory may appear where there was nothing. -/
theorem keepsEntries_put (free : tree.find? location = none) :
    KeepsEntries tree (tree.put location entry) := by
  refine ⟨rfl, fun {other found} present => ?_⟩
  have apart : other ≠ location := by
    rintro rfl
    exact absurd (free.symm.trans present) nofun
  rwa [find?_put_of_ne apart]

/-- A file may take any place but that of a directory. -/
theorem keepsDirectories_put (noDirectory : tree.find? location ≠ some .directory) :
    KeepsDirectories tree (tree.put location entry) := by
  refine ⟨rfl, fun {other} present => ?_⟩
  have apart : other ≠ location := by
    rintro rfl
    exact noDirectory present
  rwa [find?_put_of_ne apart]

/-! ## Paths lead to where they led -/

/-- A step goes on only into a directory that exists. -/
theorem enter_eq_ok :
    tree.enter location name = .ok place ↔
      step location name = .ok place ∧ tree.find? place = some .directory := by
  rw [enter, bind_eq_ok]
  constructor
  · rintro ⟨reached, stepped, entered⟩
    split at entered
    · cases entered
    · cases entered
    · cases entered
      exact ⟨stepped, ‹_›⟩
  · rintro ⟨stepped, directory⟩
    exact ⟨place, stepped, by rw [directory]⟩

/-- A walk that succeeds goes the same way in a tree with more directories. -/
theorem KeepsDirectories.foldlM_enter (kept : KeepsDirectories tree changed) {names : List String}
    (walked : names.foldlM tree.enter location = .ok place) :
    names.foldlM changed.enter location = .ok place := by
  induction names generalizing location with
  | nil => exact walked
  | cons name rest ih =>
    rw [List.foldlM_cons, bind_eq_ok] at walked ⊢
    obtain ⟨reached, entered, walked⟩ := walked
    obtain ⟨stepped, directory⟩ := enter_eq_ok.mp entered
    exact ⟨reached, enter_eq_ok.mpr ⟨stepped, kept.directory directory⟩, ih walked⟩

def names (path : String) : List String :=
  (Path.parts path).filter (!·.isEmpty)

def start (tree : FileTree) (path : String) : Location :=
  if Path.isAbsolute path then [] else tree.current

/-- Whether a path is one that a file system looks up. -/
def Proper (path : String) : Prop :=
  path.isEmpty = false ∧ path.toList.contains '\x00' = false ∧ path.utf8ByteSize ≤ pathLimit

/-- Where the last of some names leads from a directory; no names lead to where they start. -/
def arrive (start directory : Location) (names : List String) : Except FileError Location :=
  match names.getLast? with
  | none => .ok start
  | some name => step directory name

/-- All names but the last are walked through, so only the last one may be missing. -/
theorem locate_eq_ok :
    tree.locate path = .ok location ↔
      Proper path ∧ ∃ directory,
        (names path).dropLast.foldlM tree.enter (tree.start path) = .ok directory ∧
          arrive (tree.start path) directory (names path) = .ok location := by
  rw [locate]
  by_cases empty : path.isEmpty
  · rw [if_pos empty]
    exact iff_of_false nofun fun ⟨⟨nonempty, _⟩, _⟩ => absurd (empty.symm.trans nonempty) nofun
  by_cases zero : path.toList.contains '\x00'
  · rw [if_neg empty, if_pos zero]
    exact iff_of_false nofun fun ⟨⟨_, noZero, _⟩, _⟩ => absurd (zero.symm.trans noZero) nofun
  by_cases long : pathLimit < path.utf8ByteSize
  · rw [if_neg empty, if_neg zero, if_pos long]
    exact iff_of_false nofun fun ⟨⟨_, _, short⟩, _⟩ => absurd long (Nat.not_lt.mpr short)
  · rw [if_neg empty, if_neg zero, if_neg long]
    have proper : Proper path :=
      ⟨Bool.eq_false_iff.mpr empty, Bool.eq_false_iff.mpr zero, Nat.not_lt.mp long⟩
    exact bind_eq_ok.trans (and_iff_right proper).symm

/-- A path keeps its location as long as the directories on its way stay. -/
theorem KeepsDirectories.locate (kept : KeepsDirectories tree changed)
    (located : tree.locate path = .ok location) : changed.locate path = .ok location := by
  have starts : changed.start path = tree.start path := by rw [start, start, kept.current]
  obtain ⟨proper, directory, walked, arrived⟩ := locate_eq_ok.mp located
  rw [locate_eq_ok, starts]
  exact ⟨proper, directory, kept.foldlM_enter walked, arrived⟩

/-! ## Names below a directory -/

theorem parts_append_slash (front back : String) :
    Path.parts (front ++ "/" ++ back) = Path.parts front ++ Path.parts back := by
  have split : (front ++ "/" ++ back).toList = front.toList ++ '/' :: back.toList := by
    simp only [String.toList_append, List.append_assoc]
    rfl
  rw [Path.parts, split, List.splitOn_append_cons_self, List.map_append]
  rfl

theorem parts_of_plain (plain : '/' ∉ name.toList) : Path.parts name = [name] := by
  rw [Path.parts, List.splitOn_eq_singleton plain, List.map_singleton, String.ofList_toList]

/-- Empty parts are no names, so it does not matter how many slashes are between two paths. -/
theorem names_append_slash (front back : String) :
    names (front ++ "/" ++ back) = names front ++ names back := by
  rw [names, parts_append_slash, List.filter_append]
  rfl

theorem names_of_plain (plain : '/' ∉ name.toList) (nonempty : name ≠ "") :
    names name = [name] := by
  rw [names, parts_of_plain plain]
  exact List.filter_eq_self.mpr (by simpa using nonempty)

theorem exists_of_endsWithSlash (ends : Path.endsWithSlash path) :
    ∃ front, path = front ++ "/" := by
  obtain ⟨front, split⟩ := List.getLast?_eq_some_iff.mp (of_decide_eq_true ends)
  refine ⟨String.ofList front, String.toList_injective ?_⟩
  rw [split, String.toList_append, String.toList_ofList]
  rfl

theorem isAbsolute_append {front : String} (nonempty : front ≠ "") (back : String) :
    Path.isAbsolute (front ++ back) = Path.isAbsolute front := by
  have chars : front.toList ≠ [] := fun none => nonempty (String.toList_eq_nil_iff.mp none)
  rw [Path.isAbsolute, Path.isAbsolute, String.toList_append, List.head?_append_of_ne_nil _ chars]

theorem isAbsolute_of_plain (plain : '/' ∉ name.toList) : Path.isAbsolute name = false :=
  decide_eq_false fun first => plain (List.mem_of_head? first)

/-- Whether a path is a name of something in a directory. -/
structure IsName (name : String) : Prop where
  plain : '/' ∉ name.toList
  nonempty : name ≠ ""
  notHere : name ≠ "."
  notAbove : name ≠ ".."

/-- A relative name below a directory is reached from where the directory is reached. -/
theorem start_join (tree : FileTree) (isName : IsName name) (directory : String) :
    tree.start (Path.join directory name) = tree.start directory := by
  have relative := isAbsolute_of_plain isName.plain
  have same : Path.isAbsolute (Path.join directory name) = Path.isAbsolute directory := by
    rw [Path.join, if_neg (by rw [relative]; exact Bool.false_ne_true)]
    by_cases empty : directory = ""
    · subst empty
      rwa [if_pos (by decide), String.empty_append]
    · split_ifs
      · exact isAbsolute_append empty name
      · rw [String.append_assoc]
        exact isAbsolute_append empty _
  rw [start, start, same]

/-- Joining adds one step, whether or not the directory ends in a slash. -/
theorem names_join (isName : IsName name) (directory : String) :
    names (Path.join directory name) = names directory ++ [name] := by
  have alone := names_of_plain isName.plain isName.nonempty
  have relative := isAbsolute_of_plain isName.plain
  rw [Path.join, if_neg (by rw [relative]; exact Bool.false_ne_true)]
  split_ifs with attached
  · rcases Bool.or_eq_true _ _ ▸ attached with empty | ends
    · obtain rfl : directory = "" := String.isEmpty_iff.mp empty
      rw [String.empty_append, alone]
      rfl
    · obtain ⟨front, rfl⟩ := exists_of_endsWithSlash ends
      have bare : names (front ++ "/") = names front := by
        have split := names_append_slash front ""
        rwa [String.append_empty, show names "" = [] from rfl, List.append_nil] at split
      rw [names_append_slash, bare, alone]
  · rw [names_append_slash, alone]

/-- A name in a directory leads to the location of that name below the directory. -/
theorem exists_place_of_locate_join (isName : IsName name) {directory : String}
    (located : tree.locate (Path.join directory name) = .ok location) :
    ∃ place, (names directory).foldlM tree.enter (tree.start directory) = .ok place ∧
      location = place ++ [name] := by
  obtain ⟨-, place, walked, arrived⟩ := locate_eq_ok.mp located
  rw [start_join tree isName, names_join isName, List.dropLast_concat] at walked
  refine ⟨place, walked, ?_⟩
  rw [arrive, names_join isName, List.getLast?_concat] at arrived
  simp only [step, beq_iff_eq, isName.notHere, isName.notAbove, if_false] at arrived
  split_ifs at arrived
  exact (Except.ok.inj arrived).symm

/-- Different names in a directory lead to different locations. -/
theorem locate_join_inj {first second directory : String} (isFirst : IsName first)
    (isSecond : IsName second)
    (located : tree.locate (Path.join directory first) = .ok location)
    (same : tree.locate (Path.join directory second) = .ok location) : first = second := by
  obtain ⟨place, walked, rfl⟩ := exists_place_of_locate_join isFirst located
  obtain ⟨other, again, joined⟩ := exists_place_of_locate_join isSecond same
  obtain rfl : place = other := Except.ok.inj (walked.symm.trans again)
  exact List.singleton_inj.mp (List.append_cancel_left joined)

/-! ## Operations -/

/-- A directory is put only where nothing has been, so no entry is lost. -/
theorem makeDirectory_keeps (made : tree.makeDirectory path = .ok changed) :
    KeepsEntries tree changed := by
  obtain ⟨location, -, made⟩ := bind_eq_ok.mp made
  split at made
  · cases made
    exact keepsEntries_put ‹_›
  · cases made

/-- A text is written where the path leads, unless a directory is there. -/
theorem write_eq_ok :
    tree.write path text = .ok changed ↔
      ∃ location, tree.locate path = .ok location ∧ Path.endsWithSlash path = false ∧
        tree.find? location ≠ some .directory ∧ changed = tree.put location (.file text) := by
  rw [write, bind_eq_ok]
  refine exists_congr fun location => and_congr_right fun _ => ?_
  split_ifs with refused
  · simp only [Bool.or_eq_true, decide_eq_true_eq] at refused
    refine iff_of_false nofun ?_
    rintro ⟨noSlash, noDirectory, -⟩
    rcases refused with slash | directory
    · exact absurd slash (by rw [noSlash]; exact Bool.false_ne_true)
    · exact noDirectory directory
  · simp only [Bool.or_eq_true, decide_eq_true_eq, not_or, Bool.not_eq_true] at refused
    simp only [Except.ok.injEq, refused.1, refused.2, ne_eq, not_false_eq_true, true_and, eq_comm]

/-- What a path without a slash at its end leads to can be read if it is a file. -/
theorem read_of_locate (located : tree.locate path = .ok location)
    (noSlash : Path.endsWithSlash path = false)
    (found : tree.find? location = some (.file text)) : tree.read path = .ok text := by
  have entry : tree.entryAt path = .ok (.file text) := by
    refine bind_eq_ok.mpr ⟨location, located, ?_⟩
    rw [found]
    exact if_neg (by rw [noSlash]; exact Bool.false_ne_true)
  exact bind_eq_ok.mpr ⟨_, entry, rfl⟩

/-- A change that is not refused is made. -/
theorem run_change_of_ok {f : FileTree → Except FileError FileTree} (made : f tree = .ok changed) :
    ((change f).run tree : Except FileError Unit × FileTree) = (.ok (), changed) := by
  rw [StateT.run, change, made]

/-- A change that is refused leaves the tree as it is. -/
theorem run_change_of_error {f : FileTree → Except FileError FileTree} {e : FileError}
    (refused : f tree = .error e) :
    ((change f).run tree : Except FileError Unit × FileTree) = (.error e, tree) := by
  rw [StateT.run, change, refused]

end ProviderCodegen.FileTree
