import ProviderCodegen.Proofs.CommandLine.Writing
import ProviderCodegen.Proofs.SourceLines
import ProviderCodegen.Proofs.Spec.RoundTrip

/-! # Files that are written and stay

A run makes one file for each resource. Nothing keeps two resources from having one name, or names
whose paths lead to one place, and then only the file that is written last stays.
-/

namespace ProviderCodegen

open CommandLine (AllKept Completes LastAt Transcript exists_completes_writeFile
  wrote_of_completes writeFile)
open FileTree (IsName)
open Schema (ResourceSchema)

variable {spec : Specification} {options : GenerateOptions} {resource : Spec.Resource}
  {file : GeneratedFile} {files : List GeneratedFile}

/-! ## Paths -/

/-- The path depends on the name alone and not on the options. -/
theorem path_of_generateResource (made : generateResource resource options = .ok file) :
    file.path = resource.name ++ "_resource_gen.go" := by
  obtain ⟨schema, -, rfl⟩ := generateResource_eq_ok_iff.mp made
  rfl

/-- Each resource has its file, in the order of the resources. -/
theorem generated_for_each (generated : generate spec options = .ok files) :
    List.Forall₂ (fun resource file => generateResource resource options = .ok file ∧
      file.path = resource.name ++ "_resource_gen.go") spec.resources files :=
  (mapM_eq_ok generated).imp fun _ _ made => ⟨made, path_of_generateResource made⟩

theorem paths_of_generate (generated : generate spec options = .ok files) :
    files.map (·.path) = (spec.resources.map (·.name)).map (· ++ "_resource_gen.go") := by
  have each := generated_for_each generated
  clear generated
  generalize spec.resources = resources at each
  induction each with
  | nil => rfl
  | cons ofFirst _ ih => rw [List.map_cons, List.map_cons, List.map_cons, ih, ofFirst.2]

/-- Paths clash exactly when names do. -/
theorem nodup_paths_iff (generated : generate spec options = .ok files) :
    (files.map (·.path)).Nodup ↔ (spec.resources.map (·.name)).Nodup := by
  have injective : Function.Injective (· ++ "_resource_gen.go" : String → String) := by
    intro first second same
    have chars := congrArg String.toList same
    simp only [String.toList_append] at chars
    exact String.toList_injective (List.append_cancel_right chars)
  rw [paths_of_generate generated, List.nodup_map_iff injective]

/-- The path of a file is a name if the name of the resource has no slash. -/
theorem isName_of_plain {name : String} (plain : '/' ∉ name.toList) :
    IsName (name ++ "_resource_gen.go") := by
  have last : (name ++ "_resource_gen.go").toList.getLast? = some 'o' := by
    rw [String.toList_append, List.getLast?_append_of_ne_nil _ (by decide)]
    rfl
  have differs (other : String) (ends : other.toList.getLast? ≠ some 'o') :
      name ++ "_resource_gen.go" ≠ other := by
    rintro rfl
    exact ends last
  refine ⟨?_, differs "" (by decide), differs "." (by decide), differs ".." (by decide)⟩
  rw [String.toList_append, List.mem_append, not_or]
  exact ⟨plain, by decide⟩

/-- Nothing but resources has a file. -/
theorem exists_resource_of_mem (generated : generate spec options = .ok files)
    (member : file ∈ files) :
    ∃ resource ∈ spec.resources, file.path = resource.name ++ "_resource_gen.go" := by
  have path : file.path ∈ files.map (·.path) := List.mem_map_of_mem member
  rw [paths_of_generate generated, List.map_map] at path
  obtain ⟨resource, isResource, same⟩ := List.mem_map.mp path
  exact ⟨resource, isResource, same.symm⟩

/-! ## Texts -/

/-- A run that succeeds makes one file for each resource, in their order, and no two of them have
the same path exactly when no two resources have the same name. When these files have been written,
what is read of each is the text of the last one whose path leads to the same place. So each has its
own text exactly when no two with different texts lead to one place. If no name has a slash, these
are the files of resources with the same name, and each file has its own text if no name occurs
twice. -/
theorem generate_written (generated : generate spec options = .ok files) :
    List.Forall₂ (fun resource file => generateResource resource options = .ok file ∧
      file.path = resource.name ++ "_resource_gen.go") spec.resources files ∧
    ((files.map (·.path)).Nodup ↔ (spec.resources.map (·.name)).Nodup) ∧
    ∀ {directory : String} {told after : Transcript} {tree changed : FileTree},
      Completes (files.forM (writeFile directory)) told tree () after changed →
      (∀ file ∈ files, ∃ location last,
        changed.locate (Path.join directory file.path) = .ok location ∧
          LastAt changed directory location files last ∧
          changed.read (Path.join directory file.path) = .ok last.content) ∧
      (AllKept directory files changed ↔ ∀ first ∈ files, ∀ second ∈ files,
        changed.locate (Path.join directory first.path) =
          changed.locate (Path.join directory second.path) → first.content = second.content) ∧
      ((∀ resource ∈ spec.resources, '/' ∉ resource.name.toList) →
        (AllKept directory files changed ↔ ∀ first ∈ files, ∀ second ∈ files,
          first.path = second.path → first.content = second.content) ∧
        ((spec.resources.map (·.name)).Nodup → AllKept directory files changed)) := by
  refine ⟨generated_for_each generated, nodup_paths_iff generated, fun done => ?_⟩
  have wrote := wrote_of_completes done
  refine ⟨fun file member => wrote.read_last member, wrote.allKept_iff, fun plain => ?_⟩
  have names : ∀ file ∈ files, IsName file.path := by
    intro file member
    obtain ⟨resource, isResource, path⟩ := exists_resource_of_mem generated member
    rw [path]
    exact isName_of_plain (plain resource isResource)
  have kept := wrote.allKept_iff_of_isName names
  refine ⟨kept, fun distinct => kept.mpr fun first isFirst second isSecond same => ?_⟩
  have paths := (nodup_paths_iff generated).mpr distinct
  rw [List.inj_on_of_nodup_map paths isFirst isSecond same]

/-! ## Two resources -/

def outputTree (files : List (String × String)) : FileTree where
  entries := files.map (fun (name, text) => (["out", name], .file text)) ++ [(["out"], .directory)]

/-- Two files are written into a directory that is made for them. -/
private theorem completes_two {one other first second : String}
    (firstIn : Path.parent? (Path.join "out" one) = some "out")
    (secondIn : Path.parent? (Path.join "out" other) = some "out")
    (written : (outputTree []).write (Path.join "out" one) first = .ok (outputTree [(one, first)]))
    {changed : FileTree}
    (again : (outputTree [(one, first)]).write (Path.join "out" other) second = .ok changed) :
    ∃ after, Completes ([⟨one, first⟩, ⟨other, second⟩].forM (writeFile "out")) {} {} () after
      changed := by
  have made : (FileStore.makeDirectories "out" : StateM FileTree _).run {} =
      (.ok (), outputTree []) := rfl
  have present : (FileStore.makeDirectories "out" : StateM FileTree _).run
      (outputTree [(one, first)]) = (.ok (), outputTree [(one, first)]) := rfl
  obtain ⟨between, wroteFirst⟩ := exists_completes_writeFile ⟨one, first⟩ firstIn made written {}
  obtain ⟨after, wroteSecond⟩ :=
    exists_completes_writeFile ⟨other, second⟩ secondIn present again between
  exact ⟨after, wroteFirst.cons (wroteSecond.cons rfl)⟩

/-- Two resources of different names. -/
def pairSpec : Specification where
  version := "0.1"
  resources := [{ name := "alpha", schema := {} }, { name := "beta", schema := {} }]

private theorem completes_pair (first second : String) :
    ∃ after, Completes
      ([⟨"alpha_resource_gen.go", first⟩, ⟨"beta_resource_gen.go", second⟩].forM (writeFile "out"))
      {} {} () after
      (outputTree [("beta_resource_gen.go", second), ("alpha_resource_gen.go", first)]) :=
  completes_two (by decide) (by decide) rfl rfl

/-- Two resources with different names are written to an empty tree. -/
theorem pairSpec_kept :
    ∃ files after changed, generate pairSpec {} = .ok files ∧
      Completes (files.forM (writeFile "out")) {} {} () after changed ∧
      (files.map (·.path)).Nodup ∧ AllKept "out" files changed := by
  have generated : generate pairSpec {} =
    .ok [⟨"alpha_resource_gen.go", _⟩, ⟨"beta_resource_gen.go", _⟩] := rfl
  obtain ⟨after, done⟩ := completes_pair _ _
  obtain ⟨-, paths, written⟩ := generate_written generated
  obtain ⟨-, -, named⟩ := written done
  exact ⟨_, after, _, generated, done, paths.mpr (by decide), (named (by decide)).2 (by decide)⟩

/-- A file ends with its last part. -/
private theorem suffix_fileText (package : String) (imports : List Source.Import)
    (parts : List String) (last : String) :
    (last ++ "\n").toList <:+ (fileText package imports (parts ++ [last])).toList := by
  have split : fileText package imports (parts ++ [last]) =
      fileText package imports parts ++ "\n" ++ (last ++ "\n") := by
    rw [fileText, fileText, fileLines, fileLines, List.flatMap_append, List.flatMap_singleton,
      ← List.append_assoc, endedLines, List.map_append, String.join_append, endedLines]
    simp only [List.map_cons, List.map_nil, String.join_cons, String.join_nil, String.append_empty,
      String.empty_append, String.append_assoc]
  rw [split]
  exact ⟨_, (String.toList_append).symm⟩

/-- The file of a resource ends with the model if nothing comes after it. -/
private theorem exists_file_of_sections (resource : Spec.Resource) (model : String)
    {schema : ResourceSchema} (built : ResourceSchema.build resource.schema = .ok schema)
    (parts : sections schema resource.name {} = [schema.function resource.name] ++ [model]) :
    ∃ content, (model ++ "\n").toList <:+ content.toList ∧
      generateResource resource {} = .ok ⟨resource.name ++ "_resource_gen.go", content⟩ := by
  refine ⟨_, ?_, generateResource_eq_ok_iff.mpr ⟨schema, built, rfl⟩⟩
  rw [parts]
  exact suffix_fileText ..

/-- Two resources of one name. -/
def twinSpec : Specification where
  version := "0.1"
  resources := [thingResource, { name := "thing", schema := {} }]

private theorem completes_twins (first second : String) :
    ∃ after, Completes
      ([⟨"thing_resource_gen.go", first⟩, ⟨"thing_resource_gen.go", second⟩].forM (writeFile "out"))
      {} {} () after (outputTree [("thing_resource_gen.go", second)]) :=
  completes_two (by decide) (by decide) rfl rfl

/-- The files of the two resources differ in the models at their ends. -/
private theorem generate_twins :
    ∃ first second, first ≠ second ∧ generate twinSpec {} =
      .ok [⟨"thing_resource_gen.go", first⟩, ⟨"thing_resource_gen.go", second⟩] := by
  obtain ⟨first, withField, ofFirst⟩ := exists_file_of_sections thingResource
    "type ThingModel struct \x7b\n\tId types.String \x60tfsdk:\"id\"\x60\n\x7d" rfl
    (by decide +kernel)
  obtain ⟨second, empty, ofSecond⟩ := exists_file_of_sections { name := "thing", schema := {} }
    "type ThingModel struct \x7b\n\x7d" rfl (by decide +kernel)
  refine ⟨first, second, ?_, ?_⟩
  · rintro rfl
    exact absurd (List.suffix_of_suffix_length_le empty withField (by decide)) (by decide)
  · have resources : twinSpec.resources = [thingResource, { name := "thing", schema := {} }] := rfl
    rw [generate, resources, List.mapM_cons, ofFirst, List.mapM_cons, ofSecond]
    rfl

/-- A specification with two resources of one name is accepted and generated, and the file of the
first is lost when both have been written. -/
theorem twinSpec_overwritten :
    Specification.parse .json twinSpec.toJson = .ok twinSpec ∧
      ∃ files after changed, generate twinSpec {} = .ok files ∧
      Completes (files.forM (writeFile "out")) {} {} () after changed ∧
      ¬ (files.map (·.path)).Nodup ∧ ¬ AllKept "out" files changed := by
  have checked : twinSpec.check = .ok () := rfl
  have parsed := Specification.parse_toJson_of_check checked (by decide) rfl
  have repeated : ¬ ["thing_resource_gen.go", "thing_resource_gen.go"].Nodup := by decide
  obtain ⟨first, second, differ, generated⟩ := generate_twins
  obtain ⟨after, done⟩ := completes_twins first second
  refine ⟨parsed, _, after, _, generated, done, repeated, fun kept => differ ?_⟩
  have readFirst := kept _ (List.mem_cons_self ..)
  have readSecond := kept _ (List.mem_cons_of_mem _ (List.mem_cons_self ..))
  exact Except.ok.inj (readFirst.symm.trans readSecond)

end ProviderCodegen
