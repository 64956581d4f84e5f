import ProviderCodegen.Generate
import ProviderCodegen.Proofs.Schema.Build
import ProviderCodegen.Proofs.Schema.Imports
import ProviderCodegen.Proofs.Source.ImportSet
import ProviderCodegen.Proofs.Source.Mention

/-! # The import block of a file

The import block of a file is exact: it lists, by path, those imports of the schema that some part
of the file uses. The file is searched as one text, which by `isReferenced_intercalate` finds what a
search of every part on its own finds. So a file with fewer parts has no import that a file with
more parts has not.
-/

namespace ProviderCodegen

open Source (Import ImportSet Line enclosed line paragraphs renderLines spaced)
open Schema (ResourceSchema)

/-- The imports of the file of a resource, in the order of their lines. -/
def importBlock (schema : ResourceSchema) (name : String) (options : GenerateOptions) :
    List Import :=
  (usedImports schema (sections schema name options)).sorted

/-- The lines of a file from those between the parentheses of its import block and its parts. -/
def fileLines (package : String) (block parts : List String) : List String :=
  ["// Code generated by tfcg. DO NOT EDIT.", "", "package " ++ package, "", "import ("] ++
    block ++ [")"] ++ parts.flatMap fun part => ["", part]

def endedLines (lines : List String) : String :=
  String.join (lines.map (· ++ "\n"))

def blockLines (imports : List Import) : List String :=
  imports.map fun i => "\t" ++ i.line

/-- The text of a file from its imports and its parts. -/
def fileText (package : String) (imports : List Import) (parts : List String) : String :=
  endedLines (fileLines package (blockLines imports) parts)

/-- What Go has for an import on a line of a block: the quoted path, behind the name that the file
gives the package, if it gives one. -/
inductive ImportLine : Import → String → Prop
  | ownName (path : String) : ImportLine { path } ("\t\"" ++ path ++ "\"")
  | localName (path name : String) :
      ImportLine { path, localName := some name } ("\t" ++ name ++ " \"" ++ path ++ "\"")

/-- Whether a text is that of a file with some imports, the lines of its block being `lines`. -/
structure WrittenFile (content package : String) (imports : List Import)
    (parts lines : List String) : Prop where
  text : content = endedLines (fileLines package lines parts)
  /-- There is a line for each import, in their order, and no other. -/
  imported : List.Forall₂ ImportLine imports lines

/-! ## The lines of a file -/

/-- The line of an import, with a name of its own for the package and without. -/
theorem importLine_line (i : Import) : ImportLine i ("\t" ++ i.line) := by
  obtain ⟨path, localName⟩ := i
  cases localName with
  | none =>
    have text : "\t" ++ ({ path } : Import).line = "\t\"" ++ path ++ "\"" := by
      simp only [Import.line, ← String.append_assoc]
      rfl
    exact text ▸ .ownName path
  | some name =>
    have text : "\t" ++ ({ path, localName := some name } : Import).line =
        "\t" ++ name ++ " \"" ++ path ++ "\"" := by
      simp only [Import.line, String.append_assoc]
    exact text ▸ .localName path name

/-- The lines of the block are those of the imports, in their order. -/
theorem writtenFile_fileText (package : String) (imports : List Import) (parts : List String) :
    WrittenFile (fileText package imports parts) package imports parts (blockLines imports) := by
  refine ⟨rfl, ?_⟩
  rw [blockLines, List.forall₂_map_right_iff]
  exact List.forall₂_same.mpr fun i _ => importLine_line i

/-- Every import of a file has its line. -/
theorem WrittenFile.exists_line {content package : String} {imports : List Import}
    {parts lines : List String} (written : WrittenFile content package imports parts lines)
    {i : Import} (member : i ∈ imports) : ∃ line ∈ lines, ImportLine i line := by
  obtain ⟨place, inside, rfl⟩ := List.getElem_of_mem member
  have same := written.imported.length_eq
  exact ⟨_, List.getElem_mem (same ▸ inside), written.imported.get inside (same ▸ inside)⟩

private theorem intercalate_append_newline {lines : List String} (nonempty : lines ≠ []) :
    "\n".intercalate lines ++ "\n" = String.join (lines.map (· ++ "\n")) := by
  induction lines with
  | nil => exact absurd rfl nonempty
  | cons first rest ih =>
    cases rest with
    | nil => simp only [String.intercalate_singleton, List.map_cons, List.map_nil, String.join_cons,
        String.join_nil, String.append_empty]
    | cons second rest =>
      rw [String.intercalate_cons_cons, List.map_cons, String.join_cons, ← ih (List.cons_ne_nil _ _)]
      simp only [String.append_assoc]

private theorem render_blank : Line.blank.render = "" := rfl

private theorem render_line (text : String) : (line text).render = text :=
  String.empty_append

private theorem render_indent (text : String) : (line text).indent.render = "\t" ++ text := rfl

private theorem render_sourceFile (package : String) (imports parts : List String) :
    (paragraphs ([[line "// Code generated by tfcg. DO NOT EDIT."], [line ("package " ++ package)],
        enclosed "import (" ")" (imports.map line)] ++ parts.map fun part => [line part])).map
      Line.render = fileLines package (imports.map ("\t" ++ ·)) parts := by
  have spacedParts : (spaced (parts.map fun part => [line part])).map Line.render =
      parts.flatMap fun part => ["", part] := by
    rw [spaced, List.flatMap_map, List.map_flatMap]
    exact List.flatMap_congr fun part _ => congrArg (["", ·]) (render_line part)
  have indented : ((imports.map line).map Line.indent).map Line.render =
      imports.map ("\t" ++ ·) := by
    rw [List.map_map, List.map_map]
    exact List.map_congr_left fun text _ => render_indent text
  have whole : paragraphs ([[line "// Code generated by tfcg. DO NOT EDIT."],
        [line ("package " ++ package)], enclosed "import (" ")" (imports.map line)] ++
        parts.map fun part => [line part]) =
      [line "// Code generated by tfcg. DO NOT EDIT.", .blank, line ("package " ++ package), .blank,
        line "import ("] ++ (imports.map line).map Line.indent ++ [line ")"] ++
        spaced (parts.map fun part => [line part]) := by
    simp only [paragraphs, enclosed, spaced, List.cons_append, List.nil_append, List.flatMap_cons,
      List.append_assoc, line]
  rw [whole, List.map_append, spacedParts, List.map_append, List.map_append, indented]
  simp only [List.map_cons, List.map_nil, render_line, render_blank, fileLines]

/-- The imports of a file are sorted before they are written. -/
theorem sourceFile_eq (package : String) (imports : ImportSet) (parts : List String) :
    sourceFile package imports parts = fileText package imports.sorted parts := by
  have block : imports.lines.map ("\t" ++ ·) = blockLines imports.sorted :=
    List.map_map
  rw [sourceFile, renderLines, render_sourceFile, block, fileText, endedLines]
  exact intercalate_append_newline (List.cons_ne_nil _ _)

/-! ## What is imported -/

variable {resource : Spec.Resource} {options fewer : GenerateOptions} {file : GeneratedFile}
  {schema : ResourceSchema} {name : String} {i : Import}

theorem sections_ne_nil : sections schema name options ≠ [] := by
  simp only [sections, List.cons_append]
  exact List.cons_ne_nil _ _

/-- The block has those imports that some part uses. -/
theorem mem_importBlock :
    i ∈ importBlock schema name options ↔
      i ∈ schema.imports.entries ∧ ∃ part ∈ sections schema name options, i.isReferenced part := by
  rw [importBlock, usedImports, ImportSet.mem_sorted,
    ImportSet.entries_referencedIn schema.wellFormed_imports, List.mem_filter,
    Import.isReferenced_intercalate i sections_ne_nil, List.any_eq_true]

theorem wellFormed_usedImports (schema : ResourceSchema) (parts : List String) :
    (usedImports schema parts).WellFormed :=
  ImportSet.wellFormed_ofList _

/-- Strictly ascending, since no path has two entries. -/
theorem importBlock_pairwise (schema : ResourceSchema) (name : String) (options : GenerateOptions) :
    (importBlock schema name options).Pairwise fun i j => i.path < j.path :=
  ImportSet.sorted_pairwise (wellFormed_usedImports ..)

/-- A block is known by its members, since its order is strict. -/
theorem importBlock_eq_iff_mem {second : ResourceSchema} :
    importBlock schema name options = importBlock second name options ↔
      ∀ i, i ∈ importBlock schema name options ↔ i ∈ importBlock second name options := by
  rw [importBlock, importBlock, ImportSet.sorted_eq_sorted_iff (wellFormed_usedImports ..)
    (wellFormed_usedImports ..)]
  simp only [ImportSet.mem_sorted]

/-- Options that ask for less leave parts out and change none. -/
theorem sections_subset (model : fewer.model → options.model)
    (conversions : fewer.conversions → options.conversions) :
    sections schema name fewer ⊆ sections schema name options := by
  intro part member
  simp only [sections, List.mem_append, List.mem_singleton] at member ⊢
  rcases member with ((isFunction | isModel) | isType) | isMethods
  · exact .inl (.inl (.inl isFunction))
  · refine .inl (.inl (.inr ?_))
    split_ifs at isModel with given
    · rwa [if_pos (model given)]
    · exact absurd isModel List.not_mem_nil
  · exact .inl (.inr isType)
  · refine .inr ?_
    split_ifs at isMethods with given
    · rwa [if_pos (conversions given)]
    · exact absurd isMethods List.not_mem_nil

/-- Fewer parts use fewer imports. -/
theorem importBlock_subset (model : fewer.model → options.model)
    (conversions : fewer.conversions → options.conversions) :
    importBlock schema name fewer ⊆ importBlock schema name options := by
  intro i member
  obtain ⟨entry, part, inFewer, used⟩ := mem_importBlock.mp member
  exact mem_importBlock.mpr ⟨entry, part, sections_subset model conversions inFewer, used⟩

/-- A file is made for every resource whose schema can be built. -/
theorem generateResource_eq_ok_iff :
    generateResource resource options = .ok file ↔
      ∃ schema, ResourceSchema.build resource.schema = .ok schema ∧
        file = {
          path := resource.name ++ "_resource_gen.go"
          content := fileText options.package (importBlock schema resource.name options)
            (sections schema resource.name options) } := by
  rw [generateResource, Schema.bind_eq_ok]
  simp only [sourceFile_eq, importBlock, pure, Except.pure, Except.ok.injEq, eq_comm (b := file)]

/-- A file has a line for each import of its block. -/
theorem writtenFile_importBlock (schema : ResourceSchema) (name : String)
    (options : GenerateOptions) :
    ∃ lines, WrittenFile
      (fileText options.package (importBlock schema name options) (sections schema name options))
      options.package (importBlock schema name options) (sections schema name options) lines :=
  ⟨_, writtenFile_fileText ..⟩

/-- The import block of a file is exact. Its lines are those of the imports of the schema that some
part of the file uses on its own, in strictly ascending order of paths. Without the model or the
conversions no import is added, and those that go away were used only by parts that are left out. -/
theorem generateResource_imports (generated : generateResource resource options = .ok file) :
    ∃ schema, ResourceSchema.build resource.schema = .ok schema ∧
      file.content = fileText options.package (importBlock schema resource.name options)
        (sections schema resource.name options) ∧
      (∃ lines, WrittenFile file.content options.package (importBlock schema resource.name options)
        (sections schema resource.name options) lines) ∧
      (importBlock schema resource.name options).Pairwise (fun i j => i.path < j.path) ∧
      (∀ i, i ∈ importBlock schema resource.name options ↔
        i ∈ schema.imports.entries ∧
          ∃ part ∈ sections schema resource.name options, i.isReferenced part) ∧
      ∀ fewer : GenerateOptions, (fewer.model → options.model) →
        (fewer.conversions → options.conversions) →
        ∃ smaller, generateResource resource fewer = .ok smaller ∧
          smaller.content = fileText fewer.package (importBlock schema resource.name fewer)
            (sections schema resource.name fewer) ∧
          (∃ lines, WrittenFile smaller.content fewer.package
            (importBlock schema resource.name fewer) (sections schema resource.name fewer) lines) ∧
          importBlock schema resource.name fewer ⊆ importBlock schema resource.name options ∧
          ∀ i ∈ importBlock schema resource.name options,
            i ∉ importBlock schema resource.name fewer →
            ∀ part ∈ sections schema resource.name options, i.isReferenced part →
              part ∉ sections schema resource.name fewer := by
  obtain ⟨schema, built, rfl⟩ := generateResource_eq_ok_iff.mp generated
  refine ⟨schema, built, rfl, writtenFile_importBlock schema resource.name options,
    importBlock_pairwise .., fun i => mem_importBlock, fun fewer model conversions => ?_⟩
  refine ⟨_, generateResource_eq_ok_iff.mpr ⟨schema, built, rfl⟩, rfl,
    writtenFile_importBlock schema resource.name fewer, importBlock_subset model conversions, ?_⟩
  intro i listed removed part _ used kept
  exact removed (mem_importBlock.mpr ⟨(mem_importBlock.mp listed).1, part, kept, used⟩)

def thingResource : Spec.Resource where
  name := "thing"
  schema := { attributes := [{ name := "id", string := some { facets := {}, default := none } }] }

/-- Without the model some packages may be unused, and no others come in. -/
theorem importBlock_thing_without_model :
    ∃ schema, ResourceSchema.build thingResource.schema = .ok schema ∧
      importBlock schema "thing" { model := false } ⊆ importBlock schema "thing" {} := by
  obtain ⟨schema, built, -, -, -, -, smaller⟩ := generateResource_imports
    (show generateResource thingResource {} = .ok _ from rfl)
  obtain ⟨-, -, -, -, fewer, -⟩ := smaller { model := false } nofun id
  exact ⟨schema, built, fewer⟩

end ProviderCodegen
