import ProviderCodegen.Proofs.FrameworkImports
import ProviderCodegen.Proofs.Schema.Contributions

/-! # Which needed imports a file keeps

The code of a resource may refer to a package by a name that some node imports it under. The import
block has one line for each path, under the name that the first contribution of the path gives. So a
name that the code refers to has a line exactly when it is the name of a first contribution. A path
that two nodes import under different names keeps the first of them only.
-/

namespace ProviderCodegen

open Source (Import ImportSet RefersTo firsts)
open Schema (ResourceSchema)

variable {resource : Spec.Resource} {options : GenerateOptions} {file : GeneratedFile}
  {schema : ResourceSchema} {key name : String} {i : Import}

/-- The code of a file, behind its import block. -/
def body (schema : ResourceSchema) (key : String) (options : GenerateOptions) : String :=
  "\n".intercalate (sections schema key options)

/-- The block has the first contributions that the code uses. -/
theorem mem_importBlock_iff_firsts :
    i ∈ importBlock schema key options ↔
      i ∈ firsts schema.contributions ∧ i.isReferenced (body schema key options) = true := by
  rw [importBlock, usedImports, ImportSet.mem_sorted,
    ImportSet.entries_referencedIn schema.wellFormed_imports, List.mem_filter, schema.imports_eq,
    ImportSet.entries_ofList_eq_firsts, body]

/-- A name that the code refers to has a line when it is the name of a first contribution. -/
theorem exists_line_iff (refers : RefersTo name (body schema key options)) :
    (∃ line ∈ importBlock schema key options, line.packageName = name) ↔
      ∃ first ∈ firsts schema.contributions, first.packageName = name := by
  constructor
  · rintro ⟨line, listed, named⟩
    exact ⟨line, (mem_importBlock_iff_firsts.mp listed).1, named⟩
  · rintro ⟨first, isFirst, rfl⟩
    have used := Import.isReferenced_of_refersTo refers
    exact ⟨first, mem_importBlock_iff_firsts.mpr ⟨isFirst, used⟩, rfl⟩

/-- The first contribution of a path is one of the first contributions. -/
theorem mem_firsts_iff {imports : List Import} :
    i ∈ firsts imports ↔ i.path ≠ "" ∧ imports.find? (·.path == i.path) = some i := by
  rw [← ImportSet.entries_ofList_eq_firsts, ImportSet.mem_entries_ofList_iff]

/-- A needed import keeps its line as long as the first contribution of its path gives the package
the same name. -/
theorem exists_line_of_first {first : Import} (named : i.path ≠ "")
    (isFirst : schema.contributions.find? (·.path == i.path) = some first)
    (same : first.packageName = i.packageName)
    (refers : RefersTo i.packageName (body schema key options)) :
    ∃ line ∈ importBlock schema key options,
      line.path = i.path ∧ line.packageName = i.packageName := by
  have matching := List.find?_some isFirst
  have samePath : first.path = i.path := beq_iff_eq.mp matching
  have kept : first ∈ firsts schema.contributions := by
    rw [mem_firsts_iff, samePath]
    exact ⟨named, isFirst⟩
  have used := Import.isReferenced_of_refersTo (i := first) (same ▸ refers)
  exact ⟨first, mem_importBlock_iff_firsts.mpr ⟨kept, used⟩, samePath, same⟩

/-- No needed import is lost, unless its path is imported before under another name. Every import
that a node contributes, that the code refers to and whose path is first contributed under the same
package name has its line. In general a name that the code refers to has a line exactly when the
first contribution of some path gives this name. -/
theorem generateResource_keepsNeeded (generated : generateResource resource options = .ok file) :
    ∃ schema, ResourceSchema.build resource.schema = .ok schema ∧
      file.content = fileText options.package (importBlock schema resource.name options)
        (sections schema resource.name options) ∧
      ∃ lines, WrittenFile file.content options.package
          (importBlock schema resource.name options) (sections schema resource.name options) lines ∧
        (∀ entry ∈ schema.nodes, ∀ i ∈ entry.2.contributions, i.path ≠ "" →
          RefersTo i.packageName (body schema resource.name options) →
          (∀ first, schema.contributions.find? (·.path == i.path) = some first →
            first.packageName = i.packageName) →
          ∃ kept ∈ importBlock schema resource.name options,
            (kept.path = i.path ∧ kept.packageName = i.packageName) ∧
              ∃ line ∈ lines, ImportLine kept line) ∧
        ∀ name, RefersTo name (body schema resource.name options) →
          ((∃ kept ∈ importBlock schema resource.name options, kept.packageName = name) ↔
            ∃ first ∈ firsts schema.contributions, first.packageName = name) := by
  obtain ⟨schema, built, rfl⟩ := generateResource_eq_ok_iff.mp generated
  obtain ⟨lines, written⟩ := writtenFile_importBlock schema resource.name options
  refine ⟨schema, built, rfl, lines, written,
    fun entry isNode i contributed named refers same => ?_, fun name refers => exists_line_iff refers⟩
  have listed : i ∈ schema.contributions :=
    List.mem_append_left _ (List.mem_flatMap.mpr ⟨entry, isNode, contributed⟩)
  cases found : schema.contributions.find? (·.path == i.path) with
  | none => exact absurd (beq_self_eq_true i.path) (List.find?_eq_none.mp found i listed)
  | some first =>
    obtain ⟨kept, inBlock, names⟩ := exists_line_of_first named found (same first found) refers
    exact ⟨kept, inBlock, names, written.exists_line inBlock⟩

/-- An attribute with a custom type of one package, imported under the given name. -/
def typedAttribute (name package : String) : Spec.Attribute where
  name := name
  string := some {
    facets := {
      requirement := some .optional
      customType := some {
        package := some { path := "example.com/types", localName := some package }
        type := package ++ ".Type"
        valueType := package ++ ".Value" } }
    default := none }

/-- A resource whose two attributes import one path under different names. -/
def aliasedResource : Spec.Resource where
  name := "thing"
  schema := { attributes := [typedAttribute "a" "x", typedAttribute "b" "y"] }

def aliasedSchema : ResourceSchema where
  attributes := [("a", node "x"), ("b", node "y")]
  blocks := []
  description := none
  markdownDescription := none
  deprecationMessage := none
where
  /-- The attribute with a custom type. -/
  node (package : String) : Schema.Attribute :=
    .primitive .string (.ofAttribute {
      requirement := some .optional
      customType := some {
        package := some { path := "example.com/types", localName := some package }
        type := package ++ ".Type"
        valueType := package ++ ".Value" } }) none

private theorem build_aliased : ResourceSchema.build aliasedResource.schema = .ok aliasedSchema := rfl

private theorem aliased_refersTo (options : GenerateOptions) :
    RefersTo "x" (body aliasedSchema "thing" options) ∧
      RefersTo "y" (body aliasedSchema "thing" options) := by
  have inBody {name : String} (entry : String × Schema.Node) (isNode : entry ∈ aliasedSchema.nodes)
      (within : ' ' :: (name.toList ++ ['.']) <:+: (entry.2.declaration entry.1).toList) :
      RefersTo name (body aliasedSchema "thing" options) := by
    have ofFunction : Source.Uses name (aliasedSchema.function "thing") :=
      ResourceSchema.uses_function "thing" entry isNode (Source.uses_of_space within)
    exact (ofFunction.intercalate function_mem_sections "\n").refersTo
  constructor
  · exact inBody ("a", .attr (aliasedSchema.node "x")) (List.mem_cons_self ..) (by decide)
  · exact inBody ("b", .attr (aliasedSchema.node "y"))
      (List.mem_cons_of_mem _ (List.mem_cons_self ..)) (by decide)

/-- The name under which the path is imported first keeps its line. -/
theorem importBlock_keeps_first :
    ∃ kept ∈ importBlock aliasedSchema "thing" {},
      kept.path = "example.com/types" ∧ kept.packageName = "x" := by
  obtain ⟨schema, built, -, lines, -, keeps, -⟩ := generateResource_keepsNeeded
    (show generateResource aliasedResource {} = .ok _ from rfl)
  obtain rfl : aliasedSchema = schema := Except.ok.inj (build_aliased.symm.trans built)
  suffices found : ∃ kept ∈ importBlock aliasedSchema "thing" {},
      (kept.path = "example.com/types" ∧ kept.packageName = "x") ∧
        ∃ line ∈ lines, ImportLine kept line by
    obtain ⟨kept, inBlock, names, -⟩ := found
    exact ⟨kept, inBlock, names⟩
  refine keeps ("a", .attr (aliasedSchema.node "x")) (List.mem_cons_self ..)
    { path := "example.com/types", localName := some "x" } (List.mem_cons_self ..) (by decide)
    (aliased_refersTo {}).1 fun first found => ?_
  cases found
  rfl

/-- An import that the code needs has no line when its path is imported before under another name. -/
theorem importBlock_loses_alias :
    ¬ ∀ (resource : Spec.Resource) (options : GenerateOptions) (file : GeneratedFile),
      generateResource resource options = .ok file →
      ∃ schema, ResourceSchema.build resource.schema = .ok schema ∧
        ∀ entry ∈ schema.nodes, ∀ i ∈ entry.2.contributions, i.packageName ≠ "" →
          i.packageName.toList.all Source.isIdentifierChar →
          RefersTo i.packageName (body schema resource.name options) →
          ∃ line ∈ importBlock schema resource.name options, line.packageName = i.packageName := by
  intro always
  obtain ⟨schema, built, keeps⟩ := always aliasedResource {} _ rfl
  obtain rfl : aliasedSchema = schema := Except.ok.inj (build_aliased.symm.trans built)
  obtain ⟨line, listed, named⟩ := keeps ("b", .attr (aliasedSchema.node "y"))
    (List.mem_cons_of_mem _ (List.mem_cons_self ..))
    { path := "example.com/types", localName := some "y" } (List.mem_cons_self ..)
    (by decide) (by decide) (aliased_refersTo {}).2
  have entries : ∀ i ∈ aliasedSchema.imports.entries, i.packageName ≠ "y" := by decide
  exact entries line (mem_importBlock.mp listed).1 named

end ProviderCodegen
