import ProviderCodegen.Datum.Reading
import ProviderCodegen.Generate

/-! # Project configuration

The configuration of a project names the specification, the output directory and the parts of each
generated file. Whatever it leaves out has a default, so an empty configuration is one.
-/

namespace ProviderCodegen

/-- Read what a generated file contains. -/
def GenerateOptions.ofDatum? (datum : Datum) : Option GenerateOptions := do
  let fields ← datum.record? ["package", "model", "to_from"]
  let defaults : GenerateOptions := {}
  return {
    package := ← fields.getD? "package" Datum.text? defaults.package
    model := ← fields.getD? "model" Datum.bool? defaults.model
    conversions := ← fields.getD? "to_from" Datum.bool? defaults.conversions }

/-- The configuration of a project. -/
structure Config where
  /-- The path of the specification. -/
  input : String := "provider_code_spec.json"
  /-- The directory of the generated files. -/
  output : String := "internal/provider"
  generate : GenerateOptions := {}
deriving Repr, DecidableEq

namespace Config

def fileName : String := ".tfcg.yaml"

def ofDatum? (datum : Datum) : Option Config := do
  let fields ← datum.record? ["input", "output", "generate"]
  let defaults : Config := {}
  return {
    input := ← fields.getD? "input" Datum.text? defaults.input
    output := ← fields.getD? "output" Datum.text? defaults.output
    generate := ← fields.getD? "generate" GenerateOptions.ofDatum? defaults.generate }

/-- The text of a new configuration file, which spells out the defaults. -/
def initialText : String :=
  "# tfcg configuration\n" ++
  "input: provider_code_spec.json\n" ++
  "output: internal/provider\n" ++
  "\n" ++
  "generate:\n" ++
  "  package: provider\n" ++
  "  model: true          # <Name>Model struct\n" ++
  "  to_from: true        # conversions for associated external types\n"

end Config

end ProviderCodegen
