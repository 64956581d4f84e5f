import ProviderCodegen.Json.Printer
import ProviderCodegen.Json.Reader
import ProviderCodegen.Spec.Check
import ProviderCodegen.Spec.Reading
import ProviderCodegen.Spec.Writing
import ProviderCodegen.Yaml.Reader

/-! # Parsing specifications

A specification is read from a JSON or a YAML text and checked. `Specification.toJson` writes it
back as a JSON text.
-/

namespace ProviderCodegen

/-- The notations for specifications. -/
inductive Format
  | json
  | yaml
deriving Repr, DecidableEq

/-- The error for a text that is not well formed in a notation. -/
def Format.fault : Format → SpecError
  | json => .json
  | yaml => .yaml

def Format.read? : Format → String → Option Datum
  | json, text => Json.read? text
  | yaml, text => Yaml.read? text

def Specification.parse (format : Format) (text : String) : Except SpecError Specification := do
  let some spec := (format.read? text).bind ofDatum? | .error format.fault
  spec.check
  return spec

def Specification.toJson (spec : Specification) : String :=
  Json.compact spec.toDatum

end ProviderCodegen
