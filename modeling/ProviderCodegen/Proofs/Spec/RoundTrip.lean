import ProviderCodegen.Proofs.Spec.ReadBack
import ProviderCodegen.Spec.Parse

/-! # Writing and reading a specification

A specification that would be accepted is read back from its own JSON text. The text has the tokens
of the datum of the specification (`Json.read?_compact`), the datum is read as the specification
(`Specification.ofDatum?_toDatum`), and the checks pass (`Specification.check_of_nodup`).
-/

namespace ProviderCodegen

/-- No name occurs twice, and none of those before, if none is found to be repeated. -/
theorem firstRepeated?_eq_none_iff {seen names : List String} :
    firstRepeated? seen names = none ↔ names.Nodup ∧ ∀ name ∈ names, name ∉ seen := by
  induction names generalizing seen with
  | nil => exact iff_of_true rfl ⟨List.nodup_nil, nofun⟩
  | cons first rest ih =>
    rw [firstRepeated?]
    split_ifs with repeated
    · refine iff_of_false nofun fun fresh => ?_
      exact fresh.2 first (List.mem_cons_self ..) (List.contains_iff_mem.mp repeated)
    · rw [List.contains_iff_mem] at repeated
      rw [ih, List.nodup_cons, List.forall_mem_cons]
      simp only [List.mem_cons, not_or]
      constructor
      · rintro ⟨distinct, others⟩
        exact ⟨⟨fun member => (others first member).1 rfl, distinct⟩, repeated,
          fun name member => (others name member).2⟩
      · rintro ⟨⟨fresh, distinct⟩, -, others⟩
        exact ⟨distinct, fun name member => ⟨fun same => fresh (same ▸ member), others name member⟩⟩

theorem checkNames_of_nodup {names : List String} (distinct : names.Nodup) (resource : String)
    (kind : Spec.ChildKind) : checkNames resource kind names = .ok () := by
  have fresh : firstRepeated? [] names = none :=
    firstRepeated?_eq_none_iff.mpr ⟨distinct, fun _ _ => List.not_mem_nil⟩
  rw [checkNames, fresh]

/-- A specification is accepted if its version is known and no resource repeats a name. -/
theorem Specification.check_of_nodup {spec : Specification}
    (version : isSupportedVersion spec.version = true)
    (attributes : ∀ resource ∈ spec.resources, (resource.schema.attributes.map (·.name)).Nodup)
    (blocks : ∀ resource ∈ spec.resources, (resource.schema.blocks.map (·.name)).Nodup) :
    spec.check = .ok () := by
  rw [check, if_pos version]
  generalize spec.resources = resources at attributes blocks
  induction resources with
  | nil => rfl
  | cons first rest ih =>
    rw [List.forall_mem_cons] at attributes blocks
    have passes : first.check = .ok () := by
      rw [Spec.Resource.check, checkNames_of_nodup attributes.1, checkNames_of_nodup blocks.1]
      rfl
    rw [List.forM, passes]
    exact ih attributes.2 blocks.2

/-- A specification that passes the checks is read back from its own JSON text if there are no numbers
among its defaults. -/
theorem Specification.parse_toJson_of_check {spec : Specification} (checked : spec.check = .ok ())
    (shallow : spec.toDatum.nesting < 128) (numbers : spec.floatDefaults = []) :
    parse .json spec.toJson = .ok spec := by
  have has : spec.toDatum.HasJson := by
    apply hasJson
    intro x default
    rw [numbers] at default
    exact absurd default List.not_mem_nil
  have read : Json.read? spec.toJson = some spec.toDatum :=
    Json.read?_compact has (Nat.le_of_lt_succ shallow)
  rw [parse, Format.read?, read, Option.bind_some, ofDatum?_toDatum]
  simp only [checked]
  rfl

/-- A specification is read back from its own JSON text: if its version is known, if no resource
repeats a name among its attributes or among its blocks, if it is not nested too deep for a reader,
and if the numbers among its defaults are finite. It is assumed that a finite number is read back
from its own text. So a text that is read and written again does not change any more. -/
theorem Specification.parse_toJson {spec : Specification}
    (version : "0.".toList <+: spec.version.toList)
    (attributes : ∀ resource ∈ spec.resources, (resource.schema.attributes.map (·.name)).Nodup)
    (blocks : ∀ resource ∈ spec.resources, (resource.schema.blocks.map (·.name)).Nodup)
    (shallow : spec.toDatum.nesting < 128)
    (finite : ∀ x ∈ spec.floatDefaults, x.isFinite = true)
    (readable : ∀ x ∈ spec.floatDefaults, x.isFinite = true →
      Json.read? (Json.compact (.float x)) = some (.float x)) :
    parse .json spec.toJson = .ok spec ∧
      ∀ format text, parse format text = .ok spec →
        ((parse format text).map toJson).bind (fun written => (parse .json written).map toJson) =
          (parse format text).map toJson := by
  have has : spec.toDatum.HasJson := hasJson fun x default => readable x default (finite x default)
  have read : Json.read? spec.toJson = some spec.toDatum :=
    Json.read?_compact has (Nat.le_of_lt_succ shallow)
  have checked : spec.check = .ok () :=
    check_of_nodup (List.isPrefixOf_iff_prefix.mpr version) attributes blocks
  have parsed : parse .json spec.toJson = .ok spec := by
    rw [parse, Format.read?, read, Option.bind_some, ofDatum?_toDatum]
    simp only [checked]
    rfl
  refine ⟨parsed, fun format text given => ?_⟩
  rw [given]
  exact congrArg (Except.map toJson) parsed

section Example

open Spec

/-- A specification with a number among its defaults, an attribute and a block of one name, and a
description that is escaped in a text. -/
def gaugeSpec : Specification :=
  { version := "0.1"
    resources := [{
      name := "gauge"
      schema := {
        attributes := [
          { name := "ratio"
            float64 := some {
              facets := { requirement := some .optional }
              default := some ⟨some 0.5, none⟩ } },
          { name := "label"
            string := some { facets := { description := some "größe\n\"x\"" }, default := none } },
          { name := "points"
            listNested := some {
              facets := {}
              nestedObject := ⟨[{ name := "ratio" }], none, none, [], [⟨none⟩]⟩
              default := none } }]
        blocks := [{ name := "label", singleNested := some ⟨{}, [], [], none⟩ }] } }] }

/-- With a number in a default and attributes inside one another. -/
theorem parse_gaugeSpec :
    "0.".toList <+: gaugeSpec.version.toList ∧ gaugeSpec.floatDefaults = [0.5] ∧
      gaugeSpec.toDatum.nesting = 10 ∧
      Specification.parse .json gaugeSpec.toJson = .ok gaugeSpec := by
  have version : "0.".toList <+: gaugeSpec.version.toList := by decide
  have numbers : gaugeSpec.floatDefaults = [0.5] := rfl
  have nesting : gaugeSpec.toDatum.nesting = 10 := by decide
  have shallow : gaugeSpec.toDatum.nesting < 128 := by rw [nesting]; decide
  have finite : ∀ x ∈ gaugeSpec.floatDefaults, x.isFinite = true := by
    intro x member
    rw [numbers] at member
    obtain rfl := List.mem_singleton.mp member
    decide
  have readable : ∀ x ∈ gaugeSpec.floatDefaults, x.isFinite = true →
      Json.read? (Json.compact (.float x)) = some (.float x) := by
    intro x member _
    rw [numbers] at member
    obtain rfl := List.mem_singleton.mp member
    have text : Json.compact (.float 0.5) = "0.5" := by decide +kernel
    rw [text]
    rfl
  exact ⟨version, numbers, nesting,
    (Specification.parse_toJson version (by decide) (by decide) shallow finite readable).1⟩

end Example

end ProviderCodegen
