import ProviderCodegen.Config
import ProviderCodegen.Files.Store
import ProviderCodegen.Summary

/-! # Failures of commands

A failure is told in one line and, where something else caused it, in the words of that cause.
-/

namespace ProviderCodegen.CommandLine

open Schema (BuildError)

/-- Why a command fails. -/
inductive Failure
  | readConfig (cause : FileError)
  /-- The configuration is not well formed. -/
  | parseConfig
  | configExists
  | writeConfig (cause : FileError)
  | readInput (path : String) (cause : FileError)
  /-- The text is no specification that is accepted. -/
  | specification (cause : SpecError)
  | invalidResource (cause : InvalidResource)
  | generation (input : String) (cause : BuildError)
  | makeOutput (path : String) (cause : FileError)
  | makeDirectory (path : String) (cause : FileError)
  | writeFile (path : String) (cause : FileError)
deriving Repr, DecidableEq

namespace Failure

def message : Failure → String
  | readConfig cause => "failed to read config " ++ Config.fileName ++ ": " ++ cause.message
  | parseConfig => "failed to parse config"
  | configExists => Config.fileName ++ " already exists. Use --force to overwrite."
  | writeConfig cause => cause.message
  | readInput path _ => "failed to read " ++ path
  | specification cause => cause.message
  | invalidResource cause => cause.message
  | generation input _ => "failed to generate code from " ++ input
  | makeOutput path _ => "failed to create output directory " ++ path
  | makeDirectory path _ => "failed to create directory " ++ path
  | writeFile path _ => "failed to write " ++ path

/-- The words of the cause, unless the message has them. -/
def cause? : Failure → Option String
  | readInput _ cause | makeOutput _ cause | makeDirectory _ cause | writeFile _ cause =>
      some cause.message
  | invalidResource invalid => some invalid.cause.message
  | generation _ cause => some cause.message
  | _ => none

/-- Whether a text could not be read, so that the message stops before the details. -/
def stopsShort : Failure → Bool
  | parseConfig | specification .json | specification .yaml => true
  | _ => false

/-- Further lines, each indented. -/
def indented (text : String) : String :=
  "    " ++ "\n    ".intercalate (text.splitOn "\n")

def report (failure : Failure) : String :=
  "Error: " ++ failure.message ++
    match failure.cause? with
    | some cause => "\n\nCaused by:\n" ++ indented cause ++ "\n"
    | none => if failure.stopsShort then "" else "\n"

end Failure

end ProviderCodegen.CommandLine
