import ProviderCodegen.CommandLine.Arguments
import ProviderCodegen.CommandLine.Failure

/-! # Running commands

A command runs against a file store and tells what it does. Generating makes no change to the store
before the code of all resources is there.
-/

namespace ProviderCodegen.CommandLine

/-- What a command leaves on the terminal. -/
structure Transcript where
  /-- The result that was asked for. -/
  output : String := ""
  /-- What is told on the way. -/
  messages : String := ""
deriving Repr, DecidableEq

/-- The end of a run. -/
structure Report where
  exitCode : Nat
  transcript : Transcript
deriving Repr, DecidableEq

/-- A computation that may fail and tells what it does. -/
abbrev Action (m : Type → Type) := ExceptT Failure (StateT Transcript m)

section Actions

variable {m : Type → Type} [Monad m]

def tell (message : String) : Action m Unit :=
  modify fun transcript => { transcript with messages := transcript.messages ++ message ++ "\n" }

def give (text : String) : Action m Unit :=
  modify fun transcript => { transcript with output := transcript.output ++ text }

/-- The value of a computation, or the failure that its error means. -/
def orFail {α ε : Type} (result : Except ε α) (failure : ε → Failure) : Action m α :=
  match result with
  | .ok value => pure value
  | .error e => throw (failure e)

def ask {α : Type} (operation : m α) : Action m α :=
  ExceptT.lift (StateT.lift operation)

variable [FileStore m]

/-- The configuration of the project; the defaults when there is none. -/
def loadConfig : Action m Config := do
  if ← ask (FileStore.exists? Config.fileName) then
    let text ← orFail (← ask (FileStore.read Config.fileName)) .readConfig
    match (Yaml.read? text).bind Config.ofDatum? with
    | some config => return config
    | none => throw .parseConfig
  else return {}

/-- The notation that the name of a file announces. -/
def formatOf (path : String) : Format :=
  let extension := Path.extension? path
  if extension = some "yaml" || extension = some "yml" then .yaml else .json

def loadSpecification (path : String) : Action m Specification := do
  let text ← orFail (← ask (FileStore.read path)) (.readInput path)
  orFail (Specification.parse (formatOf path) text) .specification

/-- Write a generated file, and before it the directories that it needs. -/
def writeFile (directory : String) (file : GeneratedFile) : Action m Unit := do
  let path := Path.join directory file.path
  match Path.parent? path with
  | some parent =>
      orFail (← ask (FileStore.makeDirectories parent)) (.makeDirectory parent)
  | none => pure ()
  orFail (← ask (FileStore.write path file.content)) (.writeFile path)
  tell ("  wrote " ++ path)

def generateInto (directory : String) (files : List GeneratedFile) : Action m Unit := do
  orFail (← ask (FileStore.makeDirectories directory)) (.makeOutput directory)
  files.forM (writeFile directory)
  tell ("Generated " ++ Text.decimal files.length ++ " files in " ++ directory)

def runGenerate (input output : Option String) : Action m Unit := do
  let config ← loadConfig
  let input := input.getD config.input
  let output := output.getD config.output
  let spec ← loadSpecification input
  if spec.resources.isEmpty then tell ("No resources in " ++ input ++ ".")
  else
    tell ("Generating " ++ Text.decimal spec.resources.length ++ " resources → " ++ output)
    let files ← orFail (generate spec config.generate) (.generation input)
    generateInto output files

def validateResource (resource : Spec.Resource) : Action m Unit := do
  let schema ← orFail (buildResource resource) .invalidResource
  tell ("  " ++ resource.name ++ ": " ++ Text.decimal (List.length schema.attributes) ++
    " attributes, " ++ Text.decimal (List.length schema.blocks) ++ " blocks")

def runValidate (input : String) : Action m Unit := do
  let spec ← loadSpecification input
  tell ("Valid specification " ++ spec.version)
  tell ("  Resources: " ++ Text.decimal spec.resources.length)
  spec.resources.forM validateResource
  tell "Validation successful."

def runInspect (input : String) (format : Format) : Action m Unit := do
  let spec ← loadSpecification input
  let summary ← orFail (Summary.ofSpecification spec) .invalidResource
  give (summary.write format)

def runInit (force : Bool) : Action m Unit := do
  if (← ask (FileStore.exists? Config.fileName)) && !force then throw .configExists
  orFail (← ask (FileStore.write Config.fileName Config.initialText)) .writeConfig
  tell ("Created " ++ Config.fileName)

def versionText : String := "tfcg 0.4.0\n"

def Command.action : Command → Action m Unit
  | .generate input output => runGenerate input output
  | .validate input => runValidate input
  | .inspect input format => runInspect input format
  | .init force => runInit force
  | .version => give versionText

def Command.run (command : Command) : m Report := do
  match ← (command.action : Action m Unit).run.run {} with
  | (.ok (), transcript) => return ⟨0, transcript⟩
  | (.error failure, transcript) =>
      return ⟨1, { transcript with messages := transcript.messages ++ failure.report }⟩

/-- Run the command that the arguments give. Arguments that give none change nothing. -/
def run (arguments : List String) : m Report :=
  match Command.ofArguments? arguments with
  | some command => command.run
  | none => return ⟨2, {}⟩

end Actions

end ProviderCodegen.CommandLine
