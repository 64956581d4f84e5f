import ProviderCodegen.Spec.Parse

/-! # Arguments of the command line

A command is named by the first argument; switches follow it in any order, each at most once. The
value of a switch is the next argument, or is attached to the switch. A value that is an argument of
its own does not start with a dash, unless it is a dash alone.
-/

namespace ProviderCodegen.CommandLine

/-- What the program is asked to do. -/
inductive Command
  /-- Generate the code of a specification; what is left out comes from the configuration. -/
  | generate (input output : Option String)
  /-- Check a specification. -/
  | validate (input : String)
  /-- Summarize a specification. -/
  | inspect (input : String) (format : Format)
  /-- Write a configuration; `force` replaces the one that is there. -/
  | init (force : Bool)
  /-- Name the version. -/
  | version
deriving Repr, DecidableEq

structure Switch where
  /-- Its name after two dashes. -/
  name : String
  /-- Its letter after one dash. -/
  letter : Option Char := none
  takesValue : Bool := true
deriving Repr, DecidableEq

def inputSwitch : Switch where
  name := "input"
  letter := some 'i'

def outputSwitch : Switch where
  name := "output"
  letter := some 'o'

def formatSwitch : Switch where
  name := "format"

def forceSwitch : Switch where
  name := "force"
  takesValue := false

/-- A name and the value after the first equals sign. -/
def splitAtEquals (chars : List Char) : List Char × Option (List Char) :=
  match chars.dropWhile (· ≠ '=') with
  | [] => (chars, none)
  | _ :: value => (chars.takeWhile (· ≠ '='), some value)

/-- The switch that an argument gives, with the value attached to it. After a letter the equals sign
may be left out. -/
def switch? (known : List Switch) (argument : String) : Option (Switch × Option String) :=
  match argument.toList with
  | '-' :: '-' :: rest => do
      let (name, value) := splitAtEquals rest
      let switch ← known.find? (·.name == String.ofList name)
      return (switch, value.map String.ofList)
  | '-' :: letter :: rest => do
      let switch ← known.find? (·.letter = some letter)
      let value := match rest with
        | [] => none
        | '=' :: value => some value
        | value => some value
      return (switch, value.map String.ofList)
  | _ => none

/-- Whether an argument may be the value of the switch before it. -/
def isValue (argument : String) : Bool :=
  argument == "-" || argument.toList.head? ≠ some '-'

/-- Switches with their values, which are empty for those that take none. -/
abbrev Settings := List (Switch × String)

/-- Read arguments that are all switches and values. Two dashes end them. -/
def settings? (known : List Switch) : List String → Option Settings
  | [] => some []
  | argument :: rest =>
      if argument == "--" then if rest.isEmpty then some [] else none
      else match switch? known argument with
        | none => none
        | some (switch, attached) =>
            if switch.takesValue then
              match attached, rest with
              | some value, rest => (settings? known rest).map ((switch, value) :: ·)
              | none, value :: rest =>
                  if isValue value then (settings? known rest).map ((switch, value) :: ·) else none
              | none, [] => none
            else if attached.isSome then none
            else (settings? known rest).map ((switch, "") :: ·)

/-- Read arguments in which no switch comes twice. -/
def distinctSettings? (known : List Switch) (arguments : List String) : Option Settings := do
  let settings ← settings? known arguments
  if (settings.map (·.1)).Nodup then return settings
  none

/-- A path that a switch may give, `none` outside if it is empty. -/
def path? (settings : Settings) (switch : Switch) : Option (Option String) :=
  match settings.lookup switch with
  | none => some none
  | some path => if path.isEmpty then none else some (some path)

/-- A path that a switch must give. -/
def requiredPath? (settings : Settings) (switch : Switch) : Option String :=
  (path? settings switch).join

/-- The notation that a switch may give. -/
def format? (settings : Settings) : Option Format :=
  match settings.lookup formatSwitch with
  | none => some .yaml
  | some name =>
      if name = "yaml" then some .yaml else if name = "json" then some .json else none

namespace Command

/-- The command with a name and further arguments. -/
def named? (name : String) (arguments : List String) : Option Command := do
  match name with
  | "generate" =>
      let settings ← distinctSettings? [inputSwitch, outputSwitch] arguments
      return .generate (← path? settings inputSwitch) (← path? settings outputSwitch)
  | "validate" =>
      let settings ← distinctSettings? [inputSwitch] arguments
      return .validate (← requiredPath? settings inputSwitch)
  | "inspect" =>
      let settings ← distinctSettings? [inputSwitch, formatSwitch] arguments
      return .inspect (← requiredPath? settings inputSwitch) (← format? settings)
  | "init" =>
      let settings ← distinctSettings? [forceSwitch] arguments
      return .init (settings.lookup forceSwitch).isSome
  | _ => none

def asksVersion (argument : String) : Bool :=
  argument == "--version" || ['-', 'V'].isPrefixOf argument.toList

def ofArguments? : List String → Option Command
  | [] => none
  | first :: rest => if asksVersion first then some .version else named? first rest

end Command

end ProviderCodegen.CommandLine
