import ProviderCodegen.CommandLine.Run

/-! # The program

The command line on the files of the system.
-/

namespace ProviderCodegen

/-- The reason that an error of the system gives. -/
def FileError.ofIO (e : IO.Error) : FileError :=
  match e with
  | .noFileOrDirectory .. => .notFound
  | .alreadyExists .. => .alreadyExists
  | .inappropriateType _ code _ => if code = 21 then .isADirectory else .notADirectory
  | .invalidArgument _ code _ => if code = 36 then .nameTooLong else .other (toString e)
  | e => .other (toString e)

/-- The result of an operation, or the reason for its refusal. -/
def attempt {α : Type} (operation : IO α) : IO (Except FileError α) :=
  return (← operation.toBaseIO).mapError FileError.ofIO

def opens (path : String) : IO Bool :=
  return (← attempt (IO.FS.Handle.mk path .read)) matches .ok _

/-- The files of the system. Only a directory has a part that is named by a dot. -/
instance : FileStore IO where
  exists? path := opens path
  isDirectory path := opens (path ++ "/.")
  read path := attempt (IO.FS.readFile path)
  makeDirectory path := attempt (IO.FS.createDir path)
  write path text := attempt (IO.FS.writeFile path text)

end ProviderCodegen

def main (arguments : List String) : IO UInt32 := do
  let report ← ProviderCodegen.CommandLine.run arguments
  IO.print report.transcript.output
  IO.eprint report.transcript.messages
  return report.exitCode.toUInt32
