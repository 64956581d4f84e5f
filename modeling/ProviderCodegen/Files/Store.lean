import ProviderCodegen.Files.Path

/-! # Storage of files

What commands ask of a file system. `FileError` is the reason for which it may refuse.
-/

namespace ProviderCodegen

/-- Why a file system refuses an operation. -/
inductive FileError
  | notFound
  | alreadyExists
  | notADirectory
  | isADirectory
  | nameTooLong
  /-- A path contains a zero character. -/
  | zeroCharacter
  /-- A directory has no ancestor that exists. -/
  | noRoot
  /-- A reason of another kind, in words. -/
  | other (message : String)
deriving Repr, DecidableEq

def FileError.message : FileError → String
  | notFound => "No such file or directory (os error 2)"
  | alreadyExists => "File exists (os error 17)"
  | notADirectory => "Not a directory (os error 20)"
  | isADirectory => "Is a directory (os error 21)"
  | nameTooLong => "File name too long (os error 36)"
  | zeroCharacter => "file name contained an unexpected NUL byte"
  | noRoot => "failed to create whole tree"
  | other message => message

/-- A place where files are kept, as seen from a current directory. -/
class FileStore (m : Type → Type) where
  /-- Whether there is a file or a directory at a path. -/
  exists? : String → m Bool
  /-- Whether there is a directory at a path. -/
  isDirectory : String → m Bool
  /-- The text of a file. -/
  read : String → m (Except FileError String)
  /-- Make a directory in one that exists. -/
  makeDirectory : String → m (Except FileError Unit)
  /-- Give a file a text. -/
  write : String → String → m (Except FileError Unit)

namespace FileStore

variable {m : Type → Type} [Monad m] [FileStore m]

/-- A refusal to make a directory does not matter if there is one. -/
def orDirectory (path : String) (refusal : FileError) : m (Except FileError Unit) := do
  return if ← isDirectory path then .ok () else .error refusal

/-- Make the first directory of a lineage, and before it as many of its ancestors as are missing. -/
def makeLineage : List String → m (Except FileError Unit)
  | [] => return .error .noRoot
  | path :: ancestors => do
      if path.isEmpty then return .ok ()
      match ← makeDirectory path with
      | .ok () => return .ok ()
      | .error .notFound =>
          match ← makeLineage ancestors with
          | .error e => return .error e
          | .ok () =>
              match ← makeDirectory path with
              | .ok () => return .ok ()
              | .error e => orDirectory path e
      | .error e => orDirectory path e

def makeDirectories (path : String) : m (Except FileError Unit) :=
  makeLineage (Path.ancestors path)

end FileStore

end ProviderCodegen
