import Stencil.Failure
import Stencil.Log

/-! What a run asks of the files around it.  A file is opened, and then read or written as a whole;
opening a sink makes the file or empties it. -/

namespace Stencil

/-- A real path: the names from the root on, without links. -/
abbrev Location := List Name

class FileSystem (m : Type → Type) where
  Source : Type
  Sink : Type
  openSource : Path → m (Except FileFault Source)
  readAll : Source → m (Except FileFault Bytes)
  openSink : Path → m (Except FileFault Sink)
  writeAll : Sink → Bytes → m (Except FileFault PUnit)
  /-- Nothing for a path that leads nowhere, or where the real path cannot be asked for. -/
  realPath? : Path → m (Option Location)
  currentDirectory : m Path
  log : LogEntry → m PUnit

abbrev Run (m : Type → Type) (α : Type) := ExceptT Failure m α

namespace FileSystem

variable {m : Type → Type} [Monad m] [FileSystem m]

def orFail {α : Type} (f : FileFault → Failure) (action : m (Except FileFault α)) : Run m α := do
  match ← action with
  | .ok a => return a
  | .error fault => throw (f fault)

def say (level : Level) (origin : Origin) (message : Text) : Run m PUnit :=
  ExceptT.lift (log (m := m) ⟨level, origin, message⟩)

end FileSystem

end Stencil
