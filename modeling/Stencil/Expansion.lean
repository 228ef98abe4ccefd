import Stencil.FileSystem
import Stencil.Record

/-! Expanding one template into one file.  The file's name is the template's with the record applied,
in the destination directory.  A destination that really is the template is refused; the check is
left out when one of the two has no real path.  A template is expanded line by line, and the first
line that is no text ends the expansion; the lines before it are written all the same. -/

namespace Stencil

namespace Output

/-- The name is read leniently, so every name of bytes has an output name. -/
def name (template : Path) (record : Record) : Except Failure Text :=
  match template.fileName? with
  | some n => .ok (record.apply (Path.display n))
  | none => .error (.namelessTemplate template)

def path (template : Path) (record : Record) (directory : Path) : Except Failure Path :=
  (name template record).map fun n => directory.join (Path.ofText n)

variable {m : Type → Type} [Monad m] [FileSystem m]

def guard (template destination : Path) : Run m PUnit := do
  let source ← ExceptT.lift (FileSystem.realPath? template)
  let target ← ExceptT.lift (FileSystem.realPath? destination)
  if source.isSome ∧ source = target then
    throw (.file .writeOutput destination (.overwrites template))

end Output

namespace Expansion

/-- The expanded lines before the first that is no text, and whether there is such a line. -/
def lines (record : Record) : List Bytes → List Bytes × Option FileFault
  | [] => ([], none)
  | line :: rest =>
    match Utf8.decode line with
    | none => ([], some .notUtf8)
    | some t =>
      let expanded := lines record rest
      (Utf8.encode (record.apply t) :: expanded.1, expanded.2)

def content (record : Record) (template : Bytes) : Bytes × Option FileFault :=
  ((lines record template.lines).1.flatten, (lines record template.lines).2)

/-- Output leaves in blocks, so a fault of writing can come before a fault of reading only when
there is more than a block before the latter. -/
def blockSize : Nat := 8192

def leavesEarly (pieces : List Bytes) : Bool :=
  blockSize < pieces.flatten.length || pieces.any (blockSize ≤ ·.length)

def outcome (template destination : Path) (pieces : List Bytes) (reading : Option FileFault)
    (writing : Except FileFault PUnit) : Except Failure PUnit :=
  match writing, reading with
  | .ok _, none => .ok ⟨⟩
  | .ok _, some fault => .error (.file .readTemplate template fault)
  | .error fault, none => .error (.file .writeOutput destination fault)
  | .error fault, some fault' =>
    if leavesEarly pieces then .error (.file .writeOutput destination fault)
    else .error (.file .readTemplate template fault')

variable {m : Type → Type} [Monad m] [FileSystem m]

open FileSystem

/-- The template is opened before the destination is made or emptied, and read after that. -/
def into (template : Path) (record : Record) (destination : Path) : Run m PUnit := do
  Output.guard template destination
  let source ← orFail (.file .readTemplate template) (openSource (m := m) template)
  let sink ← orFail (.file .writeOutput destination) (openSink (m := m) destination)
  let bytes ← orFail (.file .readTemplate template) (readAll (m := m) source)
  let expanded := lines record (Bytes.lines bytes)
  let written ← ExceptT.lift (writeAll (m := m) sink expanded.1.flatten)
  liftExcept (outcome template destination expanded.1 expanded.2 written)
where
  liftExcept (r : Except Failure PUnit) : Run m PUnit := ExceptT.mk (pure r)

def toDirectory (template : Path) (record : Record) (directory : Path) : Run m Path := do
  match Output.path template record directory with
  | .error failure => throw failure
  | .ok destination =>
    into template record destination
    return destination

end Expansion

end Stencil
