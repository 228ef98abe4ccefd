import Stencil.CommandLine.Program

/-! The program on the files of the machine.  Log entries are printed as they come, as far as the
verbosity shows them; everything else is decided elsewhere. -/

namespace Stencil.Disk

/-- Steps that know how talkative they are to be. -/
abbrev Action := ReaderT Level IO

def nativePath (p : Path) : String := String.ofList p.display

def fault : IO.Error → FileFault
  | .noFileOrDirectory _ _ _ => .notFound
  | .alreadyExists _ _ _ => .alreadyExists
  | .permissionDenied _ _ _ => .permissionDenied
  | .inappropriateType _ code text => ofCode code text
  | .invalidArgument _ code text => ofCode code text
  | .resourceExhausted _ code text => ofCode code text
  | .noSuchThing _ code text => ofCode code text
  | .otherError code text => ofCode code text
  | other => .other other.toString.toList
where
  ofCode (code : UInt32) (text : String) : FileFault :=
    (FileFault.ofCode? code.toNat).getD (.other text.toList)

def attempt {α : Type} (action : IO α) : Action (Except FileFault α) := fun _ => do
  try
    return .ok (← action)
  catch e => return .error (fault e)

/-- Paths with a zero byte never reach the machine. -/
def openFile (p : Path) (mode : IO.FS.Mode) : Action (Except FileFault IO.FS.Handle) :=
  if p.contains 0 then return .error .nulInPath
  else attempt (IO.FS.Handle.mk (nativePath p) mode)

def readAll (h : IO.FS.Handle) : Action (Except FileFault Bytes) :=
  attempt do return (← h.readBinToEnd).data.toList

def writeAll (h : IO.FS.Handle) (content : Bytes) : Action (Except FileFault PUnit) :=
  attempt do
    h.write ⟨content.toArray⟩
    h.flush

def realPath? (p : Path) : Action (Option Location) := do
  if p.contains 0 then return none
  match ← attempt (IO.FS.realPath (nativePath p)) with
  | .error _ => return none
  | .ok real => return some (Path.segments (Path.ofText real.toString.toList))

instance : FileSystem Action where
  Source := IO.FS.Handle
  Sink := IO.FS.Handle
  openSource p := openFile p .read
  readAll := readAll
  openSink p := openFile p .write
  writeAll := writeAll
  realPath? := realPath?
  currentDirectory := fun _ => return Path.ofText (← IO.currentDir).toString.toList
  log e := fun threshold => do
    if e.shownAt threshold then IO.eprint (String.ofList e.render)

def answer (outcome : CommandLine.Outcome) : IO UInt32 := do
  IO.print (String.ofList outcome.stdout)
  IO.eprint (String.ofList outcome.stderr)
  return outcome.exit.toUInt32

end Stencil.Disk

def main (arguments : List String) : IO UInt32 := do
  match (Stencil.CommandLine.read (arguments.map fun a => a.toUTF8.data.toList)).immediate with
  | .error outcome => Stencil.Disk.answer outcome
  | .ok o =>
    let result ← (Stencil.CommandLine.execute (m := Stencil.Disk.Action) o).run o.threshold
    Stencil.Disk.answer (Stencil.CommandLine.ending result)
