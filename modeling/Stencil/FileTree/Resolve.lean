import Stencil.FileTree.Basic

/-! Following a path.  Each segment is looked up in the directory reached so far; a link puts its
target's segments before those that are left, and so many links may be followed in all.  A last
name that does not exist is still a place where a file can be made. -/

namespace Stencil.FileTree

/-- What a path is followed for: to open what it leads to, to make what is not there, or to name
the place by its real path.  What may be made must not end in a slash.  A real path is found by
asking for everything on the way by its own real path, so none of these may be too long. -/
inductive Intent where
  | opening
  | creating
  | naming
  deriving DecidableEq

inductive Place where
  | existing (at_ : Location)
  | vacant (at_ : Location)
  deriving DecidableEq

def linkLimit : Nat := 40

def nameLimit : Nat := 255

/-- The least length of a path that is too long. -/
def pathLimit : Nat := 4096

/-- A walk that ends, or that meets a link in a directory with segments still to go. -/
inductive Walk where
  | ended (result : Except FileFault Place)
  | link (directory : Location) (target : Path) (rest : List Bytes)

def missing (at_ : Location) : List Bytes → Except FileFault Place
  | [] => .ok (.vacant at_)
  | _ :: _ => .error .notFound

/-- Whether a path goes on in a way that only a directory allows, even where it names nothing more. -/
def needsDirectory (rest : List Bytes) : Bool :=
  match rest.dropWhile fun segment => segment == [] || segment == Path.dot with
  | [] => rest != []
  | segment :: _ => segment == Path.dotDot

/-- The length of the path by which something is asked for on the way to a real path.  Where it has
to be a directory, it is asked for with a slash at the end, unless it is a link. -/
def askedLength (t : FileTree) (at_ : Location) (rest : List Bytes) : Nat :=
  match t.at? at_ with
  | some (.link _) => at_.path.length
  | _ => at_.path.length + (needsDirectory rest).toNat

/-- One segment: where the walk goes on, or how it ends. -/
def step (t : FileTree) (intent : Intent) (at_ : Location) (segment : Bytes) (rest : List Bytes) :
    Except Walk Location :=
  if t.at? at_ ≠ some .directory then .error (.ended (.error .notDirectory))
  else if segment = [] ∨ segment = Path.dot then .ok at_
  else if segment = Path.dotDot then .ok at_.dropLast
  else if intent = .creating ∧ rest ≠ [] ∧ rest.all (· == []) then
    .error (.ended (.error .isDirectory))
  else if nameLimit < segment.length ∨
      intent = .naming ∧ pathLimit ≤ t.askedLength (at_ ++ [segment]) rest then
    .error (.ended (.error .nameTooLong))
  else
    match t.at? (at_ ++ [segment]) with
    | none => .error (.ended (missing (at_ ++ [segment]) rest))
    | some (.link target) => .error (.link at_ target rest)
    | some _ => .ok (at_ ++ [segment])

def walk (t : FileTree) (intent : Intent) : Location → List Bytes → Walk
  | at_, [] => .ended (.ok (.existing at_))
  | at_, segment :: rest =>
    match t.step intent at_ segment rest with
    | .ok next => walk t intent next rest
    | .error ending => ending

/-- Where a path starts: at the root or in the given directory. -/
def origin (directory : Location) (p : Path) : Location := if p.isAbsolute then [] else directory

/-- Walks on through at most so many links. -/
def follow (t : FileTree) (intent : Intent) (links : Nat) (at_ : Location)
    (segments : List Bytes) : Except FileFault Place :=
  match t.walk intent at_ segments with
  | .ended result => result
  | .link directory target rest =>
    match links with
    | 0 => .error .linkLoop
    | links + 1 => follow t intent links (origin directory target) (target.segments ++ rest)

/-- Follows a path of any length. -/
def trace (t : FileTree) (intent : Intent) (p : Path) : Except FileFault Place :=
  if p.contains 0 then .error .nulInPath
  else if p = [] then .error .notFound
  else t.follow intent linkLimit (origin t.workingDirectory p) p.segments

/-- Follows a path that is to be opened or made, which must not be too long. -/
def resolve (t : FileTree) (intent : Intent) (p : Path) : Except FileFault Place :=
  if !p.contains 0 && pathLimit ≤ p.length then .error .nameTooLong else t.trace intent p

def arrival? (t : FileTree) (intent : Intent) (p : Path) : Option Location :=
  match t.trace intent p with
  | .ok (.existing at_) => some at_
  | _ => none

/-- The place that a path leads to, however long the path is. -/
def location? (t : FileTree) (p : Path) : Option Location := t.arrival? .opening p

/-- The real path of what a path leads to, as far as it can be asked for. -/
def realPath? (t : FileTree) (p : Path) : Option Location := t.arrival? .naming p

def openEntry (t : FileTree) (p : Path) : Except FileFault Entry :=
  match t.resolve .opening p with
  | .error fault => .error fault
  | .ok (.vacant _) => .error .notFound
  | .ok (.existing at_) => (t.at? at_).elim (.error .notFound) .ok

def create (t : FileTree) (p : Path) : Except FileFault (Entry × FileTree) :=
  match t.resolve .creating p with
  | .error fault => .error fault
  | .ok (.vacant at_) => .ok (.file t.contents.length, t.addFile at_)
  | .ok (.existing at_) =>
    match t.at? at_ with
    | some (.file id) => .ok (.file id, t.setContent id [])
    | some (.device d) => .ok (.device d, t)
    | some .directory => .error .isDirectory
    | some (.link _) => .error .linkLoop
    | none => .error .notFound

/-- A directory can be opened but not read.  The null device is empty; the full one has no end, so
there is no memory for all that it gives. -/
def readEntry (t : FileTree) : Entry → Except FileFault Bytes
  | .file id => .ok ((t.content? id).getD [])
  | .device .null => .ok []
  | .device .full => .error .outOfMemory
  | .directory => .error .isDirectory
  | .link _ => .error .linkLoop

/-- The null device takes everything and the full one nothing. -/
def writeEntry (t : FileTree) (e : Entry) (content : Bytes) : Except FileFault Unit × FileTree :=
  match e with
  | .file id => (.ok (), t.setContent id content)
  | .device .null => (.ok (), t)
  | .device .full => (if content = [] then .ok () else .error .noSpace, t)
  | .directory => (.error .isDirectory, t)
  | .link _ => (.error .linkLoop, t)

end Stencil.FileTree
