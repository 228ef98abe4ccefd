import Stencil.Text.Utf8

/-! Paths are bytes and are kept as written.  Two paths are equal by components when they differ
only in repeated or trailing slashes and in `.` segments that are not first; `..` is kept. -/

namespace Stencil

abbrev Path := Bytes

abbrev Name := Bytes

inductive Component where
  | root
  | here
  | parent
  | name (n : Name)
  deriving DecidableEq

namespace Path

def slash : UInt8 := 47

def dot : Name := [46]

def dotDot : Name := [46, 46]

def ofText (t : Text) : Path := Utf8.encode t

def display (p : Path) : Text := Utf8.decodeLossy p

def isAbsolute (p : Path) : Bool := p.head? == some slash

/-- The bytes between slashes; an empty path has one empty segment. -/
def segments (p : Path) : List Bytes := splitAt (· == slash) p

def segmentComponent (s : Bytes) : Option Component :=
  if s = [] ∨ s = dot then none else if s = dotDot then some .parent else some (.name s)

def components (p : Path) : List Component :=
  (if p.isAbsolute then [.root] else []) ++
    (if p.segments.head? = some dot then [.here] else []) ++
      p.segments.filterMap segmentComponent

def same (p q : Path) : Bool := decide (p.components = q.components)

/-- The last component, if it is a name. -/
def fileName? (p : Path) : Option Name :=
  match p.components.getLast? with
  | some (.name n) => some n
  | _ => none

/-- An absolute path stands for itself; any other follows the directory and a slash. -/
def join (dir p : Path) : Path :=
  if p.isAbsolute then p
  else if dir = [] ∨ dir.getLast? = some slash then dir ++ p
  else dir ++ slash :: p

end Path

end Stencil
