import Stencil.FileTree.Resolve

/-! Building a tree by hand: directories with their parents, files with their content, links of
both kinds.  An edit that cannot be made changes nothing. -/

namespace Stencil.FileTree

/-- A machine with the two devices and an empty working directory. -/
def scratch (workingDirectory : Location) : FileTree where
  entries :=
    [([Path.ofText "dev".toList], .directory),
      ([Path.ofText "dev".toList, Path.ofText "null".toList], .device .null),
      ([Path.ofText "dev".toList, Path.ofText "full".toList], .device .full)] ++
    (List.range workingDirectory.length).map fun n => (workingDirectory.take (n + 1), .directory)
  contents := []
  workingDirectory
  numbered := by simp

def makeDirectory (t : FileTree) (p : Path) : FileTree :=
  match t.resolve .opening p with
  | .ok (.vacant at_) => t.addEntry at_ .directory (by simp)
  | _ => t

/-- The paths that end after each segment of a path, shortest first. -/
def leadingPaths (p : Path) : List Path :=
  (List.range p.segments.length).map fun n =>
    [Path.slash].intercalate (p.segments.take (n + 1))

def makeDirectories (t : FileTree) (p : Path) : FileTree := (leadingPaths p).foldl makeDirectory t

/-- What comes before the last slash; the slash stays where nothing else would. -/
def parentPath (p : Path) : Path :=
  match (p.reverse.dropWhile (· != Path.slash)).reverse with
  | [] => Path.dot
  | [s] => [s]
  | parent => parent.dropLast

def writeFile (t : FileTree) (p : Path) (content : Bytes) : FileTree :=
  match (t.makeDirectories (parentPath p)).create p with
  | .ok (.file id, t) => t.setContent id content
  | .ok (_, t) => t
  | .error _ => t

/-- The place of a path's last name, which itself is not followed. -/
def place? (t : FileTree) (p : Path) : Option Location :=
  match t.location? (parentPath p), p.fileName? with
  | some directory, some name => some (directory ++ [name])
  | _, _ => none

def makeLink (t : FileTree) (p target : Path) : FileTree :=
  match t.place? p with
  | some at_ => if (t.at? at_).isSome then t else t.addEntry at_ (.link target) (by simp)
  | none => t

def makeHardLink (t : FileTree) (p target : Path) : FileTree :=
  match t.place? p, t.place? target with
  | some at_, some source =>
    match found : t.at? source with
    | some e =>
      if (t.at? at_).isSome then t
      else t.addEntry at_ e (by rintro id rfl; exact lt_of_at?_file found)
    | none => t
  | _, _ => t

def removeFile (t : FileTree) (p : Path) : FileTree :=
  match t.place? p with
  | some at_ => t.removeEntry at_
  | none => t

def pathLE : Path → Path → Bool
  | [], _ => true
  | _ :: _, [] => false
  | a :: p, b :: q => a < b || (a == b && pathLE p q)

/-- The entries below the working directory by relative path, in the order of bytes. -/
def listing (t : FileTree) : List (Path × Entry) :=
  let below := t.entries.filter fun e =>
    t.workingDirectory.isPrefixOf e.1 && e.1 != t.workingDirectory
  let relative := below.map fun e =>
    ([Path.slash].intercalate (e.1.drop t.workingDirectory.length), e.2)
  relative.mergeSort fun e f => pathLE e.1 f.1

end Stencil.FileTree
