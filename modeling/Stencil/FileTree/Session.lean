import Stencil.FileTree.Resolve

/-! A run on files kept as a value: the state is the tree and what has been logged. -/

namespace Stencil

structure Session where
  tree : FileTree
  log : List LogEntry

abbrev Simulation := StateM Session

namespace Session

def onTree (tree : FileTree) : Session := ⟨tree, []⟩

def openSource (p : Path) (s : Session) : Except FileFault Entry × Session := (s.tree.openEntry p, s)

def readAll (e : Entry) (s : Session) : Except FileFault Bytes × Session := (s.tree.readEntry e, s)

def openSink (p : Path) (s : Session) : Except FileFault Entry × Session :=
  match s.tree.create p with
  | .ok (e, tree) => (.ok e, { s with tree })
  | .error fault => (.error fault, s)

def writeAll (e : Entry) (content : Bytes) (s : Session) : Except FileFault PUnit × Session :=
  ((s.tree.writeEntry e content).1, { s with tree := (s.tree.writeEntry e content).2 })

instance : FileSystem Simulation where
  Source := Entry
  Sink := Entry
  openSource := openSource
  readAll := readAll
  openSink := openSink
  writeAll := writeAll
  realPath? p := fun s => (s.tree.realPath? p, s)
  currentDirectory := fun s => (s.tree.workingDirectory.path, s)
  log e := fun s => (⟨⟩, { s with log := s.log ++ [e] })

end Session

end Stencil
