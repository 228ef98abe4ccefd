import Stencil.FileSystem

/-! Files as a value.  Entries are kept by real path; a regular file is a number, so that two
entries can be one file, and the contents are kept by these numbers. -/

namespace Stencil

inductive Device where
  | null
  | full
  deriving DecidableEq

inductive Entry where
  | directory
  | file (id : Nat)
  | link (target : Path)
  | device (d : Device)
  deriving DecidableEq

structure FileTree where
  entries : List (Location × Entry)
  contents : List Bytes
  workingDirectory : Location
  /-- Every number of a file has its content. -/
  numbered : ∀ e ∈ entries, ∀ id, e.2 = .file id → id < contents.length

namespace FileTree

/-- The root is always a directory. -/
def at? (t : FileTree) : Location → Option Entry
  | [] => some .directory
  | at_ => (t.entries.find? fun e => e.1 == at_).map (·.2)

def content? (t : FileTree) (id : Nat) : Option Bytes := t.contents[id]?

theorem lt_of_at?_file {t : FileTree} {at_ : Location} {id : Nat}
    (h : t.at? at_ = some (.file id)) : id < t.contents.length := by
  cases at_ with
  | nil => simp [at?] at h
  | cons n at_ =>
    simp only [at?, Option.map_eq_some_iff] at h
    obtain ⟨e, found, he⟩ := h
    exact t.numbered e (List.mem_of_find?_eq_some found) id he

/-- Adds an entry; a file's number must be in use. -/
def addEntry (t : FileTree) (at_ : Location) (e : Entry)
    (known : ∀ id, e = .file id → id < t.contents.length) : FileTree where
  entries := t.entries ++ [(at_, e)]
  contents := t.contents
  workingDirectory := t.workingDirectory
  numbered := by
    intro f hf id hid
    rcases List.mem_append.mp hf with hf | hf
    · exact t.numbered f hf id hid
    · obtain rfl := List.mem_singleton.mp hf
      exact known id hid

def addFile (t : FileTree) (at_ : Location) : FileTree where
  entries := t.entries ++ [(at_, .file t.contents.length)]
  contents := t.contents ++ [[]]
  workingDirectory := t.workingDirectory
  numbered := by
    intro f hf id hid
    rw [List.length_append, List.length_singleton]
    rcases List.mem_append.mp hf with hf | hf
    · exact Nat.lt_succ_of_lt (t.numbered f hf id hid)
    · obtain rfl := List.mem_singleton.mp hf
      obtain rfl := Entry.file.inj hid
      exact Nat.lt_succ_self _

def setContent (t : FileTree) (id : Nat) (content : Bytes) : FileTree where
  entries := t.entries
  contents := t.contents.set id content
  workingDirectory := t.workingDirectory
  numbered := by simpa using t.numbered

def removeEntry (t : FileTree) (at_ : Location) : FileTree where
  entries := t.entries.filter fun e => e.1 != at_
  contents := t.contents
  workingDirectory := t.workingDirectory
  numbered := fun e he => t.numbered e (List.mem_filter.mp he).1

@[simp] theorem at?_setContent (t : FileTree) (id : Nat) (content : Bytes) (at_ : Location) :
    (t.setContent id content).at? at_ = t.at? at_ := by
  cases at_ <;> rfl

end FileTree

def Location.path (at_ : Location) : Path :=
  match at_ with
  | [] => [Path.slash]
  | names => names.flatMap fun n => Path.slash :: n

end Stencil
