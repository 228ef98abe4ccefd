import Stencil.Proofs.FileTree.Files

/-! Trees that differ in the numbers of their files only.  All that a number does is to make names
one file and to keep a content; so two trees are alike when every name shows the same in both and
the same names are one file.  Paths lead to the same places in both, and the same can be read. -/

namespace Stencil

/-- What a name shows: for a file, its content. -/
inductive Sight where
  | directory
  | file (content : Bytes)
  | link (target : Path)
  | device (d : Device)
  deriving DecidableEq

namespace FileTree

def sight (t : FileTree) : Entry → Sight
  | .directory => .directory
  | .file id => .file ((t.content? id).getD [])
  | .link target => .link target
  | .device d => .device d

def look (t : FileTree) (at_ : Location) : Option Sight := (t.at? at_).map t.sight

def OneFile (t : FileTree) (l l' : Location) : Prop :=
  ∃ id, t.at? l = some (.file id) ∧ t.at? l' = some (.file id)

structure Alike (t t' : FileTree) : Prop where
  workingDirectory : t'.workingDirectory = t.workingDirectory
  look : ∀ at_, t'.look at_ = t.look at_
  oneFile : ∀ {l l'}, t'.OneFile l l' ↔ t.OneFile l l'

variable {t t' : FileTree} {p : Path}

theorem look_eq_file_iff {at_ : Location} {content : Bytes} :
    t.look at_ = some (.file content) ↔
      ∃ id, t.at? at_ = some (.file id) ∧ (t.content? id).getD [] = content := by
  unfold look
  cases t.at? at_ with
  | none => simp
  | some e => cases e <;> simp [sight]

theorem readEntry_eq_of_sight {e e' : Entry} (same : t'.sight e' = t.sight e) :
    t'.readEntry e' = t.readEntry e := by
  cases e with
  | device d =>
    cases e' <;> cases same
    cases d <;> rfl
  | directory | file | link => cases e' <;> simp_all [sight, readEntry]

namespace Alike

theorem at?_cases (a : t.Alike t') (at_ : Location) :
    t'.at? at_ = t.at? at_ ∨
      ∃ id id', t.at? at_ = some (.file id) ∧ t'.at? at_ = some (.file id') := by
  have same := a.look at_
  unfold FileTree.look at same
  cases here : t.at? at_ with
  | none =>
    rw [here] at same
    exact .inl (Option.map_eq_none_iff.mp same)
  | some e =>
    rw [here] at same
    obtain ⟨e', here', sights⟩ := Option.map_eq_some_iff.mp same
    cases e <;> cases e' <;> simp_all [sight]

theorem askedLength (a : t.Alike t') (at_ : Location) (rest : List Bytes) :
    t'.askedLength at_ rest = t.askedLength at_ rest := by
  unfold FileTree.askedLength
  rcases a.at?_cases at_ with same | ⟨id, id', here, here'⟩
  · rw [same]
  · rw [here, here']

theorem step (a : t.Alike t') (intent : Intent) (at_ : Location) (segment : Bytes)
    (rest : List Bytes) : t'.step intent at_ segment rest = t.step intent at_ segment rest := by
  have directory : t'.at? at_ = some .directory ↔ t.at? at_ = some .directory := by
    rcases a.at?_cases at_ with same | ⟨id, id', here, here'⟩
    · rw [same]
    · simp [here, here']
  unfold FileTree.step
  simp only [ne_eq, directory, a.askedLength]
  rcases a.at?_cases (at_ ++ [segment]) with same | ⟨id, id', here, here'⟩
  · rw [same]
  · simp only [here, here']

theorem walk (a : t.Alike t') (intent : Intent) (at_ : Location) (segments : List Bytes) :
    t'.walk intent at_ segments = t.walk intent at_ segments := by
  induction segments generalizing at_ with
  | nil => rfl
  | cons segment rest ih =>
    rw [FileTree.walk, FileTree.walk, a.step]
    cases t.step intent at_ segment rest with
    | error ending => rfl
    | ok next => exact ih next

theorem follow (a : t.Alike t') (intent : Intent) (links : Nat) (at_ : Location)
    (segments : List Bytes) :
    t'.follow intent links at_ segments = t.follow intent links at_ segments := by
  induction links generalizing at_ segments with
  | zero => rw [FileTree.follow, FileTree.follow, a.walk]
  | succ links ih =>
    rw [FileTree.follow, FileTree.follow, a.walk]
    cases t.walk intent at_ segments with
    | ended r => rfl
    | link directory target rest => exact ih _ _

theorem trace (a : t.Alike t') (intent : Intent) (p : Path) :
    t'.trace intent p = t.trace intent p := by
  rw [FileTree.trace, FileTree.trace, a.workingDirectory, a.follow]

theorem resolve (a : t.Alike t') (intent : Intent) (p : Path) :
    t'.resolve intent p = t.resolve intent p := by
  rw [FileTree.resolve, FileTree.resolve, a.trace]

theorem arrival? (a : t.Alike t') (intent : Intent) (p : Path) :
    t'.arrival? intent p = t.arrival? intent p := by
  rw [FileTree.arrival?, FileTree.arrival?, a.trace]

theorem read (a : t.Alike t') (p : Path) : t'.read p = t.read p := by
  rw [FileTree.read, FileTree.read, FileTree.openEntry, FileTree.openEntry, a.resolve]
  cases t.resolve .opening p with
  | error fault => rfl
  | ok place =>
    cases place with
    | vacant l => rfl
    | existing l =>
      have same := a.look l
      unfold FileTree.look at same
      cases here : t.at? l with
      | none =>
        rw [here] at same
        simp [here, Option.map_eq_none_iff.mp same, Except.bind]
      | some e =>
        rw [here] at same
        obtain ⟨e', here', sights⟩ := Option.map_eq_some_iff.mp same
        simpa [here, here', Except.bind] using readEntry_eq_of_sight sights

end Alike

end FileTree

end Stencil
