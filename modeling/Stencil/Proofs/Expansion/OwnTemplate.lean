import Stencil.FileTree.Edit
import Stencil.Proofs.Expansion.OnTree
import Stencil.Proofs.FileTree.Recreation
import Mathlib.Control.Monad.Basic

/-! One expansion and its own template.  The guard tells real paths apart, and a file with one name
is at one place.  So an expansion leaves its template alone, by whatever path either is given and
however it ends, unless the destination leads to the template and one of the two has no real path
that can be asked for.  Then the guard lets it pass, and the template is emptied. -/

namespace Stencil.Expansion

/-- A destination that leads to its template by a path that can be opened, and that the guard lets
pass. -/
structure Unguarded (t : FileTree) (template destination : Path) : Prop where
  samePlace : t.SamePlace template destination
  nameless : t.realPath? template = none ∨ t.realPath? destination = none
  source : template.length < FileTree.pathLimit
  sink : destination.length < FileTree.pathLimit

variable {t after : FileTree} {template destination : Path} {id : Nat}

theorem Unguarded.apart (u : Unguarded t template destination) :
    ¬ t.SameRealPath template destination := by
  intro same
  obtain ⟨-, named, named'⟩ := FileTree.sameRealPath_iff.mp same
  rcases u.nameless with none | none
  · simp [none] at named
  · simp [none] at named'

theorem Effect.unguarded_of_content?_ne (e : Effect t template destination after)
    (single : t.SingleName id) (leads : t.file? template = some id)
    (changed : after.content? id ≠ t.content? id) : Unguarded t template destination := by
  obtain ⟨l, -, here⟩ := FileTree.file?_eq_some_iff.mp leads
  obtain ⟨sent, -⟩ := e.sent_of_content?_ne (FileTree.lt_of_at?_file here) changed
  have different : after ≠ t := by
    rintro rfl
    exact changed rfl
  obtain ⟨apart, ⟨source, found⟩, sink, opened, made⟩ := e.opens_of_ne different
  obtain ⟨l, place, -⟩ := FileTree.openEntry_eq_ok_iff.mp found
  have same := single.samePlace leads sent
  have nameless : t.realPath? template = none ∨ t.realPath? destination = none := by
    refine Decidable.byContradiction fun named => apart (FileTree.sameRealPath_iff.mpr ⟨same, ?_⟩)
    simpa [Option.isSome_iff_ne_none] using named
  exact ⟨same, nameless, FileTree.length_lt_of_resolve place, made.length_lt⟩

/-- A destination that the guard lets pass is emptied before the template is read. -/
theorem onTree_of_unguarded (u : Unguarded t template destination)
    (leads : t.file? template = some id) (record : Record) :
    ∃ after, onTree t template record destination = (.ok (), after) ∧
      after.content? id = some [] := by
  obtain ⟨l, real, here⟩ := FileTree.file?_eq_some_iff.mp leads
  have sent : t.file? destination = some id :=
    FileTree.file?_eq_some_iff.mpr ⟨l, u.samePlace.2.symm.trans real, here⟩
  have found := FileTree.openEntry_of_short leads u.source
  have created := FileTree.create_of_short sent u.sink
  have old := FileTree.lt_of_at?_file here
  have emptied := FileTree.content?_setContent_self old []
  have reads : (t.setContent id []).readEntry (.file id) = .ok [] := by
    rw [FileTree.readEntry, emptied]
    rfl
  refine ⟨(t.setContent id []).setContent id [], ?_, ?_⟩
  · unfold onTree
    rw [if_neg u.apart, found, created]
    simp only [reads]
    rfl
  · exact FileTree.content?_setContent_self (by simpa using old) []

theorem content?_onTree_iff (single : t.SingleName id) (leads : t.file? template = some id)
    (record : Record) :
    (onTree t template record destination).2.content? id = t.content? id ↔
      t.content? id = some [] ∨ ¬ Unguarded t template destination := by
  by_cases u : Unguarded t template destination
  · obtain ⟨after, ran, emptied⟩ := onTree_of_unguarded u leads record
    rw [ran, emptied, eq_comm]
    simp [u]
  · refine iff_of_true (Decidable.byContradiction fun changed => u ?_) (.inr u)
    exact (effect_onTree t template record destination).unguarded_of_content?_ne single leads changed

theorem run_toDirectory_of_nameless {directory : Path} {record : Record} {failure : Failure}
    (path : Output.path template record directory = .error failure) (s : Session) :
    (toDirectory (m := Simulation) template record directory).run s = (.error failure, s) := by
  unfold toDirectory
  rw [path]
  rfl

theorem toDirectory_keeps_template_iff {directory : Path} {record : Record} {s after : Session}
    {result : Except Failure Path} (leads : s.tree.file? template = some id)
    (single : s.tree.SingleName id)
    (ran : (toDirectory (m := Simulation) template record directory).run s = (result, after)) :
    after.tree.file? template = some id ∧
    (after.tree.content? id = s.tree.content? id ↔ s.tree.content? id = some [] ∨
      ∀ destination, Output.path template record directory = .ok destination →
        ¬ Unguarded s.tree template destination) ∧
    ∀ destination, Output.path template record directory = .ok destination →
      Unguarded s.tree template destination →
        result = .ok destination ∧ after.tree.content? id = some [] := by
  cases path : Output.path template record directory with
  | error failure =>
    rw [run_toDirectory_of_nameless path] at ran
    obtain ⟨rfl, rfl⟩ := Prod.mk.inj ran
    exact ⟨leads, iff_of_true rfl (.inr (by simp)), by simp⟩
  | ok destination =>
    rw [run_toDirectory path] at ran
    obtain ⟨rfl, rfl⟩ := Prod.mk.inj ran
    refine ⟨(effect_onTree ..).grows.file? leads, ?_, fun destination' same u => ?_⟩
    · simpa using content?_onTree_iff single leads record
    · obtain rfl := Except.ok.inj same
      obtain ⟨after, ran, emptied⟩ := onTree_of_unguarded u leads record
      rw [ran]
      exact ⟨rfl, emptied⟩

namespace Roundabout

/-! A destination that is a link to the template, both by way of linked directories, beside a file
that has two names. -/

def tree : FileTree :=
  let files := ((FileTree.scratch []).writeFile (Path.ofText "sub/t.c".toList)
    (Utf8.encode "keep".toList)).writeFile (Path.ofText "out/u".toList) (Utf8.encode "u".toList)
  ((files.makeLink (Path.ofText "way".toList) (Path.ofText "sub".toList)).makeLink
    (Path.ofText "out/t.c".toList) (Path.ofText "../way/../way//t.c".toList)).makeHardLink
    (Path.ofText "out/v".toList) (Path.ofText "out/u".toList)

def byLink : Path := Path.ofText "way/../way//t.c".toList

def directory : Path := Path.ofText "sub/../out//".toList

theorem toDirectory_keeps_linked_template :
    ∃ after, (toDirectory (m := Simulation) byLink .empty directory).run ⟨tree, []⟩ =
        (.error (.file .writeOutput (Path.ofText "sub/../out//t.c".toList)
          (.overwrites byLink)), after) ∧
      after.tree.content? 0 = tree.content? 0 ∧ after.tree.file? byLink = some 0 := by
  have ran : (toDirectory (m := Simulation) byLink .empty directory).run ⟨tree, []⟩ =
      (.error (.file .writeOutput (Path.ofText "sub/../out//t.c".toList)
        (.overwrites byLink)), _) :=
    Session.run_of_result (by decide +kernel)
  have only : ∀ e ∈ tree.entries, e.2 = .file 0 →
      e.1 = [Path.ofText "sub".toList, Path.ofText "t.c".toList] := by decide +kernel
  have leads : tree.file? byLink = some 0 := by decide +kernel
  have path : Output.path byLink .empty directory =
      .ok (Path.ofText "sub/../out//t.c".toList) := by decide +kernel
  have guarded : tree.SameRealPath byLink (Path.ofText "sub/../out//t.c".toList) := by
    decide +kernel
  obtain ⟨still, kept, -⟩ :=
    toDirectory_keeps_template_iff leads (FileTree.singleName_of_entries only) ran
  refine ⟨_, ran, kept.mpr (.inr fun destination same u => ?_), still⟩
  obtain rfl := Except.ok.inj (path.symm.trans same)
  exact u.apart guarded

end Roundabout

namespace Deep

/-! A template and its destination in a working directory so deep that nothing in it has a real path
that can be asked for. -/

def workingDirectory : Location := List.replicate 20 (List.replicate 205 97)

def plain : Path := Path.ofText "plain.c".toList

def tree : FileTree :=
  (FileTree.scratch workingDirectory).writeFile plain (Utf8.encode "keep".toList)

theorem toDirectory_empties_template :
    ¬ ∀ (template directory : Path) (record : Record) (s : Session) (id : Nat),
      s.tree.file? template = some id → s.tree.SingleName id →
        ((toDirectory (m := Simulation) template record directory).run s).2.tree.content? id =
          s.tree.content? id := by
  intro kept
  have leads : tree.file? plain = some 0 := by decide +kernel
  have only : ∀ e ∈ tree.entries, e.2 = .file 0 → e.1 = workingDirectory ++ [plain] := by
    decide +kernel
  have lost : ((toDirectory (m := Simulation) plain .empty Path.dot).run
      ⟨tree, []⟩).2.tree.content? 0 ≠ tree.content? 0 := by decide +kernel
  exact lost (kept plain Path.dot .empty ⟨tree, []⟩ 0 leads (FileTree.singleName_of_entries only))

end Deep

end Stencil.Expansion
