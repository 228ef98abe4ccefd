import Stencil.Proofs.Expansion.OnTree
import Stencil.FileTree.Edit

/-! Expanding a template that is a text into another file.  The record goes over the lines one by
one, and yet the file comes to hold what it makes of the whole text. -/

namespace Stencil.Expansion

variable {t opened : FileTree} {template destination : Path} {bytes : Bytes} {text : Text} {id : Nat}

theorem onTree_of_text (record : Record) (read : t.read template = .ok bytes)
    (decoded : Utf8.decode bytes = some text)
    (created : t.create destination = .ok (.file id, opened))
    (other : t.file? template ≠ some id) :
    onTree t template record destination =
      (.ok (), opened.setContent id (Utf8.encode (record.apply text))) := by
  rw [onTree_of_other record read created other, content_of_decode record decoded]
  rfl

theorem toDirectory_writes_whole_text {record : Record} {directory : Path} (log : List LogEntry)
    (read : t.read template = .ok bytes) (decoded : Utf8.decode bytes = some text)
    (path : Output.path template record directory = .ok destination)
    (created : t.create destination = .ok (.file id, opened))
    (other : t.file? template ≠ some id) :
    ∃ after : FileTree,
      (toDirectory (m := Simulation) template record directory).run ⟨t, log⟩ =
        (.ok destination, ⟨after, log⟩) ∧
      after.read destination = .ok (Utf8.encode (record.apply text)) := by
  have creates := FileTree.creates_of_create created
  have ran : (into (m := Simulation) template record destination).run ⟨t, log⟩ =
      (.ok (), ⟨opened.setContent id (Utf8.encode (record.apply text)), log⟩) := by
    rw [run_into, onTree_of_text record read decoded created other]
  refine ⟨opened.setContent id (Utf8.encode (record.apply text)), ?_, ?_⟩
  · unfold toDirectory
    rw [path]
    exact Session.run_bind_ok ran _
  · have leads : (opened.setContent id (Utf8.encode (record.apply text))).openEntry destination =
        .ok (.file id) := (FileTree.Grows.setContent ..).openEntry creates.openEntry
    refine FileTree.read_eq_ok_iff.mpr ⟨.file id, leads, ?_⟩
    rw [FileTree.readEntry, FileTree.content?_setContent_self creates.lt_of_file]
    rfl

theorem toDirectory_writes_broken_line :
    let t := ((FileTree.scratch []).makeDirectory (Path.ofText "out".toList)).writeFile
      (Path.ofText "in".toList) (Utf8.encode "x@a@y\r\nz@b@".toList)
    let record : Record := ⟨[(⟨"a".toList, by decide⟩, "1\n@b@".toList),
      (⟨"b".toList, by decide⟩, "@a@".toList)]⟩
    ∃ after : FileTree,
      (toDirectory (m := Simulation) (Path.ofText "in".toList) record
          (Path.ofText "out".toList)).run ⟨t, []⟩ =
        (.ok (Path.ofText "out/in".toList), ⟨after, []⟩) ∧
      after.read (Path.ofText "out/in".toList) =
        .ok (Utf8.encode "x1\n@a@y\r\nz@a@".toList) := by
  intro t record
  have decoded : Utf8.decode (Utf8.encode "x@a@y\r\nz@b@".toList) =
      some "x@a@y\r\nz@b@".toList := rfl
  have created : t.create (Path.ofText "out/in".toList) =
      .ok (.file 1, t.addFile [Path.ofText "out".toList, Path.ofText "in".toList]) := rfl
  exact toDirectory_writes_whole_text [] rfl decoded rfl created (by decide +kernel)

end Stencil.Expansion
