import Stencil.FileTree.Edit
import Stencil.Proofs.Expansion.OnTree

/-! Expanding a template that is no text.  The lines before the first that is no text are written, as
the record rewrites them together; then the expansion complains of the template. -/

namespace Stencil

namespace Bytes

/-- Whole lines that make up a text, and behind them the first line that is no text.  That line is
given without the line feed that may end it. -/
structure Breaks (bytes before : Bytes) (text : Text) (line : Bytes) : Prop where
  parts : ∃ rest, bytes = before ++ (line ++ rest) ∧ (rest = [] ∨ rest.head? = some lineFeed)
  whole : before = [] ∨ before.getLast? = some lineFeed
  decodes : Utf8.decode before = some text
  single : lineFeed ∉ line
  fault : Utf8.decode line = none

theorem Breaks.behind {a bytes before line : Bytes} {s text : Text}
    (breaks : Breaks bytes before text line) (decoded : Utf8.decode a = some s) :
    Breaks (a ++ lineFeed :: bytes) (a ++ lineFeed :: before) (s ++ '\n' :: text) line := by
  obtain ⟨rest, parts, ends⟩ := breaks.parts
  refine ⟨⟨rest, ?_, ends⟩, .inr ?_, ?_, breaks.single, breaks.fault⟩
  · rw [parts, List.append_assoc, List.cons_append]
  · rcases breaks.whole with rfl | last
    · simp
    · simp [List.getLast?_cons, last]
  · rw [Utf8.decode_append_lineFeed, decoded, breaks.decodes]
    rfl

theorem exists_breaks {bytes : Bytes} (undecodable : Utf8.decode bytes = none) :
    ∃ before text line, Breaks bytes before text line := by
  induction bytes using line_induction with
  | last a clear => exact ⟨[], [], a, ⟨[], by simp, .inl rfl⟩, .inl rfl, rfl, clear, undecodable⟩
  | line a b clear ih =>
    cases first : Utf8.decode a with
    | none =>
      exact ⟨[], [], a, ⟨lineFeed :: b, rfl, .inr rfl⟩, .inl rfl, rfl, clear, first⟩
    | some s =>
      have later : Utf8.decode b = none := by
        simpa [Utf8.decode_append_lineFeed, first] using undecodable
      obtain ⟨before, text, line, breaks⟩ := ih later
      exact ⟨_, _, line, breaks.behind first⟩

end Bytes

namespace Expansion

open Bytes (lineFeed)

variable {t opened : FileTree} {template destination : Path} {bytes before line : Bytes}
  {text : Text} {id : Nat}

theorem content_of_breaks (record : Record) (breaks : Bytes.Breaks bytes before text line) :
    content record bytes = (Utf8.encode (record.apply text), some .notUtf8) := by
  obtain ⟨⟨rest, rfl, ends⟩, whole, decodes, single, fault⟩ := breaks
  induction before using Bytes.line_induction generalizing text with
  | last a clear =>
    -- whole lines without a line feed are no lines
    have none : a = [] := whole.resolve_right fun last => clear (List.mem_of_getLast? last)
    subst none
    obtain rfl : [] = text := Option.some.inj decodes
    rw [List.nil_append, record.apply_nil]
    rcases ends with rfl | next
    · rw [List.append_nil, content_of_clear record single, fault]
      rfl
    · obtain ⟨rest, rfl⟩ := List.head?_eq_some_iff.mp next
      rw [content_append_lineFeed record single, fault]
      rfl
  | line a b clear ih =>
    rw [Utf8.decode_append_lineFeed] at decodes
    obtain ⟨s, first, decoded⟩ := Option.bind_eq_some_iff.mp decodes
    obtain ⟨u, rest', rfl⟩ := Option.map_eq_some_iff.mp decoded
    have whole' : b = [] ∨ b.getLast? = some lineFeed := by
      cases b with
      | nil => exact .inl rfl
      | cons c b => exact .inr (by simpa using whole)
    rw [List.append_assoc, List.cons_append, content_append_lineFeed record clear]
    simp only [first, ih whole' rest']
    rw [record.apply_append_lineFeed, ← Utf8.encode_append, List.append_assoc]
    rfl

theorem toDirectory_writes_before_fault {record : Record} {directory : Path} (log : List LogEntry)
    (read : t.read template = .ok bytes) (undecodable : Utf8.decode bytes = none)
    (path : Output.path template record directory = .ok destination)
    (created : t.create destination = .ok (.file id, opened))
    (other : t.file? template ≠ some id) :
    (∃ before text line, Bytes.Breaks bytes before text line) ∧
    ∀ {before text line}, Bytes.Breaks bytes before text line → ∃ after : FileTree,
      (toDirectory (m := Simulation) template record directory).run ⟨t, log⟩ =
        (.error (.file .readTemplate template .notUtf8), ⟨after, log⟩) ∧
      after.read destination = .ok (Utf8.encode (record.apply text)) ∧
      after.read template = .ok bytes := by
  refine ⟨Bytes.exists_breaks undecodable, fun {before text line} breaks => ?_⟩
  have creates := FileTree.creates_of_create created
  have expanded := onTree_of_other record read created other
  rw [content_of_breaks record breaks] at expanded
  refine ⟨_, ?_, creates.read_setContent _, (creates.read_of_ne read other _).2⟩
  rw [run_toDirectory path, expanded]
  rfl

/-- A template whose second line ends within a character, and a third line that would be text; the
destination has held something longer. -/
theorem toDirectory_writes_line_before_stray :
    let bytes := Utf8.encode "x@a@\r\n".toList ++ [195, 10] ++ Utf8.encode "@a@".toList
    let t := ((FileTree.scratch []).writeFile (Path.ofText "in".toList) bytes).writeFile
      (Path.ofText "out/in".toList) (Utf8.encode "something longer".toList)
    let record : Record := ⟨[(⟨"a".toList, by decide⟩, "1\n@b@".toList),
      (⟨"b".toList, by decide⟩, "@a@".toList)]⟩
    ∃ after : FileTree,
      (toDirectory (m := Simulation) (Path.ofText "in".toList) record
          (Path.ofText "out".toList)).run ⟨t, []⟩ =
        (.error (.file .readTemplate (Path.ofText "in".toList) .notUtf8), ⟨after, []⟩) ∧
      after.read (Path.ofText "out/in".toList) = .ok (Utf8.encode "x1\n@a@\r\n".toList) ∧
      after.read (Path.ofText "in".toList) = .ok bytes := by
  intro bytes t record
  have read : t.read (Path.ofText "in".toList) = .ok bytes := by decide +kernel
  have undecodable : Utf8.decode bytes = none := by decide +kernel
  have path : Output.path (Path.ofText "in".toList) record (Path.ofText "out".toList) =
      .ok (Path.ofText "out/in".toList) := by decide +kernel
  have sink : (t.create (Path.ofText "out/in".toList)).map Prod.fst = .ok (.file 1) := by
    decide +kernel
  have breaks : Bytes.Breaks bytes (Utf8.encode "x@a@\r\n".toList) "x@a@\r\n".toList [195] :=
    ⟨⟨10 :: Utf8.encode "@a@".toList, by decide +kernel, .inr rfl⟩, .inr (by decide +kernel),
      by decide +kernel, by decide +kernel, by decide +kernel⟩
  obtain ⟨⟨_, opened⟩, created, rfl⟩ := map_eq_ok_iff.mp sink
  obtain ⟨-, writes⟩ := toDirectory_writes_before_fault [] read undecodable path created
    (by decide +kernel)
  exact writes breaks

end Expansion

end Stencil
