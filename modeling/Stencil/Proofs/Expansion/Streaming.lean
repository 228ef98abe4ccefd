import Stencil.Expansion
import Stencil.Proofs.Substitution.Locality
import Stencil.Proofs.Text.LineDecoding

/-! An expansion works line by line; on a text it comes to applying the record to the whole.  What
is not a text has a first line that is none, and the expansion says so. -/

namespace Stencil.Expansion

open Bytes (lineFeed)

@[simp] theorem content_nil (record : Record) : content record [] = ([], none) := rfl

theorem lines_cons_of_decode {record : Record} {line : Bytes} {t : Text}
    (h : Utf8.decode line = some t) (rest : List Bytes) :
    lines record (line :: rest) =
      (Utf8.encode (record.apply t) :: (lines record rest).1, (lines record rest).2) := by
  rw [lines, h]

theorem lines_cons_of_decode_none {record : Record} {line : Bytes}
    (h : Utf8.decode line = none) (rest : List Bytes) :
    lines record (line :: rest) = ([], some .notUtf8) := by
  rw [lines, h]

theorem content_append_lineFeed (record : Record) {a : Bytes} (clear : lineFeed ∉ a) (b : Bytes) :
    content record (a ++ lineFeed :: b) =
      match Utf8.decode a with
      | none => ([], some .notUtf8)
      | some s =>
        (Utf8.encode (record.apply s ++ ['\n']) ++ (content record b).1, (content record b).2) := by
  simp only [content, Bytes.lines_append_lineFeed clear]
  cases ha : Utf8.decode a with
  | none =>
    have line : Utf8.decode (a ++ [lineFeed]) = none := by rw [Utf8.decode_line, ha]; rfl
    rw [lines_cons_of_decode_none line]
    rfl
  | some s =>
    have line : Utf8.decode (a ++ [lineFeed]) = some (s ++ ['\n']) := by
      rw [Utf8.decode_line, ha]
      rfl
    rw [lines_cons_of_decode line, record.apply_append_lineFeed, record.apply_nil]
    rfl

theorem content_of_clear (record : Record) {a : Bytes} (clear : lineFeed ∉ a) :
    content record a =
      match Utf8.decode a with
      | none => ([], some .notUtf8)
      | some s => (Utf8.encode (record.apply s), none) := by
  by_cases nonempty : a = []
  · subst nonempty
    simp
  · rw [content, Bytes.lines_of_clear nonempty clear]
    cases ha : Utf8.decode a with
    | none => rw [lines_cons_of_decode_none ha]; rfl
    | some s =>
      rw [lines_cons_of_decode ha]
      simp [lines]

/-- On a text, going line by line is applying the record to the whole. -/
theorem content_of_decode (record : Record) {bytes : Bytes} {t : Text}
    (h : Utf8.decode bytes = some t) :
    content record bytes = (Utf8.encode (record.apply t), none) := by
  induction bytes using Bytes.line_induction generalizing t with
  | last a clear => rw [content_of_clear record clear, h]
  | line a b clear ih =>
    rw [Utf8.decode_append_lineFeed] at h
    cases ha : Utf8.decode a with
    | none => simp [ha] at h
    | some s =>
      cases hb : Utf8.decode b with
      | none => simp [ha, hb] at h
      | some u =>
        obtain rfl : s ++ '\n' :: u = t := by simpa [ha, hb] using h
        have rest := ih hb
        simp only [content_append_lineFeed record clear, ha, rest]
        rw [record.apply_append_lineFeed, ← Utf8.encode_append, List.append_assoc]
        rfl

theorem decode_of_content {record : Record} {bytes : Bytes} (h : (content record bytes).2 = none) :
    ∃ t, Utf8.decode bytes = some t := by
  induction bytes using Bytes.line_induction with
  | last a clear =>
    rw [content_of_clear record clear] at h
    cases ha : Utf8.decode a with
    | none => simp [ha] at h
    | some s => exact ⟨s, rfl⟩
  | line a b clear ih =>
    rw [content_append_lineFeed record clear] at h
    cases ha : Utf8.decode a with
    | none => simp [ha] at h
    | some s =>
      simp only [ha] at h
      obtain ⟨u, hb⟩ := ih h
      refine ⟨s ++ '\n' :: u, ?_⟩
      rw [Utf8.decode_append_lineFeed, ha, hb]
      rfl

end Stencil.Expansion
