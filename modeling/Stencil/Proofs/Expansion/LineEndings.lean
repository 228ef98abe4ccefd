import Mathlib.Data.List.Forall2
import Stencil.Proofs.Expansion.Streaming

/-! A record is applied on both sides of a foreign character apart.  Line breaks are foreign to every
record, so an expanded line ends as the line that was read. -/

namespace Stencil.Expansion

open Placeholder (delimiter)

/-- `written` stands for `line`: line breaks at its end stay, and the text before them is rewritten. -/
def KeepsEnding (record : Record) (line written : Bytes) : Prop :=
  ∃ text, Utf8.decode line = some text ∧
    ∀ body breaks, text = body ++ breaks → (∀ c ∈ breaks, c = '\n' ∨ c = '\r') →
      written = Utf8.encode (record.apply body ++ breaks)

theorem keepsEnding_of_decode (record : Record) {line : Bytes} {text : Text}
    (h : Utf8.decode line = some text) :
    KeepsEnding record line (Utf8.encode (record.apply text)) := by
  refine ⟨text, h, ?_⟩
  rintro body breaks rfl ending
  rw [record.apply_append_lineBreaks ending]

theorem forall₂_keepsEnding (record : Record) (read : List Bytes) :
    List.Forall₂ (KeepsEnding record) (read.takeWhile fun line => (Utf8.decode line).isSome)
      (lines record read).1 := by
  induction read with
  | nil => exact .nil
  | cons line rest ih =>
    cases decoded : Utf8.decode line with
    | none =>
      rw [lines_cons_of_decode_none decoded, List.takeWhile_cons_of_neg (by simp [decoded])]
      exact .nil
    | some text =>
      rw [lines_cons_of_decode decoded, List.takeWhile_cons_of_pos (by simp [decoded])]
      exact .cons (keepsEnding_of_decode record decoded) ih

/-- A record rewrites what stands before a foreign character and what stands behind it, and line
breaks are such characters. -/
theorem apply_local (record : Record) :
    (∀ c, c ≠ delimiter → (∀ key ∈ record.keys, c ∉ key) → ∀ s t,
      record.apply (s ++ c :: t) = record.apply s ++ c :: record.apply t) ∧
    (∀ c, c = '\n' ∨ c = '\r' → c ≠ delimiter ∧ ∀ key ∈ record.keys, c ∉ key) ∧
    ∀ template : Bytes, List.Forall₂ (KeepsEnding record)
      (template.lines.takeWhile fun line => (Utf8.decode line).isSome)
      (lines record template.lines).1 :=
  ⟨fun _ other foreign s t => record.apply_append_cons other foreign s t,
    fun _ isBreak => record.foreign_of_lineBreak isBreak,
    fun template => forall₂_keepsEnding record template.lines⟩

theorem apply_local_crlf :
    let record : Record := ⟨[(⟨"a".toList, by decide⟩, "@b-".toList),
      (⟨"b".toList, by decide⟩, "-\r".toList)]⟩
    '-' ≠ delimiter ∧ (∀ key ∈ record.keys, '-' ∉ key) ∧
      record.apply "@a@-b@@b@".toList =
        record.apply "@a@".toList ++ '-' :: record.apply "b@@b@".toList ∧
      ('\r' ≠ delimiter ∧ ∀ key ∈ record.keys, '\r' ∉ key) ∧
      KeepsEnding record (Utf8.encode "@b@\r\n".toList) (Utf8.encode "-\r\r\n".toList) := by
  intro record
  have other : '-' ≠ delimiter := by decide
  have foreign : ∀ key ∈ record.keys, '-' ∉ key := by decide
  obtain ⟨cut, breaks, endings⟩ := apply_local record
  have line := endings (Utf8.encode "@b@\r\n".toList)
  exact ⟨other, foreign, cut _ other foreign "@a@".toList "b@@b@".toList, breaks _ (.inr rfl),
    (List.forall₂_cons.mp line).1⟩

end Stencil.Expansion
