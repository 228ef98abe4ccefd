import Stencil.Proofs.Text.Segments
import Stencil.Text.Utf8
import Mathlib.Tactic.SplitIfs

/-! A line feed ends both a line and whatever character was begun before it.  So bytes are a text
exactly when each of their lines is one, and the text is made of the texts of the lines. -/

namespace Stencil

section

variable {α : Type} {ends : α → Bool}

theorem splitAfter_append_cons {a : List α} (clear : ∀ x ∈ a, ends x = false) {c : α}
    (hc : ends c = true) (b : List α) :
    splitAfter ends (a ++ c :: b) = (a ++ [c]) :: splitAfter ends b := by
  induction a with
  | nil => simp [splitAfter, hc]
  | cons x a ih =>
    have hx := clear x List.mem_cons_self
    have rest := ih fun y hy => clear y (List.mem_cons_of_mem _ hy)
    rw [List.cons_append, splitAfter, hx, rest]
    rfl

theorem splitAfter_of_clear {a : List α} (nonempty : a ≠ [])
    (clear : ∀ x ∈ a, ends x = false) : splitAfter ends a = [a] := by
  induction a with
  | nil => exact absurd rfl nonempty
  | cons x a ih =>
    have hx := clear x List.mem_cons_self
    rw [splitAfter, hx]
    cases a with
    | nil => rfl
    | cons y a =>
      rw [ih (List.cons_ne_nil _ _) fun z hz => clear z (List.mem_cons_of_mem _ hz)]
      rfl

end

namespace Bytes

def lineFeed : UInt8 := 10

theorem clear_iff {a : Bytes} : lineFeed ∉ a ↔ ∀ x ∈ a, (x == lineFeed) = false := by
  constructor
  · intro clear x hx
    refine beq_eq_false_iff_ne.mpr ?_
    rintro rfl
    exact clear hx
  · intro clear hx
    exact absurd rfl (beq_eq_false_iff_ne.mp (clear _ hx))

theorem lines_append_lineFeed {a : Bytes} (clear : lineFeed ∉ a) (b : Bytes) :
    lines (a ++ lineFeed :: b) = (a ++ [lineFeed]) :: lines b :=
  splitAfter_append_cons (clear_iff.mp clear) rfl b

theorem lines_of_clear {a : Bytes} (nonempty : a ≠ []) (clear : lineFeed ∉ a) : lines a = [a] :=
  splitAfter_of_clear nonempty (clear_iff.mp clear)

theorem line_induction {motive : Bytes → Prop} (last : ∀ a, lineFeed ∉ a → motive a)
    (line : ∀ a b, lineFeed ∉ a → motive b → motive (a ++ lineFeed :: b)) (content : Bytes) :
    motive content :=
  segment_induction last line content

end Bytes

namespace Utf8

open Bytes (lineFeed)

/-- No byte of the seven-bit range goes on with a character. -/
def Pending.Guarded (p : Pending) : Prop := 0x80 ≤ p.low

theorem guarded_of_lead {b : UInt8} {p : Pending} (h : lead b = .opens p) : p.Guarded := by
  unfold lead at h
  simp only at h
  split_ifs at h <;>
    (obtain rfl := Lead.opens.inj h
     dsimp only [Pending.Guarded]
     decide)

theorem guarded_of_begin {b : UInt8} {p : Pending} (h : (begin b).2 = some p) : p.Guarded := by
  unfold begin at h
  cases hl : lead b with
  | whole c => simp [hl] at h
  | stray => simp [hl] at h
  | opens q =>
    obtain rfl : q = p := by simpa [hl] using h
    exact guarded_of_lead hl

theorem guarded_of_step {state : Option Pending} {b : UInt8} {p : Pending}
    (h : (step state b).2 = some p) : p.Guarded := by
  cases state with
  | none => exact guarded_of_begin h
  | some q =>
    simp only [step] at h
    split_ifs at h with admitted
    · cases hm : q.more with
      | zero => simp [hm] at h
      | succ more =>
        simp only [hm, Option.some.injEq] at h
        obtain rfl := h
        exact UInt8.le_refl _
    · exact guarded_of_begin h

theorem not_admits_lineFeed {p : Pending} (h : p.Guarded) : p.admits lineFeed = false := by
  have low : ¬ p.low ≤ lineFeed := fun hp => absurd (UInt8.le_trans h hp) (by decide)
  simp [Pending.admits, low]

theorem unitsFrom_append_lineFeed {state : Option Pending} (guarded : ∀ p ∈ state, p.Guarded)
    (a b : Bytes) :
    unitsFrom state (a ++ lineFeed :: b) = unitsFrom state a ++ some '\n' :: units b := by
  induction a generalizing state with
  | nil =>
    cases state with
    | none => rfl
    | some p =>
      have left := not_admits_lineFeed (guarded p rfl)
      simp only [List.nil_append, unitsFrom, step, left]
      rfl
  | cons x a ih =>
    have next := ih fun p hp => @guarded_of_step state x p hp
    rw [List.cons_append, unitsFrom, unitsFrom, next, List.append_assoc]

theorem sequence_append (us vs : List Unit?) :
    sequence (us ++ vs) = (sequence us).bind fun s => (sequence vs).map (s ++ ·) := by
  induction us with
  | nil => simp [sequence]
  | cons u us ih =>
    cases u with
    | none => rfl
    | some c => cases hs : sequence us <;> simp [sequence, ih, hs, Function.comp_def]

theorem decode_append_lineFeed (a b : Bytes) :
    decode (a ++ lineFeed :: b) =
      (decode a).bind fun s => (decode b).map fun t => s ++ '\n' :: t := by
  have cut : units (a ++ lineFeed :: b) = units a ++ some '\n' :: units b :=
    unitsFrom_append_lineFeed (by simp) a b
  simp only [decode, cut, sequence_append, sequence, Option.map_map]
  rfl

@[simp] theorem decode_nil : decode [] = some [] := rfl

theorem decode_line (a : Bytes) : decode (a ++ [lineFeed]) = (decode a).map (· ++ ['\n']) := by
  rw [decode_append_lineFeed]
  cases decode a <;> rfl

end Utf8

end Stencil
