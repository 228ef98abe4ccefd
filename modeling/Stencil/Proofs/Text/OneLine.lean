import Mathlib.Algebra.GroupWithZero.Nat
import Mathlib.Tactic.SplitIfs
import Stencil.Path
import Stencil.Text.Escape

/-! Texts on one line.  Numbers and escaped texts always are, and so is what is shown of a path without
line breaks: decoding makes a line break of no other byte. -/

namespace Stencil

namespace Text

def OneLine (t : Text) : Prop := '\n' ∉ t ∧ '\r' ∉ t

instance : DecidablePred OneLine := fun _ => inferInstanceAs (Decidable (_ ∧ _))

variable {s t : Text} {c : Char}

theorem oneLine_append_iff : OneLine (s ++ t) ↔ OneLine s ∧ OneLine t := by
  simp only [OneLine, List.mem_append, not_or]
  exact and_and_and_comm

theorem oneLine_cons_iff : OneLine (c :: t) ↔ (c ≠ '\n' ∧ c ≠ '\r') ∧ OneLine t := by
  simp only [OneLine, List.mem_cons, not_or, ne_comm]
  exact and_and_and_comm

theorem oneLine_singleton (other : c ≠ '\n') (other' : c ≠ '\r') : OneLine [c] :=
  oneLine_cons_iff.mpr ⟨⟨other, other'⟩, by decide⟩

theorem oneLine_flatMap {f : Char → Text} (each : ∀ c ∈ t, OneLine (f c)) : OneLine (t.flatMap f) := by
  induction t with
  | nil => exact ⟨List.not_mem_nil, List.not_mem_nil⟩
  | cons c t ih =>
    rw [List.forall_mem_cons] at each
    rw [List.flatMap_cons]
    exact oneLine_append_iff.mpr ⟨each.1, ih each.2⟩

theorem oneLine_toDigits {b : Nat} (base : 1 < b) (n : Nat) : OneLine (Nat.toDigits b n) := by
  induction n using Nat.strongRecOn with
  | ind n ih =>
    rw [Nat.toDigits_eq_if base]
    split
    · exact oneLine_singleton (by simp) (by simp)
    · next many =>
      have fewer := ih (n / b) (Nat.div_lt_self (by omega) base)
      exact oneLine_append_iff.mpr ⟨fewer, oneLine_singleton (by simp) (by simp)⟩

theorem oneLine_codePointEscape (c : Char) : OneLine (codePointEscape c) := by
  have digits := oneLine_toDigits (by decide : 1 < 16) c.toNat
  simp only [codePointEscape, quoted, List.cons_append, oneLine_cons_iff, oneLine_append_iff]
  exact ⟨by decide, by decide, by decide, digits, by decide⟩

theorem oneLine_escapeInner (c : Char) : OneLine (escapeInner c) := by
  unfold escapeInner
  split
  case h_8 =>
    split
    · exact oneLine_singleton (by assumption) (by assumption)
    · exact oneLine_codePointEscape c
  all_goals decide

theorem oneLine_escaped (t : Text) : OneLine (escaped t) := by
  cases t with
  | nil => decide
  | cons c rest =>
    refine oneLine_append_iff.mpr ⟨?_, oneLine_flatMap fun c _ => oneLine_escapeInner c⟩
    unfold escapeFirst
    split
    · exact oneLine_codePointEscape c
    · exact oneLine_escapeInner c

end Text

namespace Utf8

/-- The least number that what has begun may come to is beyond the seven-bit range. -/
def Pending.Wide (p : Pending) : Prop :=
  0x80 ≤ (p.bits * 64 + (p.low.toNat - 0x80)) * 64 ^ p.more

theorem wide_of_lead {b : UInt8} {p : Pending} (opened : lead b = .opens p) : p.Wide := by
  unfold lead at opened
  simp only at opened
  split_ifs at opened <;>
    (obtain rfl := Lead.opens.inj opened
     simp only [Pending.Wide, UInt8.reduceToNat]
     omega)

theorem Pending.least_le_extended {p : Pending} {b : UInt8} (admitted : p.admits b = true) :
    p.bits * 64 + (p.low.toNat - 0x80) ≤ p.extended b := by
  have above : p.low.toNat ≤ b.toNat := by
    simp only [admits, Bool.and_eq_true, decide_eq_true_eq] at admitted
    exact UInt8.le_iff_toNat_le.mp admitted.1
  unfold extended
  omega

theorem Pending.Wide.extended {p : Pending} (wide : p.Wide) {b : UInt8}
    (admitted : p.admits b = true) : 0x80 ≤ p.extended b * 64 ^ p.more :=
  Nat.le_trans wide (Nat.mul_le_mul_right _ (Pending.least_le_extended admitted))

/-- What one byte does: a unit of the seven-bit range can only be the byte itself, and a character
that it leaves open will be beyond that range. -/
def Reads (b : UInt8) (read : List Unit? × Option Pending) : Prop :=
  (∀ c, some c ∈ read.1 → c ≠ '\x00' → c.toNat < 0x80 → c.toNat = b.toNat) ∧ ∀ p ∈ read.2, p.Wide

theorem toNat_ofNat_of_ne {n : Nat} (valid : Char.ofNat n ≠ '\x00') : (Char.ofNat n).toNat = n := by
  by_cases sound : n.isValidChar
  · have made : Char.ofNat n = Char.ofNatAux n sound := dif_pos sound
    rw [made]
    rfl
  · exact absurd (dif_neg sound) valid

theorem eq_of_lead {b : UInt8} {c : Char} (read : lead b = .whole c) : c = Char.ofNat b.toNat := by
  unfold lead at read
  simp only at read
  split_ifs at read
  exact (Lead.whole.inj read).symm

theorem reads_begin (b : UInt8) : Reads b (begin b) := by
  unfold begin
  cases opened : lead b with
  | whole c =>
    obtain rfl := eq_of_lead opened
    refine ⟨fun c mem valid _ => ?_, by simp⟩
    obtain rfl := Option.some.inj (List.mem_singleton.mp mem)
    exact toNat_ofNat_of_ne valid
  | stray => simp [Reads]
  | opens p => simp [Reads, wide_of_lead opened]

theorem reads_step {state : Option Pending} (wide : ∀ p ∈ state, p.Wide) (b : UInt8) :
    Reads b (step state b) := by
  cases state with
  | none => exact reads_begin b
  | some p =>
    have wide := wide p rfl
    simp only [step]
    split_ifs with admitted
    · have least := wide.extended admitted
      cases owed : p.more with
      | zero =>
        refine ⟨fun c mem valid seven => ?_, by simp⟩
        have made : c = Char.ofNat (p.extended b) := by simpa using mem
        rw [made] at valid
        rw [made, toNat_ofNat_of_ne valid] at seven
        rw [owed, Nat.pow_zero, Nat.mul_one] at least
        exact absurd seven (Nat.not_lt.mpr least)
      | succ more =>
        refine ⟨by simp, fun q left => ?_⟩
        have begun : q = ⟨0x80, 0xBF, more, p.extended b⟩ := by simpa using left.symm
        rw [owed, Nat.pow_succ', ← Nat.mul_assoc] at least
        simpa only [begun, Pending.Wide, UInt8.reduceToNat, Nat.sub_self, Nat.add_zero] using least
    · have started := reads_begin b
      exact ⟨fun c mem => started.1 c (by simpa using mem), started.2⟩

theorem mem_of_mem_units {c : Char} (valid : c ≠ '\x00') (seven : c.toNat < 0x80)
    {state : Option Pending} (wide : ∀ p ∈ state, p.Wide) {bytes : Bytes}
    (mem : some c ∈ unitsFrom state bytes) : ∃ b ∈ bytes, c.toNat = b.toNat := by
  induction bytes generalizing state with
  | nil => cases state <;> simp [unitsFrom] at mem
  | cons b bytes ih =>
    have read := reads_step wide b
    rw [unitsFrom, List.mem_append] at mem
    rcases mem with mem | mem
    · exact ⟨b, List.mem_cons_self, read.1 c mem valid seven⟩
    · obtain ⟨b', mem', same⟩ := ih read.2 mem
      exact ⟨b', List.mem_cons_of_mem _ mem', same⟩

end Utf8

theorem Path.mem_of_mem_display {p : Path} {c : Char} (valid : c ≠ '\x00') (seven : c.toNat < 0x80)
    (mem : c ∈ p.display) : UInt8.ofNat c.toNat ∈ p := by
  obtain ⟨unit, read, shown⟩ := List.mem_map.mp mem
  cases unit with
  | none =>
    obtain rfl : '\uFFFD' = c := shown
    exact absurd seven (by decide)
  | some c' =>
    obtain rfl : c' = c := shown
    obtain ⟨b, mem, same⟩ := Utf8.mem_of_mem_units valid seven (by simp) read
    rwa [same, UInt8.ofNat_toNat]

theorem Path.oneLine_display {p : Path} (plain : 10 ∉ p ∧ 13 ∉ p) : Text.OneLine p.display :=
  ⟨fun mem => plain.1 (mem_of_mem_display (by decide) (by decide) mem),
    fun mem => plain.2 (mem_of_mem_display (by decide) (by decide) mem)⟩

end Stencil
