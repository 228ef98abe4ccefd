import Stencil.Proofs.Substitution.Tokens
import Stencil.Proofs.Text.Position

/-! How far two tokens of one text can overlap.  A token that begins within another begins at a
delimiter, and the other has one at each end and none between. -/

namespace Stencil

namespace Utf8

theorem prefix_of_size_le {s s' t : Text} (first : s <+: t) (second : s' <+: t)
    (shorter : size s ≤ size s') : s <+: s' := by
  rcases List.prefix_or_prefix_of_prefix first second with initial | ⟨rest, rfl⟩
  · exact initial
  · cases rest with
    | nil => simp
    | cons c rest => exact absurd (size_lt_of_append_cons s' c rest) (Nat.not_lt.mpr shorter)

end Utf8

namespace Placeholder

variable {p q : Placeholder} {t : Text}

/-- The token begins behind so many bytes of the text. -/
def OccursAt (p : Placeholder) (t : Text) (i : Nat) : Prop :=
  ∃ front, front ++ p.token <+: t ∧ Utf8.size front = i

theorem eq_of_same_key (same : p.key = q.key) : p = q := by
  cases p
  cases q
  cases same
  rfl

theorem eq_or_closes_of_within {part after : Text} (begins : part <+: p.token)
    (short : part ≠ p.token) (second : part ++ q.token <+: p.token ++ after) :
    part = [] ∧ p = q ∨ part ++ [delimiter] = p.token := by
  obtain ⟨left, whole⟩ := begins
  -- what is left of the first token begins with the delimiter that opens the second
  have opens : q.token <+: left ++ after := by
    rwa [← whole, List.append_assoc, List.prefix_append_right_inj] at second
  cases left with
  | nil => exact absurd (by rwa [List.append_nil] at whole) short
  | cons c left =>
    obtain rfl : delimiter = c := (List.cons_prefix_cons.mp opens).1
    cases part with
    | nil =>
      have rest : left = p.key ++ [delimiter] := (List.cons.inj whole).2
      rw [rest, List.cons_append, List.append_assoc] at opens
      have same := (q.token_prefix_segment_iff p.delimiter_notMem_key after).mp opens
      exact .inl ⟨rfl, eq_of_same_key same⟩
    | cons d part =>
      have rest : p.key ++ [delimiter] = part ++ delimiter :: left := (List.cons.inj whole).2.symm
      have longer := (prefix_of_append_eq p.delimiter_notMem_key rest).length_le
      have lengths := congrArg List.length rest
      simp only [List.length_append, List.length_cons, List.length_nil] at lengths
      obtain rfl : left = [] := List.eq_nil_of_length_eq_zero (by omega)
      exact .inr whole

/-- Two tokens of a text that overlap are one, or have one delimiter in common. -/
theorem occursAt_overlap {i j : Nat} (first : p.OccursAt t i) (second : q.OccursAt t j)
    (behind : i ≤ j) (within : j < i + Utf8.size p.token) :
    i = j ∧ p = q ∨ j = i + Utf8.size p.token - 1 := by
  obtain ⟨front, initial, rfl⟩ := first
  obtain ⟨front', initial', rfl⟩ := second
  obtain ⟨part, rfl⟩ : front <+: front' := Utf8.prefix_of_size_le
    ((List.prefix_append _ _).trans initial) ((List.prefix_append _ _).trans initial') behind
  obtain ⟨after, rfl⟩ := initial
  rw [List.append_assoc, List.append_assoc, List.prefix_append_right_inj] at initial'
  rw [Utf8.size_append] at within
  have begins : part <+: p.token := Utf8.prefix_of_size_le
    ((List.prefix_append _ _).trans initial') (List.prefix_append _ _) (by omega)
  have short : part ≠ p.token := by
    rintro rfl
    exact Nat.lt_irrefl _ within
  rcases eq_or_closes_of_within begins short initial' with ⟨rfl, same⟩ | closes
  · exact .inl ⟨by rw [List.append_nil], same⟩
  · refine .inr ?_
    rw [← closes, Utf8.size_append, Utf8.size_append]
    rfl

namespace Chained

/-! Two tokens with one delimiter between their keys, the first of which takes two bytes. -/

def first : Placeholder := ⟨['é'], by decide⟩

def second : Placeholder := ⟨['b'], by decide⟩

def text : Text := "@é@b@".toList

theorem occursAt_overlap_delimiter :
    first.OccursAt text 0 ∧ second.OccursAt text 3 ∧ 3 < 0 + Utf8.size first.token ∧
      (0 = 3 ∧ first = second ∨ 3 = 0 + Utf8.size first.token - 1) := by
  have here : first.OccursAt text 0 := ⟨[], ⟨"b@".toList, by decide +kernel⟩, rfl⟩
  have there : second.OccursAt text 3 :=
    ⟨"@é".toList, ⟨[], by decide +kernel⟩, by decide +kernel⟩
  have within : 3 < 0 + Utf8.size first.token := by decide +kernel
  exact ⟨here, there, within, occursAt_overlap here there (by decide) within⟩

end Chained

end Placeholder

end Stencil
