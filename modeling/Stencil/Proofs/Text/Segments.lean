import Mathlib.Data.List.Basic

/-! A list seen from one separator to the next. -/

namespace Stencil

variable {α : Type} {a : α}

theorem segment_induction {motive : List α → Prop} (last : ∀ s, a ∉ s → motive s)
    (segment : ∀ s rest, a ∉ s → motive rest → motive (s ++ a :: rest)) (l : List α) :
    motive l := by
  by_cases h : a ∈ l
  · obtain ⟨s, rest, cut, clear⟩ := List.eq_append_cons_of_mem h
    rw [cut]
    exact segment s rest clear (segment_induction last segment rest)
  · exact last l h
termination_by l.length
decreasing_by
  rw [cut, List.length_append, List.length_cons]
  omega

theorem prefix_of_append_eq {s t l rest : List α} (clear : a ∉ s)
    (same : s ++ t = l ++ a :: rest) : s <+: l := by
  rcases List.append_eq_append_iff.mp same with ⟨more, longer, -⟩ | ⟨more, longer, tail⟩
  · exact ⟨more, longer.symm⟩
  · cases more with
    | nil => simp [longer]
    | cons b more =>
      obtain ⟨rfl, -⟩ := List.cons.inj tail
      exact absurd (by simp [longer]) clear

theorem segment_eq_of_append_eq {s t l rest : List α} (clear : a ∉ s) (clear' : a ∉ l)
    (same : s ++ a :: t = l ++ a :: rest) : s = l :=
  (prefix_of_append_eq clear same).eq_of_length_le
    (prefix_of_append_eq clear' same.symm).length_le

theorem dropLast_subset_cons (l : List α) : l.dropLast ⊆ (a :: l).dropLast := by
  cases l with
  | nil => exact List.nil_subset _
  | cons b l => exact List.subset_cons_self a _

theorem mem_tail_dropLast_iff {l : List α} :
    a ∈ l.tail.dropLast ↔ ∃ i, 0 < i ∧ i + 1 < l.length ∧ l[i]? = some a := by
  simp only [List.mem_iff_getElem?, List.getElem?_dropLast, List.getElem?_tail, List.length_tail,
    Option.ite_none_right_eq_some]
  constructor
  · rintro ⟨i, within, here⟩
    exact ⟨i + 1, by omega, by omega, here⟩
  · rintro ⟨i, behind, before, here⟩
    refine ⟨i - 1, by omega, ?_⟩
    rwa [Nat.sub_add_cancel behind]

end Stencil
