import Stencil.Path
import Mathlib.Tactic.SplitIfs

/-! Components of joined paths.  What is joined to a directory lies directly in it exactly when it is
one name: not empty, without a slash, and neither `.` nor `..`. -/

namespace Stencil

theorem splitAt_ne_nil {α : Type} (separates : α → Bool) (l : List α) :
    splitAt separates l ≠ [] := by
  cases l with
  | nil => simp [splitAt]
  | cons a l =>
    rw [splitAt]
    split_ifs
    · simp
    · cases splitAt separates l <;> simp [consPiece]

theorem splitAt_append_cons {α : Type} {separates : α → Bool} {a : α} (h : separates a = true)
    (l l' : List α) :
    splitAt separates (l ++ a :: l') = splitAt separates l ++ splitAt separates l' := by
  induction l with
  | nil => simp [splitAt, h]
  | cons b l ih =>
    rw [List.cons_append, splitAt, splitAt, ih]
    split_ifs
    · rfl
    · cases pieces : splitAt separates l with
      | nil => exact absurd pieces (splitAt_ne_nil separates l)
      | cons piece pieces => rfl

theorem splitAt_of_clear {α : Type} {separates : α → Bool} {l : List α}
    (h : ∀ a ∈ l, separates a = false) : splitAt separates l = [l] := by
  induction l with
  | nil => rfl
  | cons a l ih =>
    have first := h a List.mem_cons_self
    have rest := ih fun b hb => h b (List.mem_cons_of_mem a hb)
    simp [splitAt, first, rest, consPiece]

theorem clear_of_mem_splitAt {α : Type} {separates : α → Bool} {l piece : List α}
    (h : piece ∈ splitAt separates l) : ∀ a ∈ piece, separates a = false := by
  induction l generalizing piece with
  | nil =>
    obtain rfl : piece = [] := by simpa [splitAt] using h
    simp
  | cons b l ih =>
    rw [splitAt] at h
    split_ifs at h with hb
    · rcases List.mem_cons.mp h with rfl | later
      · simp
      · exact ih later
    · cases pieces : splitAt separates l with
      | nil => exact absurd pieces (splitAt_ne_nil separates l)
      | cons first rest =>
        rw [pieces] at h ih
        rcases List.mem_cons.mp h with rfl | later
        · intro a ha
          rcases List.mem_cons.mp ha with rfl | ha
          · simpa using hb
          · exact ih List.mem_cons_self a ha
        · exact ih (List.mem_cons_of_mem first later)

namespace Path

/-- One name, as a directory holds it. -/
def IsName (p : Path) : Prop := p ≠ [] ∧ slash ∉ p ∧ p ≠ dot ∧ p ≠ dotDot

instance : DecidablePred IsName := fun _ => inferInstanceAs (Decidable (_ ∧ _))

/-- The path of a name directly in a directory, by components. -/
def Inside (directory : Path) (n : Name) (p : Path) : Prop :=
  p.components = directory.components ++ [.name n]

instance (directory : Path) (n : Name) (p : Path) : Decidable (Inside directory n p) :=
  inferInstanceAs (Decidable (_ = _))

theorem segments_ne_nil (p : Path) : p.segments ≠ [] := splitAt_ne_nil _ p

theorem segments_append_slash (p q : Path) :
    segments (p ++ slash :: q) = segments p ++ segments q :=
  splitAt_append_cons (by simp) p q

theorem slash_notMem_of_mem_segments {p : Path} {s : Bytes} (h : s ∈ p.segments) : slash ∉ s := by
  intro hs
  have clear := clear_of_mem_splitAt h slash hs
  simp at clear

theorem segmentComponent_eq_name {s : Bytes} {n : Name} (h : segmentComponent s = some (.name n)) :
    s = n ∧ n ≠ [] ∧ n ≠ dot ∧ n ≠ dotDot := by
  unfold segmentComponent at h
  split_ifs at h with skipped up
  · simp at h
  · obtain rfl : s = n := by simpa using h
    rw [not_or] at skipped
    exact ⟨rfl, skipped.1, skipped.2, up⟩

theorem segmentComponent_of_isName {n : Name} (h : IsName n) :
    segmentComponent n = some (.name n) := by
  obtain ⟨nonempty, -, here, up⟩ := h
  simp [segmentComponent, nonempty, here, up]

theorem isName_of_mem_components {p : Path} {n : Name} (h : .name n ∈ p.components) :
    IsName n := by
  have found : ∃ s ∈ p.segments, segmentComponent s = some (.name n) := by
    unfold components at h
    split_ifs at h <;> simpa using h
  obtain ⟨s, mem, comp⟩ := found
  obtain ⟨rfl, nonempty, here, up⟩ := segmentComponent_eq_name comp
  exact ⟨nonempty, slash_notMem_of_mem_segments mem, here, up⟩

theorem segments_of_clear {s : Bytes} (clear : slash ∉ s) : segments s = [s] := by
  refine splitAt_of_clear fun b hb => ?_
  have other : b ≠ slash := by
    rintro rfl
    exact clear hb
  simpa using other

theorem isAbsolute_of_clear {s : Bytes} (clear : slash ∉ s) : isAbsolute s = false := by
  cases s with
  | nil => rfl
  | cons b s =>
    have other : b ≠ slash := fun same => clear (same ▸ List.mem_cons_self)
    simpa [isAbsolute] using other

theorem isAbsolute_append_cons (p : Path) (b : UInt8) (q : Path) :
    isAbsolute (p ++ b :: q) = isAbsolute (p ++ [b]) := by
  cases p <;> rfl

theorem head?_segments_append_slash (p q : Path) :
    (segments (p ++ slash :: q)).head? = p.segments.head? := by
  rw [segments_append_slash]
  cases first : p.segments with
  | nil => exact absurd first (segments_ne_nil p)
  | cons s rest => rfl

theorem components_append_slash (p q : Path) :
    components (p ++ slash :: q) =
      components (p ++ [slash]) ++ q.segments.filterMap segmentComponent := by
  unfold components
  rw [isAbsolute_append_cons, head?_segments_append_slash, head?_segments_append_slash,
    segments_append_slash, segments_append_slash, List.filterMap_append, List.filterMap_append]
  have none : (segments []).filterMap segmentComponent = [] := rfl
  rw [none, List.append_nil]
  simp only [List.append_assoc]

theorem components_append_slash_nil {p : Path} (h : p ≠ []) :
    components (p ++ [slash]) = p.components := by
  have absolute : isAbsolute (p ++ [slash]) = p.isAbsolute := by
    cases p with
    | nil => exact absurd rfl h
    | cons b p => rfl
  unfold components
  rw [absolute, head?_segments_append_slash, segments_append_slash, List.filterMap_append]
  have none : (segments []).filterMap segmentComponent = [] := rfl
  rw [none, List.append_nil]

/-- What may stand in front of a component. -/
def Opens (p : Path) : Prop := p = [] ∨ p.getLast? = some slash

theorem components_append_of_opens {lead : Path} {s : Bytes} {c : Component} (opens : Opens lead)
    (clear : slash ∉ s) (component : segmentComponent s = some c) :
    components (lead ++ s) = lead.components ++ [c] := by
  have single : (segments s).filterMap segmentComponent = [c] := by
    rw [segments_of_clear clear, List.filterMap_cons_some component]
    rfl
  rcases opens with rfl | closed
  · have other : s ≠ dot := by
      rintro rfl
      simp [segmentComponent] at component
    have first : (segments s).head? ≠ some dot := by
      rw [segments_of_clear clear]
      simpa using other
    rw [List.nil_append, components, isAbsolute_of_clear clear, if_neg first, single]
    rfl
  · obtain ⟨p, rfl⟩ := List.getLast?_eq_some_iff.mp closed
    rw [List.append_assoc, List.singleton_append, components_append_slash, single]

theorem inside_join {n : Name} (name : IsName n) (directory : Path) :
    Inside directory n (directory.join n) := by
  have component := segmentComponent_of_isName name
  unfold Inside join
  rw [isAbsolute_of_clear name.2.1, if_neg Bool.false_ne_true]
  split_ifs with opens
  · exact components_append_of_opens opens name.2.1 component
  · rw [not_or] at opens
    have closed : Opens (directory ++ [slash]) := .inr List.getLast?_concat
    rw [← components_append_slash_nil opens.1, ← components_append_of_opens closed name.2.1 component,
      List.append_assoc, List.singleton_append]

theorem inside_join_iff (directory : Path) (n : Name) :
    Inside directory n (directory.join n) ↔ IsName n := by
  constructor
  · intro inside
    refine isName_of_mem_components (p := directory.join n) ?_
    rw [inside]
    exact List.mem_append_right _ List.mem_cons_self
  · exact fun name => inside_join name directory

end Path

end Stencil
