import Stencil.Text.Basic

/-! Replacing every occurrence of a pattern, from left to right; occurrences that overlap one
already replaced are left alone.  The pattern must not be empty. -/

namespace Stencil.Text

def occurs (pattern : Text) : Text → Bool
  | [] => pattern.isPrefixOf []
  | c :: rest => pattern.isPrefixOf (c :: rest) || occurs pattern rest

theorem occurs_iff (pattern t : Text) :
    occurs pattern t = true ↔ ∃ before after, t = before ++ pattern ++ after := by
  induction t with
  | nil => simp [occurs, List.isPrefixOf_iff_prefix]
  | cons c t ih =>
    simp only [occurs, Bool.or_eq_true, List.isPrefixOf_iff_prefix, ih]
    constructor
    · rintro (⟨after, h⟩ | ⟨before, after, h⟩)
      · exact ⟨[], after, by simp [h]⟩
      · exact ⟨c :: before, after, by simp [h]⟩
    · rintro ⟨before, after, h⟩
      cases before with
      | nil => exact .inl ⟨after, by simpa using h.symm⟩
      | cons b before =>
        obtain ⟨rfl, rfl⟩ := List.cons.inj h
        exact .inr ⟨before, after, rfl⟩

/-- `replaceFrom p v n t`: the first `n` characters of `t` belong to an occurrence that has been
written already. -/
def replaceFrom (pattern value : Text) : Nat → Text → Text
  | _, [] => []
  | skip + 1, _ :: rest => replaceFrom pattern value skip rest
  | 0, c :: rest =>
    if pattern.isPrefixOf (c :: rest) then
      value ++ replaceFrom pattern value (pattern.length - 1) rest
    else c :: replaceFrom pattern value 0 rest

def replaceAll (pattern value t : Text) : Text := replaceFrom pattern value 0 t

theorem replaceFrom_drop (pattern value : Text) (n : Nat) (t : Text) :
    replaceFrom pattern value n t = replaceAll pattern value (t.drop n) := by
  induction t generalizing n with
  | nil => cases n <;> rfl
  | cons c t ih =>
    cases n with
    | zero => rfl
    | succ n => exact ih n

theorem replaceAll_append_of_ne_nil {pattern : Text} (value rest : Text) (h : pattern ≠ []) :
    replaceAll pattern value (pattern ++ rest) = value ++ replaceAll pattern value rest := by
  cases pattern with
  | nil => exact absurd rfl h
  | cons p pattern =>
    have hp : (p :: pattern).isPrefixOf (p :: (pattern ++ rest)) = true := by
      simp [List.isPrefixOf_iff_prefix]
    rw [replaceAll, List.cons_append, replaceFrom, if_pos hp, replaceFrom_drop]
    simp

theorem replaceAll_cons_of_no_match {pattern : Text} (value : Text) {c : Char} {t : Text}
    (h : pattern.isPrefixOf (c :: t) = false) :
    replaceAll pattern value (c :: t) = c :: replaceAll pattern value t := by
  simp [replaceAll, replaceFrom, h]

theorem replaceAll_of_not_occurs {pattern : Text} (value : Text) {t : Text}
    (h : occurs pattern t = false) : replaceAll pattern value t = t := by
  induction t with
  | nil => rfl
  | cons c t ih =>
    simp only [occurs, Bool.or_eq_false_iff] at h
    rw [replaceAll_cons_of_no_match value h.1, ih h.2]

end Stencil.Text
