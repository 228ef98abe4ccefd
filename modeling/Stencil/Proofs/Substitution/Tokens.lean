import Stencil.Proofs.Substitution.Locality
import Stencil.Proofs.Text.Segments

/-! Where a token can stand in a text.  It begins at a delimiter, and what follows up to the next
delimiter is its key.  So a text is searched from delimiter to delimiter, and each step of the
search is one of the equations below: over text without a delimiter, over a segment between two
delimiters, and over what follows the last one. -/

namespace Stencil.Placeholder

variable (p : Placeholder) (value : Text) {s : Text}

theorem delimiter_notMem_key : delimiter ∉ p.key := p.valid.2.1

theorem isPrefixOf_token_cons_of_clear {c : Char} (clear : delimiter ∉ c :: s) (t : Text) :
    p.token.isPrefixOf (c :: t) = false := by
  have other : delimiter ≠ c := fun h => clear (h ▸ List.mem_cons_self)
  simp [token, List.isPrefixOf, other]

theorem token_prefix_iff (t : Text) :
    p.token <+: delimiter :: t ↔ ∃ rest, t = p.key ++ delimiter :: rest := by
  rw [token, List.cons_prefix_cons]
  constructor
  · rintro ⟨-, rest, same⟩
    exact ⟨rest, by simp [← same]⟩
  · rintro ⟨rest, rfl⟩
    exact ⟨rfl, rest, by simp⟩

theorem prefix_key_of_token_prefix (clear : delimiter ∉ s) {t : Text}
    (h : p.token <+: delimiter :: (s ++ t)) : s <+: p.key := by
  obtain ⟨rest, same⟩ := (p.token_prefix_iff _).mp h
  exact prefix_of_append_eq clear same

theorem token_prefix_segment_iff (clear : delimiter ∉ s) (t : Text) :
    p.token <+: delimiter :: (s ++ delimiter :: t) ↔ s = p.key := by
  rw [token_prefix_iff]
  constructor
  · rintro ⟨rest, same⟩
    exact segment_eq_of_append_eq clear p.delimiter_notMem_key same
  · rintro rfl
    exact ⟨t, rfl⟩

theorem not_token_prefix_of_foreign (clear : delimiter ∉ s) {c : Char} (mem : c ∈ s)
    (foreign : c ∉ p.key) (t : Text) : ¬ p.token <+: delimiter :: (s ++ t) := fun h =>
  foreign ((p.prefix_key_of_token_prefix clear h).subset mem)

theorem not_token_prefix_last (clear : delimiter ∉ s) : ¬ p.token <+: delimiter :: s := by
  rw [token_prefix_iff]
  rintro ⟨rest, rfl⟩
  exact clear (by simp)

/-! ### The search for the token -/

theorem isPrefixOf_token_eq_false_iff (t : Text) :
    p.token.isPrefixOf t = false ↔ ¬ p.token <+: t := by
  rw [← Bool.not_eq_true, List.isPrefixOf_iff_prefix]

theorem isMatch_iff_infix (t : Text) : p.isMatch t = true ↔ p.token <:+: t := by
  rw [isMatch, Text.occurs_iff]
  exact exists_congr fun _ => exists_congr fun _ => eq_comm

theorem isMatch_eq_false_iff (t : Text) : p.isMatch t = false ↔ ¬ p.token <:+: t := by
  rw [← Bool.not_eq_true, isMatch_iff_infix]

theorem isMatch_cons (c : Char) (t : Text) :
    p.isMatch (c :: t) = (p.token.isPrefixOf (c :: t) || p.isMatch t) := rfl

theorem isMatch_append_of_clear (clear : delimiter ∉ s) (t : Text) :
    p.isMatch (s ++ t) = p.isMatch t := by
  induction s with
  | nil => rfl
  | cons c s ih =>
    have here := p.isPrefixOf_token_cons_of_clear clear (s ++ t)
    rw [List.cons_append, isMatch_cons, here, Bool.false_or]
    exact ih (List.not_mem_of_not_mem_cons clear)

theorem isMatch_of_clear (clear : delimiter ∉ s) : p.isMatch s = false := by
  have whole := p.isMatch_append_of_clear clear []
  rwa [List.append_nil] at whole

theorem isMatch_segment (clear : delimiter ∉ s) (t : Text) :
    p.isMatch (delimiter :: (s ++ delimiter :: t)) = true ↔
      s = p.key ∨ p.isMatch (delimiter :: t) = true := by
  rw [isMatch_cons, Bool.or_eq_true, List.isPrefixOf_iff_prefix, p.token_prefix_segment_iff clear,
    p.isMatch_append_of_clear clear]

theorem isMatch_last (clear : delimiter ∉ s) : p.isMatch (delimiter :: s) = false := by
  have nowhere := (p.isPrefixOf_token_eq_false_iff _).mpr (p.not_token_prefix_last clear)
  rw [isMatch_cons, nowhere, p.isMatch_of_clear clear]
  rfl

/-! ### The replacement of the token -/

theorem replaceAll_of_not_isMatch {t : Text} (h : p.isMatch t = false) :
    p.replaceAll value t = t :=
  Text.replaceAll_of_not_occurs value h

theorem replaceAll_of_clear (clear : delimiter ∉ s) : p.replaceAll value s = s :=
  p.replaceAll_of_not_isMatch value (p.isMatch_of_clear clear)

theorem replaceAll_last (clear : delimiter ∉ s) :
    p.replaceAll value (delimiter :: s) = delimiter :: s :=
  p.replaceAll_of_not_isMatch value (p.isMatch_last clear)

theorem replaceAll_append_of_clear (clear : delimiter ∉ s) (t : Text) :
    p.replaceAll value (s ++ t) = s ++ p.replaceAll value t := by
  induction s with
  | nil => rfl
  | cons c s ih =>
    have here := p.isPrefixOf_token_cons_of_clear clear (s ++ t)
    rw [List.cons_append, List.cons_append, ← ih (List.not_mem_of_not_mem_cons clear)]
    exact Text.replaceAll_cons_of_no_match value here

theorem replaceAll_token_append (t : Text) :
    p.replaceAll value (p.token ++ t) = value ++ p.replaceAll value t :=
  Text.replaceAll_append_of_ne_nil value t p.token_ne_nil

/-- A delimiter that opens no token is copied with the text up to the next one. -/
theorem replaceAll_delimiter_append (clear : delimiter ∉ s) {t : Text}
    (h : ¬ p.token <+: delimiter :: (s ++ t)) :
    p.replaceAll value (delimiter :: (s ++ t)) = delimiter :: (s ++ p.replaceAll value t) := by
  rw [← p.replaceAll_append_of_clear value clear]
  exact Text.replaceAll_cons_of_no_match value ((p.isPrefixOf_token_eq_false_iff _).mpr h)

theorem replaceAll_segment_of_eq (t : Text) :
    p.replaceAll value (delimiter :: (p.key ++ delimiter :: t)) =
      value ++ p.replaceAll value t := by
  rw [← p.replaceAll_token_append value t, token]
  simp

theorem replaceAll_segment_of_ne (clear : delimiter ∉ s) (other : s ≠ p.key) (t : Text) :
    p.replaceAll value (delimiter :: (s ++ delimiter :: t)) =
      delimiter :: (s ++ p.replaceAll value (delimiter :: t)) :=
  p.replaceAll_delimiter_append value clear (mt (p.token_prefix_segment_iff clear t).mp other)

end Stencil.Placeholder
