import Stencil.Proofs.Substitution.Tokens

/-! When one pass leaves no token behind.  What is written in place of a token can join the text on
both sides of it, so an empty replacement may make a new token of them.  A replacement that holds no
delimiter and is no part of the key cannot: every segment it becomes a part of differs from the
key. -/

namespace Stencil

namespace Placeholder

variable {p : Placeholder} {value : Text}

/-- Behind an open delimiter and the text `before` written since, the search goes on in the middle of a
segment, where a token was replaced last and `before` holds the replacement, or at a delimiter. -/
theorem isMatch_replaceAll_behind (plain : delimiter ∉ value) (foreign : ¬ value <:+: p.key)
    (t : Text) {before : Text} (clear : delimiter ∉ before) :
    (value <:+: before →
        p.isMatch (delimiter :: (before ++ p.replaceAll value t)) = false) ∧
      (before ≠ p.key →
        p.isMatch (delimiter :: (before ++ p.replaceAll value (delimiter :: t))) = false) := by
  induction t using segment_induction generalizing before with
  | last s clear' =>
    rw [p.replaceAll_of_clear value clear', p.replaceAll_last value clear']
    constructor
    · intro _
      exact p.isMatch_last (by simp [clear, clear'])
    · intro other
      rw [← Bool.not_eq_true, p.isMatch_segment clear, p.isMatch_last clear']
      simp [other]
  | segment s t clear' ih =>
    constructor
    · -- `s` goes on with what was written, and the replacement in it keeps it from being the key
      intro holds
      have longer : delimiter ∉ before ++ s := by simp [clear, clear']
      have other : before ++ s ≠ p.key := fun same =>
        foreign (same ▸ holds.trans (List.prefix_append before s).isInfix)
      rw [p.replaceAll_append_of_clear value clear', ← List.append_assoc]
      exact (ih longer).2 other
    · intro other
      by_cases same : s = p.key
      · -- the delimiter behind `before` went with the token, and the replacement goes on with it
        have longer : delimiter ∉ before ++ value := by simp [clear, plain]
        rw [same, p.replaceAll_segment_of_eq, ← List.append_assoc]
        exact (ih longer).1 (List.suffix_append before value).isInfix
      · have rest := (ih clear').2 same
        rw [p.replaceAll_segment_of_ne value clear' same, ← Bool.not_eq_true,
          p.isMatch_segment clear, rest]
        simp [other]

theorem not_infix_replaceAll (plain : delimiter ∉ value) (foreign : ¬ value <:+: p.key) (t : Text) :
    ¬ p.token <:+: p.replaceAll value t := by
  intro found
  -- a token in the output is one behind any open delimiter and text as well
  have behind := (isMatch_replaceAll_behind plain foreign t plain).1 (List.infix_refl value)
  rw [isMatch_eq_false_iff] at behind
  have later : p.replaceAll value t <:+: delimiter :: (value ++ p.replaceAll value t) :=
    ((List.suffix_append value _).trans (List.suffix_cons delimiter _)).isInfix
  exact behind (found.trans later)

/-- One pass replaces everything: it leaves no token, and a second pass nothing to do. -/
theorem replaceAll_complete (plain : delimiter ∉ value) (foreign : ¬ value <:+: p.key) (t : Text) :
    value ≠ [] ∧ ¬ p.token <:+: p.replaceAll value t ∧
      p.replaceAll value (p.replaceAll value t) = p.replaceAll value t ∧
      let rule : Record := ⟨[(p, value)]⟩
      rule.apply (rule.apply t) = rule.apply t := by
  have none_left := not_infix_replaceAll plain foreign t
  have settled : p.replaceAll value (p.replaceAll value t) = p.replaceAll value t :=
    p.replaceAll_of_not_isMatch value ((p.isMatch_eq_false_iff _).mpr none_left)
  refine ⟨?_, none_left, settled, settled⟩
  rintro rfl
  exact foreign List.nil_infix

theorem replaceAll_complete_overlapping :
    let p : Placeholder := ⟨"a".toList, by decide⟩
    delimiter ∉ "ba".toList ∧ ¬ "ba".toList <:+: p.key ∧
      p.replaceAll "ba".toList "@@a@a@".toList = "@baa@".toList ∧
      ¬ p.token <:+: "@baa@".toList ∧ p.replaceAll "ba".toList "@baa@".toList = "@baa@".toList := by
  intro p
  have plain : delimiter ∉ "ba".toList := by decide
  have foreign : ¬ "ba".toList <:+: p.key := by decide
  have first : p.replaceAll "ba".toList "@@a@a@".toList = "@baa@".toList := by decide
  have law := replaceAll_complete plain foreign "@@a@a@".toList
  rw [first] at law
  exact ⟨plain, foreign, first, law.2.1, law.2.2.1⟩

/-- The empty text is a part of every key, and what stood around the token becomes one. -/
example : (⟨"a".toList, by decide⟩ : Placeholder).replaceAll [] "@@a@a@".toList = "@a@".toList := by
  decide

end Placeholder

end Stencil
