import Stencil.Record

/-! Substitution on both sides of a separator.  A character that no token contains cuts a text
into parts which are rewritten apart: an occurrence cannot reach over it, and the search for the
next one starts afresh behind it.  A line break is such a character for every record. -/

namespace Stencil.Text

theorem isPrefixOf_append_cons {pattern : Text} {c : Char} (absent : c ∉ pattern) (s t : Text) :
    pattern.isPrefixOf (s ++ c :: t) = pattern.isPrefixOf s := by
  induction pattern generalizing s with
  | nil => simp
  | cons p pattern ih =>
    have hp : p ≠ c := fun h => absent (h ▸ List.mem_cons_self)
    cases s with
    | nil => simp [List.isPrefixOf, hp]
    | cons a s =>
      have rest := ih (fun h => absent (List.mem_cons_of_mem _ h)) s
      simp [List.isPrefixOf, rest]

theorem replaceFrom_append_cons {pattern : Text} (value : Text) {c : Char}
    (absent : c ∉ pattern) (nonempty : pattern ≠ []) {skip : Nat} {s : Text}
    (within : skip ≤ s.length) (t : Text) :
    replaceFrom pattern value skip (s ++ c :: t) =
      replaceFrom pattern value skip s ++ c :: replaceAll pattern value t := by
  induction s generalizing skip with
  | nil =>
    obtain rfl := Nat.le_zero.mp within
    have nowhere : pattern.isPrefixOf [] = false := by
      cases pattern with
      | nil => exact absurd rfl nonempty
      | cons p pattern => rfl
    exact replaceAll_cons_of_no_match value ((isPrefixOf_append_cons absent [] t).trans nowhere)
  | cons a s ih =>
    cases skip with
    | succ skip => exact ih (Nat.le_of_succ_le_succ within)
    | zero =>
      have same := isPrefixOf_append_cons absent (a :: s) t
      rw [List.cons_append] at same
      simp only [List.cons_append, replaceFrom, same]
      split
      · next here =>
        -- the occurrence lies in `a :: s`, so the skip ends before `c`
        have len := (List.isPrefixOf_iff_prefix.mp here).length_le
        rw [List.length_cons] at len
        rw [ih (by omega), List.append_assoc]
      · rw [ih (Nat.zero_le _), List.cons_append]

theorem replaceAll_append_cons {pattern : Text} (value : Text) {c : Char}
    (absent : c ∉ pattern) (nonempty : pattern ≠ []) (s t : Text) :
    replaceAll pattern value (s ++ c :: t) =
      replaceAll pattern value s ++ c :: replaceAll pattern value t :=
  replaceFrom_append_cons value absent nonempty (Nat.zero_le _) t

end Stencil.Text

namespace Stencil

namespace Placeholder

theorem token_ne_nil (p : Placeholder) : p.token ≠ [] := List.cons_ne_nil _ _

theorem notMem_token {p : Placeholder} {c : Char} (hd : c ≠ delimiter) (hk : c ∉ p.key) :
    c ∉ p.token := by
  simp [token, hd, hk]

theorem replaceAll_append_cons (p : Placeholder) (value : Text) {c : Char} (hd : c ≠ delimiter)
    (hk : c ∉ p.key) (s t : Text) :
    p.replaceAll value (s ++ c :: t) = p.replaceAll value s ++ c :: p.replaceAll value t :=
  Text.replaceAll_append_cons value (notMem_token hd hk) p.token_ne_nil s t

theorem lineBreak_notMem_key (p : Placeholder) {c : Char} (h : c = '\n' ∨ c = '\r') :
    c ∉ p.key := by
  rcases h with rfl | rfl
  · exact p.valid.2.2.1
  · exact p.valid.2.2.2

end Placeholder

namespace Record

/-- The texts on both sides of the separator may be anything, so the law holds for what every pair
hands to the next. -/
theorem applyPairs_append_cons {pairs : List (Placeholder × Text)} {c : Char}
    (hd : c ≠ Placeholder.delimiter) (hk : ∀ pair ∈ pairs, c ∉ pair.1.key) (s t : Text) :
    applyPairs pairs (s ++ c :: t) = applyPairs pairs s ++ c :: applyPairs pairs t := by
  induction pairs generalizing s t with
  | nil => rfl
  | cons pair pairs ih =>
    obtain ⟨placeholder, value⟩ := pair
    have first := placeholder.replaceAll_append_cons value hd (hk _ List.mem_cons_self) s t
    rw [applyPairs, first]
    exact ih (fun q hq => hk q (List.mem_cons_of_mem _ hq)) _ _

theorem applyPairs_nil (pairs : List (Placeholder × Text)) : applyPairs pairs [] = [] := by
  induction pairs with
  | nil => rfl
  | cons pair pairs ih => exact ih

@[simp] theorem apply_nil (r : Record) : r.apply [] = [] := applyPairs_nil r.pairs

theorem apply_append_cons (r : Record) {c : Char} (hd : c ≠ Placeholder.delimiter)
    (hk : ∀ key ∈ r.keys, c ∉ key) (s t : Text) :
    r.apply (s ++ c :: t) = r.apply s ++ c :: r.apply t :=
  applyPairs_append_cons hd (fun _ hp => hk _ (List.mem_map_of_mem hp)) s t

theorem foreign_of_lineBreak (r : Record) {c : Char} (h : c = '\n' ∨ c = '\r') :
    c ≠ Placeholder.delimiter ∧ ∀ key ∈ r.keys, c ∉ key := by
  refine ⟨?_, fun key mem => ?_⟩
  · rcases h with rfl | rfl <;> decide
  · obtain ⟨pair, -, rfl⟩ := List.mem_map.mp mem
    exact pair.1.lineBreak_notMem_key h

theorem apply_append_lineBreak (r : Record) {c : Char} (h : c = '\n' ∨ c = '\r') (s t : Text) :
    r.apply (s ++ c :: t) = r.apply s ++ c :: r.apply t :=
  r.apply_append_cons (r.foreign_of_lineBreak h).1 (r.foreign_of_lineBreak h).2 s t

theorem apply_append_lineFeed (r : Record) (s t : Text) :
    r.apply (s ++ '\n' :: t) = r.apply s ++ '\n' :: r.apply t :=
  r.apply_append_lineBreak (.inl rfl) s t

theorem apply_append_lineBreaks (r : Record) {breaks : Text}
    (h : ∀ c ∈ breaks, c = '\n' ∨ c = '\r') (s : Text) :
    r.apply (s ++ breaks) = r.apply s ++ breaks := by
  induction breaks generalizing s with
  | nil => rw [List.append_nil, List.append_nil]
  | cons c breaks ih =>
    obtain ⟨here, later⟩ := List.forall_mem_cons.mp h
    have rest : r.apply breaks = breaks := by simpa using ih later []
    rw [r.apply_append_lineBreak here, rest]

end Record

end Stencil
