import Mathlib.Algebra.GroupWithZero.Nat
import Mathlib.Data.List.Induction
import Mathlib.Data.Prod.Lex
import Mathlib.Order.Monotone.Defs
import Stencil.Proofs.Text.Segments
import Stencil.Text.Utf8

/-! Line and column as coordinates.  A line and column stand for the byte offset behind so many whole
lines and so many characters of the next.  No other offset has them, and of two offsets the later one
has the later line and column. -/

namespace Stencil

namespace Utf8

theorem size_cons (c : Char) (t : Text) : size (c :: t) = c.utf8Size + size t := by
  simp [size, encodeChar]

theorem size_flatten (pieces : List Text) : size pieces.flatten = (pieces.map size).sum := by
  induction pieces with
  | nil => rfl
  | cons piece pieces ih => rw [List.flatten_cons, size_append, ih, List.map_cons, List.sum_cons]

theorem size_lt_of_append_cons (s : Text) (c : Char) (t : Text) :
    size s < size (s ++ c :: t) := by
  have positive := c.utf8Size_pos
  rw [size_append, size_cons]
  omega

end Utf8

namespace Text

variable {t front part : Text} {offset : Nat}

/-- A character starts at the offset, or the text ends there. -/
def IsBoundary (t : Text) (offset : Nat) : Prop := ∃ front, front <+: t ∧ Utf8.size front = offset

def IsLine (line : Text) : Prop := ∃ s, '\n' ∉ s ∧ line = s ++ ['\n']

/-- A line and column, and the byte offset that they stand for. -/
inductive Locates (t : Text) : Nat × Nat → Nat → Prop
  | intro {lines : List Text} {part rest : Text} (split : t = lines.flatten ++ part ++ rest)
      (ended : ∀ line ∈ lines, IsLine line) (clear : '\n' ∉ part) :
      Locates t (lines.length + 1, part.length + 1) ((lines.map Utf8.size).sum + Utf8.size part)

theorem before?_cons_succ (c : Char) (t : Text) (n : Nat) :
    before? (c :: t) (n + 1) =
      if c.utf8Size ≤ n + 1 then (before? t (n + 1 - c.utf8Size)).map (c :: ·) else none := by
  simp [before?]

theorem before?_of_isPrefix (begins : front <+: t) : before? t (Utf8.size front) = some front := by
  obtain ⟨rest, rfl⟩ := begins
  induction front with
  | nil => cases rest <;> rfl
  | cons c front ih =>
    have positive := c.utf8Size_pos
    rw [Utf8.size_cons, List.cons_append]
    cases total : c.utf8Size + Utf8.size front with
    | zero => omega
    | succ n =>
      have fits : c.utf8Size ≤ n + 1 := by omega
      have left : n + 1 - c.utf8Size = Utf8.size front := by omega
      rw [before?_cons_succ, if_pos fits, left, ih]
      rfl

theorem before?_eq_some_iff :
    before? t offset = some front ↔ front <+: t ∧ Utf8.size front = offset := by
  constructor
  · intro found
    induction t generalizing offset front with
    | nil =>
      cases offset with
      | zero =>
        obtain rfl := Option.some.inj found
        exact ⟨List.prefix_rfl, rfl⟩
      | succ n => cases found
    | cons c t ih =>
      cases offset with
      | zero =>
        obtain rfl := Option.some.inj found
        exact ⟨List.nil_prefix, rfl⟩
      | succ n =>
        rw [before?_cons_succ] at found
        split_ifs at found with fits
        obtain ⟨front, inner, rfl⟩ := Option.map_eq_some_iff.mp found
        obtain ⟨begins, size⟩ := ih inner
        refine ⟨List.cons_prefix_cons.mpr ⟨rfl, begins⟩, ?_⟩
        rw [Utf8.size_cons, size]
        omega
  · rintro ⟨begins, rfl⟩
    exact before?_of_isPrefix begins

theorem lineColumn_of_isPrefix (begins : front <+: t) :
    lineColumn t (Utf8.size front) = endPosition front := by
  rw [lineColumn, before?_of_isPrefix begins]
  rfl

theorem lineColumn_of_not_isBoundary (inside : ¬ IsBoundary t offset) :
    lineColumn t offset = endPosition t := by
  have missing : before? t offset = none := by
    refine Option.eq_none_iff_forall_ne_some.mpr fun front found => inside ⟨front, ?_⟩
    exact before?_eq_some_iff.mp found
  rw [lineColumn, missing]
  rfl

theorem IsBoundary.le_size (boundary : IsBoundary t offset) : offset ≤ Utf8.size t := by
  obtain ⟨front, ⟨rest, rfl⟩, rfl⟩ := boundary
  rw [Utf8.size_append]
  omega

theorem lastLine_append_of_clear (s : Text) (clear : '\n' ∉ part) :
    lastLine (s ++ part) = lastLine s ++ part := by
  have others : ∀ c ∈ part.reverse, (c != '\n') = true := by
    intro c mem
    refine bne_iff_ne.mpr ?_
    rintro rfl
    exact clear (List.mem_reverse.mp mem)
  rw [lastLine, List.reverse_append, List.takeWhile_append_of_pos others, List.reverse_append,
    List.reverse_reverse]
  rfl

theorem lastLine_append_lineFeed (s part : Text) : lastLine (s ++ '\n' :: part) = lastLine part := by
  have stops : ((part.reverse ++ ['\n']) ++ s.reverse).takeWhile (· != '\n') =
      part.reverse.takeWhile (· != '\n') := by
    rw [List.append_assoc, List.takeWhile_append]
    split_ifs with all
    · rw [(List.takeWhile_prefix _).eq_of_length all]
      simp
    · rfl
  rw [lastLine, List.reverse_append, List.reverse_cons, stops]
  rfl

theorem endPosition_append_of_clear (s : Text) (clear : '\n' ∉ part) :
    endPosition (s ++ part) = ((endPosition s).1, (endPosition s).2 + part.length) := by
  rw [endPosition, endPosition, lastLine_append_of_clear s clear, List.count_append,
    List.count_eq_zero_of_not_mem clear, List.length_append, Nat.add_zero, Nat.add_assoc]

theorem fst_endPosition_append (s more : Text) :
    (endPosition (s ++ more)).1 = (endPosition s).1 + more.count '\n' := by
  rw [endPosition, endPosition, List.count_append, Nat.add_assoc]

theorem count_of_isLine {line : Text} (ended : IsLine line) : line.count '\n' = 1 := by
  obtain ⟨s, clear, rfl⟩ := ended
  rw [List.count_append, List.count_eq_zero_of_not_mem clear]
  rfl

theorem endPosition_flatten {lines : List Text} (ended : ∀ line ∈ lines, IsLine line) :
    endPosition lines.flatten = (lines.length + 1, 1) := by
  induction lines using List.reverseRecOn with
  | nil => rfl
  | append_singleton lines line ih =>
    have above := ih fun other mem => ended other (List.mem_append_left _ mem)
    have here := ended line (List.mem_append_right _ List.mem_cons_self)
    obtain ⟨s, -, rfl⟩ := id here
    rw [List.flatten_append, List.flatten_singleton]
    refine Prod.ext ?_ ?_
    · rw [fst_endPosition_append, above, count_of_isLine here, List.length_append]
      rfl
    · rw [← List.append_assoc, endPosition, lastLine_append_lineFeed]
      rfl

theorem exists_lines (s : Text) :
    ∃ (lines : List Text) (part : Text), s = lines.flatten ++ part ∧
      (∀ line ∈ lines, IsLine line) ∧ '\n' ∉ part := by
  induction s using segment_induction (a := '\n') with
  | last s clear => exact ⟨[], s, rfl, by simp, clear⟩
  | segment s rest clear ih =>
    obtain ⟨lines, part, rfl, ended, open_⟩ := ih
    refine ⟨(s ++ ['\n']) :: lines, part, by simp, ?_, open_⟩
    exact List.forall_mem_cons.mpr ⟨⟨s, clear, rfl⟩, ended⟩

theorem locates_iff {position : Nat × Nat} :
    Locates t position offset ↔ IsBoundary t offset ∧ lineColumn t offset = position := by
  have place : ∀ {lines : List Text} {part rest : Text},
      (∀ line ∈ lines, IsLine line) → '\n' ∉ part → t = lines.flatten ++ part ++ rest →
      lineColumn t (Utf8.size (lines.flatten ++ part)) = (lines.length + 1, part.length + 1) := by
    intro lines part rest ended clear split
    rw [lineColumn_of_isPrefix ⟨rest, split.symm⟩, endPosition_append_of_clear _ clear,
      endPosition_flatten ended, Nat.add_comm 1]
  constructor
  · rintro ⟨split, ended, clear⟩
    rw [← Utf8.size_flatten, ← Utf8.size_append]
    exact ⟨⟨_, ⟨_, split.symm⟩, rfl⟩, place ended clear split⟩
  · rintro ⟨⟨front, ⟨rest, split⟩, rfl⟩, rfl⟩
    obtain ⟨lines, part, rfl, ended, clear⟩ := exists_lines front
    rw [place ended clear split.symm, Utf8.size_append, Utf8.size_flatten]
    exact .intro split.symm ended clear

theorem endPosition_lt_of_append_cons (s : Text) (c : Char) (more : Text) :
    toLex (endPosition s) < toLex (endPosition (s ++ c :: more)) := by
  rw [Prod.Lex.toLex_lt_toLex]
  by_cases clear : '\n' ∈ c :: more
  · refine .inl ?_
    have counted : 0 < (c :: more).count '\n' := List.count_pos_iff.mpr clear
    rw [fst_endPosition_append]
    omega
  · refine .inr ?_
    rw [endPosition_append_of_clear s clear, List.length_cons]
    exact ⟨rfl, by omega⟩

theorem strictMonoOn_lineColumn (t : Text) :
    StrictMonoOn (fun offset => toLex (lineColumn t offset)) {offset | IsBoundary t offset} := by
  rintro _ ⟨front, begins, rfl⟩ _ ⟨front', begins', rfl⟩ lt
  have longer : ∃ c more, front' = front ++ c :: more := by
    rcases List.prefix_or_prefix_of_prefix begins begins' with ⟨more, rfl⟩ | ⟨more, rfl⟩
    · cases more with
      | nil => simp at lt
      | cons c more => exact ⟨c, more, rfl⟩
    · rw [Utf8.size_append] at lt
      omega
  obtain ⟨c, more, rfl⟩ := longer
  simp only [lineColumn_of_isPrefix begins, lineColumn_of_isPrefix begins']
  exact endPosition_lt_of_append_cons front c more

/-- Line and column tell the offset, in the order of offsets; past the end they stay what they are at
the end. -/
theorem lineColumn_coordinates (t : Text) :
    (∀ position offset, Locates t position offset ↔
      IsBoundary t offset ∧ lineColumn t offset = position) ∧
    StrictMonoOn (fun offset => toLex (lineColumn t offset)) {offset | IsBoundary t offset} ∧
    ∀ offset, Utf8.size t < offset → lineColumn t offset = lineColumn t (Utf8.size t) := by
  refine ⟨fun position offset => locates_iff, strictMonoOn_lineColumn t, fun offset beyond => ?_⟩
  have outside : ¬ IsBoundary t offset := fun boundary =>
    absurd boundary.le_size (Nat.not_le.mpr beyond)
  rw [lineColumn_of_not_isBoundary outside, lineColumn_of_isPrefix List.prefix_rfl]

theorem lineColumn_coordinates_multibyte :
    let t := "é\nb€c".toList
    (IsBoundary t 7 ∧ lineColumn t 7 = (2, 3) ∧ Locates t (2, 3) 7) ∧
      (IsBoundary t 2 ∧ IsBoundary t 3 ∧ toLex (lineColumn t 2) < toLex (lineColumn t 3)) ∧
      Utf8.size t < 99 ∧ lineColumn t 99 = (2, 4) := by
  intro t
  obtain ⟨locates, increasing, beyond⟩ := lineColumn_coordinates t
  have behind : IsBoundary t 7 := ⟨"é\nb€".toList, by decide, by decide⟩
  have above : IsBoundary t 2 := ⟨"é".toList, by decide, by decide⟩
  have below : IsBoundary t 3 := ⟨"é\n".toList, by decide, by decide⟩
  have place : lineColumn t 7 = (2, 3) := by decide
  have past : Utf8.size t < 99 := by decide
  exact ⟨⟨behind, place, (locates _ _).mpr ⟨behind, place⟩⟩,
    ⟨above, below, increasing above below (by decide)⟩, past, (beyond 99 past).trans (by decide)⟩

end Text

end Stencil
