import Mathlib.Logic.Relation
import Stencil.Proofs.Path

/-! Spellings of a path.  Two paths are equal by components exactly when one is rewritten into the
other by doubling slashes, by slipping in a `.` behind a slash, and by closing with a slash or with a
slash and a `.`.  Any other change, of a `..` or of a `.` in front, makes another path. -/

namespace Stencil

theorem eq_append_of_splitAt {α : Type} [DecidableEq α] {separator : α} {l first : List α}
    {rest : List (List α)} (pieces : splitAt (· == separator) l = first :: rest) :
    l = first ++ rest.flatMap (separator :: ·) := by
  induction l generalizing first rest with
  | nil =>
    obtain ⟨rfl, rfl⟩ := List.cons.inj pieces
    rfl
  | cons a l ih =>
    rw [splitAt] at pieces
    cases later : splitAt (· == separator) l with
    | nil => exact absurd later (splitAt_ne_nil _ l)
    | cons piece pieces' =>
      have tail := ih later
      split_ifs at pieces with separates
      · obtain ⟨rfl, rfl⟩ := List.cons.inj pieces
        obtain rfl : a = separator := by simpa using separates
        rw [later, List.flatMap_cons, List.cons_append, ← tail]
        rfl
      · rw [later] at pieces
        obtain ⟨rfl, rfl⟩ := List.cons.inj pieces
        rw [List.cons_append, ← tail]

def Component.bytes : Component → Bytes
  | .root => [Path.slash]
  | .here => Path.dot
  | .parent => Path.dotDot
  | .name n => n

namespace Path

/-- What may be left out of a path. -/
inductive Respells : Path → Path → Prop
  | doubled (p q : Path) : Respells (p ++ slash :: slash :: q) (p ++ slash :: q)
  | here (p q : Path) : Respells (p ++ slash :: (dot ++ slash :: q)) (p ++ slash :: q)
  | closingHere (p : Path) : Respells (p ++ slash :: dot) (p ++ [slash])
  | closing {p : Path} (nonempty : p ≠ []) : Respells (p ++ [slash]) p

/-- Two spellings of one path. -/
abbrev Respelled : Path → Path → Prop := Relation.EqvGen Respells

theorem Respells.components_eq {p q : Path} (one : Respells p q) : p.components = q.components := by
  cases one with
  | doubled p q =>
    rw [components_append_slash p (slash :: q), components_append_slash p q]
    rfl
  | here p q =>
    rw [components_append_slash p (dot ++ slash :: q), components_append_slash p q,
      segments_append_slash]
    rfl
  | closingHere p =>
    rw [components_append_slash]
    exact List.append_nil _
  | closing nonempty => exact components_append_slash_nil nonempty

theorem Respelled.components_eq {p q : Path} (same : Respelled p q) :
    p.components = q.components := by
  induction same with
  | rel _ _ one => exact one.components_eq
  | refl _ => rfl
  | symm _ _ _ ih => exact ih.symm
  | trans _ _ _ _ _ first second => exact first.trans second

/-- One spelling for each list of components; behind the root it doubles the slash. -/
def spell : List Component → Path
  | [] => []
  | c :: rest => c.bytes ++ rest.flatMap fun c => slash :: c.bytes

theorem segmentComponent_cases (s : Bytes) :
    segmentComponent s = none ∧ (s = [] ∨ s = dot) ∨
      ∃ c, segmentComponent s = some c ∧ c.bytes = s ∧ s ≠ [] ∧ s ≠ dot := by
  unfold segmentComponent
  split_ifs with skipped up
  · exact .inl ⟨rfl, skipped⟩
  · rw [not_or] at skipped
    exact .inr ⟨_, rfl, up.symm, skipped⟩
  · rw [not_or] at skipped
    exact .inr ⟨_, rfl, rfl, skipped⟩

theorem respelled_behind {p : Path} (nonempty : p ≠ []) (segments : List Bytes) :
    Respelled (p ++ segments.flatMap (slash :: ·))
      (p ++ (segments.filterMap segmentComponent).flatMap fun c => slash :: c.bytes) := by
  induction segments generalizing p with
  | nil => exact .refl _
  | cons s rest ih =>
    rw [List.flatMap_cons]
    rcases segmentComponent_cases s with ⟨none, rfl | rfl⟩ | ⟨c, some, rfl, -⟩
    · rw [List.filterMap_cons_none none]
      refine .trans _ _ _ (.rel _ _ ?_) (ih nonempty)
      cases rest with
      | nil =>
        rw [List.flatMap_nil, List.append_nil, List.append_nil]
        exact .closing nonempty
      | cons next rest => exact .doubled p _
    · rw [List.filterMap_cons_none none]
      refine .trans _ _ _ ?_ (ih nonempty)
      cases rest with
      | nil =>
        have closed : Respelled (p ++ slash :: dot) p :=
          .trans _ _ _ (.rel _ _ (.closingHere p)) (.rel _ _ (.closing nonempty))
        simpa using closed
      | cons next rest => exact .rel _ _ (.here p _)
    · rw [List.filterMap_cons_some some, List.flatMap_cons, ← List.append_assoc, ← List.append_assoc]
      exact ih (by simp)

theorem isAbsolute_of_segments {p : Path} {first : Bytes} {rest : List Bytes}
    (pieces : p.segments = first :: rest) :
    p.isAbsolute = decide (first = [] ∧ rest ≠ []) := by
  have whole : p = first ++ rest.flatMap (slash :: ·) := eq_append_of_splitAt pieces
  rw [isAbsolute, whole]
  cases first with
  | nil => cases rest <;> simp
  | cons b first =>
    have clear : slash ∉ b :: first :=
      slash_notMem_of_mem_segments (pieces ▸ List.mem_cons_self)
    have other : b ≠ slash := fun same => clear (same ▸ List.mem_cons_self)
    simp [other]

theorem respelled_spell (p : Path) : Respelled p (spell p.components) := by
  cases pieces : p.segments with
  | nil => exact absurd pieces (segments_ne_nil p)
  | cons first rest =>
    have whole : p = first ++ rest.flatMap (slash :: ·) := eq_append_of_splitAt pieces
    have absolute := isAbsolute_of_segments pieces
    by_cases empty : first = []
    · subst empty
      cases rest with
      | nil =>
        obtain rfl : p = [] := whole
        exact .refl _
      | cons next rest =>
        have rooted : p.components = .root :: (next :: rest).filterMap segmentComponent := by
          simp [components, absolute, pieces, dot, segmentComponent]
        rw [rooted]
        -- The slash in front is doubled, and then the segments stand behind something.
        refine .trans _ _ _ (.symm _ _ (.rel _ _ ?_))
          (respelled_behind (List.cons_ne_nil slash []) (next :: rest))
        rw [whole]
        exact .doubled [] _
    · have led : ∃ c, p.components = c :: rest.filterMap segmentComponent ∧ c.bytes = first := by
        rcases segmentComponent_cases first with ⟨none, rfl | rfl⟩ | ⟨c, some, same, -, inner⟩
        · exact absurd rfl empty
        · exact ⟨.here, by simp [components, absolute, pieces, none, empty], rfl⟩
        · exact ⟨c, by simp [components, absolute, pieces, some, empty, inner], same⟩
      obtain ⟨c, led, rfl⟩ := led
      rw [led]
      have behind := respelled_behind empty rest
      rwa [← whole] at behind

theorem components_eq_iff_respelled {p q : Path} :
    p.components = q.components ↔ Respelled p q := by
  refine ⟨fun same => ?_, Respelled.components_eq⟩
  have back := Relation.EqvGen.symm _ _ (respelled_spell q)
  rw [← same] at back
  exact .trans _ _ _ (respelled_spell p) back

end Path

end Stencil
