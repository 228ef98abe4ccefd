import Stencil.Toml.Reply

/-! What can be said of everything that a reader reads, whatever text it reads it from.  Each way of
putting readers together passes such a property on. -/

namespace Stencil.Toml.Reader

variable {α β : Type} {P : α → Prop} {Q : β → Prop} {p q : Reader α}

/-- All that the reader reads has the property. -/
def Yields (p : Reader α) (P : α → Prop) : Prop := ∀ s a rest, p s = .done a rest → P a

theorem yields_anything (p : Reader α) : p.Yields fun _ => True := fun _ _ _ _ => trivial

theorem yields_accept {a : α} (holds : P a) : (accept a).Yields P := by
  intro s b rest read
  obtain ⟨rfl, -⟩ := Reply.done.inj read
  exact holds

theorem yields_refuse (c : Complaint) : (refuse c : Reader α).Yields P := by
  intro s a rest read
  cases read

namespace Yields

theorem bind {f : α → Reader β} (first : p.Yields P) (next : ∀ a, P a → (f a).Yields Q) :
    (p >>= f).Yields Q := by
  intro s b rest read
  rw [bind_eq, andThen] at read
  cases read' : p s with
  | done a mid =>
    rw [read'] at read
    exact next a (first s a mid read') mid b rest read
  | refused stop => simp [read'] at read
  | failed stop => simp [read'] at read

theorem after {f : α → Reader β} (next : ∀ a, (f a).Yields Q) : (p >>= f).Yields Q :=
  bind (yields_anything p) fun a _ => next a

theorem orElse (first : p.Yields P) (second : q.Yields P) : (Reader.orElse p q).Yields P := by
  intro s a rest read
  rw [Reader.orElse] at read
  cases read' : p s with
  | done b mid =>
    rw [read'] at read
    exact first s a rest (read'.trans read)
  | refused stop =>
    rw [read'] at read
    exact second s a rest read
  | failed stop => simp [read'] at read

theorem commit (yields : p.Yields P) : p.commit.Yields P := by
  intro s a rest read
  rw [Reader.commit] at read
  cases read' : p s with
  | done b mid =>
    rw [read'] at read
    exact yields s a rest (read'.trans read)
  | refused stop => simp [read'] at read
  | failed stop => simp [read'] at read

theorem complaining {f : Complaint → Complaint} (yields : p.Yields P) :
    (p.complaining f).Yields P := by
  intro s a rest read
  rw [Reader.complaining] at read
  cases read' : p s with
  | done b mid =>
    rw [read'] at read
    exact yields s a rest (read'.trans read)
  | refused stop => simp [read'] at read
  | failed stop => simp [read'] at read

theorem within {k : Construct} (yields : p.Yields P) : (p.within k).Yields P := yields.complaining

theorem expecting {e : Expectation} (yields : p.Yields P) : (p.expecting e).Yields P :=
  yields.complaining

theorem judged {f : α → Except Cause β} (yields : p.Yields fun a => ∀ b, f a = .ok b → Q b) :
    (p.judged f).Yields Q := by
  intro s b rest read
  rw [Reader.judged] at read
  cases read' : p s with
  | done a mid =>
    rw [read'] at read
    cases judgement : f a with
    | error cause => simp [judgement] at read
    | ok b' =>
      simp only [judgement, Reply.done.injEq] at read
      obtain ⟨rfl, -⟩ := read
      exact yields s a mid read' b' judgement
  | refused stop => simp [read'] at read
  | failed stop => simp [read'] at read

theorem located {f : Text → Text → α → β}
    (yields : p.Yields fun a => ∀ start stop, Q (f start stop a)) :
    (p.located f).Yields Q := by
  intro s b rest read
  rw [Reader.located] at read
  cases read' : p s with
  | done a mid =>
    rw [read'] at read
    obtain ⟨rfl, -⟩ := Reply.done.inj read
    exact yields s a mid read' s mid
  | refused stop => simp [read'] at read
  | failed stop => simp [read'] at read

theorem repeated (yields : p.Yields P) (bound : Text) :
    (p.repeated bound).Yields fun as => ∀ a ∈ as, P a := by
  induction bound with
  | nil => exact yields_accept (by simp)
  | cons c bound ih =>
    intro s as rest read
    rw [repeated_cons] at read
    cases first : p s with
    | done a mid =>
      rw [first] at read
      cases more : p.repeated bound mid with
      | done as' rest' =>
        simp only [more, Reply.done.injEq] at read
        obtain ⟨rfl, -⟩ := read
        exact List.forall_mem_cons.mpr ⟨yields s a mid first, ih mid as' rest' more⟩
      | refused stop => simp [more] at read
      | failed stop => simp [more] at read
    | refused stop =>
      rw [first] at read
      obtain ⟨rfl, -⟩ := Reply.done.inj read
      simp
    | failed stop => simp [first] at read

theorem many (yields : p.Yields P) : p.many.Yields fun as => ∀ a ∈ as, P a :=
  fun s as rest read => yields.repeated s s as rest read

theorem separated (yields : p.Yields P) (separator : Char) :
    (p.separated separator).Yields fun as => ∀ a ∈ as, P a := by
  intro s as rest read
  rw [Reader.separated] at read
  cases first : p s with
  | done a mid =>
    rw [first] at read
    have more : (Reader.andThen (Reader.exactly separator) fun _ => p).many.Yields
        fun as => ∀ a ∈ as, P a := many (after fun _ => yields)
    have all := more.bind (f := fun as => accept (a :: as)) fun as holds =>
      yields_accept (P := fun as => ∀ a ∈ as, P a)
        (List.forall_mem_cons.mpr ⟨yields s a mid first, holds⟩)
    exact all mid as rest read
  | refused stop =>
    rw [first] at read
    obtain ⟨rfl, -⟩ := Reply.done.inj read
    simp
  | failed stop => simp [first] at read

end Yields

end Stencil.Toml.Reader
