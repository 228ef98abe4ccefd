import Stencil.Proofs.Results
import Stencil.Toml.Reply

/-! What a reader makes of one text.  Each way of putting readers together has its step here, so
that the reading of a long text is put together from those of its parts; what decides between two
readings is whether the first of them refuses.  A reader that repeats is followed repetition by
repetition, and no bound stops it as long as each of them takes something. -/

namespace Stencil.Toml.Reader

variable {α β : Type} {p q : Reader α} {s mid rest : Text} {a : α} {b : β}

/-- The reader reads a value from the text and leaves the rest of it. -/
def Reads (p : Reader α) (s : Text) (a : α) (rest : Text) : Prop := p s = .done a rest

def Refuses (p : Reader α) (s : Text) : Prop := ∃ stop, p s = .refused stop

theorem reads_accept (a : α) (s : Text) : (accept a).Reads s a s := rfl

theorem reads_exactly (c : Char) (s : Text) : (exactly c).Reads (c :: s) c s := by
  simp [Reads, exactly, character]

theorem reads_literal (t s : Text) : (literal t).Reads (t ++ s) ⟨⟩ s := by
  simp [Reads, literal]

theorem refuses_exactly {c : Char} (other : s.head? ≠ some c) : (exactly c).Refuses s := by
  cases s with
  | nil => exact ⟨_, rfl⟩
  | cons d s =>
    have different : d ≠ c := fun same => other (by rw [same]; rfl)
    exact ⟨⟨d :: s, .none⟩, by simp [exactly, character, different]⟩

theorem refuses_literal {t : Text} (other : t.isPrefixOf s = false) : (literal t).Refuses s :=
  ⟨⟨s, .none⟩, by simp [literal, other]⟩

namespace Reads

theorem bind {f : α → Reader β} (first : p.Reads s a mid) (next : (f a).Reads mid b rest) :
    (p >>= f).Reads s b rest :=
  (andThen_done first).trans next

theorem orElse (reads : p.Reads s a rest) : (Reader.orElse p q).Reads s a rest := by
  rw [Reads] at reads
  simp [Reads, Reader.orElse, reads]

theorem orElse_of_refuses (refuses : p.Refuses s) (reads : q.Reads s a rest) :
    (Reader.orElse p q).Reads s a rest := by
  obtain ⟨stop, refused⟩ := refuses
  rw [Reads] at reads
  simp [Reads, Reader.orElse, refused, reads]

theorem optional_of_refuses (refuses : p.Refuses s) : p.optional.Reads s none s := by
  obtain ⟨stop, refused⟩ := refuses
  simp [Reads, Reader.optional, refused]

theorem commit (reads : p.Reads s a rest) : p.commit.Reads s a rest := by
  rw [Reads] at reads
  simp [Reads, Reader.commit, reads]

theorem complaining {f : Complaint → Complaint} (reads : p.Reads s a rest) :
    (p.complaining f).Reads s a rest := by
  rw [Reads] at reads
  simp [Reads, Reader.complaining, reads]

theorem within {k : Construct} (reads : p.Reads s a rest) : (p.within k).Reads s a rest :=
  reads.complaining

theorem expecting {e : Expectation} (reads : p.Reads s a rest) : (p.expecting e).Reads s a rest :=
  reads.complaining

theorem judged {f : α → Except Cause β} (reads : p.Reads s a rest) (good : f a = .ok b) :
    (p.judged f).Reads s b rest := by
  rw [Reads] at reads
  simp [Reads, Reader.judged, reads, good]

theorem located {f : Text → Text → α → β} (reads : p.Reads s a rest) :
    (p.located f).Reads s (f s rest a) rest := by
  rw [Reads] at reads
  simp [Reads, Reader.located, reads]

end Reads

namespace Refuses

theorem bind {f : α → Reader β} (refuses : p.Refuses s) : (p >>= f).Refuses s := by
  obtain ⟨stop, refused⟩ := refuses
  exact ⟨stop, by rw [bind_eq, andThen, refused]⟩

theorem complaining {f : Complaint → Complaint} (refuses : p.Refuses s) :
    (p.complaining f).Refuses s := by
  obtain ⟨stop, refused⟩ := refuses
  exact ⟨_, by simp only [Reader.complaining, refused]; rfl⟩

end Refuses

/-- Repetitions of a reader that each take something, up to a refusal. -/
inductive Repeats (p : Reader α) : Text → List α → Text → Prop
  | stop {s : Text} (refuses : p.Refuses s) : Repeats p s [] s
  | step {s mid rest : Text} {a : α} {as : List α} (first : p.Reads s a mid)
      (takes : mid.length < s.length) (more : Repeats p mid as rest) : Repeats p s (a :: as) rest

theorem Repeats.reads_repeated {as : List α} (repeats : Repeats p s as rest) {bound : Text}
    (enough : s.length ≤ bound.length) : (p.repeated bound).Reads s as rest := by
  -- what is left shrinks with each repetition, so it never outgrows what is left of the bound
  induction repeats generalizing bound with
  | stop refuses =>
    obtain ⟨stop, refused⟩ := refuses
    cases bound with
    | nil => rfl
    | cons c bound => simp [Reads, repeated_cons, refused]
  | step first takes more ih =>
    cases bound with
    | nil => exact absurd (Nat.lt_of_lt_of_le takes enough) (Nat.not_lt_zero _)
    | cons c bound =>
      have later := ih (Nat.le_of_lt_succ (Nat.lt_of_lt_of_le takes enough))
      rw [Reads] at first later
      simp [Reads, repeated_cons, first, later]

theorem Repeats.reads_many {as : List α} (repeats : Repeats p s as rest) :
    p.many.Reads s as rest :=
  repeats.reads_repeated (Nat.le_refl _)

theorem reads_separated_of_refuses {separator : Char} (refuses : p.Refuses s) :
    (p.separated separator).Reads s [] s := by
  obtain ⟨stop, refused⟩ := refuses
  simp [Reads, separated, refused]

/-- What may follow an item of a list: the next one, or a space and the end of the list. -/
inductive ItemEnd (close : Char) : Text → Text → Prop
  | next (s : Text) : ItemEnd close (',' :: s) (',' :: s)
  | last (s : Text) : ItemEnd close (' ' :: close :: s) (close :: s)

theorem ItemEnd.length_le {close : Char} {s s' : Text} (ends : ItemEnd close s s') :
    s'.length ≤ s.length := by
  cases ends with
  | next s => exact Nat.le_refl _
  | last s => exact Nat.le_succ _

/-- The rest of a list after an item, up to its end. -/
def listRest (close : Char) (more : Text) : List Text → Text
  | [] => ' ' :: close :: more
  | item :: items => ',' :: ' ' :: (item ++ listRest close more items)

theorem intercalate_append (close : Char) (more item : Text) (items : List Text) :
    [',', ' '].intercalate (item :: items) ++ ' ' :: close :: more =
      item ++ listRest close more items := by
  induction items generalizing item with
  | nil => simp [listRest]
  | cons next items ih =>
    rw [List.intercalate_cons_cons, List.append_assoc, List.append_assoc, ih]
    rfl

section

variable {ι : Type} {R : ι → α → Prop} {form : ι → Text} {close : Char}

theorem repeats_listRest (other : close ≠ ',') {xs : List ι}
    (each : ∀ x ∈ xs, ∀ {s s'}, ItemEnd close s s' →
      ∃ a, p.Reads (' ' :: (form x ++ s)) a s' ∧ R x a) (more : Text) :
    ∃ s' as, ItemEnd close (listRest close more (xs.map form)) s' ∧
      Repeats (exactly ',' >>= fun _ => p) s' as (close :: more) ∧ List.Forall₂ R xs as := by
  -- an item leaves off where the list goes on, so the later items come first
  induction xs with
  | nil =>
    refine ⟨close :: more, [], .last more, .stop (.bind (refuses_exactly ?_)), .nil⟩
    exact fun same => other (Option.some.inj same)
  | cons x xs ih =>
    obtain ⟨first, later⟩ := List.forall_mem_cons.mp each
    obtain ⟨s', as, ends, repeats, related⟩ := ih later
    obtain ⟨a, reads, fits⟩ := first ends
    refine ⟨_, a :: as, .next _, .step (.bind (reads_exactly ..) reads) ?_ repeats,
      .cons fits related⟩
    have shorter := ends.length_le
    simp only [List.length_cons, List.length_append]
    omega

theorem reads_separated (other : close ≠ ',') (x : ι) (xs : List ι)
    (each : ∀ y ∈ x :: xs, ∀ {s s'}, ItemEnd close s s' →
      ∃ a, p.Reads (' ' :: (form y ++ s)) a s' ∧ R y a) (more : Text) :
    ∃ as, (p.separated ',').Reads
        (' ' :: ([',', ' '].intercalate ((x :: xs).map form) ++ ' ' :: close :: more)) as
        (close :: more) ∧ List.Forall₂ R (x :: xs) as := by
  obtain ⟨first, later⟩ := List.forall_mem_cons.mp each
  obtain ⟨s', as, ends, repeats, related⟩ := repeats_listRest other later more
  obtain ⟨a, reads, fits⟩ := first ends
  refine ⟨a :: as, ?_, .cons fits related⟩
  have rest := repeats.reads_many
  rw [List.map_cons, intercalate_append]
  rw [Reads] at reads rest ⊢
  rw [separated, reads]
  exact andThen_done rest

end

end Stencil.Toml.Reader
