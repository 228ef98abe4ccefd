import Stencil.Proofs.Generation.OnTree

/-! What a list of jobs leaves alone, however it ends.  The tree only grows; what appears is where
some destination leads in the end, and so is every file whose content is another. -/

namespace Stencil.Job

variable {records : List Record} {jobs : List Job} {t after : FileTree}

theorem effect_expand (records : List Record) (job : Job) (t : FileTree) :
    Expansion.Effect t job.template job.destination (job.expand records t).2 :=
  Expansion.effect_onTree ..

theorem expandAll_cons (records : List Record) (job : Job) (rest : List Job) (t : FileTree) :
    (expandAll records (job :: rest) t).2 = (job.expand records t).2 ∨
      (expandAll records (job :: rest) t).2 =
        (expandAll records rest (job.expand records t).2).2 := by
  rw [expandAll]
  cases result : job.expand records t with
  | mk outcome next =>
    cases outcome with
    | error failure => exact .inl rfl
    | ok u => exact .inr rfl

theorem expandAll_preserves {P : FileTree → Prop}
    (step : ∀ job ∈ jobs, ∀ t, P t → P (job.expand records t).2) (start : P t) :
    P (expandAll records jobs t).2 := by
  induction jobs generalizing t with
  | nil => exact start
  | cons job rest ih =>
    have first := step job List.mem_cons_self t start
    rcases expandAll_cons records job rest t with ends | goes
    · rw [ends]
      exact first
    · rw [goes]
      exact ih (fun other mem => step other (List.mem_cons_of_mem job mem)) first

theorem grows_expandAll (records : List Record) (jobs : List Job) (t : FileTree) :
    t.Grows (expandAll records jobs t).2 :=
  expandAll_preserves (fun job _ between g => g.trans (effect_expand records job between).grows)
    (.refl t)

theorem content?_expandAll {id : Nat}
    (other : ∀ job ∈ jobs, (expandAll records jobs t).2.file? job.destination ≠ some id) :
    (expandAll records jobs t).2.content? id = t.content? id := by
  induction jobs generalizing t with
  | nil => rfl
  | cons job rest ih =>
    have effect := effect_expand records job t
    rcases expandAll_cons records job rest t with ends | goes
    · rw [ends] at other ⊢
      exact effect.content? (other job List.mem_cons_self)
    · rw [goes] at other ⊢
      have still := grows_expandAll records rest (job.expand records t).2
      rw [ih fun j mem => other j (List.mem_cons_of_mem job mem)]
      exact effect.content? fun leads => other job List.mem_cons_self (still.file? leads)

theorem location?_of_new_expandAll {l : Location} {e : Entry} (absent : t.at? l = none)
    (present : (expandAll records jobs t).2.at? l = some e) :
    ∃ job ∈ jobs, (expandAll records jobs t).2.location? job.destination = some l := by
  induction jobs generalizing t with
  | nil =>
    have same : t.at? l = some e := present
    simp [absent] at same
  | cons job rest ih =>
    have effect := effect_expand records job t
    rcases expandAll_cons records job rest t with ends | goes
    · rw [ends] at present ⊢
      exact ⟨job, List.mem_cons_self, effect.location?_of_new absent present⟩
    · rw [goes] at present ⊢
      have still := grows_expandAll records rest (job.expand records t).2
      cases between : (job.expand records t).2.at? l with
      | none =>
        obtain ⟨later, mem, leads⟩ := ih between present
        exact ⟨later, List.mem_cons_of_mem job mem, leads⟩
      | some e' =>
        exact ⟨job, List.mem_cons_self, still.location? (effect.location?_of_new absent between)⟩

section

variable {outcome : Except Failure Unit}

theorem grows_of_run (ran : expandAll records jobs t = (outcome, after)) : t.Grows after := by
  have grows := grows_expandAll records jobs t
  rwa [ran] at grows

theorem content?_of_run (ran : expandAll records jobs t = (outcome, after)) {id : Nat}
    (other : ∀ job ∈ jobs, after.file? job.destination ≠ some id) :
    after.content? id = t.content? id := by
  have same : (expandAll records jobs t).2.content? id = t.content? id := by
    refine content?_expandAll ?_
    rwa [ran]
  rwa [ran] at same

theorem location?_of_new_of_run (ran : expandAll records jobs t = (outcome, after))
    {l : Location} {e : Entry} (absent : t.at? l = none) (present : after.at? l = some e) :
    ∃ job ∈ jobs, after.location? job.destination = some l := by
  have found : (expandAll records jobs t).2.at? l = some e := by rwa [ran]
  have leads := location?_of_new_expandAll absent found
  rwa [ran] at leads

end

theorem expandAll_cons_of_ok {job : Job} {rest : List Job}
    (h : expandAll records (job :: rest) t = (.ok (), after)) :
    ∃ between, job.expand records t = (.ok (), between) ∧
      expandAll records rest between = (.ok (), after) := by
  rw [expandAll] at h
  cases result : job.expand records t with
  | mk outcome next =>
    cases outcome with
    | error failure => simp [result] at h
    | ok u => exact ⟨next, rfl, by simpa [result] using h⟩

theorem expandAll_append_of_ok {before later : List Job}
    (h : expandAll records (before ++ later) t = (.ok (), after)) :
    ∃ between, expandAll records before t = (.ok (), between) ∧
      expandAll records later between = (.ok (), after) := by
  induction before generalizing t with
  | nil => exact ⟨t, rfl, h⟩
  | cons job before ih =>
    obtain ⟨next, first, rest⟩ := expandAll_cons_of_ok h
    obtain ⟨between, ran, last⟩ := ih rest
    exact ⟨between, by rw [expandAll, first]; exact ran, last⟩

theorem split_of_ok {before later : List Job} {job : Job}
    (h : expandAll records (before ++ job :: later) t = (.ok (), after)) :
    ∃ start made, expandAll records before t = (.ok (), start) ∧
      Expansion.Completed start job.template (records[job.record]?.getD .empty) job.destination
        made ∧ expandAll records later made = (.ok (), after) := by
  obtain ⟨start, first, rest⟩ := expandAll_append_of_ok h
  obtain ⟨made, expanded, last⟩ := expandAll_cons_of_ok rest
  exact ⟨start, made, first, Expansion.completed_of_ok expanded, last⟩

end Stencil.Job
