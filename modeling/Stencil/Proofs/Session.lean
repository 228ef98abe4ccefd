import Stencil.FileTree.Session
import Stencil.Proofs.Results

/-! Steps of a run on files kept as a value: each is a function of the session, and a sequence of
steps ends with the first failure. -/

namespace Stencil

namespace Session

variable {α β : Type}

theorem run_bind (x : Run Simulation α) (f : α → Run Simulation β) (s : Session) :
    (x >>= f).run s =
      match x.run s with
      | (.ok a, after) => (f a).run after
      | (.error failure, after) => (.error failure, after) := by
  have unfolded : (x >>= f).run s = ExceptT.bindCont f (x.run s).1 (x.run s).2 := rfl
  rw [unfolded]
  rcases x.run s with ⟨failure | a, after⟩ <;> rfl

theorem run_bind_ok {x : Run Simulation α} {s after : Session} {a : α}
    (h : x.run s = (.ok a, after)) (f : α → Run Simulation β) :
    (x >>= f).run s = (f a).run after := by
  rw [run_bind, h]

theorem run_bind_error {x : Run Simulation α} {s after : Session} {failure : Failure}
    (h : x.run s = (.error failure, after)) (f : α → Run Simulation β) :
    (x >>= f).run s = (.error failure, after) := by
  rw [run_bind, h]

theorem run_bind_pure (x : Run Simulation α) (f : α → β) (s : Session) :
    (x >>= fun a => pure (f a)).run s = ((x.run s).1.map f, (x.run s).2) := by
  rw [run_bind]
  rcases x.run s with ⟨failure | a, after⟩ <;> rfl

theorem run_bind_cases {x : Run Simulation α} {f : α → Run Simulation β} {s after : Session}
    {outcome : Except Failure β} (ran : (x >>= f).run s = (outcome, after)) :
    (∃ failure, x.run s = (.error failure, after) ∧ outcome = .error failure) ∨
      ∃ a between, x.run s = (.ok a, between) ∧ (f a).run between = (outcome, after) := by
  cases first : x.run s with
  | mk outcome' between =>
    cases outcome' with
    | error failure =>
      rw [run_bind_error first] at ran
      obtain ⟨rfl, rfl⟩ := Prod.mk.inj ran
      exact .inl ⟨failure, rfl, rfl⟩
    | ok a =>
      rw [run_bind_ok first] at ran
      exact .inr ⟨a, between, rfl, ran⟩

theorem run_of_result {x : Run Simulation α} {s : Session} {r : Except Failure α}
    (h : (x.run s).1 = r) : x.run s = (r, (x.run s).2) :=
  Prod.ext h rfl

theorem onTree_of_run {x : Run Simulation α} {s after : Session} {t : FileTree}
    {known result : Except Failure α} (whole : ∃ log, x.run s = (known, ⟨t, log⟩))
    (ran : x.run s = (result, after)) : (known, t) = (result, after.tree) := by
  obtain ⟨log, whole⟩ := whole
  obtain ⟨rfl, rfl⟩ := Prod.mk.inj (whole.symm.trans ran)
  rfl

theorem run_lift (action : Simulation α) (s : Session) :
    (ExceptT.lift action : Run Simulation α).run s = (.ok (action s).1, (action s).2) := rfl

theorem run_orFail (f : FileFault → Failure) (action : Simulation (Except FileFault α))
    (s : Session) :
    (FileSystem.orFail f action).run s = ((action s).1.mapError f, (action s).2) := by
  have lifted : (liftM action : Run Simulation _).run s = (.ok (action s).1, (action s).2) := rfl
  unfold FileSystem.orFail
  rw [run_bind_ok lifted]
  cases (action s).1 <;> rfl

theorem run_say (level : Level) (origin : Origin) (message : Text) (s : Session) :
    (FileSystem.say (m := Simulation) level origin message).run s =
      (.ok ⟨⟩, { s with log := s.log ++ [⟨level, origin, message⟩] }) := rfl

end Session

end Stencil
