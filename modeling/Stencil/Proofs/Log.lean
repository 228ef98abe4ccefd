import Stencil.Proofs.Session

/-! What a run adds to the log.  The log only grows, and entries at the level of INFO are the ones
that count: most steps add none, and then a sequence of such steps adds none either. -/

namespace Stencil.Session

variable {α β : Type}

/-- The log has grown, and these are the new entries at the level of INFO, in order. -/
def Announces (s after : Session) (infos : List LogEntry) : Prop :=
  ∃ new, after.log = s.log ++ new ∧ (new.filter fun e => e.level = .info) = infos

namespace Announces

variable {s between after : Session} {infos infos' : List LogEntry}

theorem of_log_eq (same : after.log = s.log) : Announces s after [] :=
  ⟨[], by simp [same], rfl⟩

theorem refl (s : Session) : Announces s s [] := .of_log_eq rfl

theorem trans (a : Announces s between infos) (a' : Announces between after infos') :
    Announces s after (infos ++ infos') := by
  obtain ⟨new, grown, rfl⟩ := a
  obtain ⟨new', grown', rfl⟩ := a'
  refine ⟨new ++ new', ?_, List.filter_append ..⟩
  rw [grown', grown, List.append_assoc]

theorem say (origin : Origin) (message : Text) (s : Session) :
    Announces s { s with log := s.log ++ [⟨.info, origin, message⟩] }
      [⟨.info, origin, message⟩] :=
  ⟨[⟨.info, origin, message⟩], rfl, rfl⟩

end Announces

/-- Whatever becomes of the run, it announces nothing. -/
def Quiet (x : Run Simulation α) : Prop := ∀ s, Announces s (x.run s).2 []

theorem Quiet.announces {x : Run Simulation α} (quiet : Quiet x) {s after : Session}
    {outcome : Except Failure α} (ran : x.run s = (outcome, after)) : Announces s after [] := by
  have announced := quiet s
  rwa [ran] at announced

theorem quiet_of_log_eq {x : Run Simulation α} (same : ∀ s, (x.run s).2.log = s.log) : Quiet x :=
  fun s => .of_log_eq (same s)

theorem quiet_pure (a : α) : Quiet (pure a) := quiet_of_log_eq fun _ => rfl

theorem quiet_throw (failure : Failure) : Quiet (throw failure : Run Simulation α) :=
  quiet_of_log_eq fun _ => rfl

theorem quiet_say {level : Level} (low : level ≠ .info) (origin : Origin) (message : Text) :
    Quiet (FileSystem.say (m := Simulation) level origin message) := by
  intro s
  refine ⟨[⟨level, origin, message⟩], congrArg (·.2.log) (run_say level origin message s), ?_⟩
  simp [low]

theorem Quiet.bind {x : Run Simulation α} {f : α → Run Simulation β} (first : Quiet x)
    (rest : ∀ a, Quiet (f a)) : Quiet (x >>= f) := by
  intro s
  rcases run_bind_cases (run_of_result rfl : (x >>= f).run s = _) with
    ⟨failure, failed, -⟩ | ⟨a, between, done, ran⟩
  · exact first.announces failed
  · exact (first.announces done).trans ((rest a).announces ran)

end Stencil.Session
