import Stencil.FileTree.Edit
import Stencil.Proofs.Expansion.Failing
import Stencil.Proofs.Generation.Frame

/-! A preview and the run it stands for.  Both load everything and plan everything before anything
is written, so they fail alike up to there and leave the tree alone.  What a run adds is the
expansion of the planned jobs, and after a preview that succeeded only this can fail: at one job,
with the jobs before it done. -/

namespace Stencil

/-- A run of jobs has failed at one of them.  Those before it are done; those after it have not
begun. -/
inductive Interrupted (records : List Record) (jobs : List Job) (start : Session)
    (failure : Failure) (after : Session) : Prop
  | intro {before later : List Job} {job : Job} {between : Session}
      (split : jobs = before ++ job :: later)
      (done : (expandJobs (m := Simulation) records before).run start = (.ok ⟨⟩, between))
      (failed : (expandJob (m := Simulation) records job).run between = (.error failure, after))
      (blames : Expansion.Blames failure job.template job.destination)

namespace Job

variable {records : List Record} {start after : Session} {failure : Failure}

theorem interrupted_of_error {jobs : List Job}
    (ran : (expandJobs (m := Simulation) records jobs).run start = (.error failure, after)) :
    Interrupted records jobs start failure after := by
  induction jobs generalizing start with
  | nil => cases ran
  | cons job rest ih =>
    rw [expandJobs] at ran
    cases first : (expandJob (m := Simulation) records job).run start with
    | mk outcome next =>
      cases outcome with
      | error failure' =>
        rw [Session.run_bind_error first] at ran
        obtain ⟨same, rfl⟩ := Prod.mk.inj ran
        obtain rfl := Except.error.inj same
        have split : job :: rest = [] ++ job :: rest := rfl
        have fails := Expansion.fails_of_error (expand_of_run first)
        exact .intro split rfl first fails.blames
      | ok u =>
        rw [Session.run_bind_ok first] at ran
        obtain ⟨split, done, failed, blames⟩ := ih ran
        have split' := (congrArg (job :: ·) split).trans (List.cons_append ..).symm
        refine .intro split' ?_ failed blames
        rw [expandJobs, Session.run_bind_ok first]
        exact done

end Job

theorem Settings.ends_of_planned {settings : Settings} {s : Session} {records : List Record}
    {jobs : List Job} (planned : settings.plannedOnTree s.tree = .ok (records, jobs)) :
    ∃ log, (∃ after, (generate (m := Simulation) settings).run s = (.ok jobs, after) ∧
        (expandJobs (m := Simulation) records jobs).run ⟨s.tree, log⟩ = (.ok ⟨⟩, after)) ∨
      ∃ failure after, (generate (m := Simulation) settings).run s = (.error failure, after) ∧
        Interrupted records jobs ⟨s.tree, log⟩ failure after := by
  obtain ⟨log, started⟩ := run_generate_of_planned planned
  refine ⟨log, ?_⟩
  rw [started]
  cases ran : (expandJobs (m := Simulation) records jobs).run { s with log } with
  | mk outcome after =>
    cases outcome with
    | ok u => exact .inl ⟨after, Session.run_bind_ok ran _, rfl⟩
    | error failure =>
      exact .inr ⟨failure, after, Session.run_bind_error ran _, Job.interrupted_of_error ran⟩

theorem generate_follows_preview (settings : Settings) (s : Session) :
    ((preview (m := Simulation) settings).run s).2.tree = s.tree ∧
    (∀ failure, ((preview (m := Simulation) settings).run s).1 = .error failure →
      ∃ log, (generate (m := Simulation) settings).run s = (.error failure, ⟨s.tree, log⟩)) ∧
    ∀ jobs, ((preview (m := Simulation) settings).run s).1 = .ok jobs →
      ∃ records log, ((loadRecords (m := Simulation) settings.descriptors).run s).1 = .ok records ∧
        ((∃ after, (generate (m := Simulation) settings).run s = (.ok jobs, after) ∧
            (expandJobs (m := Simulation) records jobs).run ⟨s.tree, log⟩ = (.ok ⟨⟩, after)) ∨
          ∃ failure after, (generate (m := Simulation) settings).run s = (.error failure, after) ∧
            Interrupted records jobs ⟨s.tree, log⟩ failure after) := by
  obtain ⟨log, previewed⟩ := settings.run_preview s
  rw [previewed]
  refine ⟨rfl, fun failure failed => ?_, fun jobs succeeded => ?_⟩
  · cases planned : settings.plannedOnTree s.tree with
    | ok plan => simp [planned, Except.map] at failed
    | error failure' =>
      obtain rfl : failure' = failure := by simpa [planned, Except.map] using failed
      exact Settings.run_generate_of_unplanned planned
  · obtain ⟨⟨records, jobs'⟩, planned, rfl⟩ := map_eq_ok_iff.mp succeeded
    obtain ⟨loads, -⟩ := Settings.plannedOnTree_eq_ok planned
    obtain ⟨log', loaded⟩ := Descriptor.run_loadRecords settings.descriptors s
    obtain ⟨log'', ends⟩ := Settings.ends_of_planned planned
    exact ⟨records, log'', by rw [loaded, loads], ends⟩

namespace Stopping

/-! A template that is missing, behind one that is there. -/

def types : Path := Path.ofText "types.toml".toList

def present : Path := Path.ofText "ok@t@.c".toList

def missing : Path := Path.ofText "missing@t@.c".toList

def tree : FileTree :=
  ((FileTree.scratch []).writeFile types (Utf8.encode
    "[[types_list]]\nt = 'd'\n[[types_list]]\nt = 'z'\n".toList)).writeFile present
      (Utf8.encode "@t@".toList)

def jobs : List Job :=
  [⟨0, present, Path.ofText "./okd.c".toList⟩, ⟨0, missing, Path.ofText "./missingd.c".toList⟩,
    ⟨1, present, Path.ofText "./okz.c".toList⟩, ⟨1, missing, Path.ofText "./missingz.c".toList⟩]

theorem generate_stops_at_missing :
    (∃ records log after,
      (generate (m := Simulation) ⟨[types], [present, missing], Path.dot⟩).run ⟨tree, []⟩ =
        (.error (.file .readTemplate missing .notFound), after) ∧
      Interrupted records jobs ⟨tree, log⟩ (.file .readTemplate missing .notFound) after) ∧
    ∃ log, (generate (m := Simulation) ⟨[types, missing], [present], Path.dot⟩).run ⟨tree, []⟩ =
      (.error (.load missing (.read .notFound)), ⟨tree, log⟩) := by
  constructor
  · have stops : ((generate (m := Simulation) ⟨[types], [present, missing], Path.dot⟩).run
        ⟨tree, []⟩).1 = .error (.file .readTemplate missing .notFound) := by decide +kernel
    obtain ⟨-, -, follows⟩ :=
      generate_follows_preview ⟨[types], [present, missing], Path.dot⟩ ⟨tree, []⟩
    obtain ⟨records, log, -, ends⟩ := follows jobs (by decide +kernel)
    rcases ends with ⟨after, ran, -⟩ | ⟨failure, after, ran, interrupted⟩
    · rw [ran] at stops
      cases stops
    · rw [ran] at stops
      obtain rfl := Except.error.inj stops
      exact ⟨records, log, after, ran, interrupted⟩
  · obtain ⟨-, fails, -⟩ :=
      generate_follows_preview ⟨[types, missing], [present], Path.dot⟩ ⟨tree, []⟩
    exact fails _ (by decide +kernel)

end Stopping

end Stencil
