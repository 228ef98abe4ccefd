import Stencil.Proofs.Generation.Preview
import Stencil.Proofs.Log

/-! How a run ends, and what it has done by then.  Loading and planning touch nothing and announce
nothing.  Of the planned jobs, those that are done have been announced in their order; one that
fails is not, and may have touched the file that its own destination leads to; those after it have
no say. -/

namespace Stencil

def Job.announcement (job : Job) : LogEntry :=
  ⟨.info, .expanding, "generated ".toList ++ job.destination.display⟩

/-- All that jobs may have done to a tree.  Every entry stays as it was.  New are only files, and
these stand where destinations lead, as do the files whose content is another. -/
structure Touched (t : FileTree) (attempted : List Job) (after : FileTree) : Prop where
  kept : ∀ {at_ e}, t.at? at_ = some e → after.at? at_ = some e
  new : ∀ {at_ e}, t.at? at_ = none → after.at? at_ = some e →
    (∃ id, e = .file id ∧ t.contents.length ≤ id) ∧
      ∃ job ∈ attempted, after.location? job.destination = some at_
  changed : ∀ {id}, after.content? id ≠ t.content? id →
    ∃ job ∈ attempted, after.file? job.destination = some id
  workingDirectory : after.workingDirectory = t.workingDirectory

namespace Descriptor

open Session

theorem quiet_loadDescriptor (path : Path) : Quiet (loadDescriptor path) := by
  refine .bind (quiet_of_log_eq fun s => by rw [run_readDescriptor]) fun text => ?_
  unfold parseDescriptor
  cases parse text path with
  | error failure => exact quiet_throw failure
  | ok records => exact .bind (quiet_say (by decide) _ _) fun _ => quiet_pure records

theorem quiet_loadRecords (paths : List Path) : Quiet (loadRecords paths) := by
  induction paths with
  | nil => exact quiet_pure []
  | cons path paths ih =>
    exact .bind (quiet_loadDescriptor path) fun records => .bind ih fun more => quiet_pure _

end Descriptor

namespace Plan

open Session

theorem quiet_noteCollision (producers : Producers) (destination : Path) (number : Nat) :
    Quiet (noteCollision producers destination number) := by
  unfold noteCollision
  cases producer? producers destination with
  | none => exact quiet_pure _
  | some earlier => exact quiet_say (by decide) _ _

theorem quiet_jobs (directory : Path) (producers : Producers) (number : Nat) (tasks : List Task) :
    Quiet (jobs directory producers number tasks) := by
  induction tasks generalizing producers number with
  | nil => exact quiet_pure []
  | cons task rest ih =>
    refine .bind (quiet_of_log_eq fun s => by rw [run_job]) fun new => ?_
    exact .bind (quiet_noteCollision _ _ _) fun _ => .bind (ih _ _) fun more => quiet_pure _

end Plan

namespace Settings

open Session

theorem quiet_noteNothing (records : List Record) (templates : List Path) :
    Quiet (noteNothing records templates) := by
  unfold noteNothing
  split_ifs
  · exact quiet_say (by decide) _ _
  · exact quiet_pure _

theorem quiet_prepare (settings : Settings) : Quiet settings.prepare := by
  refine .bind (Descriptor.quiet_loadRecords _) fun records => ?_
  refine .bind (quiet_noteNothing _ _) fun _ => ?_
  exact .bind (Plan.quiet_jobs _ _ _ _) fun jobs => quiet_pure _

end Settings

namespace Job

variable {records : List Record} {job : Job} {before jobs : List Job} {s between after : Session}
  {failure : Failure}

theorem touched_of_run {outcome : Except Failure Unit}
    (ran : (expandJobs (m := Simulation) records jobs).run s = (outcome, after)) :
    Touched s.tree jobs after.tree := by
  have expanded := expandAll_of_run ran
  have grows := grows_of_run expanded
  refine ⟨grows.kept, fun absent present => ⟨grows.made absent present, ?_⟩, fun {id} changed => ?_,
    grows.workingDirectory⟩
  · exact location?_of_new_of_run expanded absent present
  · refine Decidable.byContradiction fun none => changed (content?_of_run expanded ?_)
    exact fun job mem leads => none ⟨job, mem, leads⟩

theorem run_expandJobs_append
    (done : (expandJobs (m := Simulation) records before).run s = (.ok ⟨⟩, between))
    (rest : List Job) :
    (expandJobs (m := Simulation) records (before ++ rest)).run s =
      (expandJobs (m := Simulation) records rest).run between := by
  induction before generalizing s with
  | nil =>
    obtain ⟨-, rfl⟩ := Prod.mk.inj done
    rfl
  | cons job before ih =>
    rw [expandJobs] at done
    rcases Session.run_bind_cases done with ⟨failure, -, wrong⟩ | ⟨u, next, first, done⟩
    · cases wrong
    · rw [List.cons_append, expandJobs, Session.run_bind_ok first]
      exact ih done

theorem run_expandJobs_of_error
    (failed : (expandJob (m := Simulation) records job).run s = (.error failure, after))
    (later : List Job) :
    (expandJobs (m := Simulation) records (job :: later)).run s = (.error failure, after) := by
  rw [expandJobs, Session.run_bind_error failed]

theorem quiet_into (template : Path) (record : Record) (destination : Path) :
    Session.Quiet (Expansion.into template record destination) :=
  Session.quiet_of_log_eq fun s => by rw [Expansion.run_into]

theorem announces_expandJob {outcome : Except Failure Unit}
    (ran : (expandJob (m := Simulation) records job).run s = (outcome, after)) :
    s.Announces after (if outcome.isOk then [job.announcement] else []) := by
  unfold expandJob at ran
  have low : Level.debug ≠ .info := by decide
  rcases Session.run_bind_cases ran with ⟨failure, said, -⟩ | ⟨u, began, said, ran⟩
  · cases said
  have began := (Session.quiet_say low _ _).announces said
  rcases Session.run_bind_cases ran with ⟨failure, failed, rfl⟩ | ⟨u, written, done, ran⟩
  · exact began.trans ((quiet_into _ _ _).announces failed)
  · obtain ⟨rfl, rfl⟩ := Prod.mk.inj ran
    exact (began.trans ((quiet_into _ _ _).announces done)).trans (.say ..)

theorem announces_expandJobs
    (done : (expandJobs (m := Simulation) records jobs).run s = (.ok ⟨⟩, after)) :
    s.Announces after (jobs.map announcement) := by
  induction jobs generalizing s with
  | nil =>
    obtain ⟨-, rfl⟩ := Prod.mk.inj done
    exact .refl s
  | cons job rest ih =>
    rw [expandJobs] at done
    rcases Session.run_bind_cases done with ⟨failure, -, wrong⟩ | ⟨u, next, first, done⟩
    · cases wrong
    · exact (announces_expandJob first).trans (ih done)

end Job

/-- The jobs of a run are about to begin, with the records and the tree that the run has found. -/
structure Begins (settings : Settings) (s : Session) (records : List Record) (jobs : List Job)
    (start : Session) : Prop where
  loaded : ((loadRecords (m := Simulation) settings.descriptors).run s).1 = .ok records
  previewed : ((preview (m := Simulation) settings).run s).1 = .ok jobs
  tree : start.tree = s.tree
  silent : s.Announces start []

/-- The three ways in which a run ends: before its jobs have begun, with all of them done, and at
one that fails. -/
inductive Ending (settings : Settings) (s : Session) :
    Except Failure (List Job) → Session → Prop
  | unplanned {failure : Failure} {after : Session}
      (previewed : ((preview (m := Simulation) settings).run s).1 = .error failure)
      (tree : after.tree = s.tree) (silent : s.Announces after []) :
      Ending settings s (.error failure) after
  | finished {records : List Record} {jobs : List Job} {start after : Session}
      (begins : Begins settings s records jobs start)
      (done : (expandJobs (m := Simulation) records jobs).run start = (.ok ⟨⟩, after))
      (touched : Touched s.tree jobs after.tree)
      (announced : s.Announces after (jobs.map Job.announcement)) :
      Ending settings s (.ok jobs) after
  | stopped {records : List Record} {before later : List Job} {job : Job}
      {start between after : Session} {failure : Failure}
      (begins : Begins settings s records (before ++ job :: later) start)
      (done : (expandJobs (m := Simulation) records before).run start = (.ok ⟨⟩, between))
      (failed : (expandJob (m := Simulation) records job).run between = (.error failure, after))
      (last : Touched between.tree [job] after.tree)
      (idle : ∀ others, (expandJobs (m := Simulation) records (before ++ job :: others)).run start =
        (.error failure, after))
      (touched : Touched s.tree (before ++ [job]) after.tree)
      (announced : s.Announces after (before.map Job.announcement)) :
      Ending settings s (.error failure) after

theorem Settings.begins_of_planned {settings : Settings} {s start : Session}
    {records : List Record} {jobs : List Job}
    (prepared : settings.prepare.run s = (.ok (records, jobs), start)) :
    Begins settings s records jobs start := by
  obtain ⟨log, known⟩ := settings.run_prepare s
  obtain ⟨planned, rfl⟩ := Prod.mk.inj (known.symm.trans prepared)
  obtain ⟨loads, -⟩ := plannedOnTree_eq_ok planned
  obtain ⟨log', loaded⟩ := Descriptor.run_loadRecords settings.descriptors s
  obtain ⟨log'', previewed⟩ := settings.run_preview s
  refine ⟨?_, ?_, rfl, settings.quiet_prepare.announces prepared⟩
  · rw [loaded, loads]
  · rw [previewed, planned]
    rfl

theorem Begins.ending {settings : Settings} {s start after : Session} {records : List Record}
    {jobs : List Job} {outcome : Except Failure Unit} (begins : Begins settings s records jobs start)
    (ran : (expandJobs (m := Simulation) records jobs).run start = (outcome, after)) :
    Ending settings s (outcome.map fun _ => jobs) after := by
  cases outcome with
  | ok u =>
    have touched := Job.touched_of_run ran
    rw [begins.tree] at touched
    exact .finished begins ran touched (begins.silent.trans (Job.announces_expandJobs ran))
  | error failure =>
    obtain ⟨rfl, done, failed, -⟩ := Job.interrupted_of_error ran
    have idle := fun others => (Job.run_expandJobs_append done _).trans
      (Job.run_expandJobs_of_error failed others)
    have last := Job.touched_of_run (Job.run_expandJobs_of_error failed [])
    have touched := Job.touched_of_run (idle [])
    rw [begins.tree] at touched
    have announced := begins.silent.trans (Job.announces_expandJobs done)
    have silent : Session.Announces _ after [] := Job.announces_expandJob failed
    exact .stopped begins done failed last idle touched (by simpa using announced.trans silent)

theorem generate_ending (settings : Settings) (s : Session) :
    Ending settings s ((generate (m := Simulation) settings).run s).1
      ((generate (m := Simulation) settings).run s).2 := by
  rw [Settings.generate_eq]
  cases prepared : settings.prepare.run s with
  | mk outcome start =>
    cases outcome with
    | error failure =>
      rw [Session.run_bind_error prepared]
      obtain ⟨log, known⟩ := settings.run_prepare s
      obtain ⟨log', previewed⟩ := settings.run_preview s
      obtain ⟨unplanned, rfl⟩ := Prod.mk.inj (known.symm.trans prepared)
      refine .unplanned ?_ rfl (settings.quiet_prepare.announces prepared)
      rw [previewed, unplanned]
      rfl
    | ok made =>
      obtain ⟨records, jobs⟩ := made
      have begins := Settings.begins_of_planned prepared
      rw [Session.run_bind_ok prepared]
      cases ran : (expandJobs (m := Simulation) records jobs).run start with
      | mk outcome after =>
        have ending := begins.ending ran
        cases outcome with
        | error failure =>
          rw [Session.run_bind_error ran]
          exact ending
        | ok u =>
          rw [Session.run_bind_ok ran]
          exact ending

end Stencil
