import Stencil.Plan
import Stencil.Proofs.Expansion.OnTree

/-! Planning as a function of a tree.  It asks the tree only for real paths and leaves it alone; what
it says in the log is of no consequence to the jobs. -/

namespace Stencil.Plan

def place (t : FileTree) (directory : Path) (task : Task) : Except Failure Job :=
  match Output.path task.template task.record directory with
  | .error failure => .error failure
  | .ok destination =>
    if t.SameRealPath task.template destination then
      .error (.file .writeOutput destination (.overwrites task.template))
    else .ok ⟨task.index, task.template, destination⟩

def onTree (t : FileTree) (directory : Path) : List Task → Except Failure (List Job)
  | [] => .ok []
  | task :: rest =>
    match place t directory task with
    | .error failure => .error failure
    | .ok new => (onTree t directory rest).map (new :: ·)

theorem run_job (directory : Path) (task : Task) (s : Session) :
    (job (m := Simulation) directory task).run s = (place s.tree directory task, s) := by
  unfold job place
  cases Output.path task.template task.record directory with
  | error failure => rfl
  | ok destination =>
    simp only [Session.run_bind, Output.run_guard]
    split_ifs <;> rfl

theorem run_noteCollision (producers : Producers) (destination : Path) (number : Nat) (s : Session) :
    ∃ log, (noteCollision (m := Simulation) producers destination number).run s =
      (.ok ⟨⟩, { s with log }) := by
  unfold noteCollision
  cases producer? producers destination with
  | none => exact ⟨s.log, rfl⟩
  | some earlier => exact ⟨_, Session.run_say ..⟩

theorem run_jobs (directory : Path) (producers : Producers) (number : Nat) (tasks : List Task)
    (s : Session) :
    ∃ log, (jobs (m := Simulation) directory producers number tasks).run s =
      (onTree s.tree directory tasks, { s with log }) := by
  induction tasks generalizing producers number s with
  | nil => exact ⟨s.log, rfl⟩
  | cons task rest ih =>
    rw [onTree]
    cases placed : place s.tree directory task with
    | error failure =>
      have failed := run_job directory task s
      rw [placed] at failed
      refine ⟨s.log, ?_⟩
      rw [jobs, Session.run_bind_error failed]
    | ok new =>
      have done := run_job directory task s
      rw [placed] at done
      obtain ⟨log, said⟩ := run_noteCollision producers new.destination number s
      obtain ⟨log', planned⟩ := ih ((new.destination.components, number) :: producers)
        (number + 1) { s with log }
      refine ⟨log', ?_⟩
      rw [jobs, Session.run_bind_ok done, Session.run_bind_ok said, Session.run_bind, planned]
      cases onTree s.tree directory rest <;> rfl

theorem run_plan (records : List Record) (templates : List Path) (directory : Path) (s : Session) :
    ∃ log, (plan (m := Simulation) records templates directory).run s =
      (onTree s.tree directory (tasks records templates), { s with log }) :=
  run_jobs directory [] 0 _ s

structure Does (directory : Path) (task : Task) (job : Job) : Prop where
  record : job.record = task.index
  template : job.template = task.template
  destination : Output.path task.template task.record directory = .ok job.destination

variable {t : FileTree} {directory : Path}

theorem place_eq_ok_iff {task : Task} {new : Job} :
    place t directory task = .ok new ↔
      Does directory task new ∧ ¬ t.SameRealPath new.template new.destination := by
  constructor
  · intro h
    unfold place at h
    cases path : Output.path task.template task.record directory with
    | error failure => simp [path] at h
    | ok destination =>
      simp only [path] at h
      split_ifs at h with clash
      obtain rfl := Except.ok.inj h
      exact ⟨⟨rfl, rfl, path⟩, clash⟩
  · rintro ⟨does, apart⟩
    rw [does.template] at apart
    rw [place, does.destination]
    simp only [if_neg apart]
    rw [← does.record, ← does.template]

theorem onTree_eq_ok_iff {tasks : List Task} {planned : List Job} :
    onTree t directory tasks = .ok planned ↔
      List.Forall₂ (Does directory) tasks planned ∧
        ∀ job ∈ planned, ¬ t.SameRealPath job.template job.destination := by
  induction tasks generalizing planned with
  | nil =>
    rw [onTree, List.forall₂_nil_left_iff]
    constructor
    · intro h
      obtain rfl := Except.ok.inj h
      exact ⟨rfl, by simp⟩
    · rintro ⟨rfl, -⟩
      rfl
  | cons task rest ih =>
    rw [onTree, List.forall₂_cons_left_iff]
    constructor
    · intro h
      cases placed : place t directory task with
      | error failure => simp [placed] at h
      | ok new =>
        rw [placed] at h
        obtain ⟨more, later, rfl⟩ := map_eq_ok_iff.mp h
        obtain ⟨does, apart⟩ := place_eq_ok_iff.mp placed
        obtain ⟨doing, aparts⟩ := ih.mp later
        exact ⟨⟨new, more, does, doing, rfl⟩, List.forall_mem_cons.mpr ⟨apart, aparts⟩⟩
    · rintro ⟨⟨new, more, does, doing, rfl⟩, apart⟩
      obtain ⟨apart, aparts⟩ := List.forall_mem_cons.mp apart
      rw [place_eq_ok_iff.mpr ⟨does, apart⟩]
      exact map_eq_ok_iff.mpr ⟨more, ih.mpr ⟨doing, aparts⟩, rfl⟩

theorem does_of_onTree {tasks : List Task} {planned : List Job}
    (h : onTree t directory tasks = .ok planned) : List.Forall₂ (Does directory) tasks planned :=
  (onTree_eq_ok_iff.mp h).1

theorem mem_tasks_iff {records : List Record} {templates : List Path} {task : Task} :
    task ∈ tasks records templates ↔
      records[task.index]? = some task.record ∧ task.template ∈ templates := by
  unfold tasks
  simp only [List.mem_flatMap, List.mem_map]
  constructor
  · rintro ⟨⟨record, index⟩, entry, template, mem, rfl⟩
    exact ⟨List.mem_zipIdx_iff_getElem?.mp entry, mem⟩
  · rintro ⟨found, mem⟩
    exact ⟨(task.record, task.index), List.mem_zipIdx_iff_getElem?.mpr found, task.template, mem, rfl⟩

theorem task_of_mem {records : List Record} {templates : List Path} {planned : List Job}
    (h : List.Forall₂ (Does directory) (tasks records templates) planned) {job : Job}
    (mem : job ∈ planned) :
    ∃ record, records[job.record]? = some record ∧ job.template ∈ templates ∧
      Output.path job.template record directory = .ok job.destination := by
  obtain ⟨task, listed, does⟩ := exists_of_mem_right h mem
  obtain ⟨found, template⟩ := mem_tasks_iff.mp listed
  rw [← does.record] at found
  refine ⟨task.record, found, ?_, ?_⟩
  · rw [does.template]
    exact template
  · rw [does.template]
    exact does.destination

end Stencil.Plan
