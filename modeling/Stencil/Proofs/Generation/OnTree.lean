import Stencil.Generate
import Stencil.Proofs.Expansion.OnTree
import Stencil.Proofs.Plan.OnTree

/-! A run as a function of a tree.  Only expansions change the tree, one job after another; what
holds of a tree after every expansion holds after the run. -/

namespace Stencil

namespace Descriptor

def textOnTree (t : FileTree) (path : Path) : Except Failure Text :=
  match t.read path with
  | .error fault => .error (.load path (.read fault))
  | .ok bytes => (Utf8.decode bytes).elim (.error (.load path (.read .notUtf8))) .ok

def onTree (t : FileTree) (path : Path) : Except Failure (List Record) :=
  match textOnTree t path with
  | .error failure => .error failure
  | .ok text => parse text path

def allOnTree (t : FileTree) : List Path → Except Failure (List Record)
  | [] => .ok []
  | path :: paths =>
    match onTree t path with
    | .error failure => .error failure
    | .ok records => (allOnTree t paths).map (records ++ ·)

theorem allOnTree_eq_ok_iff {t : FileTree} {paths : List Path} {records : List Record} :
    allOnTree t paths = .ok records ↔
      ∃ each, List.Forall₂ (fun path own => onTree t path = .ok own) paths each ∧
        each.flatten = records := by
  induction paths generalizing records with
  | nil => simp [allOnTree]
  | cons path paths ih =>
    simp only [allOnTree, List.forall₂_cons_left_iff]
    cases first : onTree t path with
    | error failure => simp
    | ok own =>
      simp only [map_eq_ok_iff, ih, Except.ok.injEq]
      constructor
      · rintro ⟨_, ⟨each, later, rfl⟩, rfl⟩
        exact ⟨own :: each, ⟨own, each, rfl, later, rfl⟩, rfl⟩
      · rintro ⟨_, ⟨_, each, rfl, later, rfl⟩, rfl⟩
        exact ⟨each.flatten, ⟨each, later, rfl⟩, rfl⟩

theorem run_readDescriptor (path : Path) (s : Session) :
    (readDescriptor (m := Simulation) path).run s = (textOnTree s.tree path, s) := by
  unfold readDescriptor textOnTree FileTree.read
  simp only [Session.run_bind, Session.run_orFail, FileSystem.openSource, Session.openSource]
  cases s.tree.openEntry path with
  | error fault => rfl
  | ok source =>
    simp only [Except.mapError, Except.bind, FileSystem.readAll, Session.readAll]
    cases s.tree.readEntry source with
    | error fault => rfl
    | ok bytes =>
      simp only
      cases Utf8.decode bytes <;> rfl

theorem run_parseDescriptor (text : Text) (path : Path) (s : Session) :
    ∃ log, (parseDescriptor (m := Simulation) text path).run s =
      (parse text path, { s with log }) := by
  unfold parseDescriptor
  cases parse text path with
  | error failure => exact ⟨s.log, rfl⟩
  | ok records => exact ⟨_, Session.run_bind_ok (Session.run_say ..) _⟩

theorem run_loadDescriptor (path : Path) (s : Session) :
    ∃ log, (loadDescriptor (m := Simulation) path).run s =
      (onTree s.tree path, { s with log }) := by
  have start := run_readDescriptor path s
  rw [onTree]
  cases found : textOnTree s.tree path with
  | error failure =>
    rw [found] at start
    exact ⟨s.log, Session.run_bind_error start _⟩
  | ok text =>
    rw [found] at start
    obtain ⟨log, parsed⟩ := run_parseDescriptor text path s
    exact ⟨log, (Session.run_bind_ok start _).trans parsed⟩

theorem run_loadRecords (paths : List Path) (s : Session) :
    ∃ log, (loadRecords (m := Simulation) paths).run s =
      (allOnTree s.tree paths, { s with log }) := by
  induction paths generalizing s with
  | nil => exact ⟨s.log, rfl⟩
  | cons path paths ih =>
    obtain ⟨log, loaded⟩ := run_loadDescriptor path s
    rw [allOnTree]
    cases records : onTree s.tree path with
    | error failure =>
      rw [records] at loaded
      exact ⟨log, Session.run_bind_error loaded _⟩
    | ok records' =>
      rw [records] at loaded
      obtain ⟨log', more⟩ := ih { s with log }
      refine ⟨log', ?_⟩
      rw [loadRecords, Session.run_bind_ok loaded, Session.run_bind, more]
      cases allOnTree s.tree paths <;> rfl

end Descriptor

namespace Job

def expand (records : List Record) (job : Job) (t : FileTree) : Except Failure Unit × FileTree :=
  Expansion.onTree t job.template (records[job.record]?.getD .empty) job.destination

def expandAll (records : List Record) : List Job → FileTree → Except Failure Unit × FileTree
  | [], t => (.ok (), t)
  | job :: rest, t =>
    match job.expand records t with
    | (.ok (), after) => expandAll records rest after
    | (.error failure, after) => (.error failure, after)

theorem run_expandJob (records : List Record) (job : Job) (s : Session) :
    ∃ log, (expandJob (m := Simulation) records job).run s =
      ((job.expand records s.tree).1, ⟨(job.expand records s.tree).2, log⟩) := by
  unfold expandJob expand
  have said := Session.run_say .debug .expanding ("expanding '".toList ++ job.template.display ++
    "' with [".toList ++ (records[job.record]?.getD .empty).label ++ [']']) s
  simp only [Session.run_bind_ok said, Session.run_bind, Expansion.run_into]
  cases (Expansion.onTree s.tree job.template (records[job.record]?.getD .empty)
    job.destination).1 with
  | error failure => exact ⟨_, rfl⟩
  | ok u => exact ⟨_, Session.run_say ..⟩

theorem run_expandJobs (records : List Record) (jobs : List Job) (s : Session) :
    ∃ log, (expandJobs (m := Simulation) records jobs).run s =
      ((expandAll records jobs s.tree).1, ⟨(expandAll records jobs s.tree).2, log⟩) := by
  induction jobs generalizing s with
  | nil => exact ⟨s.log, rfl⟩
  | cons job rest ih =>
    obtain ⟨log, ran⟩ := run_expandJob records job s
    rw [expandJobs, expandAll]
    cases result : job.expand records s.tree with
    | mk outcome after =>
      rw [result] at ran
      cases outcome with
      | error failure => exact ⟨log, Session.run_bind_error ran _⟩
      | ok u =>
        obtain ⟨log', more⟩ := ih ⟨after, log⟩
        exact ⟨log', (Session.run_bind_ok ran _).trans more⟩

theorem expand_of_run {records : List Record} {job : Job} {s after : Session}
    {outcome : Except Failure Unit}
    (ran : (expandJob (m := Simulation) records job).run s = (outcome, after)) :
    job.expand records s.tree = (outcome, after.tree) :=
  Session.onTree_of_run (run_expandJob records job s) ran

theorem expandAll_of_run {records : List Record} {jobs : List Job} {s after : Session}
    {outcome : Except Failure Unit}
    (ran : (expandJobs (m := Simulation) records jobs).run s = (outcome, after)) :
    expandAll records jobs s.tree = (outcome, after.tree) :=
  Session.onTree_of_run (run_expandJobs records jobs s) ran

end Job

namespace Settings

def plannedOnTree (settings : Settings) (t : FileTree) :
    Except Failure (List Record × List Job) :=
  match Descriptor.allOnTree t settings.descriptors with
  | .error failure => .error failure
  | .ok records =>
    (Plan.onTree t settings.destination (Plan.tasks records settings.templates)).map (records, ·)

def onTree (settings : Settings) (t : FileTree) : Except Failure (List Job) × FileTree :=
  match settings.plannedOnTree t with
  | .error failure => (.error failure, t)
  | .ok (records, jobs) =>
    ((Job.expandAll records jobs t).1.map fun _ => jobs, (Job.expandAll records jobs t).2)

theorem plannedOnTree_eq_ok {settings : Settings} {t : FileTree} {records : List Record}
    {jobs : List Job} (h : settings.plannedOnTree t = .ok (records, jobs)) :
    Descriptor.allOnTree t settings.descriptors = .ok records ∧
      Plan.onTree t settings.destination (Plan.tasks records settings.templates) = .ok jobs := by
  unfold plannedOnTree at h
  cases loaded : Descriptor.allOnTree t settings.descriptors with
  | error failure => simp [loaded] at h
  | ok records' =>
    rw [loaded] at h
    obtain ⟨jobs', planned, same⟩ := map_eq_ok_iff.mp h
    obtain ⟨rfl, rfl⟩ := Prod.mk.inj same
    exact ⟨rfl, planned⟩

theorem run_preview (settings : Settings) (s : Session) :
    ∃ log, (preview (m := Simulation) settings).run s =
      ((settings.plannedOnTree s.tree).map Prod.snd, { s with log }) := by
  obtain ⟨log, loaded⟩ := Descriptor.run_loadRecords settings.descriptors s
  rw [plannedOnTree]
  cases read : Descriptor.allOnTree s.tree settings.descriptors with
  | error failure =>
    rw [read] at loaded
    exact ⟨log, Session.run_bind_error loaded _⟩
  | ok records =>
    rw [read] at loaded
    obtain ⟨log', planned⟩ :=
      Plan.run_plan records settings.templates settings.destination { s with log }
    refine ⟨log', ?_⟩
    rw [preview, Session.run_bind_ok loaded, planned]
    simp only
    cases Plan.onTree s.tree settings.destination (Plan.tasks records settings.templates) <;> rfl

theorem run_noteNothing (records : List Record) (templates : List Path) (s : Session) :
    ∃ log, (noteNothing (m := Simulation) records templates).run s = (.ok ⟨⟩, { s with log }) := by
  unfold noteNothing
  split_ifs
  · exact ⟨_, Session.run_say ..⟩
  · exact ⟨s.log, rfl⟩

/-- What a run does before it writes anything: it loads the records and plans the jobs. -/
def prepare (settings : Settings) : Run Simulation (List Record × List Job) := do
  let records ← loadRecords settings.descriptors
  noteNothing records settings.templates
  let jobs ← plan records settings.templates settings.destination
  return (records, jobs)

theorem generate_eq (settings : Settings) :
    generate (m := Simulation) settings = settings.prepare >>= fun made =>
      expandJobs (m := Simulation) made.1 made.2 >>= fun _ => pure made.2 := by
  simp [generate, prepare]

theorem run_prepare (settings : Settings) (s : Session) :
    ∃ log, settings.prepare.run s = (settings.plannedOnTree s.tree, { s with log }) := by
  obtain ⟨log, loaded⟩ := Descriptor.run_loadRecords settings.descriptors s
  unfold prepare plannedOnTree
  cases read : Descriptor.allOnTree s.tree settings.descriptors with
  | error failure =>
    rw [read] at loaded
    exact ⟨log, Session.run_bind_error loaded _⟩
  | ok records =>
    rw [read] at loaded
    obtain ⟨log₁, noted⟩ := run_noteNothing records settings.templates { s with log }
    obtain ⟨log₂, planned⟩ :=
      Plan.run_plan records settings.templates settings.destination { s with log := log₁ }
    refine ⟨log₂, ?_⟩
    rw [Session.run_bind_ok loaded, Session.run_bind_ok noted, Session.run_bind, planned]
    simp only
    cases Plan.onTree s.tree settings.destination (Plan.tasks records settings.templates) <;> rfl

theorem run_generate_of_unplanned {settings : Settings} {s : Session} {failure : Failure}
    (unplanned : settings.plannedOnTree s.tree = .error failure) :
    ∃ log, (generate (m := Simulation) settings).run s = (.error failure, { s with log }) := by
  obtain ⟨log, prepared⟩ := settings.run_prepare s
  rw [unplanned] at prepared
  refine ⟨log, ?_⟩
  rw [generate_eq, Session.run_bind_error prepared]

theorem run_generate_of_planned {settings : Settings} {s : Session} {records : List Record}
    {jobs : List Job} (planned : settings.plannedOnTree s.tree = .ok (records, jobs)) :
    ∃ log, (generate (m := Simulation) settings).run s =
      (expandJobs (m := Simulation) records jobs >>= fun _ => pure jobs).run { s with log } := by
  obtain ⟨log, prepared⟩ := settings.run_prepare s
  rw [planned] at prepared
  refine ⟨log, ?_⟩
  rw [generate_eq, Session.run_bind_ok prepared]

theorem run_generate (settings : Settings) (s : Session) :
    ∃ log, (generate (m := Simulation) settings).run s =
      ((settings.onTree s.tree).1, ⟨(settings.onTree s.tree).2, log⟩) := by
  rw [onTree]
  cases planned : settings.plannedOnTree s.tree with
  | error failure => exact run_generate_of_unplanned planned
  | ok plan =>
    obtain ⟨records, jobs⟩ := plan
    obtain ⟨log, started⟩ := run_generate_of_planned planned
    obtain ⟨log', ran⟩ := Job.run_expandJobs records jobs { s with log }
    refine ⟨log', ?_⟩
    rw [started, Session.run_bind, ran]
    simp only [Except.map]
    cases (Job.expandAll records jobs s.tree).1 <;> rfl

theorem onTree_of_run {settings : Settings} {s after : Session}
    {result : Except Failure (List Job)}
    (ran : (generate (m := Simulation) settings).run s = (result, after)) :
    settings.onTree s.tree = (result, after.tree) :=
  Session.onTree_of_run (settings.run_generate s) ran

theorem finished_of_ok {settings : Settings} {t after : FileTree} {jobs : List Job}
    (h : settings.onTree t = (.ok jobs, after)) :
    ∃ records, settings.plannedOnTree t = .ok (records, jobs) ∧
      Job.expandAll records jobs t = (.ok (), after) := by
  unfold onTree at h
  cases made : settings.plannedOnTree t with
  | error failure => simp [made] at h
  | ok plan =>
    obtain ⟨records, planned⟩ := plan
    rw [made] at h
    obtain ⟨finished, last⟩ := Prod.mk.inj h
    obtain ⟨u, done, rfl⟩ := map_eq_ok_iff.mp finished
    exact ⟨records, rfl, Prod.ext done last⟩

end Settings

end Stencil
