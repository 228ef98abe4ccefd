import Stencil.FileTree.Edit
import Stencil.Proofs.Generation.Outcome
import Mathlib.Data.List.Perm.Basic
import Mathlib.Data.List.ProdSigma

/-! The order of jobs that have no part in one another is of no consequence.  Descriptors and
templates can be given in any order, then: the run goes through all the same, does the same jobs, and
leaves the same tree. -/

namespace Stencil

namespace Job

variable {records records' : List Record} {jobs jobs' : List Job} {t after after' : FileTree}

theorem exists_of_deeds (same : (jobs.map (deed records)).Perm (jobs'.map (deed records')))
    {job : Job} (mem : job ∈ jobs') : ∃ other ∈ jobs, other.deed records = job.deed records' :=
  List.mem_map.mp (same.mem_iff.mpr (List.mem_map_of_mem mem))

theorem alone_of_deeds (same : (jobs.map (deed records)).Perm (jobs'.map (deed records')))
    (alone : ∀ job ∈ jobs, (job.expand records t).1 = .ok ()) :
    ∀ job ∈ jobs', (job.expand records' t).1 = .ok () := by
  intro job mem
  obtain ⟨other, listed, deeds⟩ := exists_of_deeds same mem
  have equal : other.expand records t = job.expand records' t :=
    congrArg (fun d : Deed => Expansion.onTree t d.template d.record d.destination) deeds
  rw [← equal]
  exact alone other listed

theorem sparesTemplates_before (grows : t.Grows after) (templates : SparesTemplates after jobs)
    (same : (jobs.map (deed records)).Perm (jobs'.map (deed records'))) :
    SparesTemplates t jobs' := by
  intro job mem other mem' overwritten
  obtain ⟨first, listed, deeds⟩ := exists_of_deeds same mem
  obtain ⟨second, listed', deeds'⟩ := exists_of_deeds same mem'
  refine templates first listed second listed' ?_
  rw [show first.destination = job.destination from congrArg Deed.destination deeds,
    show second.template = other.template from congrArg Deed.template deeds']
  exact grows.sameFile overwritten

theorem sparesTemplates_after (grows : t.Grows after') (templates : SparesTemplates t jobs)
    (alone : ∀ job ∈ jobs, (job.expand records t).1 = .ok ()) : SparesTemplates after' jobs := by
  intro job mem other mem' overwritten
  obtain ⟨source, sink, opened, bytes, text, -, found, -⟩ :=
    Expansion.onTree_eq_ok_iff.mp (Prod.ext (alone other mem') rfl)
  exact templates job mem other mem' (grows.sameFile_before found overwritten)

theorem sparesOutput_reordered (o : Outcome t (jobs.map (deed records)) after)
    (grows : t.Grows after') (output : SparesOutput after jobs)
    (same : (jobs.map (deed records)).Perm (jobs'.map (deed records'))) :
    SparesOutput after' jobs' := by
  have apart : (jobs.map (deed records)).Pairwise fun deed other =>
      ¬ after.SameFile deed.destination other.destination := List.pairwise_map.mpr output
  rw [same.pairwise_iff fun one two => one two.symm, List.pairwise_map] at apart
  refine apart.imp_of_mem fun mem mem' one two => one ?_
  obtain ⟨e, opens⟩ := (o.perm same).opens (List.mem_map_of_mem mem)
  obtain ⟨e', opens'⟩ := (o.perm same).opens (List.mem_map_of_mem mem')
  exact o.grows.sameFile_of_other grows opens opens' two

/-- Jobs that have no part in one another can be done in any order, and with their records in any
list. -/
theorem expandAll_reordered (ran : expandAll records jobs t = (.ok (), after))
    (output : SparesOutput after jobs) (templates : SparesTemplates after jobs)
    (same : (jobs.map (deed records)).Perm (jobs'.map (deed records'))) :
    ∃ after', expandAll records' jobs' t = (.ok (), after') ∧ after.Alike after' := by
  have alone := alone_of_deeds same (alone_of_ok ran output templates)
  have spared := sparesTemplates_before (grows_of_run ran) templates same
  have done := expandAll_of_alone spared alone (fun _ mem => mem) ⟨.refl t, fun _ _ _ read => read⟩
  have ran' : expandAll records' jobs' t = (.ok (), (expandAll records' jobs' t).2) :=
    Prod.ext done rfl
  have grows' : t.Grows (expandAll records' jobs' t).2 := grows_of_run ran'
  have o := outcome_of_ok ran output templates
  have o' := outcome_of_ok ran' (sparesOutput_reordered o grows' output same)
    (sparesTemplates_after grows' spared alone)
  exact ⟨_, ran', (o.perm same).alike o'⟩

end Job

namespace Descriptor

theorem allOnTree_of_perm {t : FileTree} {paths paths' : List Path} {records : List Record}
    (reordered : paths'.Perm paths) (loaded : allOnTree t paths = .ok records) :
    ∃ records', allOnTree t paths' = .ok records' ∧ records'.Perm records := by
  obtain ⟨each, loads, rfl⟩ := allOnTree_eq_ok_iff.mp loaded
  obtain ⟨each', loads', same⟩ := List.perm_comp_forall₂ reordered loads
  exact ⟨each'.flatten, allOnTree_eq_ok_iff.mpr ⟨each', loads', rfl⟩, same.flatten⟩

end Descriptor

namespace Plan

variable {t : FileTree} {directory : Path} {records records' : List Record}
  {templates templates' : List Path}

theorem map_tasks (records : List Record) (templates : List Path) :
    (tasks records templates).map (fun task => (task.record, task.template)) =
      records.product templates := by
  unfold tasks List.product
  rw [List.map_flatMap]
  conv_rhs => rw [← List.zipIdx_map_fst 0 records, List.flatMap_map]
  simp [Function.comp_def]

def deed (directory : Path) (pair : Record × Path) : Deed :=
  ⟨pair.2, pair.1, (Output.path pair.2 pair.1 directory).toOption.getD []⟩

theorem Does.deed_eq {task : Task} {job : Job} (does : Does directory task job)
    (listed : records[task.index]? = some task.record) :
    job.deed records = deed directory (task.record, task.template) := by
  simp [Job.deed, deed, does.record, does.template, does.destination, listed, Except.toOption]

theorem map_deed_of_does {planned : List Job}
    (does : List.Forall₂ (Does directory) (tasks records templates) planned) :
    planned.map (Job.deed records) = (records.product templates).map (deed directory) := by
  rw [← map_tasks, List.map_map]
  have listed : ∀ task ∈ tasks records templates, records[task.index]? = some task.record :=
    fun task mem => (mem_tasks_iff.mp mem).1
  generalize tasks records templates = all at does listed
  induction does with
  | nil => rfl
  | cons first rest ih =>
    obtain ⟨here, later⟩ := List.forall_mem_cons.mp listed
    rw [List.map_cons, List.map_cons, first.deed_eq here, ih later]
    rfl

theorem exists_onTree {all : List Task} (each : ∀ task ∈ all, ∃ job, place t directory task = .ok job) :
    ∃ planned, onTree t directory all = .ok planned := by
  induction all with
  | nil => exact ⟨[], rfl⟩
  | cons task rest ih =>
    obtain ⟨⟨job, first⟩, later⟩ := List.forall_mem_cons.mp each
    obtain ⟨planned, more⟩ := ih later
    exact ⟨job :: planned, by rw [onTree, first, more]; rfl⟩

theorem onTree_of_perm {planned : List Job} (reordered : records'.Perm records)
    (reordered' : templates'.Perm templates)
    (done : onTree t directory (tasks records templates) = .ok planned) :
    ∃ planned', onTree t directory (tasks records' templates') = .ok planned' ∧
      (planned.map (Job.deed records)).Perm (planned'.map (Job.deed records')) := by
  obtain ⟨does, apart⟩ := onTree_eq_ok_iff.mp done
  have each : ∀ task ∈ tasks records' templates', ∃ job, place t directory task = .ok job := by
    intro task mem
    have pair : (task.record, task.template) ∈ records.product templates := by
      rw [← (reordered.product reordered').mem_iff, ← map_tasks]
      exact List.mem_map_of_mem mem
    rw [← map_tasks] at pair
    obtain ⟨old, listed, same⟩ := List.mem_map.mp pair
    obtain ⟨record, template⟩ := Prod.mk.inj same
    obtain ⟨job, known, does⟩ := exists_of_mem_right does.flip listed
    refine ⟨⟨task.index, job.template, job.destination⟩,
      place_eq_ok_iff.mpr ⟨⟨rfl, ?_, ?_⟩, apart job known⟩⟩
    · exact does.template.trans template
    · rw [← record, ← template]
      exact does.destination
  obtain ⟨planned', done'⟩ := exists_onTree each
  refine ⟨planned', done', ?_⟩
  rw [map_deed_of_does does, map_deed_of_does (does_of_onTree done')]
  exact ((reordered.product reordered').map _).symm

end Plan

/-- The same descriptors, templates and destination, in whatever order. -/
structure Settings.Reorders (permuted settings : Settings) : Prop where
  descriptors : permuted.descriptors.Perm settings.descriptors
  templates : permuted.templates.Perm settings.templates
  destination : permuted.destination = settings.destination

theorem Settings.plannedOnTree_of_reorders {settings permuted : Settings} {t : FileTree}
    {records : List Record} {jobs : List Job} (reorders : permuted.Reorders settings)
    (planned : settings.plannedOnTree t = .ok (records, jobs)) :
    ∃ records' jobs', permuted.plannedOnTree t = .ok (records', jobs') ∧
      (jobs.map (Job.deed records)).Perm (jobs'.map (Job.deed records')) := by
  obtain ⟨loaded, made⟩ := plannedOnTree_eq_ok planned
  obtain ⟨records', loaded', same⟩ := Descriptor.allOnTree_of_perm reorders.descriptors loaded
  obtain ⟨jobs', made', deeds⟩ := Plan.onTree_of_perm same reorders.templates made
  refine ⟨records', jobs', ?_, deeds⟩
  rw [plannedOnTree, loaded', reorders.destination]
  exact map_eq_ok_iff.mpr ⟨jobs', made', rfl⟩

theorem generate_reordered {settings permuted : Settings} {s s' after : Session} {jobs : List Job}
    (ran : (generate (m := Simulation) settings).run s = (.ok jobs, after))
    (output : jobs.Pairwise fun job other =>
      ¬ after.tree.SameFile job.destination other.destination)
    (templates : ∀ job ∈ jobs, ∀ template ∈ settings.templates,
      ¬ after.tree.SameFile job.destination template)
    (reorders : permuted.Reorders settings) (start : s'.tree = s.tree) :
    ∃ records records' jobs' after',
      ((loadRecords (m := Simulation) settings.descriptors).run s).1 = .ok records ∧
      ((loadRecords (m := Simulation) permuted.descriptors).run s').1 = .ok records' ∧
      (generate (m := Simulation) permuted).run s' = (.ok jobs', after') ∧
      (jobs.map (Job.deed records)).Perm (jobs'.map (Job.deed records')) ∧
      after.tree.Alike after'.tree := by
  obtain ⟨records, planned, expanded⟩ := Settings.finished_of_ok (Settings.onTree_of_run ran)
  obtain ⟨records', jobs', planned', same⟩ := Settings.plannedOnTree_of_reorders reorders planned
  obtain ⟨loaded, made⟩ := Settings.plannedOnTree_eq_ok planned
  obtain ⟨loaded', -⟩ := Settings.plannedOnTree_eq_ok planned'
  have spared : Job.SparesTemplates after.tree jobs := by
    intro job mem other listed
    obtain ⟨-, -, template, -⟩ := Plan.task_of_mem (Plan.does_of_onTree made) listed
    exact templates job mem _ template
  obtain ⟨t', expanded', alike⟩ := Job.expandAll_reordered expanded output spared same
  obtain ⟨log, load⟩ := Descriptor.run_loadRecords settings.descriptors s
  obtain ⟨log', load'⟩ := Descriptor.run_loadRecords permuted.descriptors s'
  obtain ⟨log'', run'⟩ := permuted.run_generate s'
  rw [start] at load' run'
  simp only [Settings.onTree, planned', expanded', Except.map] at run'
  exact ⟨records, records', jobs', ⟨t', log''⟩, (congrArg Prod.fst load).trans loaded,
    (congrArg Prod.fst load').trans loaded', run', same, alike⟩

namespace Reversing

/-! Two descriptors and two templates, whose output goes by a link: one file is made behind a
dangling link, one has a second name, and two are new. -/

def ints : Path := Path.ofText "int.toml".toList

def chars : Path := Path.ofText "char.toml".toList

def source : Path := Path.ofText "@T@.c".toList

def header : Path := Path.ofText "in/@T@.h".toList

def tree : FileTree :=
  let types := ((FileTree.scratch []).writeFile ints (Utf8.encode
    "[[types_list]]\nT = 'int'\n".toList)).writeFile chars (Utf8.encode
    "[[types_list]]\nT = 'char'\n".toList)
  let files := ((types.writeFile source (Utf8.encode "@T@ x;\n".toList)).writeFile header
    (Utf8.encode "extern @T@ x;\n".toList)).writeFile (Path.ofText "real/char.h".toList) []
  ((files.makeHardLink (Path.ofText "old.h".toList) (Path.ofText "real/char.h".toList)).makeLink
    (Path.ofText "real/int.c".toList) (Path.ofText "../new.c".toList)).makeLink
    (Path.ofText "out".toList) (Path.ofText "real".toList)

def settings : Settings := ⟨[ints, chars], [source, header], Path.ofText "out".toList⟩

def reversed : Settings := ⟨[chars, ints], [header, source], Path.ofText "out".toList⟩

def jobs : List Job :=
  [⟨0, source, Path.ofText "out/int.c".toList⟩, ⟨0, header, Path.ofText "out/int.h".toList⟩,
    ⟨1, source, Path.ofText "out/char.c".toList⟩, ⟨1, header, Path.ofText "out/char.h".toList⟩]

def after : Session := ((generate (m := Simulation) settings).run ⟨tree, []⟩).2

theorem generate_reversed :
    (generate (m := Simulation) settings).run ⟨tree, []⟩ = (.ok jobs, after) ∧
      after.tree.read (Path.ofText "new.c".toList) = .ok (Utf8.encode "int x;\n".toList) ∧
      ∃ records records' jobs' after',
        ((loadRecords (m := Simulation) settings.descriptors).run ⟨tree, []⟩).1 = .ok records ∧
        ((loadRecords (m := Simulation) reversed.descriptors).run ⟨tree, []⟩).1 = .ok records' ∧
        (generate (m := Simulation) reversed).run ⟨tree, []⟩ = (.ok jobs', after') ∧
        (jobs.map (Job.deed records)).Perm (jobs'.map (Job.deed records')) ∧
        after.tree.Alike after'.tree := by
  have ran : (generate (m := Simulation) settings).run ⟨tree, []⟩ = (.ok jobs, after) :=
    Session.run_of_result (by decide +kernel)
  have reorders : reversed.Reorders settings := ⟨.swap .., .swap .., rfl⟩
  refine ⟨ran, ?_, generate_reordered ran ?_ ?_ reorders rfl⟩
  · decide +kernel
  · decide +kernel
  · decide +kernel

end Reversing

end Stencil
