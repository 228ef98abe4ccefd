import Stencil.FileTree.Edit
import Stencil.Proofs.Generation.Frame

/-! What a finished run has made of a tree.  Where no destination is a template, every file that a
destination leads to holds what the last such job makes of its template, whatever the other jobs
have written and by whichever path they came to it. -/

namespace Stencil

/-- How a tree comes out of a run of jobs. -/
structure Generated (t : FileTree) (records : List Record) (jobs : List Job) (after : FileTree) :
    Prop where
  kept : ∀ {at_ e}, t.at? at_ = some e → after.at? at_ = some e
  new : ∀ {at_ e}, t.at? at_ = none → after.at? at_ = some e →
    (∃ id, e = .file id ∧ t.contents.length ≤ id) ∧
      ∃ job ∈ jobs, after.location? job.destination = some at_
  workingDirectory : after.workingDirectory = t.workingDirectory
  opens : ∀ {job}, job ∈ jobs →
    (∃ id, after.openEntry job.destination = .ok (.file id)) ∨
      ∃ d, after.openEntry job.destination = .ok (.device d)
  untouched : ∀ {id}, (∀ job ∈ jobs, after.file? job.destination ≠ some id) →
    after.content? id = t.content? id
  written : ∀ {before job later id}, jobs = before ++ job :: later →
    after.file? job.destination = some id →
    (∀ other ∈ later, after.file? other.destination ≠ some id) →
    ∃ record bytes text, records[job.record]? = some record ∧ t.read job.template = .ok bytes ∧
      Utf8.decode bytes = some text ∧
      after.content? id = some (Utf8.encode (record.apply text))

namespace Job

variable {records : List Record} {jobs : List Job} {t after : FileTree}

theorem read_before (ran : expandAll records jobs t = (.ok (), after)) {template : Path}
    (apart : ∀ job ∈ jobs, ¬ after.SameFile job.destination template) {bytes : Bytes}
    (read : after.read template = .ok bytes) : t.read template = .ok bytes := by
  obtain ⟨source, found, holds⟩ := FileTree.read_eq_ok_iff.mp read
  have unsent : ∀ id, source = .file id →
      ∀ job ∈ jobs, after.file? job.destination ≠ some id := by
    rintro id rfl job mem leads
    exact apart job mem (.of_file? leads (FileTree.file?_of_openEntry found))
  rcases (grows_of_run ran).openEntry_before found with old | ⟨l, id, rfl, real, absent, present⟩
  · refine FileTree.read_eq_ok_iff.mpr ⟨source, old, ?_⟩
    rw [← holds]
    refine FileTree.readEntry_congr fun id file => ?_
    exact (content?_of_run ran (unsent id file)).symm
  · -- the template would be a file that one of the jobs has made
    obtain ⟨job, mem, leads⟩ := location?_of_new_of_run ran absent present
    exact absurd (FileTree.file?_eq_some_iff.mpr ⟨l, leads, present⟩) (unsent id rfl job mem)

theorem opens_of_ok (ran : expandAll records jobs t = (.ok (), after)) {job : Job}
    (mem : job ∈ jobs) :
    (∃ id, after.openEntry job.destination = .ok (.file id)) ∨
      ∃ d, after.openEntry job.destination = .ok (.device d) := by
  obtain ⟨before, later, rfl⟩ := List.append_of_mem mem
  obtain ⟨start, made, -, completed, rest⟩ := split_of_ok ran
  have grows : made.Grows after := grows_of_run rest
  obtain ⟨sink, opens, file | device⟩ := completed.openEntry
  · obtain ⟨id, rfl⟩ := file
    exact .inl ⟨id, grows.openEntry opens⟩
  · obtain ⟨d, rfl⟩ := device
    exact .inr ⟨d, grows.openEntry opens⟩

/-- The last job sent to a file decides what the file holds. -/
theorem written_of_ok {before later : List Job} {job : Job}
    (ran : expandAll records (before ++ job :: later) t = (.ok (), after))
    (apart : ∀ other ∈ before ++ job :: later,
      ¬ after.SameFile other.destination job.template) {id : Nat}
    (leads : after.file? job.destination = some id)
    (last : ∀ other ∈ later, after.file? other.destination ≠ some id) :
    ∃ bytes text, t.read job.template = .ok bytes ∧ Utf8.decode bytes = some text ∧
      after.content? id =
        some (Utf8.encode ((records[job.record]?.getD .empty).apply text)) := by
  obtain ⟨start, made, first, completed, rest⟩ := split_of_ok ran
  have grew : start.Grows made := completed.grows
  have grows : made.Grows after := grows_of_run rest
  have led : made.file? job.destination = some id := by
    obtain ⟨sink, opens, -⟩ := completed.openEntry
    obtain rfl := FileTree.openEntry_of_file? (grows.openEntry opens) leads
    exact FileTree.file?_of_openEntry opens
  have own : ¬ after.SameFile job.destination job.template :=
    apart job (List.mem_append_right before List.mem_cons_self)
  have other : made.file? job.template ≠ some id := fun same =>
    own (.of_file? leads (grows.file? same))
  obtain ⟨bytes, text, read, decoded, content⟩ := completed.content? led other
  have unsent : ∀ j ∈ before, ¬ start.SameFile j.destination job.template := fun j mem same =>
    apart j (List.mem_append_left _ mem) ((grew.trans grows).sameFile same)
  have still : after.content? id = made.content? id := content?_of_run rest last
  exact ⟨bytes, text, read_before first unsent read, decoded, still.trans content⟩

theorem generated_of_ok {directory : Path} {templates : List Path}
    (planned : List.Forall₂ (Plan.Does directory) (Plan.tasks records templates) jobs)
    (ran : expandAll records jobs t = (.ok (), after))
    (apart : ∀ job ∈ jobs, ∀ template ∈ templates, ¬ after.SameFile job.destination template) :
    Generated t records jobs after := by
  have grows : t.Grows after := grows_of_run ran
  refine ⟨grows.kept, ?_, grows.workingDirectory, opens_of_ok ran, content?_of_run ran, ?_⟩
  · intro l e absent present
    exact ⟨grows.made absent present, location?_of_new_of_run ran absent present⟩
  · rintro before job later id rfl leads last
    have mem : job ∈ before ++ job :: later := List.mem_append_right before List.mem_cons_self
    obtain ⟨record, found, template, -⟩ := Plan.task_of_mem planned mem
    have sent : ∀ other ∈ before ++ job :: later,
        ¬ after.SameFile other.destination job.template :=
      fun other listed => apart other listed _ template
    obtain ⟨bytes, text, read, decoded, content⟩ := written_of_ok ran sent leads last
    rw [found] at content
    exact ⟨record, bytes, text, found, read, decoded, content⟩

end Job

theorem generate_last_writer {settings : Settings} {s after : Session} {jobs : List Job}
    (ran : (generate (m := Simulation) settings).run s = (.ok jobs, after))
    (apart : ∀ job ∈ jobs, ∀ template ∈ settings.templates,
      ¬ after.tree.SameFile job.destination template) :
    ∃ records log,
      (loadRecords (m := Simulation) settings.descriptors).run s = (.ok records, ⟨s.tree, log⟩) ∧
      List.Forall₂ (Plan.Does settings.destination) (Plan.tasks records settings.templates) jobs ∧
      Generated s.tree records jobs after.tree := by
  obtain ⟨log, whole⟩ := settings.run_generate s
  have finished : settings.onTree s.tree = (.ok jobs, after.tree) := by
    rw [ran] at whole
    obtain ⟨result, session⟩ := Prod.ext_iff.mp whole
    exact Prod.ext result.symm (congrArg Session.tree session).symm
  obtain ⟨records, made, expanded⟩ := Settings.finished_of_ok finished
  obtain ⟨loaded, planned⟩ := Settings.plannedOnTree_eq_ok made
  obtain ⟨log', reading⟩ := Descriptor.run_loadRecords settings.descriptors s
  rw [loaded] at reading
  have does := Plan.does_of_onTree planned
  exact ⟨records, log', reading, does, Job.generated_of_ok does expanded apart⟩

namespace Overwriting

/-! A descriptor that three jobs of its own run overwrite, one of them through a link. -/

def types : Path := Path.ofText "types.toml".toList

def link : Path := Path.ofText "link".toList

def fixed : Path := Path.ofText "in/types.toml".toList

def named : Path := Path.ofText "in/@L@".toList

def records : Text :=
  "[[types_list]]\nL = 'link'\nT = 'first'\n[[types_list]]\nL = 'new'\nT = 'second'\n".toList

def tree : FileTree :=
  let files := (((FileTree.scratch []).writeFile types (Utf8.encode records)).writeFile fixed
    (Utf8.encode "@T@\n".toList)).writeFile named (Utf8.encode "linked\n".toList)
  files.makeLink link types

def settings : Settings := ⟨[types], [fixed, named], Path.dot⟩

def jobs : List Job :=
  [⟨0, fixed, Path.ofText "./types.toml".toList⟩, ⟨0, named, Path.ofText "./link".toList⟩,
    ⟨1, fixed, Path.ofText "./types.toml".toList⟩, ⟨1, named, Path.ofText "./new".toList⟩]

theorem generate_overwrites :
    ∃ after, (generate (m := Simulation) settings).run ⟨tree, []⟩ = (.ok jobs, after) ∧
      (∃ records log,
        (loadRecords (m := Simulation) settings.descriptors).run ⟨tree, []⟩ =
          (.ok records, ⟨tree, log⟩) ∧
        List.Forall₂ (Plan.Does settings.destination) (Plan.tasks records settings.templates)
          jobs ∧
        Generated tree records jobs after.tree) ∧
      after.tree.read link = .ok (Utf8.encode "second\n".toList) := by
  have ran : (generate (m := Simulation) settings).run ⟨tree, []⟩ = (.ok jobs, _) :=
    Session.run_of_result (by decide +kernel)
  refine ⟨_, ran, generate_last_writer ran ?_, ?_⟩
  · decide +kernel
  · decide +kernel

end Overwriting

end Stencil
