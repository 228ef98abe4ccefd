import Stencil.FileTree.Edit
import Stencil.Proofs.FileTree.Spellings
import Stencil.Proofs.Generation.LastWriter

/-! Jobs whose destinations are spellings of one path.  In the end they lead to one place, and a file
there holds what the last job that leads to it has made of its template: the later of two such jobs,
or a job still later.  Nothing else is left of what the earlier ones wrote. -/

namespace Stencil

namespace Job

/-- The job of this number is the last that leads to a file, and the file holds what the job has made
of its template.  The job reads the template when it has made or emptied the file. -/
inductive WrittenBy (records : List Record) (jobs : List Job) (t after : FileTree) (id : Nat) :
    Nat → Prop
  | intro {before later : List Job} {last : Job} {record : Record} {start opened : FileTree}
      {log log' : List LogEntry} {source : Entry} {bytes : Bytes} {text : Text}
      (split : jobs = before ++ last :: later) (own : records[last.record]? = some record)
      (leads : after.file? last.destination = some id)
      (unsent : ∀ other ∈ later, after.file? other.destination ≠ some id)
      (started : (expandJobs (m := Simulation) records before).run ⟨t, log⟩ =
        (.ok (), ⟨start, log'⟩))
      (found : start.openEntry last.template = .ok source)
      (made : start.create last.destination = .ok (.file id, opened))
      (read : opened.readEntry source = .ok bytes) (decoded : Utf8.decode bytes = some text)
      (content : after.content? id = some (Utf8.encode (record.apply text))) :
      WrittenBy records jobs t after id before.length

variable {records : List Record} {jobs before later : List Job} {job last : Job} {record : Record}
  {t after : FileTree} {id : Nat}

theorem writtenBy_of_split (ran : expandAll records (before ++ last :: later) t = (.ok (), after))
    (own : records[last.record]? = some record) (leads : after.file? last.destination = some id)
    (unsent : ∀ other ∈ later, after.file? other.destination ≠ some id) :
    WrittenBy records (before ++ last :: later) t after id before.length := by
  obtain ⟨start, first, rest⟩ := expandAll_append_of_ok ran
  obtain ⟨closed, expanded, rest⟩ := expandAll_cons_of_ok rest
  rw [expand, own, Option.getD_some] at expanded
  obtain ⟨source, sink, opened, bytes, text, -, found, made, read, decoded, written⟩ :=
    Expansion.onTree_eq_ok_iff.mp expanded
  have creates := FileTree.creates_of_create made
  have writing : opened.Grows closed := by
    have grows := FileTree.Grows.writeEntry opened sink (Utf8.encode (record.apply text))
    rwa [written] at grows
  have opens := (writing.trans (grows_of_run rest)).openEntry creates.openEntry
  obtain rfl := FileTree.openEntry_of_file? opens leads
  obtain rfl : opened.setContent id (Utf8.encode (record.apply text)) = closed :=
    congrArg Prod.snd written
  obtain ⟨log, started⟩ := run_expandJobs records before ⟨t, []⟩
  rw [first] at started
  refine .intro rfl own leads unsent started found made read decoded ?_
  rw [content?_of_run rest unsent]
  exact FileTree.content?_setContent_self creates.lt_of_file _

theorem exists_writtenBy {directory : Path} {templates : List Path}
    (planned : List.Forall₂ (Plan.Does directory) (Plan.tasks records templates) jobs)
    (ran : expandAll records jobs t = (.ok (), after)) {number : Nat}
    (found : jobs[number]? = some job)
    (leads : after.file? job.destination = some id) :
    ∃ later, number ≤ later ∧ WrittenBy records jobs t after id later := by
  obtain ⟨inside, rfl⟩ := List.getElem?_eq_some_iff.mp found
  have mem : jobs[number] ∈ jobs.drop number := by
    rw [List.drop_eq_getElem_cons inside]
    exact List.mem_cons_self
  obtain ⟨between, last, behind, split, leads, unsent⟩ := exists_last_split
    (P := fun job : Job => after.file? job.destination = some id) mem leads
  have whole : jobs = (jobs.take number ++ between) ++ last :: behind := by
    rw [List.append_assoc, ← split, List.take_append_drop]
  have listed : last ∈ jobs := by
    rw [whole]
    exact List.mem_append_right _ List.mem_cons_self
  obtain ⟨record, own, -⟩ := Plan.task_of_mem planned listed
  refine ⟨(jobs.take number ++ between).length, ?_, ?_⟩
  · rw [List.length_append, List.length_take_of_le (Nat.le_of_lt inside)]
    exact Nat.le_add_right _ _
  · have written := writtenBy_of_split (whole ▸ ran) own leads unsent
    rwa [← whole] at written

theorem samePlace_of_same {job' : Job} (ran : expandAll records jobs t = (.ok (), after))
    (mem : job ∈ jobs) (mem' : job' ∈ jobs)
    (same : job.destination.components = job'.destination.components) :
    after.SamePlace job.destination job'.destination := by
  have opens : ∀ {job}, job ∈ jobs → ∃ l, after.location? job.destination = some l := by
    intro job mem
    rcases opens_of_ok ran mem with ⟨id, found⟩ | ⟨d, found⟩
    all_goals exact (FileTree.location?_of_openEntry found).imp fun _ real => real.1
  obtain ⟨l, here⟩ := opens mem
  obtain ⟨l', there⟩ := opens mem'
  obtain rfl := FileTree.location?_same same here there
  exact .of_location? here there

end Job

/-- Two jobs of a finished run for one path, in whatever spellings, lead to one place in the end: a
device, or a file that the later of them or a job behind it has written. -/
theorem generate_keeps_later {settings : Settings} {s after : Session} {jobs : List Job}
    (ran : (generate (m := Simulation) settings).run s = (.ok jobs, after)) :
    ∃ records log,
      (loadRecords (m := Simulation) settings.descriptors).run s = (.ok records, ⟨s.tree, log⟩) ∧
      ∀ (earlier later : Nat) (job job' : Job), earlier < later → jobs[earlier]? = some job →
        jobs[later]? = some job' → job.destination.same job'.destination = true →
        after.tree.SamePlace job.destination job'.destination ∧
        ((∃ d, after.tree.openEntry job'.destination = .ok (.device d)) ∨
          ∃ id last, after.tree.file? job.destination = some id ∧
            after.tree.file? job'.destination = some id ∧ later ≤ last ∧
            Job.WrittenBy records jobs s.tree after.tree id last) := by
  obtain ⟨records, made, expanded⟩ := Settings.finished_of_ok (Settings.onTree_of_run ran)
  obtain ⟨loaded, planned⟩ := Settings.plannedOnTree_eq_ok made
  obtain ⟨log, reading⟩ := Descriptor.run_loadRecords settings.descriptors s
  rw [loaded] at reading
  refine ⟨records, log, reading, fun earlier later job job' _ found found' same => ?_⟩
  have mem := List.mem_of_getElem? found
  have mem' := List.mem_of_getElem? found'
  have place := Job.samePlace_of_same expanded mem mem' (of_decide_eq_true same)
  refine ⟨place, ?_⟩
  rcases Job.opens_of_ok expanded mem' with ⟨id, opens⟩ | device
  · have leads := FileTree.file?_of_openEntry opens
    have leads' : after.tree.file? job.destination = some id := by
      unfold FileTree.file? at leads ⊢
      rwa [place.2]
    obtain ⟨last, behind, written⟩ :=
      Job.exists_writtenBy (Plan.does_of_onTree planned) expanded found' leads
    exact .inr ⟨id, last, leads', leads, behind, written⟩
  · exact .inl device

namespace Respelt

/-! Two spellings of one path, and a third job that comes to the same file through a link. -/

def types : Path := Path.ofText "types.toml".toList

def template : Path := Path.ofText "@n@".toList

def plainly : Path := Path.ofText "out/a".toList

def dotted : Path := Path.ofText "out/./a".toList

def link : Path := Path.ofText "out/link".toList

def records : Text :=
  ("[[types_list]]\nn = 'a'\nv = 'the longest of all'\n" ++
    "[[types_list]]\nn = './a'\nv = 'the later'\n" ++
    "[[types_list]]\nn = 'link'\nv = 'the last'\n").toList

def tree : FileTree :=
  let files := ((FileTree.scratch []).writeFile types (Utf8.encode records)).writeFile template
    (Utf8.encode "@v@\n".toList)
  (files.makeDirectory (Path.ofText "out".toList)).makeLink link (Path.ofText "a".toList)

def settings : Settings := ⟨[types], [template], Path.ofText "out".toList⟩

def jobs : List Job := [⟨0, template, plainly⟩, ⟨1, template, dotted⟩, ⟨2, template, link⟩]

def finished : Session := ((generate (m := Simulation) settings).run ⟨tree, []⟩).2

theorem generate_keeps_last :
    ∃ after, (generate (m := Simulation) settings).run ⟨tree, []⟩ = (.ok jobs, after) ∧
      plainly.same dotted = true ∧ after.tree.SamePlace plainly dotted ∧
      (∃ records id last, 1 ≤ last ∧ Job.WrittenBy records jobs tree after.tree id last) ∧
      after.tree.read plainly = .ok (Utf8.encode "the last\n".toList) := by
  have ran : (generate (m := Simulation) settings).run ⟨tree, []⟩ = (.ok jobs, finished) :=
    Session.run_of_result (by decide +kernel)
  have reads : finished.tree.read plainly = .ok (Utf8.encode "the last\n".toList) := by
    decide +kernel
  have file : (finished.tree.file? dotted).isSome := by decide +kernel
  have same : plainly.same dotted = true := by decide
  obtain ⟨records, log, -, coincide⟩ := generate_keeps_later ran
  obtain ⟨place, ends⟩ := coincide 0 1 ⟨0, template, plainly⟩ ⟨1, template, dotted⟩ Nat.zero_lt_one
    rfl rfl same
  refine ⟨finished, ran, same, place, ?_, reads⟩
  rcases ends with ⟨d, opens⟩ | ⟨id, last, -, -, behind, written⟩
  · obtain ⟨id, leads⟩ := Option.isSome_iff_exists.mp file
    cases FileTree.openEntry_of_file? opens leads
  · exact ⟨records, id, last, behind, written⟩

end Respelt

end Stencil
