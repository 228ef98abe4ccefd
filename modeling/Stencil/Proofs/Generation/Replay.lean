import Stencil.FileTree.Edit
import Stencil.Proofs.FileTree.Recreation
import Stencil.Proofs.Generation.Frame

/-! A run on the tree that the same run has left.  Every destination is there by now and leads where
it led, so no entry is made and no destination has become its template.  The two runs go side by
side: a file has been written alike in both, or in neither, and then it still holds what it held
when its run began.  A template that both runs began with alike reads alike at every job, also when
the jobs before have written to it. -/

namespace Stencil

/-- What could be read at a path is read there still. -/
def FileTree.RereadsIn (t after : FileTree) (p : Path) : Prop :=
  ∀ bytes, t.read p = .ok bytes → after.read p = .ok bytes

/-- A run has come from `t` to `between` and will end in `after`; the same jobs have come from
`after` to `again`. -/
structure Replays (t between after again : FileTree) : Prop where
  grew : t.Grows between
  grows : between.Grows after
  sameEntries : after.SameEntries again
  contents : ∀ id, again.content? id = between.content? id ∨
    again.content? id = after.content? id ∧ between.content? id = t.content? id

namespace Replays

variable {t between next after again : FileTree} {template destination : Path} {record : Record}

theorem start (g : t.Grows after) : Replays t t after after where
  grew := .refl t
  grows := g
  sameEntries := .refl after
  contents _ := .inr ⟨rfl, rfl⟩

theorem again_eq (r : Replays t after after again) : again = after := by
  refine r.sameEntries.eq_of_content? fun id => ?_
  rcases r.contents id with written | ⟨unwritten, -⟩
  · exact written
  · exact unwritten

theorem growsAgain (r : Replays t between after again) : between.Grows again :=
  r.grows.trans (.of_sameEntries r.sameEntries)

/-- The file of a template holds the same in both runs.  If neither has written to it, it is an old
file, and then the first run has left it as it was. -/
theorem content?_template (r : Replays t between after again)
    (rereads : t.RereadsIn after template) {id : Nat}
    (found : between.openEntry template = .ok (.file id)) :
    again.content? id = between.content? id := by
  rcases r.contents id with written | ⟨unwritten, untouched⟩
  · exact written
  obtain ⟨l, -, here⟩ := FileTree.location?_of_openEntry found
  have inBetween := FileTree.lt_of_at?_file here
  have inAfter := FileTree.lt_of_at?_file (r.grows.kept here)
  obtain ⟨bytes, held⟩ : ∃ bytes, between.content? id = some bytes :=
    ⟨_, List.getElem?_eq_getElem inBetween⟩
  obtain ⟨bytes', left⟩ : ∃ bytes', after.content? id = some bytes' :=
    ⟨_, List.getElem?_eq_getElem inAfter⟩
  have old : id < t.contents.length := by
    obtain ⟨lt, -⟩ := List.getElem?_eq_some_iff.mp (untouched.symm.trans held)
    exact lt
  have before : t.openEntry template = .ok (.file id) := by
    rcases r.grew.openEntry_before found with same | ⟨l', id', same, -, absent, present⟩
    · exact same
    · obtain rfl := Entry.file.inj same
      simp [r.grew.file_of_lt old present] at absent
  have reads : t.read template = .ok bytes := by
    refine FileTree.read_eq_ok_iff.mpr ⟨_, before, ?_⟩
    simp [FileTree.readEntry, ← untouched, held]
  obtain ⟨e, opens, holds⟩ := FileTree.read_eq_ok_iff.mp (rereads bytes reads)
  obtain rfl := FileTree.openEntry_of_file? opens
    (FileTree.file?_of_openEntry (r.grows.openEntry found))
  have same : bytes' = bytes := by simpa [FileTree.readEntry, left] using holds
  rw [unwritten, left, held, same]

theorem expansion (r : Replays t between after again) (rereads : t.RereadsIn after template)
    (done : Expansion.onTree between template record destination = (.ok (), next))
    (later : next.Grows after) :
    ∃ again', Expansion.onTree again template record destination = (.ok (), again') ∧
      Replays t next after again' := by
  obtain ⟨source, sink, opened, bytes, text, apart, found, made, read, decoded, written⟩ :=
    Expansion.onTree_eq_ok_iff.mp done
  obtain ⟨finished, rfl⟩ := Prod.ext_iff.mp written
  have creates := FileTree.creates_of_create made
  have ending := FileTree.Grows.writeEntry opened sink (Utf8.encode (record.apply text))
  have made' := FileTree.create_of_grows made
    ((ending.trans later).trans (.of_sameEntries r.sameEntries))
  have creates' := FileTree.creates_of_create made'
  have read' : (again.emptied sink).readEntry source = .ok bytes := by
    rw [← read]
    refine FileTree.readEntry_congr fun id file => ?_
    subst file
    rw [creates.content?, creates'.content?, r.content?_template rereads found]
  refine ⟨((again.emptied sink).writeEntry sink (Utf8.encode (record.apply text))).2, ?_, ?_⟩
  · refine Expansion.onTree_eq_ok_iff.mpr ⟨source, sink, again.emptied sink, bytes, text, ?_,
      r.growsAgain.openEntry found, made', read', decoded, ?_⟩
    · exact r.growsAgain.not_sameRealPath_of_openEntry found apart
    · exact Prod.ext ((FileTree.fst_writeEntry opened ..).trans finished) rfl
  · refine ⟨r.grew.trans (creates.grows.trans ending), later, ?_, fun id => ?_⟩
    · exact (r.sameEntries.trans (.emptied ..)).trans (.writeEntry ..)
    · rw [creates.content?_writeEntry, creates'.content?_writeEntry]
      split_ifs
      · exact .inl rfl
      · exact r.contents id

end Replays

namespace Job

variable {records : List Record} {jobs : List Job} {t between after again : FileTree}

theorem expandAll_replays (r : Replays t between after again)
    (rereads : ∀ job ∈ jobs, t.RereadsIn after job.template)
    (ran : expandAll records jobs between = (.ok (), after)) :
    ∃ again', expandAll records jobs again = (.ok (), again') ∧ Replays t after after again' := by
  induction jobs generalizing between again with
  | nil =>
    obtain rfl := (Prod.ext_iff.mp ran).2
    exact ⟨again, rfl, r⟩
  | cons job rest ih =>
    obtain ⟨next, first, last⟩ := expandAll_cons_of_ok ran
    obtain ⟨again', expanded, r'⟩ :=
      r.expansion (rereads job List.mem_cons_self) first (grows_of_run last)
    obtain ⟨again'', ran', ended⟩ :=
      ih r' (fun other mem => rereads other (List.mem_cons_of_mem job mem)) last
    refine ⟨again'', ?_, ended⟩
    rw [expandAll, expand, expanded]
    exact ran'

theorem expandAll_again (rereads : ∀ job ∈ jobs, t.RereadsIn after job.template)
    (ran : expandAll records jobs t = (.ok (), after)) :
    expandAll records jobs after = (.ok (), after) := by
  obtain ⟨again, ran', r⟩ := expandAll_replays (.start (grows_of_run ran)) rereads ran
  rw [ran', r.again_eq]

theorem not_sameRealPath_of_ok (ran : expandAll records jobs t = (.ok (), after)) {job : Job}
    (mem : job ∈ jobs) : ¬ after.SameRealPath job.template job.destination := by
  obtain ⟨before, later, rfl⟩ := List.append_of_mem mem
  obtain ⟨start, -, rest⟩ := expandAll_append_of_ok ran
  obtain ⟨made, expanded, last⟩ := expandAll_cons_of_ok rest
  obtain ⟨source, sink, opened, bytes, text, apart, found, -⟩ :=
    Expansion.onTree_eq_ok_iff.mp expanded
  have grows := (Expansion.completed_of_ok expanded).grows.trans (grows_of_run last)
  exact grows.not_sameRealPath_of_openEntry found apart

end Job

namespace Descriptor

variable {t t' : FileTree}

theorem onTree_of_rereads {path : Path} {records : List Record}
    (loaded : onTree t path = .ok records) (rereads : t.RereadsIn t' path) :
    onTree t' path = .ok records := by
  unfold onTree textOnTree at loaded ⊢
  cases read : t.read path with
  | error fault => simp [read] at loaded
  | ok bytes =>
    rw [rereads bytes read]
    simpa [read] using loaded

theorem allOnTree_of_rereads {paths : List Path} {records : List Record}
    (loaded : allOnTree t paths = .ok records)
    (rereads : ∀ path ∈ paths, t.RereadsIn t' path) : allOnTree t' paths = .ok records := by
  obtain ⟨each, loads, rfl⟩ := allOnTree_eq_ok_iff.mp loaded
  refine allOnTree_eq_ok_iff.mpr ⟨each, ?_, rfl⟩
  refine List.forall₂_iff_zip.mpr ⟨loads.length_eq, fun {path own} mem => ?_⟩
  obtain ⟨listed, -⟩ := List.of_mem_zip mem
  exact onTree_of_rereads (List.forall₂_zip loads mem) (rereads path listed)

end Descriptor

theorem Settings.onTree_again {settings : Settings} {t after : FileTree} {jobs : List Job}
    (rereads : ∀ p ∈ settings.templates ++ settings.descriptors, t.RereadsIn after p)
    (finished : settings.onTree t = (.ok jobs, after)) :
    settings.onTree after = (.ok jobs, after) := by
  obtain ⟨records, made, expanded⟩ := Settings.finished_of_ok finished
  obtain ⟨loaded, planned⟩ := Settings.plannedOnTree_eq_ok made
  have loaded' := Descriptor.allOnTree_of_rereads loaded
    fun path mem => rereads path (List.mem_append_right _ mem)
  have does := Plan.does_of_onTree planned
  have planned' : Plan.onTree after settings.destination
      (Plan.tasks records settings.templates) = .ok jobs :=
    Plan.onTree_eq_ok_iff.mpr ⟨does, fun job mem => Job.not_sameRealPath_of_ok expanded mem⟩
  have templates : ∀ job ∈ jobs, t.RereadsIn after job.template := by
    intro job mem
    obtain ⟨-, -, template, -⟩ := Plan.task_of_mem does mem
    exact rereads _ (List.mem_append_left _ template)
  have made' : settings.plannedOnTree after = .ok (records, jobs) := by
    rw [Settings.plannedOnTree, loaded']
    simp only [planned']
    rfl
  rw [Settings.onTree, made']
  simp only [Job.expandAll_again templates expanded]
  rfl

theorem generate_idempotent {settings : Settings} {s after : Session} {jobs : List Job}
    (ran : (generate (m := Simulation) settings).run s = (.ok jobs, after))
    (rereads : ∀ p ∈ settings.templates ++ settings.descriptors,
      ∀ bytes, s.tree.read p = .ok bytes → after.tree.read p = .ok bytes)
    (log : List LogEntry) :
    ∃ log', (generate (m := Simulation) settings).run ⟨after.tree, log⟩ =
      (.ok jobs, ⟨after.tree, log'⟩) := by
  have finished := Settings.onTree_of_run ran
  obtain ⟨log', again⟩ := settings.run_generate ⟨after.tree, log⟩
  refine ⟨log', ?_⟩
  rw [again]
  simp only [Settings.onTree_again rereads finished]

namespace Restoring

/-! A template that is overwritten, expanded and restored in one run, into a file that the run makes
behind a dangling link. -/

def types : Path := Path.ofText "types.toml".toList

def writer : Path := Path.ofText "@x@".toList

def written : Path := Path.ofText "b@x@".toList

def records : Text :=
  "[[types_list]]\nx = 'b@x@'\ny = 'lost'\n[[types_list]]\nx = 'b@x@'\ny = 'kept'\n".toList

def tree : FileTree :=
  let files := (((FileTree.scratch []).writeFile types (Utf8.encode records)).writeFile writer
    (Utf8.encode "@y@".toList)).writeFile written (Utf8.encode "kept".toList)
  files.makeLink (Path.ofText "bb@x@".toList) (Path.ofText "new".toList)

def settings : Settings := ⟨[types], [writer, written], Path.dot⟩

def jobs : List Job :=
  [⟨0, writer, Path.ofText "./b@x@".toList⟩, ⟨0, written, Path.ofText "./bb@x@".toList⟩,
    ⟨1, writer, Path.ofText "./b@x@".toList⟩, ⟨1, written, Path.ofText "./bb@x@".toList⟩]

theorem generate_restores :
    ∃ after log, (generate (m := Simulation) settings).run ⟨tree, []⟩ = (.ok jobs, after) ∧
      tree.read (Path.ofText "new".toList) = .error .notFound ∧
      after.tree.read (Path.ofText "new".toList) = .ok (Utf8.encode "kept".toList) ∧
      (generate (m := Simulation) settings).run ⟨after.tree, []⟩ =
        (.ok jobs, ⟨after.tree, log⟩) := by
  have ran : (generate (m := Simulation) settings).run ⟨tree, []⟩ = (.ok jobs, _) :=
    Session.run_of_result (by decide +kernel)
  have same : ∀ p ∈ settings.templates ++ settings.descriptors,
      ((generate (m := Simulation) settings).run ⟨tree, []⟩).2.tree.read p = tree.read p := by
    decide +kernel
  obtain ⟨log, again⟩ := generate_idempotent ran
    (fun p mem bytes read => (same p mem).trans read) []
  refine ⟨_, log, ran, ?_, ?_, again⟩
  · decide +kernel
  · decide +kernel

end Restoring

end Stencil
