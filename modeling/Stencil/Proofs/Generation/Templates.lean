import Stencil.FileTree.Edit
import Stencil.Proofs.Generation.Frame

/-! What a run does to the templates.  A job compares its destination with its own template only, by
their real paths.  So a template is safe from its own jobs, by whatever path they come to it, where
both have a real path that can be asked for, but not from those of another template. -/

namespace Stencil

namespace Job

variable {records : List Record} {jobs : List Job} {t : FileTree} {id : Nat}

/-- A job that leads to a file only if the file is its own template, and if the guard can tell. -/
def Spares (t : FileTree) (id : Nat) (job : Job) : Prop :=
  t.file? job.destination = some id → t.file? job.template = some id ∧
    (t.realPath? job.template).isSome ∧ (t.realPath? job.destination).isSome

instance (t : FileTree) (id : Nat) (job : Job) : Decidable (Spares t id job) :=
  inferInstanceAs (Decidable (_ → _))

theorem content?_expand_of_spares (single : t.NoHardLinks) (old : id < t.contents.length)
    {job : Job} (spares : job.Spares t id) {between : FileTree} (g : t.Grows between) :
    (job.expand records between).2.content? id = between.content? id := by
  refine Decidable.byContradiction fun changed => ?_
  have old' : id < between.contents.length := Nat.lt_of_lt_of_le old g.numbers
  obtain ⟨sent, apart⟩ := (effect_expand records job between).sent_of_content?_ne old' changed
  have leads : t.file? job.destination = some id := g.file?_of_lt old sent
  obtain ⟨own, named⟩ := spares leads
  have same : t.SameRealPath job.template job.destination :=
    FileTree.sameRealPath_iff.mpr ⟨single.samePlace own leads, named⟩
  exact apart (g.sameRealPath same)

structure Intact (t : FileTree) (id : Nat) (between : FileTree) : Prop where
  grows : t.Grows between
  content? : between.content? id = t.content? id

theorem content?_expandAll_of_spares (single : t.NoHardLinks) (old : id < t.contents.length)
    (spare : ∀ job ∈ jobs, job.Spares t id) :
    (expandAll records jobs t).2.content? id = t.content? id := by
  have step : ∀ job ∈ jobs, ∀ between, Intact t id between →
      Intact t id (job.expand records between).2 := by
    intro job mem between intact
    refine ⟨intact.grows.trans (effect_expand records job between).grows, ?_⟩
    rw [content?_expand_of_spares single old (spare job mem) intact.grows, intact.content?]
  have start : Intact t id t := ⟨.refl t, rfl⟩
  exact (expandAll_preserves step start).content?

end Job

theorem generate_keeps_templates {settings : Settings} {s after : Session}
    {result : Except Failure (List Job)} (single : s.tree.NoHardLinks)
    (ran : (generate (m := Simulation) settings).run s = (result, after)) :
    ∀ template ∈ settings.templates, ∀ id, s.tree.file? template = some id →
      (∀ planned, ((preview (m := Simulation) settings).run s).1 = .ok planned →
        ∀ job ∈ planned, job.Spares s.tree id) →
      after.tree.content? id = s.tree.content? id ∧ after.tree.file? template = some id := by
  intro template _ id leads spare
  obtain ⟨log, whole⟩ := settings.run_generate s
  have last : after.tree = (settings.onTree s.tree).2 := by
    rw [ran] at whole
    exact congrArg (fun r => r.2.tree) whole
  obtain ⟨log', previewed⟩ := settings.run_preview s
  rw [last, Settings.onTree]
  cases made : settings.plannedOnTree s.tree with
  | error failure => exact ⟨rfl, leads⟩
  | ok plan =>
    obtain ⟨records, jobs⟩ := plan
    have shown : ((preview (m := Simulation) settings).run s).1 = .ok jobs := by
      rw [previewed, made]
      rfl
    obtain ⟨l, -, here⟩ := FileTree.file?_eq_some_iff.mp leads
    have old := FileTree.lt_of_at?_file here
    exact ⟨Job.content?_expandAll_of_spares single old (spare jobs shown),
      (Job.grows_expandAll records jobs s.tree).file? leads⟩

namespace Crossing

/-! Two templates of one record, of which the first is sent to the second. -/

def types : Path := Path.ofText "types.toml".toList

def first : Path := Path.ofText "@x@".toList

def second : Path := Path.ofText "b@x@".toList

def tree : FileTree :=
  (((FileTree.scratch []).writeFile types (Utf8.encode
    "[[types_list]]\nx = 'b@x@'\n".toList)).writeFile first (Utf8.encode "1".toList)).writeFile
      second (Utf8.encode "2".toList)

def settings : Settings := ⟨[types], [first, second], Path.dot⟩

theorem noHardLinks_tree : tree.NoHardLinks :=
  FileTree.noHardLinks_of_pairwise (by decide +kernel)

theorem generate_loses_template :
    ¬ ∀ (settings : Settings) (s : Session), s.tree.NoHardLinks →
      ∀ template ∈ settings.templates, ∀ id, s.tree.file? template = some id →
        ((generate (m := Simulation) settings).run s).2.tree.content? id =
          s.tree.content? id := by
  intro safe
  have kept := safe settings ⟨tree, []⟩ noHardLinks_tree second (by decide +kernel) 2
    (by decide +kernel)
  have lost : ((generate (m := Simulation) settings).run ⟨tree, []⟩).2.tree.content? 2 ≠
      tree.content? 2 := by decide +kernel
  exact lost kept

theorem generate_keeps_second :
    ((generate (m := Simulation) ⟨[types], [second], Path.dot⟩).run
        ⟨tree, []⟩).2.tree.content? 2 = tree.content? 2 := by
  have ran : (generate (m := Simulation) ⟨[types], [second], Path.dot⟩).run ⟨tree, []⟩ =
      (_, ((generate (m := Simulation) ⟨[types], [second], Path.dot⟩).run ⟨tree, []⟩).2) :=
    Session.run_of_result rfl
  have leads : tree.file? second = some 2 := by decide +kernel
  have jobs : ((preview (m := Simulation) ⟨[types], [second], Path.dot⟩).run ⟨tree, []⟩).1 =
      .ok [⟨0, second, Path.ofText "./bb@x@".toList⟩] := by decide +kernel
  have kept := generate_keeps_templates noHardLinks_tree ran second List.mem_cons_self 2 leads
  refine (kept fun planned shown job mem => ?_).1
  rw [jobs] at shown
  obtain rfl := Except.ok.inj shown
  obtain rfl := List.mem_singleton.mp mem
  decide +kernel

end Crossing

end Stencil
