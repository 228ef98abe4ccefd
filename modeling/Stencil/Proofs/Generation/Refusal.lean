import Stencil.Proofs.Generation.Preview

/-! The refusal to overwrite a template, and what has been written by then.  Planning refuses before
anything is written, but it takes a template that is not there yet for no template.  When a job of
the run makes it, the guard of a later job refuses what planning has let pass. -/

namespace Stencil

namespace Job

variable {records : List Record} {jobs : List Job} {start after : Session}
  {template destination : Path}

/-- A refusal after planning is about a template that the run itself has made. -/
theorem leadsToNew_of_refused
    (refused : Interrupted records jobs start
      (.file .writeOutput destination (.overwrites template)) after)
    (apart : ∀ job ∈ jobs, ¬ start.tree.SameRealPath job.template job.destination) :
    start.tree.LeadsToNew after.tree template ∧
      ∃ earlier ∈ jobs, after.tree.SamePlace earlier.destination template := by
  obtain ⟨split, done, failed, -⟩ := refused
  obtain ⟨rfl, rfl, same, stays⟩ := (Expansion.fails_of_error (expand_of_run failed)).of_refusal
  have expanded := expandAll_of_run done
  subst split
  rw [stays]
  have own := apart _ (List.mem_append_right _ List.mem_cons_self)
  have new := (grows_of_run expanded).leadsToNew_of_sameRealPath same own
  refine ⟨new, ?_⟩
  obtain ⟨l, id, real, present, absent⟩ := new
  obtain ⟨earlier, mem, leads⟩ := location?_of_new_of_run expanded absent present
  exact ⟨earlier, List.mem_append_left _ mem, .of_location? leads real⟩

end Job

theorem FileTree.not_leadsToNew_self (t : FileTree) (p : Path) : ¬ t.LeadsToNew t p := by
  rintro ⟨l, id, -, present, absent⟩
  simp [absent] at present

theorem generate_refusal_unchanged_iff {settings : Settings} {s after : Session}
    {template destination : Path}
    (ran : (generate (m := Simulation) settings).run s =
      (.error (.file .writeOutput destination (.overwrites template)), after)) :
    (after.tree = s.tree ↔ ¬ s.tree.LeadsToNew after.tree template) ∧
    (after.tree = s.tree ↔ ((preview (m := Simulation) settings).run s).1 =
      .error (.file .writeOutput destination (.overwrites template))) ∧
    (after.tree ≠ s.tree → ∃ jobs, ((preview (m := Simulation) settings).run s).1 = .ok jobs ∧
      ∃ earlier ∈ jobs, after.tree.SamePlace earlier.destination template) := by
  obtain ⟨log, previewed⟩ := settings.run_preview s
  rw [previewed]
  cases planned : settings.plannedOnTree s.tree with
  | error failure =>
    obtain ⟨log', unplanned⟩ := Settings.run_generate_of_unplanned planned
    obtain ⟨result, rfl⟩ := Prod.ext_iff.mp (unplanned.symm.trans ran)
    obtain rfl := Except.error.inj result
    have unchanged : ¬ s.tree.LeadsToNew s.tree template := s.tree.not_leadsToNew_self template
    exact ⟨iff_of_true rfl unchanged, iff_of_true rfl rfl, fun changed => absurd rfl changed⟩
  | ok plan =>
    obtain ⟨records, jobs⟩ := plan
    obtain ⟨-, plans⟩ := Settings.plannedOnTree_eq_ok planned
    obtain ⟨log', ends⟩ := Settings.ends_of_planned planned
    rcases ends with ⟨after', finished, -⟩ | ⟨failure, after', failed, interrupted⟩
    · cases finished.symm.trans ran
    · obtain ⟨result, rfl⟩ := Prod.ext_iff.mp (failed.symm.trans ran)
      obtain rfl := Except.error.inj result
      obtain ⟨new, earlier⟩ :=
        Job.leadsToNew_of_refused interrupted (Plan.onTree_eq_ok_iff.mp plans).2
      have changed : after'.tree ≠ s.tree := by
        intro same
        rw [same] at new
        exact s.tree.not_leadsToNew_self template new
      refine ⟨iff_of_false changed (not_not_intro new), iff_of_false changed ?_, fun _ => ?_⟩
      · simp [Except.map]
      · exact ⟨jobs, rfl, earlier⟩

namespace Emerging

/-! Two templates of one record, of which the first is sent to the place of the second. -/

def types : Path := Path.ofText "types.toml".toList

def first : Path := Path.ofText "@x@".toList

def second : Path := Path.ofText "plain.c".toList

def tree : FileTree :=
  ((FileTree.scratch []).writeFile types (Utf8.encode
    "[[types_list]]\nx = 'plain.c'\n".toList)).writeFile first (Utf8.encode "1".toList)

def settings : Settings := ⟨[types], [first, second], Path.dot⟩

def refusal : Failure :=
  .file .writeOutput (Path.ofText "./plain.c".toList) (.overwrites second)

theorem generate_refuses_existing :
    ∃ after, (generate (m := Simulation) settings).run
        ⟨tree.writeFile second (Utf8.encode "2".toList), []⟩ = (.error refusal, after) ∧
      after.tree = tree.writeFile second (Utf8.encode "2".toList) := by
  have ran : (generate (m := Simulation) settings).run
      ⟨tree.writeFile second (Utf8.encode "2".toList), []⟩ = (.error refusal, _) :=
    Session.run_of_result (by decide +kernel)
  have previewed : ((preview (m := Simulation) settings).run
      ⟨tree.writeFile second (Utf8.encode "2".toList), []⟩).1 = .error refusal := by
    decide +kernel
  exact ⟨_, ran, (generate_refusal_unchanged_iff ran).2.1.mpr previewed⟩

theorem generate_refuses_after_writing :
    ¬ ∀ (settings : Settings) (s after : Session) (template destination : Path),
      (generate (m := Simulation) settings).run s =
        (.error (.file .writeOutput destination (.overwrites template)), after) →
      after.tree = s.tree := by
  intro untouched
  have ran : (generate (m := Simulation) settings).run ⟨tree, []⟩ = (.error refusal, _) :=
    Session.run_of_result (by decide +kernel)
  have same := congrArg (FileTree.read · second) (untouched _ _ _ _ _ ran)
  revert same
  decide +kernel

end Emerging

end Stencil
