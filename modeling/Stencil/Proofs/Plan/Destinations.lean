import Stencil.FileTree.Edit
import Stencil.Proofs.Plan.OnTree

/-! Where output goes.  A destination lies directly in the directory exactly when the derived name is
one name.  Nothing checks that it is: a replacement may start at the root, climb or descend. -/

namespace Stencil.Plan

theorem destination_inside_iff (directory : Path) :
    (∀ {template : Path} {record : Record} {n : Text}, Output.name template record = .ok n →
      ∃ destination, Output.path template record directory = .ok destination ∧
        (Path.Inside directory (Path.ofText n) destination ↔ Path.IsName (Path.ofText n))) ∧
    (∀ {records : List Record} {templates : List Path} {s after : Session} {planned : List Job},
      (plan (m := Simulation) records templates directory).run s = (.ok planned, after) →
      ∀ job ∈ planned, ∃ record n, records[job.record]? = some record ∧
        Output.name job.template record = .ok n ∧
        Output.path job.template record directory = .ok job.destination ∧
        (Path.Inside directory (Path.ofText n) job.destination ↔ Path.IsName (Path.ofText n))) := by
  constructor
  · intro template record n named
    refine ⟨directory.join (Path.ofText n), ?_, Path.inside_join_iff directory _⟩
    rw [Output.path, named]
    rfl
  · intro records templates s after planned run job mem
    obtain ⟨log, ran⟩ := run_plan records templates directory s
    have placed : onTree s.tree directory (tasks records templates) = .ok planned := by
      rw [ran] at run
      exact congrArg Prod.fst run
    obtain ⟨record, found, -, path⟩ := task_of_mem (does_of_onTree placed) mem
    obtain ⟨n, named, destination⟩ := Output.name_of_path path
    refine ⟨record, n, found, named, path, ?_⟩
    rw [destination]
    exact Path.inside_join_iff directory _

theorem destination_inside_of_plain_name :
    let template := Path.ofText "src/t_@x@.c".toList
    let record : Record := ⟨[(⟨"x".toList, by decide⟩, "int".toList)]⟩
    let directory := Path.ofText "out".toList
    (∃ destination, Output.path template record directory = .ok destination ∧
      Path.Inside directory (Path.ofText "t_int.c".toList) destination) ∧
    ∃ planned after,
      (plan (m := Simulation) [record] [template] directory).run ⟨.scratch [], []⟩ =
        (.ok planned, after) ∧ planned ≠ [] ∧
      ∀ job ∈ planned, Path.Inside directory (Path.ofText "t_int.c".toList) job.destination := by
  intro template record directory
  have named : Output.name template record = .ok "t_int.c".toList := rfl
  have plain : Path.IsName (Path.ofText "t_int.c".toList) := by decide
  constructor
  · obtain ⟨destination, path, inside⟩ := (destination_inside_iff directory).1 named
    exact ⟨destination, path, inside.mpr plain⟩
  · have ran : (plan (m := Simulation) [record] [template] directory).run ⟨.scratch [], []⟩ =
        (.ok [⟨0, template, Path.ofText "out/t_int.c".toList⟩], _) :=
      Session.run_of_result (by decide +kernel)
    refine ⟨_, _, ran, List.cons_ne_nil _ _, fun job mem => ?_⟩
    obtain ⟨record', n, found, named', -, inside⟩ :=
      (destination_inside_iff directory).2 ran job mem
    obtain rfl := List.mem_singleton.mp mem
    obtain rfl : record = record' := Option.some.inj found
    obtain rfl : "t_int.c".toList = n := Except.ok.inj (named.symm.trans named')
    exact inside.mpr plain

theorem destination_outside :
    ¬ ∀ (template : Path) (record : Record) (directory destination : Path) (n : Text),
      directory ≠ [] → Output.name template record = .ok n →
      Output.path template record directory = .ok destination →
      Path.Inside directory (Path.ofText n) destination := by
  intro inside
  have escaped := inside (Path.ofText "@x@".toList)
    ⟨[(⟨"x".toList, by decide⟩, "/abs".toList)]⟩ (Path.ofText "out".toList)
    (Path.ofText "/abs".toList) "/abs".toList (by decide) rfl rfl
  revert escaped
  decide

end Stencil.Plan
