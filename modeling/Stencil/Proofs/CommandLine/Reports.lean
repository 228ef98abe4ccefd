import Stencil.CommandLine.Program
import Stencil.Proofs.Session

/-! What the program reports.  Arguments that ask for a run have it done with the settings they give,
as a preview or for good; what is printed and returned follows from how the run ends and from what it
has logged. -/

namespace Stencil.CommandLine

/-- What the program makes of a run that has ended: the outcome with the log before the failure, and
the tree. -/
def reported {α : Type} (threshold : Level) (listing : α → Text)
    (finished : Except Failure α × Session) : Outcome × FileTree :=
  let outcome := ending (finished.1.map listing)
  ({ outcome with stderr := transcript threshold finished.2.log ++ outcome.stderr }, finished.2.tree)

def listing (jobs : List Job) : Text := jobs.flatMap fun job => job.destination.display ++ ['\n']

theorem run_of_read {arguments : List Bytes} {o : Options} (asked : read arguments = .run o)
    (plain : o.formatHelp = false) (tree : FileTree) :
    run arguments tree =
      reported o.threshold id ((execute (m := Simulation) o).run (.onTree tree)) := by
  have immediate : (read arguments).immediate = .ok o := by
    simp [asked, Request.immediate, plain]
  have same (finished : Except Failure Text) : finished.map id = finished := by
    cases finished <;> rfl
  simp only [run, immediate, reported, same]

theorem reported_bind_pure {α : Type} (threshold : Level) (f : α → Text) (x : Run Simulation α)
    (s : Session) :
    reported threshold id ((x >>= fun a => pure (f a)).run s) = reported threshold f (x.run s) := by
  rw [Session.run_bind_pure]
  rcases x.run s with ⟨failure | a, after⟩ <;> rfl

theorem reported_execute (o : Options) (threshold : Level) (tree : FileTree) :
    reported threshold id ((execute (m := Simulation) o).run (.onTree tree)) =
      let settings := o.settings tree.workingDirectory.path
      if o.dryRun then
        reported threshold listing ((preview (m := Simulation) settings).run (.onTree tree))
      else
        reported threshold (fun _ => [])
          ((generate (m := Simulation) settings).run (.onTree tree)) := by
  have located := Session.run_lift (FileSystem.currentDirectory (m := Simulation)) (.onTree tree)
  simp only [execute, Session.run_bind_ok located]
  split
  · exact reported_bind_pure threshold listing _ _
  · exact reported_bind_pure threshold (fun _ => []) _ _

theorem ofCount_saturated (n : Nat) :
    Level.ofCount (Options.saturated n).toNat = Level.ofCount n := by
  rw [Options.toNat_saturated]
  rcases Nat.le_total n 255 with few | many
  · rw [Nat.min_eq_left few]
  · obtain ⟨k, rfl⟩ := Nat.exists_eq_add_of_le' many
    rw [Nat.min_eq_right many]
    rfl

end Stencil.CommandLine
