import Stencil.CommandLine.Arguments
import Stencil.CommandLine.Help
import Stencil.FileTree.Session
import Stencil.Generate
import Stencil.Report

/-! The program: what it does for its arguments, and what it prints and returns. -/

namespace Stencil.CommandLine

structure Outcome where
  exit : Nat
  stdout : Text
  stderr : Text
  deriving DecidableEq

def Options.threshold (o : Options) : Level := .ofCount o.verbosity.toNat

def Options.settings (o : Options) (currentDirectory : Path) : Settings :=
  ((Settings.ofDestination (o.directory.getD currentDirectory)).withDescriptors
    o.descriptors).withTemplates o.templates

/-- The text for standard output: a dry run lists its destinations. -/
def execute {m : Type → Type} [Monad m] [FileSystem m] (o : Options) : Run m Text := do
  let settings := o.settings (← ExceptT.lift (FileSystem.currentDirectory (m := m)))
  if o.dryRun then
    let jobs ← preview settings
    return jobs.flatMap fun job => job.destination.display ++ ['\n']
  else
    let _ ← generate settings
    return []

def ending : Except Failure Text → Outcome
  | .ok text => ⟨0, text, []⟩
  | .error failure => ⟨1, [], "Error: ".toList ++ failure.report ++ ['\n']⟩

def transcript (threshold : Level) (log : List LogEntry) : Text :=
  (log.filter (LogEntry.shownAt threshold)).flatMap LogEntry.render

/-- A request that needs no files is answered at once; any other leaves a run to be done. -/
def Request.immediate : Request → Except Outcome Options
  | .rejected => .error ⟨2, [], refusal⟩
  | .help => .error ⟨0, CommandLine.help, []⟩
  | .run o => if o.formatHelp then .error ⟨0, CommandLine.formatHelp, []⟩ else .ok o

/-- The whole program on files kept as a value. -/
def run (arguments : List Bytes) (tree : FileTree) : Outcome × FileTree :=
  match (read arguments).immediate with
  | .error outcome => (outcome, tree)
  | .ok o =>
    let finished := (execute (m := Simulation) o).run (Session.onTree tree)
    let outcome := ending finished.1
    ({ outcome with stderr := transcript o.threshold finished.2.log ++ outcome.stderr },
      finished.2.tree)

end Stencil.CommandLine
