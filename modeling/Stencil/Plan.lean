import Stencil.Expansion

/-! The plan of a run: every record with every template, records outermost, each with its
destination.  Destinations may coincide; that is logged, and the later job will overwrite the
earlier. -/

namespace Stencil

structure Job where
  record : Nat
  template : Path
  destination : Path
  deriving DecidableEq

/-- The last job so far for each destination, newest first; paths are told apart by components. -/
abbrev Producers := List (List Component × Nat)

namespace Plan

structure Task where
  index : Nat
  record : Record
  template : Path

def tasks (records : List Record) (templates : List Path) : List Task :=
  records.zipIdx.flatMap fun entry => templates.map fun template => ⟨entry.2, entry.1, template⟩

@[simp] theorem length_tasks (records : List Record) (templates : List Path) :
    (tasks records templates).length = records.length * templates.length := by
  simp [tasks, List.length_flatMap, List.map_const']

def producer? (producers : Producers) (destination : Path) : Option Nat :=
  (producers.find? fun p => p.1 == destination.components).map (·.2)

def collisionMessage (destination : Path) (earlier later : Nat) : Text :=
  '\'' :: destination.display ++ "' is produced by job ".toList ++ Text.decimal earlier ++
    " and job ".toList ++ Text.decimal later ++ ", keeping the later".toList

variable {m : Type → Type} [Monad m] [FileSystem m]

def job (directory : Path) (task : Task) : Run m Job := do
  match Output.path task.template task.record directory with
  | .error failure => throw failure
  | .ok destination =>
    Output.guard task.template destination
    return ⟨task.index, task.template, destination⟩

def noteCollision (producers : Producers) (destination : Path) (number : Nat) : Run m PUnit :=
  match producer? producers destination with
  | some earlier => FileSystem.say .debug .planning (collisionMessage destination earlier number)
  | none => pure ⟨⟩

def jobs (directory : Path) : Producers → Nat → List Task → Run m (List Job)
  | _, _, [] => return []
  | producers, number, task :: rest => do
    let new ← job directory task
    noteCollision producers new.destination number
    let more ← jobs directory ((new.destination.components, number) :: producers) (number + 1) rest
    return new :: more

end Plan

def plan {m : Type → Type} [Monad m] [FileSystem m] (records : List Record)
    (templates : List Path) (directory : Path) : Run m (List Job) :=
  Plan.jobs directory [] 0 (Plan.tasks records templates)

end Stencil
