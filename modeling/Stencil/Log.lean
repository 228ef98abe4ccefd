import Stencil.Text.ControlSequence

/-! Log messages, their levels and how they are printed. -/

namespace Stencil

inductive Level where
  | warn
  | info
  | debug
  | trace
  deriving DecidableEq

namespace Level

def name : Level → Text
  | .warn => "WARN".toList
  | .info => "INFO".toList
  | .debug => "DEBUG".toList
  | .trace => "TRACE".toList

/-- Higher levels are more talkative. -/
def rank : Level → Nat
  | .warn => 0
  | .info => 1
  | .debug => 2
  | .trace => 3

/-- The most talkative level that is shown when verbosity has been asked for so many times. -/
def ofCount : Nat → Level
  | 0 => .warn
  | 1 => .info
  | 2 => .debug
  | _ => .trace

theorem rank_ofCount (n : Nat) : (ofCount n).rank = min n 3 := by
  match n with
  | 0 => rfl
  | 1 => rfl
  | 2 => rfl
  | n + 3 => exact (Nat.min_eq_right (Nat.le_add_left 3 n)).symm

end Level

inductive Origin where
  | loading
  | planning
  | expanding
  deriving DecidableEq

def Origin.name : Origin → Text
  | .loading => "typegen::descriptor::loader".toList
  | .planning => "typegen::engine::plan".toList
  | .expanding => "typegen::engine".toList

structure LogEntry where
  level : Level
  origin : Origin
  message : Text
  deriving DecidableEq

namespace LogEntry

def line (e : LogEntry) : Text := e.level.name ++ ' ' :: e.message

/-- A line feed in a message is followed by four spaces, so that entries can be told apart. -/
def indented (message : Text) : Text :=
  message.flatMap fun c => if c = '\n' then "\n    ".toList else [c]

/-- The level is padded to five characters. -/
def written (e : LogEntry) : Text :=
  '[' :: (e.level.name.rightpad 5 ' ' ++ ' ' :: e.origin.name ++ "] ".toList) ++
    indented e.message ++ ['\n']

/-- The printed form: what can be seen of the entry.  A control sequence that the entry leaves open
swallows the line end and does not go on into the next entry. -/
def render (e : LogEntry) : Text := Text.visible e.written

def shownAt (threshold : Level) (e : LogEntry) : Bool := e.level.rank ≤ threshold.rank

end LogEntry

end Stencil
