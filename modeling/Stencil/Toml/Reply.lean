import Stencil.Toml.Complaint

/-! Readers of a text.  A reader that cannot go on either refuses, and another reading may be tried
where it began, or fails, and no other reading is tried.  Places in the text are what remains of
it from there on. -/

namespace Stencil.Toml

structure Stop where
  rest : Text
  complaint : Complaint
  deriving DecidableEq

inductive Reply (α : Type) where
  | done (value : α) (rest : Text)
  | refused (stop : Stop)
  | failed (stop : Stop)

def Reader (α : Type) : Type := Text → Reply α

namespace Reader

variable {α β : Type}

def accept (a : α) : Reader α := fun s => .done a s

def refuse (c : Complaint) : Reader α := fun s => .refused ⟨s, c⟩

def andThen (p : Reader α) (f : α → Reader β) : Reader β := fun s =>
  match p s with
  | .done a rest => f a rest
  | .refused stop => .refused stop
  | .failed stop => .failed stop

instance : Monad Reader where
  pure := accept
  bind := andThen

/-- Turns a refusal into a failure. -/
def commit (p : Reader α) : Reader α := fun s =>
  match p s with
  | .refused stop => .failed stop
  | reply => reply

/-- Reads with `q` where `p` refuses; a refusal of `q` is the refusal of both. -/
def orElse (p q : Reader α) : Reader α := fun s =>
  match p s with
  | .refused _ => q s
  | reply => reply

def optional (p : Reader α) : Reader (Option α) := fun s =>
  match p s with
  | .done a rest => .done (some a) rest
  | .refused _ => .done none s
  | .failed stop => .failed stop

def complaining (f : Complaint → Complaint) (p : Reader α) : Reader α := fun s =>
  match p s with
  | .done a rest => .done a rest
  | .refused stop => .refused ⟨stop.rest, f stop.complaint⟩
  | .failed stop => .failed ⟨stop.rest, f stop.complaint⟩

def within (k : Construct) (p : Reader α) : Reader α := p.complaining (·.within k)

def expecting (e : Expectation) (p : Reader α) : Reader α := p.complaining (·.expecting e)

/-- Reads and then judges what was read; a bad judgement is a refusal at the start. -/
def judged (f : α → Except Cause β) (p : Reader α) : Reader β := fun s =>
  match p s with
  | .done a rest =>
    match f a with
    | .ok b => .done b rest
    | .error cause => .refused ⟨s, .ofCause cause⟩
  | .refused stop => .refused stop
  | .failed stop => .failed stop

/-- Reads ahead: whatever comes of it is placed at the start. -/
def ahead (p : Reader α) : Reader α := fun s =>
  match p s with
  | .done a _ => .done a s
  | .refused stop => .refused ⟨s, stop.complaint⟩
  | .failed stop => .failed ⟨s, stop.complaint⟩

def located (f : Text → Text → α → β) (p : Reader α) : Reader β := fun s =>
  match p s with
  | .done a rest => .done (f s rest a) rest
  | .refused stop => .refused stop
  | .failed stop => .failed stop

/-- Repeats until a refusal.  The first list bounds the number of repetitions; a reader that takes
at least one character each time never exhausts a bound as long as its text. -/
def repeated (p : Reader α) : Text → Reader (List α)
  | [] => accept []
  | _ :: bound => fun s =>
    match p s with
    | .done a rest =>
      match repeated p bound rest with
      | .done as rest => .done (a :: as) rest
      | .refused stop => .refused stop
      | .failed stop => .failed stop
    | .refused _ => .done [] s
    | .failed stop => .failed stop

def many (p : Reader α) : Reader (List α) := fun s => repeated p s s

def character (accepts : Char → Bool) : Reader Char
  | c :: rest => if accepts c then .done c rest else .refused ⟨c :: rest, .none⟩
  | [] => .refused ⟨[], .none⟩

def exactly (c : Char) : Reader Char := character (· == c)

def literal (t : Text) : Reader PUnit := fun s =>
  if t.isPrefixOf s then .done ⟨⟩ (s.drop t.length) else .refused ⟨s, .none⟩

def run (accepts : Char → Bool) : Reader Text := fun s =>
  .done (s.takeWhile accepts) (s.dropWhile accepts)

/-- The longest run of accepted characters; an empty one is refused. -/
def run1 (accepts : Char → Bool) : Reader Text := fun s =>
  if s.takeWhile accepts = [] then .refused ⟨s, .none⟩
  else .done (s.takeWhile accepts) (s.dropWhile accepts)

def atEnd : Reader PUnit
  | [] => .done ⟨⟩ []
  | s => .refused ⟨s, .none⟩

def separated (p : Reader α) (separator : Char) : Reader (List α) := fun s =>
  match p s with
  | .done a rest =>
    andThen (many (andThen (exactly separator) fun _ => p)) (fun more => accept (a :: more)) rest
  | .refused _ => .done [] s
  | .failed stop => .failed stop

theorem repeated_cons (p : Reader α) (c : Char) (bound s : Text) :
    repeated p (c :: bound) s =
      match p s with
      | .done a rest =>
        match repeated p bound rest with
        | .done as rest => .done (a :: as) rest
        | .refused stop => .refused stop
        | .failed stop => .failed stop
      | .refused _ => .done [] s
      | .failed stop => .failed stop := rfl

theorem bind_eq (p : Reader α) (f : α → Reader β) : (p >>= f) = andThen p f := rfl

theorem andThen_done {p : Reader α} {f : α → Reader β} {s rest : Text} {a : α}
    (h : p s = .done a rest) : andThen p f s = f a rest := by
  simp [andThen, h]

end Reader

end Stencil.Toml
