import Stencil.Text.Utf8
import Stencil.Toml.Values

/-! A whole document: lines that are blank, hold a comment, open a table or give a key its value.
The first fault ends the reading, and is reported at the character where the text first could not
go on. -/

namespace Stencil.Toml

open Reader

/-- A fault as its reader sees it: a message and the bytes that it points at. -/
structure ParseError where
  message : Text
  span : Option (Nat × Nat)
  deriving DecidableEq

def endOfLine : Reader PUnit :=
  expecting (.mark ['#']) (expecting .newline lineRest)

/-- A pair, and where its value ends. -/
structure Pair where
  path : KeyPath
  stop : Text
  value : Node

def pair : Reader Pair := do
  let path ← key
  commit do
    let _ ← equals
    let _ ← spaces
    let pair ← located (fun _ stop node => ⟨path, stop, node⟩) (value (depthLimit - 1))
    endOfLine
    return pair

structure Header where
  path : KeyPath
  extent : Extent

def header (opening closing : Text) : Reader Header := do
  let header ← located (fun start stop path => ⟨path, ⟨start, stop⟩⟩) do
    literal opening
    let path ← commit key
    expecting (.mark closing) (expecting (.mark ['.']) (commit (literal closing)))
    return path
  commit endOfLine
  return header

def tableLine (d : Draft) : Reader Draft := within .tableHeader fun
  | '[' :: '[' :: rest =>
    judged (fun h => d.openNext h.path h.extent) (header ['[', '['] [']', ']']) ('[' :: '[' :: rest)
  | '[' :: c :: rest =>
    judged (fun h => d.openTable h.path h.extent) (header ['['] [']']) ('[' :: c :: rest)
  | s => .refused ⟨s, .none⟩

def line (d : Draft) : Reader Draft
  | [] => .refused ⟨[], .none⟩
  | c :: rest =>
    if c = '#' then
      commit (andThen comment fun _ => andThen lineEnd fun _ => accept d) (c :: rest)
    else if c = '[' then commit (tableLine d) (c :: rest)
    else if c = '\n' ∨ c = '\r' then andThen newline (fun _ => accept d) (c :: rest)
    else commit (judged (fun p => d.insert p.path p.stop p.value) pair) (c :: rest)

/-- Lines until one is refused; each takes at least one character of the bound. -/
def lines : Text → Draft → Reader Draft
  | [], d => accept d
  | _ :: bound, d => fun s =>
    match andThen (line d) (fun d => andThen spaces fun _ => accept d) s with
    | .done d rest => lines bound d rest
    | .refused _ => .done d s
    | .failed stop => .failed stop

theorem lines_cons (c : Char) (bound : Text) (d : Draft) (s : Text) :
    lines (c :: bound) d s =
      match andThen (line d) (fun d => andThen spaces fun _ => accept d) s with
      | .done d rest => lines bound d rest
      | .refused _ => .done d s
      | .failed stop => .failed stop := rfl

def byteOrderMark : Char := '\uFEFF'

def document : Reader (Table Node) := do
  let _ ← optional (exactly byteOrderMark)
  let _ ← spaces
  let draft ← fun s => lines s .start s
  atEnd
  return draft.root

/-- The byte offset of the place where `rest` is what remains of the text. -/
def offsetOf (t rest : Text) : Nat := Utf8.size t - Utf8.size rest

def Stop.error (t : Text) (stop : Stop) : ParseError :=
  let offset := offsetOf t stop.rest
  ⟨stop.complaint.message, some (offset, offset + Utf8.size (stop.rest.take 1))⟩

def parse (t : Text) : Except ParseError (Table Node) :=
  match document t with
  | .done root _ => .ok root
  | .refused stop => .error (stop.error t)
  | .failed stop => .error (stop.error t)

end Stencil.Toml
