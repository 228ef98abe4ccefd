import Stencil.Toml.Reply

/-! What may stand between the parts of a document: spaces and tabs, comments and line ends.  A
line ends in a line feed, with or without a carriage return before it; a carriage return alone ends
none. -/

namespace Stencil.Toml

open Reader

def isSpace (c : Char) : Bool := c == ' ' || c == '\t'

/-- Tabs and everything that is no control character of ASCII. -/
def isCommentChar (c : Char) : Bool :=
  c == '\t' || (0x20 ≤ c.toNat && c.toNat ≤ 0x7E) || 0x80 ≤ c.toNat

def spaces : Reader Text := run isSpace

def comment : Reader PUnit := do
  let _ ← exactly '#'
  let _ ← run isCommentChar
  return ⟨⟩

/-- Where no line ends, the complaint is placed behind the character that ends none. -/
def newline : Reader PUnit
  | '\n' :: rest => .done ⟨⟩ rest
  | '\r' :: '\n' :: rest => .done ⟨⟩ rest
  | _ :: rest => .refused ⟨rest, .none⟩
  | [] => .refused ⟨[], .none⟩

def lineEnd : Reader PUnit := orElse newline atEnd

def lineRest : Reader PUnit := do
  let _ ← spaces
  let _ ← optional comment
  lineEnd

/-- Blanks, comments and line ends in any number.  A comment must end in a line end. -/
def gapWithin : Text → Reader PUnit
  | [] => fun s => .done ⟨⟩ (s.dropWhile isSpace)
  | _ :: bound => fun s =>
    match s.dropWhile isSpace with
    | '#' :: rest =>
      match andThen comment (fun _ => newline) ('#' :: rest) with
      | .done _ rest => gapWithin bound rest
      | reply => reply
    | '\n' :: rest => gapWithin bound rest
    | '\r' :: rest =>
      match newline ('\r' :: rest) with
      | .done _ rest => gapWithin bound rest
      | reply => reply
    | rest => .done ⟨⟩ rest

def gap : Reader PUnit := fun s => gapWithin s s

end Stencil.Toml
