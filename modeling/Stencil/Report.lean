import Stencil.Failure
import Stencil.Text.Width

/-! The picture of a fault in a descriptor: its place, the lines it touches, and the message at the
end of a line drawn from the place.  A fault within one line is drawn under it; one that reaches
over several lines is drawn at their left. -/

namespace Stencil.Report

/-- A character as it is displayed, and the columns it takes.  A tab reaches to the next multiple
of four characters, and every other blank is one space. -/
structure Cell where
  glyph : Text
  width : Nat

def cell (column : Nat) (c : Char) : Cell :=
  if c = '\t' then
    let width := (column / 4 + 1) * 4 - column
    ⟨List.replicate width ' ', width⟩
  else if Text.isBlank c then ⟨[' '], 1⟩
  else ⟨[c], Text.width c⟩

def cells (line : Text) : List Cell := line.stripBlankEnd.mapIdx cell

def shown (cells : List Cell) : Text := cells.flatMap (·.glyph)

/-- The widths of the first `count` columns; those past the end of the line have width one. -/
def columnWidths (cells : List Cell) (count : Nat) : List Nat :=
  (cells.take count).map (·.width) ++ List.replicate (count - cells.length) 1

/-- A place in a text: the index of its line and of its character there. -/
structure Place where
  line : Nat
  column : Nat
  deriving DecidableEq

/-- The line of a byte offset is the last that starts at or before it; the end of the text belongs
to its last line. -/
def lineOf? : List Text → Nat → Nat → Option (Nat × Nat)
  | [], _, _ => none
  | [line], index, offset => if offset ≤ Utf8.size line then some (index, offset) else none
  | line :: lines, index, offset =>
    if offset < Utf8.size line then some (index, offset)
    else lineOf? lines (index + 1) (offset - Utf8.size line)

def charactersBefore : Text → Nat → Nat
  | [], _ => 0
  | c :: rest, offset => if offset = 0 then 0 else 1 + charactersBefore rest (offset - c.utf8Size)

def place? (lines : List Text) (offset : Nat) : Option Place :=
  (lineOf? lines 0 offset).map fun found =>
    ⟨found.1, charactersBefore (lines[found.1]?.getD []) found.2⟩

/-- The place just after the character at a byte offset, on the line of that character. -/
def placeAfter? (lines : List Text) (offset : Nat) : Option Place :=
  (lineOf? lines 0 offset).map fun found =>
    ⟨found.1, charactersBefore (lines[found.1]?.getD []) (found.2 + 1)⟩

/-- Where a span starts and where it ends; an empty span ends where it starts. -/
def ends? (lines : List Text) (start stop : Nat) : Option (Place × Place) :=
  match place? lines start with
  | none => none
  | some first =>
    if stop ≤ start then some (first, first)
    else (placeAfter? lines (stop - 1)).map fun last => (first, last)

/-- One column of a drawn row: a head and as many tails as its width needs. -/
def drawn (width : Nat) (head tail : Char) : Text :=
  match width with
  | 0 => []
  | n + 1 => head :: List.replicate n tail

def row (cells : List Cell) (count : Nat) (draw : Nat → Char × Char) : Text :=
  ((columnWidths cells count).mapIdx fun column width =>
    drawn width (draw column).1 (draw column).2).flatten

/-- Marks the span, and the column from which the line to the message goes down. -/
def underline (first stop middle column : Nat) : Char × Char :=
  let under := first ≤ column && column < stop
  if column = middle then if under then ('┬', '─') else ('│', ' ')
  else if under then ('─', '─')
  else (' ', ' ')

def arrow (middle column : Nat) : Char × Char :=
  if column = middle then ('╰', '─') else if middle < column then ('─', '─') else (' ', ' ')

def rows (margin : Text) (line : List Cell) (first stop : Nat) (message : Text) : List Text :=
  let middle := max ((first + stop) / 2) first
  [margin ++ "│ ".toList ++ row line (stop + 2) (underline first stop middle),
    margin ++ "│ ".toList ++ row line (stop + 2) (arrow middle) ++ ' ' :: message]

def numbered (digits line : Nat) : Text :=
  ' ' :: (Text.decimal (line + 1)).leftpad digits ' ' ++ " │ ".toList

def single (digits : Nat) (margin : Text) (lines : List Text) (first stop : Place)
    (message : Text) : List Text :=
  let line := cells (lines[first.line]?.getD [])
  (numbered digits first.line ++ shown line) ::
    rows margin line first.column stop.column message

/-- A span over several lines; those between the first and the last are left out. -/
def several (digits : Nat) (margin : Text) (lines : List Text) (first stop : Place)
    (message : Text) : List Text :=
  let firstLine := cells (lines[first.line]?.getD [])
  let lastText := lines[stop.line]?.getD []
  let lastLine := cells lastText
  let width := (columnWidths lastLine (lastText.length + 2)).foldl (· + ·) 0
  [numbered digits first.line ++ "╭─▶ ".toList ++ shown firstLine] ++
    (if first.line + 1 < stop.line then [margin ++ "┆ ┆   ".toList] else []) ++
    [numbered digits stop.line ++ "├─▶ ".toList ++ shown lastLine,
      margin ++ "│ │   ".toList ++ List.replicate width ' ',
      margin ++ "│ ╰───".toList ++ List.replicate width '─' ++ ' ' :: message]

def body (path : Path) (lines : List Text) (first stop : Place) (message : Text) : List Text :=
  let digits := (Text.decimal (stop.line + 1)).length
  let margin := List.replicate (digits + 2) ' '
  [margin ++ "╭─[".toList ++ path.display ++ ':' :: Text.decimal (first.line + 1) ++
      ':' :: Text.decimal (first.column + 1) ++ [']'],
    margin ++ ['│']] ++
    (if first.line = stop.line then single digits margin lines first stop message
      else several digits margin lines first stop message) ++
    [List.replicate (digits + 2) '─' ++ ['╯']]

/-- The picture of a span of bytes of a text.  Where the span is not in the text, only the first
line is left. -/
def render (path : Path) (text : Text) (span : Nat × Nat) (message : Text) : Text :=
  let lines := text.displayLines
  let title := "Error: invalid descriptor '".toList ++ path.display ++ ['\'']
  let drawing :=
    match ends? lines span.1 span.2 with
    | none => []
    | some (first, stop) => body path lines first stop message
  (title :: drawing).flatMap (· ++ ['\n'])

end Stencil.Report

namespace Stencil.Failure

def report : Failure → Text
  | .load path (.syntaxError error text) =>
    Report.render path text (error.span.getD (0, 0)) error.message
  | failure => failure.message

end Stencil.Failure
