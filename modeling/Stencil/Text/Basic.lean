/-! Text is a list of characters and file content a list of bytes.  Both stay lists, so that
what a program does with them is recursion on their elements.  A list is cut after each of its
terminators: every piece keeps the terminator that ends it, and a last piece without one is kept
too. -/

namespace Stencil

abbrev Text := List Char

abbrev Bytes := List UInt8

namespace Text

/-- The decimal digits of a number, most significant first, without leading zeros. -/
def decimal (n : Nat) : Text := Nat.toDigits 10 n

def hexadecimal (n : Nat) : Text := Nat.toDigits 16 n

def quoted (open_ close : Char) (t : Text) : Text := open_ :: t ++ [close]

end Text

abbrev CodePoints := List (Nat × Nat)

def CodePoints.contains (table : CodePoints) (c : Char) : Bool :=
  table.any fun interval => interval.1 ≤ c.toNat && c.toNat ≤ interval.2

variable {α : Type}

def consPiece (a : α) : List (List α) → List (List α)
  | [] => [[a]]
  | piece :: pieces => (a :: piece) :: pieces

def splitAfter (ends : α → Bool) : List α → List (List α)
  | [] => []
  | a :: rest => if ends a then [a] :: splitAfter ends rest else consPiece a (splitAfter ends rest)

/-- The pieces between separators: always one more than there are separators. -/
def splitAt (separates : α → Bool) : List α → List (List α)
  | [] => [[]]
  | a :: rest =>
    if separates a then [] :: splitAt separates rest else consPiece a (splitAt separates rest)

/-- The lines of a file, each ending in a line feed but perhaps the last. -/
def Bytes.lines (content : Bytes) : List Bytes := splitAfter (· == 10) content

namespace Text

/-- The characters that end a line of a displayed text. -/
def endsDisplayLine (c : Char) : Bool :=
  c == '\n' || c == '\r' || c == '\x0b' || c == '\x0c' || c == '\u0085' ||
    c == '\u2028' || c == '\u2029'

/-- The lines of a displayed text, a carriage return and line feed ending one line together. -/
def displayLines : Text → List Text
  | [] => []
  | '\r' :: '\n' :: rest => ['\r', '\n'] :: displayLines rest
  | c :: rest =>
    if endsDisplayLine c then [c] :: displayLines rest else consPiece c (displayLines rest)

/-- The first `n` bytes of a text, if they end at a character boundary within it. -/
def before? : Text → Nat → Option Text
  | _, 0 => some []
  | [], _ + 1 => none
  | c :: rest, n =>
    if c.utf8Size ≤ n then (before? rest (n - c.utf8Size)).map (c :: ·) else none

def lastLine (t : Text) : Text := (t.reverse.takeWhile (· != '\n')).reverse

/-- The line and column after a text that starts at line 1, column 1. -/
def endPosition (t : Text) : Nat × Nat := (1 + t.count '\n', 1 + t.lastLine.length)

/-- The line and column of a byte offset.  An offset past the end or inside a character counts as
the end. -/
def lineColumn (t : Text) (offset : Nat) : Nat × Nat :=
  endPosition ((before? t offset).getD t)

end Text

end Stencil
