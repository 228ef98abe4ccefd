import Stencil.Toml.Blank

/-! The four spellings of a string.  Basic strings have escapes and literal ones have none;
the multi-line forms of both hold line ends, which are read as line feeds, and one or two quotes
of their own kind wherever these do not end the string. -/

namespace Stencil.Toml

open Reader

def isPlain (c : Char) : Bool := isCommentChar c

def isBasicChar (c : Char) : Bool := isPlain c && c != '"' && c != '\\'

def isLiteralChar (c : Char) : Bool := isPlain c && c != '\''

def hexValue? (c : Char) : Option Nat :=
  let n := c.toNat
  if 48 ≤ n ∧ n ≤ 57 then some (n - 48)
  else if 65 ≤ n ∧ n ≤ 70 then some (n - 55)
  else if 97 ≤ n ∧ n ≤ 102 then some (n - 87)
  else none

def isHexDigit (c : Char) : Bool := (hexValue? c).isSome

def positional (base : Nat) (digits : Text) : Nat :=
  digits.foldl (fun n c => n * base + (hexValue? c).getD 0) 0

def isScalar (n : Nat) : Bool := n < 0xD800 || (0xDFFF < n && n < 0x110000)

/-- The character with the code point that follows, in exactly `count` hexadecimal digits. -/
def codePoint (count : Nat) : Reader Char := fun s =>
  let digits := (s.take count).takeWhile isHexDigit
  if digits.length ≠ count then .refused ⟨s, .none⟩
  else if isScalar (positional 16 digits) then
    .done (Char.ofNat (positional 16 digits)) (s.drop count)
  else .refused ⟨s, .ofCause .outOfRange⟩

def escapeMarks : List Expectation :=
  [['b'], ['f'], ['n'], ['r'], ['t'], ['u'], ['U'], ['\\'], ['"']].map .mark

/-- What follows the letter of an escape that is none.  A letter outside ASCII is itself the place
of the fault. -/
def afterBadEscape (c : Char) (rest : Text) : Text := if c.toNat < 0x80 then rest else c :: rest

def escapeSequence : Reader Char
  | 'b' :: rest => .done '\x08' rest
  | 'f' :: rest => .done '\x0c' rest
  | 'n' :: rest => .done '\n' rest
  | 'r' :: rest => .done '\r' rest
  | 't' :: rest => .done '\t' rest
  | '\\' :: rest => .done '\\' rest
  | '"' :: rest => .done '"' rest
  | 'u' :: rest => within .shortCode (commit (codePoint 4)) rest
  | 'U' :: rest => within .longCode (commit (codePoint 8)) rest
  | c :: rest => .failed ⟨afterBadEscape c rest, ⟨some .escapeSequence, escapeMarks, none⟩⟩
  | [] => .refused ⟨[], .none⟩

def escape : Reader Char := andThen (exactly '\\') fun _ => escapeSequence

/-- A piece of a string is a run of characters that stand for themselves, or one escape. -/
def basicPiece : Reader Text :=
  orElse (run1 isBasicChar) (andThen escape fun c => accept [c])

def basicString : Reader Text := do
  let _ ← exactly '"'
  let pieces ← many basicPiece
  let _ ← within .basicString (commit (exactly '"'))
  return pieces.flatten

def literalString : Reader Text :=
  within .literalString do
    let _ ← exactly '\''
    let t ← run isLiteralChar
    let _ ← commit (exactly '\'')
    return t

/-- A backslash at the end of a line, with all blanks and line ends after it. -/
def lineContinuation : Reader PUnit := do
  let _ ← exactly '\\'
  let _ ← spaces
  let _ ← newline
  let _ ← many (orElse newline (andThen (run1 isSpace) fun _ => accept ⟨⟩))
  return ⟨⟩

def multilineBasicPiece : Reader Text :=
  orElse (run1 isBasicChar) <|
  orElse (andThen lineContinuation fun _ => andThen (many lineContinuation) fun _ => accept []) <|
  orElse (andThen escape fun c => accept [c]) <|
  andThen newline fun _ => accept ['\n']

def multilineLiteralPiece : Reader Text :=
  orElse (run1 isLiteralChar) (andThen newline fun _ => accept ['\n'])

/-- Two quotes or one, where `next` can follow them. -/
def innerQuotes {α : Type} (quote : Char) (next : Reader α) : Reader Text :=
  orElse
    (andThen (literal [quote, quote]) fun _ => andThen (ahead next) fun _ => accept [quote, quote])
    (andThen (literal [quote]) fun _ => andThen (ahead next) fun _ => accept [quote])

/-- Quotes with some other character after them. -/
def looseQuotes (quote : Char) : Reader Text := innerQuotes quote (character (· != quote))

def delimiter (quote : Char) : Text := [quote, quote, quote]

def quotedPieces (quote : Char) (piece : Reader Text) : Reader Text := do
  let pieces ← many piece
  let more ← many (do
    let quotes ← looseQuotes quote
    let first ← piece
    let pieces ← many piece
    return quotes ++ first ++ pieces.flatten)
  return pieces.flatten ++ more.flatten

def lastQuotes (quote : Char) : Reader Text := do
  let quotes ← optional (innerQuotes quote (literal (delimiter quote)))
  return quotes.getD []

/-- Quotes before a character that cannot stand in the string are passed over, so that the
complaint is about that character. -/
def multilineBasicBody : Reader Text := do
  let t ← quotedPieces '"' multilineBasicPiece
  let _ ← optional (looseQuotes '"')
  let last ← lastQuotes '"'
  return t ++ last

/-- Quotes before a character that cannot stand in the string are themselves complained about. -/
def multilineLiteralBody : Reader Text := do
  let t ← quotedPieces '\'' multilineLiteralPiece
  let last ← lastQuotes '\''
  return t ++ last

/-- A line end right after the opening delimiter does not count. -/
def multiline (k : Construct) (quote : Char) (body : Reader Text) : Reader Text :=
  within k do
    let _ ← literal (delimiter quote)
    let _ ← optional newline
    let t ← commit body
    let _ ← commit (literal (delimiter quote))
    return t

def multilineBasicString : Reader Text :=
  multiline .multilineBasicString '"' multilineBasicBody

def multilineLiteralString : Reader Text :=
  multiline .multilineLiteralString '\'' multilineLiteralBody

def string : Reader Text :=
  orElse multilineBasicString <|
  orElse basicString <|
  orElse multilineLiteralString literalString

end Stencil.Toml
