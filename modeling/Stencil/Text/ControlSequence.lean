import Stencil.Text.Utf8

/-! Text without what a terminal would act on: control sequences, and controls other than blanks.
A blank inside an escape is kept and breaks it off; what follows is text again, but the next
control takes the escape up where it was left. -/

namespace Stencil.Text

/-- The kinds of sequence that an escape begins, and how far each has come. -/
inductive Sequence where
  | escape
  | escapeIntermediate
  | control
  | systemCommand
  | deviceEntry
  | deviceParameter
  | deviceIntermediate
  | string
  deriving DecidableEq

inductive Display where
  | plain
  | inside (s : Sequence)
  /-- Text after a blank that broke off a sequence. -/
  | brokenOff (s : Sequence)
  deriving DecidableEq

def escapeCharacter : Char := '\x1b'

def bell : Char := '\x07'

/-- Cancel and substitute end every sequence. -/
def isAbort (c : Char) : Bool := c == '\x18' || c == '\x1a'

def isControlBlank (c : Char) : Bool := c == '\t' || c == '\n' || c == '\x0c' || c == '\r'

def isAsciiControl (c : Char) : Bool := c.toNat < 0x20 || c.toNat == 0x7F

def isIntermediate (c : Char) : Bool := 0x20 ≤ c.toNat && c.toNat ≤ 0x2F

def isFinal (c : Char) : Bool := 0x40 ≤ c.toNat && c.toNat ≤ 0x7E

/-- The byte that ends a string, which may be part of a character. -/
def stringTerminator : UInt8 := 0x9C

namespace Sequence

def opened (c : Char) : Display :=
  if isIntermediate c then .inside .escapeIntermediate
  else if c = '[' then .inside .control
  else if c = ']' then .inside .systemCommand
  else if c = 'P' then .inside .deviceEntry
  else if c = 'X' ∨ c = '^' ∨ c = '_' then .inside .string
  else .plain

def next : Sequence → Char → Display
  | .escape, c => opened c
  | .escapeIntermediate, c => if isIntermediate c then .inside .escapeIntermediate else .plain
  | .control, c => if isFinal c then .plain else .inside .control
  | .systemCommand, _ => .inside .systemCommand
  | .deviceEntry, c =>
    if isIntermediate c then .inside .deviceIntermediate
    else if isFinal c then .inside .string
    else .inside .deviceParameter
  | .deviceParameter, c =>
    if isIntermediate c then .inside .deviceIntermediate
    else if c.toNat ≤ 0x3B then .inside .deviceParameter
    else .inside .string
  | .deviceIntermediate, c =>
    if isIntermediate c then .inside .deviceIntermediate else .inside .string
  | .string, _ => .inside .string

/-- Strings and commands take every control up as their own. -/
def keepsBlanks : Sequence → Bool
  | .escape | .escapeIntermediate | .control => true
  | _ => false

end Sequence

namespace Display

def insideStep (s : Sequence) (c : Char) : Display × Bool :=
  if isAsciiControl c then
    if isControlBlank c && s.keepsBlanks then (.brokenOff s, true)
    else if c = bell ∧ s = .systemCommand then (.plain, false)
    else (.inside s, false)
  else if c.toNat < 0x80 then (s.next c, false)
  else if s = .string ∧ stringTerminator ∈ Utf8.encode [c] then (.plain, false)
  else (.inside s, false)

def brokenOffStep (s : Sequence) (c : Char) : Display × Bool :=
  if isControlBlank c then (.brokenOff s, true)
  else if isAsciiControl c then (.inside s, false)
  else if c.toNat < 0x80 then (.brokenOff s, true)
  else (.plain, true)

/-- The display after a character, and whether the character can be seen. -/
def step (d : Display) (c : Char) : Display × Bool :=
  if c = escapeCharacter then (.inside .escape, false)
  else if isAbort c then (.plain, false)
  else
    match d with
    | .plain => (.plain, isControlBlank c || !isAsciiControl c)
    | .inside s => insideStep s c
    | .brokenOff s => brokenOffStep s c

end Display

def visibleFrom : Display → Text → Text
  | _, [] => []
  | d, c :: rest =>
    if (d.step c).2 then c :: visibleFrom (d.step c).1 rest else visibleFrom (d.step c).1 rest

def visible (t : Text) : Text := visibleFrom .plain t

end Stencil.Text
