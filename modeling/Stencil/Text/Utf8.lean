import Stencil.Text.Basic

/-! UTF-8 both ways.  The decoder reads one byte at a time and gives up a sequence at the first
byte that cannot stand in it, so the bytes it gives up are the longest start of a character.
Strict decoding refuses any such loss; lossy decoding writes one U+FFFD for each. -/

namespace Stencil.Utf8

def encodeChar (c : Char) : Bytes := String.utf8EncodeChar c

def encode (t : Text) : Bytes := t.flatMap encodeChar

@[simp] theorem encode_nil : encode [] = [] := rfl

@[simp] theorem encode_cons (c : Char) (t : Text) : encode (c :: t) = encodeChar c ++ encode t :=
  rfl

@[simp] theorem encode_append (s t : Text) : encode (s ++ t) = encode s ++ encode t := by
  simp [encode]

/-- A character that has begun: the interval of its next byte, how many follow that one, and the
bits read so far. -/
structure Pending where
  low : UInt8
  high : UInt8
  more : Nat
  bits : Nat

inductive Lead where
  | whole (c : Char)
  | opens (p : Pending)
  | stray

/-- What a first byte begins.  The narrowed intervals keep out overlong forms, surrogates and
values above U+10FFFF. -/
def lead (b : UInt8) : Lead :=
  let n := b.toNat
  if n < 0x80 then .whole (Char.ofNat n)
  else if n < 0xC2 then .stray
  else if n < 0xE0 then .opens ⟨0x80, 0xBF, 0, n - 0xC0⟩
  else if n = 0xE0 then .opens ⟨0xA0, 0xBF, 1, 0⟩
  else if n = 0xED then .opens ⟨0x80, 0x9F, 1, 0xD⟩
  else if n < 0xF0 then .opens ⟨0x80, 0xBF, 1, n - 0xE0⟩
  else if n = 0xF0 then .opens ⟨0x90, 0xBF, 2, 0⟩
  else if n < 0xF4 then .opens ⟨0x80, 0xBF, 2, n - 0xF0⟩
  else if n = 0xF4 then .opens ⟨0x80, 0x8F, 2, 4⟩
  else .stray

def Pending.admits (p : Pending) (b : UInt8) : Bool := p.low ≤ b && b ≤ p.high

def Pending.extended (p : Pending) (b : UInt8) : Nat := p.bits * 64 + (b.toNat - 0x80)

/-- A decoded unit is a character, or `none` for bytes that were given up. -/
abbrev Unit? := Option Char

def begin (b : UInt8) : List Unit? × Option Pending :=
  match lead b with
  | .whole c => ([some c], none)
  | .opens p => ([], some p)
  | .stray => ([none], none)

/-- One byte: the units it completes and the character it leaves open. -/
def step : Option Pending → UInt8 → List Unit? × Option Pending
  | none, b => begin b
  | some p, b =>
    if p.admits b then
      match p.more with
      | 0 => ([some (Char.ofNat (p.extended b))], none)
      | more + 1 => ([], some ⟨0x80, 0xBF, more, p.extended b⟩)
    else (none :: (begin b).1, (begin b).2)

def unitsFrom : Option Pending → Bytes → List Unit?
  | none, [] => []
  | some _, [] => [none]
  | state, b :: rest => (step state b).1 ++ unitsFrom (step state b).2 rest

def units (bytes : Bytes) : List Unit? := unitsFrom none bytes

def sequence : List Unit? → Option Text
  | [] => some []
  | none :: _ => none
  | some c :: rest => (sequence rest).map (c :: ·)

def decode (bytes : Bytes) : Option Text := sequence (units bytes)

/-- The text with one U+FFFD for each run of bytes that is no character. -/
def decodeLossy (bytes : Bytes) : Text := (units bytes).map (·.getD '\uFFFD')

def size (t : Text) : Nat := (encode t).length

@[simp] theorem size_append (s t : Text) : size (s ++ t) = size s + size t := by
  simp [size]

end Stencil.Utf8
