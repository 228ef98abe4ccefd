import Stencil.Binary64
import Stencil.Toml.Strings

/-! Integers and floating-point numbers.  An underscore may stand between two digits.  Integers
have 64 bits with sign; a float that rounds to positive infinity is refused. -/

namespace Stencil.Toml

open Reader

def isDigit (c : Char) : Bool := '0' ≤ c && c ≤ '9'

def isLeadingDigit (c : Char) : Bool := '1' ≤ c && c ≤ '9'

def moreDigits (accepts : Char → Bool) : Reader Text :=
  many (orElse (character accepts)
    (andThen (exactly '_') fun _ => expecting .digit (commit (character accepts))))

def digitRun (accepts : Char → Bool) : Reader Text := do
  let first ← character accepts
  let more ← moreDigits accepts
  return first :: more

def numberSign : Reader (Option Char) := optional (character fun c => c == '+' || c == '-')

/-- A sign and decimal digits without leading zeros. -/
structure SignedDigits where
  negative : Bool
  digits : Text

def decimal : Reader SignedDigits :=
  within .integer do
    let sign ← numberSign
    let digits ← orElse
      (andThen (character isLeadingDigit) fun c =>
        andThen (moreDigits isDigit) fun more => accept (c :: more))
      (andThen (character isDigit) fun c => accept [c])
    return ⟨sign == some '-', digits⟩

def maxInteger : Nat := Nat.pow 2 63 - 1

def ofDigits (base : Nat) (n : SignedDigits) : Except Cause Int :=
  let magnitude := positional base n.digits
  if n.negative then
    if magnitude ≤ maxInteger + 1 then .ok (-magnitude) else .error .tooSmall
  else if magnitude ≤ maxInteger then .ok magnitude else .error .tooLarge

def based (k : Construct) (mark : Char) (base : Nat) (accepts : Char → Bool) : Reader Int :=
  commit <| judged (fun digits => ofDigits base ⟨false, digits⟩) <| within k do
    let _ ← literal ['0', mark]
    commit (digitRun accepts)

def integer : Reader Int
  | '0' :: 'x' :: rest => based .hexadecimalInteger 'x' 16 isHexDigit ('0' :: 'x' :: rest)
  | '0' :: 'o' :: rest =>
    based .octalInteger 'o' 8 (fun c => '0' ≤ c && c ≤ '7') ('0' :: 'o' :: rest)
  | '0' :: 'b' :: rest =>
    based .binaryInteger 'b' 2 (fun c => c == '0' || c == '1') ('0' :: 'b' :: rest)
  | s =>
    match decimal s with
    | .done n rest =>
      match ofDigits 10 n with
      | .ok value => .done value rest
      | .error cause => .failed ⟨s, .ofCause cause⟩
    | .refused stop => .refused stop
    | .failed stop => .failed stop

def exponentPart : Reader SignedDigits := do
  let _ ← character fun c => c == 'e' || c == 'E'
  let sign ← numberSign
  let digits ← commit (digitRun isDigit)
  return ⟨sign == some '-', digits⟩

def fraction : Reader Text := do
  let _ ← exactly '.'
  expecting .digit (commit (digitRun isDigit))

/-- A fraction, an exponent, or both. -/
def scaling : Reader (Text × Option SignedDigits) :=
  orElse (andThen exponentPart fun e => accept ([], some e)) do
    let digits ← fraction
    let e ← optional exponentPart
    return (digits, e)

def SignedDigits.exponent (e : SignedDigits) : Int :=
  let n : Int := positional 10 e.digits
  if e.negative then -n else n

def ofScaled (n : SignedDigits) (fraction : Text) (e : Option SignedDigits) : Binary64 :=
  Binary64.ofDecimal n.negative (positional 10 (n.digits ++ fraction))
    ((e.map (·.exponent)).getD 0 - fraction.length)

def pointed : Reader Binary64 := fun s =>
  match andThen decimal (fun n => andThen scaling fun tail => accept (n, tail)) s with
  | .done (n, fraction, e) rest =>
    let x := ofScaled n fraction e
    if x = .infinite false then .failed ⟨s, .none⟩ else .done x rest
  | .refused stop => .refused stop
  | .failed stop => .failed stop

def namedFloat : Reader Binary64 := do
  let sign ← numberSign
  orElse
    (andThen (literal "inf".toList) fun _ => accept (.infinite (sign == some '-')))
    (andThen (literal "nan".toList) fun _ => accept .nan)

def float : Reader Binary64 := within .float (orElse pointed namedFloat)

end Stencil.Toml
