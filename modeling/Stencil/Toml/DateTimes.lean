import Stencil.Toml.Numbers

/-! Dates and times.  A reading goes no further than saying that one stands there; the day is
checked against its month and year, a second may be 60, and an offset has an hour below 24. -/

namespace Stencil.Toml

open Reader

def digits (count : Nat) : Reader Nat := fun s =>
  let text := (s.take count).takeWhile isDigit
  if text.length ≠ count then .refused ⟨s, .none⟩
  else .done (positional 10 text) (s.drop count)

def twoDigits (low high : Nat) : Reader Nat :=
  judged (fun n => if low ≤ n ∧ n ≤ high then .ok n else .error .outOfRange) (digits 2)

def isLeapYear (year : Nat) : Bool := year % 4 == 0 && (year % 100 != 0 || year % 400 == 0)

def daysIn (year month : Nat) : Nat :=
  if month = 2 then (if isLeapYear year then 29 else 28)
  else if month = 4 ∨ month = 6 ∨ month = 9 ∨ month = 11 then 30
  else 31

def date : Reader PUnit := do
  let year ← digits 4
  let _ ← exactly '-'
  let month ← commit (twoDigits 1 12)
  let _ ← commit (exactly '-')
  let _ ← commit (twoDigits 1 (daysIn year month))
  return ⟨⟩

def secondFraction : Reader PUnit := do
  let _ ← exactly '.'
  let _ ← run1 isDigit
  return ⟨⟩

def time : Reader PUnit := do
  let _ ← twoDigits 0 23
  let _ ← exactly ':'
  commit do
    let _ ← twoDigits 0 59
    let _ ← exactly ':'
    let _ ← twoDigits 0 60
    let _ ← optional secondFraction
    return ⟨⟩

def offset : Reader PUnit :=
  within .timeOffset <|
    orElse (andThen (character fun c => c == 'Z' || c == 'z') fun _ => accept ⟨⟩) do
      let _ ← character fun c => c == '+' || c == '-'
      commit do
        let _ ← twoDigits 0 23
        let _ ← exactly ':'
        let _ ← twoDigits 0 59
        return ⟨⟩

def timeOfDay : Reader PUnit := do
  let _ ← character fun c => c == 'T' || c == 't' || c == ' '
  time
  let _ ← optional offset
  return ⟨⟩

def datedTime : Reader PUnit := do
  date
  let _ ← optional timeOfDay
  return ⟨⟩

def dateTime : Reader PUnit := orElse (within .dateTime datedTime) (within .time time)

end Stencil.Toml
