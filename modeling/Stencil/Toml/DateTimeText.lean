import Stencil.Toml.DateTimes

/-! Dates and times that stand alone in a string: a date, a time, or a date and a time with an
offset.  All fields of a part are found before any of them is checked for length and range. -/

namespace Stencil.Toml.DateTimeText

inductive Part where
  | date
  | dateTime
  | time
  | offset
  deriving DecidableEq

def Part.name : Part → Text
  | .date => "date".toList
  | .dateTime => "date-time".toList
  | .time => "time".toList
  | .offset => "offset".toList

/-- The part that is wrong, if it is known, and what was expected there. -/
structure Fault where
  part : Option Part
  expected : Option Text
  deriving DecidableEq

def Fault.message (f : Fault) : Text :=
  "invalid ".toList ++ ((f.part.map (·.name)).getD "datetime".toList) ++
    ((f.expected.map fun e => ", expected ".toList ++ e).getD [])

inductive Token where
  | digits (t : Text)
  | mark (c : Char)
  deriving DecidableEq

def next? : Text → Option (Token × Text)
  | [] => none
  | c :: rest =>
    if isDigit c then some (.digits ((c :: rest).takeWhile isDigit), (c :: rest).dropWhile isDigit)
    else some (.mark c, rest)

abbrev Step (α : Type) := StateT Text (Except Fault) α

def refuse {α : Type} (part : Option Part) (expected : String) : Step α :=
  fun _ => .error ⟨part, some expected.toList⟩

def check (holds : Bool) (part : Part) (expected : String) : Step Unit :=
  if holds then pure () else refuse (some part) expected

def field (part : Option Part) (expected : String) : Step Text := fun s =>
  match next? s with
  | some (.digits t, rest) => .ok (t, rest)
  | _ => .error ⟨part, some expected.toList⟩

def mark (c : Char) (part : Part) (expected : String) : Step Unit := fun s =>
  match next? s with
  | some (.mark d, rest) => if d = c then .ok ((), rest) else .error ⟨some part, some expected.toList⟩
  | _ => .error ⟨some part, some expected.toList⟩

def number (t : Text) : Nat := positional 10 t

def dayRange (year month : Nat) : String :=
  match daysIn year month with
  | 28 => "day between 01 and 28"
  | 29 => "day between 01 and 29"
  | 30 => "day between 01 and 30"
  | _ => "day between 01 and 31"

def dateAfter (year : Text) : Step Unit := do
  let month ← field (some .date) "month"
  mark '-' .date "`-` (MM-DD)"
  let day ← field (some .date) "day"
  check (year.length == 4) .date "a four-digit year (YYYY)"
  check (month.length == 2) .date "a two-digit month (MM)"
  check (day.length == 2) .date "a two-digit day (DD)"
  check (1 ≤ number month && number month ≤ 12) .date "month between 01 and 12"
  check (1 ≤ number day && number day ≤ daysIn (number year) (number month)) .date
    (dayRange (number year) (number month))

def secondFraction : Step Unit := fun s =>
  match s with
  | '.' :: rest => (field (some .time) "nanosecond" rest).map fun r => ((), r.2)
  | _ => .ok ((), s)

def time : Step Unit := do
  let hour ← field (some .time) "hour"
  mark ':' .time "`:` (HH:MM)"
  let minute ← field (some .time) "minute"
  mark ':' .time "`:` (MM:SS)"
  let second ← field (some .time) "second"
  secondFraction
  check (hour.length == 2) .time "a two-digit hour (HH)"
  check (minute.length == 2) .time "a two-digit minute (MM)"
  check (second.length == 2) .time "a two-digit second (SS)"
  check (number hour ≤ 23) .time "hour between 00 and 23"
  check (number minute ≤ 59) .time "minute between 00 and 59"
  check (number second ≤ 60) .time "second between 00 and 60"

def offset : Step Unit := do
  let hours ← field (some .offset) "hour"
  mark ':' .offset "`:` (HH:MM)"
  let minutes ← field (some .offset) "minute"
  check (hours.length == 2) .offset "a two-digit hour (HH)"
  check (minutes.length == 2) .offset "a two-digit minute (MM)"
  check (number hours ≤ 23) .offset "hours between 00 and 23"
  check (number minutes ≤ 59) .offset "minutes between 00 and 59"

def maybeOffset : Step Unit := do
  match ← get with
  | [] => pure ()
  | c :: rest =>
    if c = 'Z' ∨ c = 'z' then set rest
    else if c = '+' ∨ c = '-' then
      set rest
      offset
    else refuse (some .offset) "`Z`, +OFFSET, -OFFSET"

def maybeTime : Step Unit := do
  match ← get with
  | [] => pure ()
  | c :: rest =>
    if c = 'T' ∨ c = 't' ∨ c = ' ' then
      set rest
      time
      maybeOffset
    else refuse (some .dateTime) "`T` between date and time"

def whole (s : Text) : Step Unit := do
  let first ← field none "year or hour"
  match ← get with
  | '-' :: rest =>
    set rest
    dateAfter first
    maybeTime
  | ':' :: _ =>
    set s
    time
  | _ => refuse none "`-` (YYYY-MM) or `:` (HH:MM)"

def fault? (s : Text) : Option Fault :=
  match whole s s with
  | .error fault => some fault
  | .ok (_, []) => none
  | .ok (_, _ :: _) => some ⟨none, none⟩

end Stencil.Toml.DateTimeText
