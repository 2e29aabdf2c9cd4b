import DesiredState.Toml.Lexeme

/-! Dates and times in a TOML text: a date of the calendar, a time of the day, or both, and then
perhaps the offset from universal time. -/
namespace DesiredState.Toml

/-- A date of the calendar. -/
structure Date where
  year : Nat
  month : Nat
  day : Nat
  deriving DecidableEq, Inhabited

/-- A time of the day. -/
structure Time where
  hour : Nat
  minute : Nat
  second : Nat
  nanosecond : Nat := 0
  deriving DecidableEq, Inhabited

/-- A date, a time, or a time on a date with its offset in minutes. -/
inductive DateTime where
  | date (date : Date)
  | time (time : Time)
  | moment (date : Date) (time : Time) (offset? : Option Int)
  deriving DecidableEq, Inhabited

def isLeap (year : Nat) : Bool := year % 4 == 0 && (year % 100 != 0 || year % 400 == 0)

def daysIn (year month : Nat) : Nat :=
  if month = 2 then (if isLeap year then 29 else 28)
  else if month = 4 ∨ month = 6 ∨ month = 9 ∨ month = 11 then 30
  else 31

/-- A number within bounds, written with exactly `width` digits. -/
def readField (width low high : Nat) (cs : List Char) : Option (Nat × List Char) :=
  let digits := cs.take width
  let n := Numeral.ofDigits digits
  if digits.length = width ∧ digits.all Char.isDigit ∧ low ≤ n ∧ n ≤ high then
    some (n, cs.drop width)
  else none

def skip? (c : Char) : List Char → Option (List Char)
  | d :: rest => if d = c then some rest else none
  | [] => none

/-- A date, `1979-05-27`. -/
def readDate (cs : List Char) : Option (Date × List Char) := do
  let (year, cs) ← readField 4 0 9999 cs
  let (month, cs) ← readField 2 1 12 (← skip? '-' cs)
  let (day, cs) ← readField 2 1 (daysIn year month) (← skip? '-' cs)
  return (⟨year, month, day⟩, cs)

/-- The digits after a point are a fraction of a second. What is beyond nanoseconds is dropped. -/
def readSecondFraction : List Char → Nat × List Char
  | '.' :: cs =>
    match Numeral.takeDigits cs with
    | ([], _) => (0, '.' :: cs)
    | (digits, rest) => (Numeral.ofDigits (digits.rightpad 9 '0' |>.take 9), rest)
  | cs => (0, cs)

/-- A time, `07:32:00.5`. The last second of a day may be a leap second. -/
def readTime (cs : List Char) : Option (Time × List Char) := do
  let (hour, cs) ← readField 2 0 23 cs
  let (minute, cs) ← readField 2 0 59 (← skip? ':' cs)
  let (second, cs) ← readField 2 0 60 (← skip? ':' cs)
  let (nanosecond, cs) := readSecondFraction cs
  return (⟨hour, minute, second, nanosecond⟩, cs)

def readMinutes (cs : List Char) : Option (Int × List Char) := do
  let (hour, cs) ← readField 2 0 23 cs
  let (minute, cs) ← readField 2 0 59 (← skip? ':' cs)
  return (hour * 60 + minute, cs)

/-- An offset: `Z`, `+01:00` or `-01:00`. -/
def readOffset : List Char → Option (Int × List Char)
  | 'Z' :: rest => some (0, rest)
  | 'z' :: rest => some (0, rest)
  | '+' :: rest => readMinutes rest
  | '-' :: rest => (readMinutes rest).map fun r => (-r.1, r.2)
  | _ => none

def readDateTime (cs : List Char) : Option (DateTime × List Char) :=
  match readDate cs with
  | none => (readTime cs).map fun r => (.time r.1, r.2)
  | some (date, rest) =>
    let parted := match rest with
      | 'T' :: more | 't' :: more | ' ' :: more => readTime more
      | _ => none
    match parted with
    | none => some (.date date, rest)
    | some (time, rest) =>
      match readOffset rest with
      | none => some (.moment date time none, rest)
      | some (offset, rest) => some (.moment date time (some offset), rest)

example : readDateTime "1979-05-27 07:32:00.5-01:30,".toList =
    some (.moment ⟨1979, 5, 27⟩ ⟨7, 32, 0, 500000000⟩ (some (-90)), [',']) := by decide +kernel
example : readDateTime "2024-02-29 # leap".toList =
    some (.date ⟨2024, 2, 29⟩, " # leap".toList) := by decide +kernel
example : readDateTime "1900-02-29".toList = none := by decide +kernel
example : readDateTime "23:59:60".toList = some (.time ⟨23, 59, 60, 0⟩, []) := by decide +kernel

end DesiredState.Toml
