import DesignKit.Number.Reading
import DesignKit.Number.Text

/-! # Moments

What a TOML document says of time: a day of the calendar, a time of day, or a time on a day, perhaps with its offset
from universal time. A moment is printed as it is written, with a blank between day and time; inside a list or a
table it is shown by the numbers that make it up. -/

namespace DesignKit.Toml
open Number Text

/-! ### Days and times -/

def isLeap (year : Nat) : Bool :=
  year % 4 == 0 && (year % 100 != 0 || year % 400 == 0)

/-- How many days a month has. -/
def daysIn (year month : Nat) : Nat :=
  if month == 2 then if isLeap year then 29 else 28
  else if month == 4 || month == 6 || month == 9 || month == 11 then 30
  else 31

/-- A day of the calendar. -/
structure Date where
  year : Nat
  month : Nat
  day : Nat
  hyear : 1 ≤ year ∧ year ≤ 9999
  hmonth : 1 ≤ month ∧ month ≤ 12
  hday : 1 ≤ day ∧ day ≤ daysIn year month

/-- The day with three numbers, if there is one. -/
def Date.of? (year month day : Nat) : Option Date :=
  if h : (1 ≤ year ∧ year ≤ 9999) ∧ (1 ≤ month ∧ month ≤ 12) ∧ 1 ≤ day ∧ day ≤ daysIn year month then
    some ⟨year, month, day, h.1, h.2.1, h.2.2⟩
  else none

/-- A time of day. -/
structure Clock where
  hour : Fin 24
  minute : Fin 60
  second : Fin 60
  micro : Fin 1000000

/-- An offset from universal time. -/
structure Offset where
  negative : Bool
  hour : Fin 24
  minute : Fin 60

/-- How many minutes an offset is. -/
def Offset.minutes (o : Offset) : Int :=
  let n : Int := o.hour.val * 60 + o.minute.val
  if o.negative then -n else n

inductive Moment where
  | day (d : Date)
  | time (c : Clock)
  | both (d : Date) (c : Clock) (offset : Option Offset)

/-! ### Texts -/

/-- A number with zeros in front of it up to a width. -/
def padded (width n : Nat) : String :=
  String.ofList (List.replicate (width - (natText n).length) '0' ++ natText n)

def Date.print (d : Date) : String :=
  padded 4 d.year ++ "-" ++ padded 2 d.month ++ "-" ++ padded 2 d.day

/-- Parts of a second are printed when there are any. -/
def Clock.print (c : Clock) : String :=
  padded 2 c.hour ++ ":" ++ padded 2 c.minute ++ ":" ++ padded 2 c.second ++
    (if c.micro == 0 then "" else "." ++ padded 6 c.micro)

def Offset.print (o : Offset) : String :=
  (if o.minutes < 0 then "-" else "+") ++ padded 2 o.hour ++ ":" ++ padded 2 o.minute

def Moment.print : Moment → String
  | day d => d.print
  | time c => c.print
  | both d c offset => d.print ++ " " ++ c.print ++ (offset.map Offset.print).getD ""

def Date.parts (d : Date) : List Nat :=
  [d.year, d.month, d.day]

/-- The numbers of a time. Seconds and their parts are left out at the end when they are zero. -/
def Clock.parts (c : Clock) : List Nat :=
  [c.hour.val, c.minute.val] ++
    (if c.micro == 0 then if c.second == 0 then [] else [c.second.val] else [c.second.val, c.micro.val])

/-- An offset as it stands in a moment: in seconds, which are counted from the day before when it is negative. -/
def Offset.inner (o : Offset) : String :=
  let seconds := o.minutes * 60
  if seconds == 0 then "datetime.timezone.utc"
  else
    "datetime.timezone(datetime.timedelta(" ++
      (if seconds < 0 then "days=-1, seconds=" ++ intText (seconds + 86400) else "seconds=" ++ intText seconds) ++ "))"

/-- A moment as it stands inside a list or a table. -/
def Moment.inner : Moment → String
  | day d => "datetime.date(" ++ shown d.parts ++ ")"
  | time c => "datetime.time(" ++ shown c.parts ++ ")"
  | both d c offset =>
    "datetime.datetime(" ++ shown (d.parts ++ c.parts) ++ ((offset.map fun o => ", tzinfo=" ++ o.inner).getD "") ++ ")"
where
  shown (parts : List Nat) : String := ", ".intercalate (parts.map fun (n : Nat) => intText n)

/-! ### Reading -/

/-- As many digits at the front of a text, and what follows them. -/
def digits? : Nat → List Char → Option (List Nat × List Char)
  | 0, cs => some ([], cs)
  | _ + 1, [] => none
  | count + 1, c :: rest => do
    let d ← asciiDigit? c
    let (ds, after) ← digits? count rest
    return (d :: ds, after)

/-- What follows a character at the front of a text. -/
def behind? (c : Char) : List Char → Option (List Char)
  | [] => none
  | d :: rest => if d == c then some rest else none

/-- A number of two digits below a limit. -/
def below? (limit : Nat) (cs : List Char) : Option (Fin limit × List Char) := do
  let (ds, rest) ← digits? 2 cs
  if h : ofDigits ds < limit then some (⟨ofDigits ds, h⟩, rest) else none

/-- The parts of a second behind a point: the first six digits count. -/
def micros : List Char → Fin 1000000 × List Char
  | '.' :: rest =>
    match leadingDigits rest with
    | ([], _) => (0, '.' :: rest)
    | (ds, after) => (Fin.ofNat _ (ofDigits ((ds ++ List.replicate 6 0).take 6)), after)
  | cs => (0, cs)

def clock? (cs : List Char) : Option (Clock × List Char) := do
  let (hour, rest) ← below? 24 cs
  let (minute, rest) ← below? 60 (← behind? ':' rest)
  let (second, rest) ← below? 60 (← behind? ':' rest)
  let (micro, rest) := micros rest
  return (⟨hour, minute, second, micro⟩, rest)

def offset? : List Char → Option (Offset × List Char)
  | [] => none
  | mark :: rest => do
    if mark == 'Z' || mark == 'z' then return (⟨false, 0, 0⟩, rest)
    else if mark == '+' || mark == '-' then
      let (hour, rest) ← below? 24 rest
      let (minute, rest) ← below? 60 (← behind? ':' rest)
      return (⟨mark == '-', hour, minute⟩, rest)
    else none

/-- The numbers of a day, of which the calendar may have none. -/
def dayNumbers? (cs : List Char) : Option ((Nat × Nat × Nat) × List Char) := do
  let (year, rest) ← digits? 4 cs
  let (month, rest) ← digits? 2 (← behind? '-' rest)
  let (day, rest) ← digits? 2 (← behind? '-' rest)
  let (month, day) := (ofDigits month, ofDigits day)
  if 1 ≤ month && month ≤ 12 && 1 ≤ day && day ≤ 31 then some ((ofDigits year, month, day), rest) else none

/-- The time that follows a day, behind a blank or a letter. -/
def timeOfDay? : List Char → Option (Clock × List Char)
  | [] => none
  | mark :: rest => if mark == 'T' || mark == 't' || mark == ' ' then clock? rest else none

/-- The moment at the front of a text and what follows it, if one is written there. It is none when its day is in no
calendar. -/
def moment? (cs : List Char) : Option (Option Moment × List Char) :=
  match dayNumbers? cs with
  | none => (clock? cs).map fun (c, rest) => (some (.time c), rest)
  | some ((year, month, day), rest) =>
    let date := Date.of? year month day
    match timeOfDay? rest with
    | none => some (date.map .day, rest)
    | some (c, rest) =>
      match offset? rest with
      | none => some (date.map (.both · c none), rest)
      | some (o, rest) => some (date.map (.both · c (some o)), rest)

end DesignKit.Toml
