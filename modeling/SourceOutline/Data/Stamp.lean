/-!
# Dates and times

A stamp is a date of the calendar, or a date with a time of day and perhaps an
offset from universal time.  A stamp that is read is checked: the offset must be
less than a day, and then every part must lie in its range, the year first.

There are two texts of a stamp: the one by which it is known, and the one by
which it is shown inside other data.
-/

namespace SourceOutline

structure Clock where
  hour : Nat
  minute : Nat
  second : Nat
  /-- Millionths of a second. -/
  micros : Nat
  /-- Minutes ahead of universal time. -/
  offset : Option Int
  deriving DecidableEq, Repr

structure Stamp where
  year : Nat
  month : Nat
  day : Nat
  clock : Option Clock := none
  deriving DecidableEq, Repr

namespace Stamp

inductive Fault where
  | year (year : Nat)
  | month
  | day
  | hour
  | minute
  | second
  | offset (minutes : Int)
  deriving DecidableEq, Repr

/-- The minutes of a day. -/
def dayMinutes : Int := 1440

/-- The text of a length of time in minutes.  Its days may be negative, but what
is left of them is not. -/
def spanText (minutes : Int) : String :=
  let days := minutes / dayMinutes
  let seconds := minutes % dayMinutes * 60
  let parts :=
    (if days = 0 then [] else ["days=" ++ toString days]) ++
      (if seconds = 0 then [] else ["seconds=" ++ toString seconds])
  "datetime.timedelta(" ++ (if parts.isEmpty then "0" else String.intercalate ", " parts) ++ ")"

def Fault.message : Fault → String
  | year n => "year " ++ toString n ++ " is out of range"
  | month => "month must be in 1..12"
  | day => "day is out of range for month"
  | hour => "hour must be in 0..23"
  | minute => "minute must be in 0..59"
  | second => "second must be in 0..59"
  | offset minutes =>
      "offset must be a timedelta strictly between -timedelta(hours=24) and " ++
        "timedelta(hours=24), not " ++ spanText minutes ++ "."

def isLeap (year : Nat) : Bool :=
  year % 4 == 0 && (year % 100 != 0 || year % 400 == 0)

def daysIn (year month : Nat) : Nat :=
  if month = 2 then (if isLeap year then 29 else 28)
  else if [4, 6, 9, 11].contains month then 30
  else 31

def checkOffset (stamp : Stamp) : Except Fault Unit :=
  match stamp.clock.bind Clock.offset with
  | some minutes =>
      if -dayMinutes < minutes && minutes < dayMinutes then .ok () else .error (.offset minutes)
  | none => .ok ()

def checkDate (stamp : Stamp) : Except Fault Unit :=
  if stamp.year = 0 then .error (.year stamp.year)
  else if stamp.month = 0 || 12 < stamp.month then .error .month
  else if stamp.day = 0 || daysIn stamp.year stamp.month < stamp.day then .error .day
  else .ok ()

def checkClock (stamp : Stamp) : Except Fault Unit :=
  match stamp.clock with
  | none => .ok ()
  | some clock =>
      if 23 < clock.hour then .error .hour
      else if 59 < clock.minute then .error .minute
      else if 59 < clock.second then .error .second
      else .ok ()

def check (stamp : Stamp) : Except Fault Stamp := do
  stamp.checkOffset
  stamp.checkDate
  stamp.checkClock
  return stamp

def padded (width n : Nat) : String :=
  let digits := toString n
  "".pushn '0' (width - digits.length) ++ digits

def offsetText (minutes : Int) : String :=
  let magnitude := minutes.natAbs
  (if minutes < 0 then "-" else "+") ++ padded 2 (magnitude / 60) ++ ":" ++
    padded 2 (magnitude % 60)

def text (stamp : Stamp) : String :=
  padded 4 stamp.year ++ "-" ++ padded 2 stamp.month ++ "-" ++ padded 2 stamp.day ++
    match stamp.clock with
    | none => ""
    | some clock =>
        " " ++ padded 2 clock.hour ++ ":" ++ padded 2 clock.minute ++ ":" ++
          padded 2 clock.second ++ (if clock.micros = 0 then "" else "." ++ padded 6 clock.micros) ++
          clock.offset.elim "" offsetText

/-- The parts of a time of day that are shown: seconds only if they or their
fraction are not zero. -/
def clockParts (clock : Clock) : List Nat :=
  [clock.hour, clock.minute] ++
    (if clock.micros = 0 then (if clock.second = 0 then [] else [clock.second])
      else [clock.second, clock.micros])

def offsetShown (minutes : Int) : String :=
  "tzinfo=" ++
    (if minutes = 0 then "datetime.timezone.utc"
      else "datetime.timezone(" ++ spanText minutes ++ ")")

/-- The text by which a stamp is shown inside other data. -/
def shown (stamp : Stamp) : String :=
  let date := [stamp.year, stamp.month, stamp.day].map toString
  match stamp.clock with
  | none => "datetime.date(" ++ String.intercalate ", " date ++ ")"
  | some clock =>
      "datetime.datetime(" ++
        String.intercalate ", "
          (date ++ (clockParts clock).map toString ++ (clock.offset.map offsetShown).toList) ++ ")"

/-! ### Reading -/

/-- Between `least` and `most` digits at the front of a text, and what follows. -/
def digits? (least most : Nat) (text : List Char) : Option (Nat × List Char) :=
  let digits := (text.takeWhile Char.isDigit).take most
  if digits.length < least then none
  else
    some (digits.foldl (fun n c => n * 10 + (c.toNat - '0'.toNat)) 0, text.drop digits.length)

/-- What follows a character at the front of a text. -/
def behind? (c : Char) (text : List Char) : Option (List Char) :=
  if text.head? == some c then some (text.drop 1) else none

/-- Millionths from the digits of a fraction; further digits mean nothing. -/
def microsOf (fraction : List Char) : Nat :=
  let digits := fraction.take 6
  (digits ++ List.replicate (6 - digits.length) '0').foldl
    (fun n c => n * 10 + (c.toNat - '0'.toNat)) 0

def isGap (c : Char) : Bool := c = ' ' || c = '\t'

/-- An offset, which ends the text: `Z`, or a sign with hours and perhaps
minutes. -/
def offset? (text : List Char) : Option Int := do
  match text with
  | ['Z'] => return 0
  | sign :: rest =>
      let (hours, rest) ← digits? 1 2 rest
      let minutes ←
        if rest.isEmpty then some 0
        else do
          let (minutes, rest) ← digits? 2 2 (← behind? ':' rest)
          if rest.isEmpty then some minutes else none
      let total : Int := 60 * hours + minutes
      if sign = '+' then return total else if sign = '-' then return -total else none
  | [] => none

/-- A time of day, which ends the text. -/
def clock? (text : List Char) : Option Clock := do
  let (hour, rest) ← digits? 1 2 text
  let (minute, rest) ← digits? 2 2 (← behind? ':' rest)
  let (second, rest) ← digits? 2 2 (← behind? ':' rest)
  let fraction := ((behind? '.' rest).getD []).takeWhile Char.isDigit
  let rest := ((behind? '.' rest).map (·.drop fraction.length)).getD rest
  let clock : Clock := { hour, minute, second, micros := microsOf fraction, offset := none }
  if rest.isEmpty then return clock
  else
    let offset ← offset? (rest.dropWhile isGap)
    return { clock with offset := some offset }

/-- The stamp that a text writes, before it is checked.  The time stands behind a
letter `T` or a gap. -/
def ofText? (text : List Char) : Option Stamp := do
  let (year, rest) ← digits? 4 4 text
  let (month, rest) ← digits? 1 2 (← behind? '-' rest)
  let (day, rest) ← digits? 1 2 (← behind? '-' rest)
  match rest with
  | [] => return { year, month, day }
  | c :: more =>
      if c = 'T' || c = 't' then return { year, month, day, clock := some (← clock? more) }
      else if isGap c then
        return { year, month, day, clock := some (← clock? (more.dropWhile isGap)) }
      else none

/-- Whether a text that is not marked as a stamp is taken for one: a date by
itself must have two digits for the month and for the day. -/
def isPlain (text : List Char) : Bool :=
  match ofText? text with
  | some stamp => stamp.clock.isSome || text.length == 10
  | none => false

end Stamp
end SourceOutline
