import RecordPattern.Text.Hex
import RecordPattern.Yaml.Error

namespace RecordPattern.Yaml

open Text

-- Drops a line feed at the end.
def dropLineFeed (text : List Char) : List Char :=
  if text.getLast? = some '\n' then text.dropLast else text

-- A time of day, with the offset of its zone in minutes if it has one.
structure ClockTime where
  hour : Nat
  minute : Nat
  second : Nat
  fraction : List Char
  offset : Option Int

-- A date, with or without a time of day.
structure Moment where
  year : Nat
  month : Nat
  day : Nat
  time : Option ClockTime

namespace Moment

-- Takes a run of digits, at least and at most so many.
def digits (least most : Nat) (text : List Char) : Option (List Char × List Char) :=
  let run := (text.take most).takeWhile Char.isDigit
  if run.length < least then none else some (run, text.drop run.length)

def value (digits : List Char) : Nat :=
  ofDigits 10 digitValue? digits

def isGap (c : Char) : Bool :=
  c = ' ' || c = '\t'

def skipGap (text : List Char) : List Char :=
  text.dropWhile isGap

-- Drops a mark, which has to be there.
def mark (c : Char) : List Char → Option (List Char)
  | d :: rest => if d = c then some rest else none
  | [] => none

-- The offset of a zone at the end of a text.
def zone? (text : List Char) : Option (Option Int) :=
  match skipGap text with
  | [] => if text.isEmpty then some none else none
  | ['Z'] => some (some 0)
  | sign :: rest => do
    if sign = '+' || sign = '-' then
      let (hours, rest) ← digits 1 2 rest
      let minutes ← match rest with
        | [] => some 0
        | rest => do
          let (minutes, rest) ← digits 2 2 (← mark ':' rest)
          if rest.isEmpty then some (value minutes) else none
      let offset : Int := value hours * 60 + minutes
      return some (if sign = '-' then -offset else offset)
    else none

def time? (text : List Char) : Option ClockTime := do
  let (hour, rest) ← digits 1 2 text
  let (minute, rest) ← digits 2 2 (← mark ':' rest)
  let (second, rest) ← digits 2 2 (← mark ':' rest)
  let fraction := match rest with
    | '.' :: rest => rest.takeWhile Char.isDigit
    | _ => []
  let rest := match rest with
    | '.' :: rest => rest.dropWhile Char.isDigit
    | rest => rest
  return ⟨value hour, value minute, value second, fraction, ← zone? rest⟩

-- Reads a date, and a time after a letter or blanks. Tells whether month and day have two digits.
def read? (text : List Char) : Option (Moment × Bool) := do
  let (year, rest) ← digits 4 4 text
  let (month, rest) ← digits 1 2 (← mark '-' rest)
  let (day, rest) ← digits 1 2 (← mark '-' rest)
  let full := month.length = 2 && day.length = 2
  let time ← match rest with
    | [] => some none
    | c :: after =>
      if c = 'T' || c = 't' then (time? after).map some
      else if isGap c then (time? (skipGap after)).map some
      else none
  return (⟨value year, value month, value day, time⟩, full)

-- Whether a plain scalar is a moment: a date without a time has all its digits.
def isPlain (text : List Char) : Bool :=
  match read? text with
  | some (moment, full) => full || moment.time.isSome
  | none => false

def isLeap (year : Nat) : Bool :=
  year % 4 = 0 && (year % 100 ≠ 0 || year % 400 = 0)

def daysIn (year month : Nat) : Nat :=
  if month = 2 then (if isLeap year then 29 else 28)
  else if month = 4 || month = 6 || month = 9 || month = 11 then 30
  else 31

def checkOffset (minutes : Int) : Except MomentIssue Unit :=
  if -1440 < minutes && minutes < 1440 then .ok ()
  else .error (.offset (minutes.fdiv 1440) ((minutes.fmod 1440).toNat * 60))

def checkDate (moment : Moment) : Except MomentIssue Unit :=
  if moment.year = 0 then .error .year
  else if moment.month = 0 || 12 < moment.month then .error .month
  else if moment.day = 0 || daysIn moment.year moment.month < moment.day then .error .day
  else .ok ()

def checkTime (time : ClockTime) : Except MomentIssue Unit :=
  if 23 < time.hour then .error .hour
  else if 59 < time.minute then .error .minute
  else if 59 < time.second then .error .second
  else .ok ()

-- Whether a moment exists; the offset is judged first.
def check (moment : Moment) : Except MomentIssue Unit := do
  match moment.time with
  | none => moment.checkDate
  | some time =>
    time.offset.forM checkOffset
    moment.checkDate
    checkTime time

end Moment

end RecordPattern.Yaml
