import Wordbridge.Text

/-!
# TOML dates and times

A moment is a date, a time of day, or both with an optional offset. Reading
one gives its text in one form: `T` between date and time, `Z` for the zero
offset, and no more than nine digits of a second, without zeros at the end.
-/

namespace Wordbridge.Toml

def decimal (digits : Text) : Nat :=
  digits.foldl (fun n d => 10 * n + (d.toNat - '0'.toNat)) 0

/-- The first `count` characters, if they are digits whose number lies between `least` and
`greatest`, and what follows them. -/
def digits? (count least greatest : Nat) (text : Text) : Option (Text × Text) :=
  let digits := text.take count
  if digits.length = count && digits.all Char.isDigit && least ≤ decimal digits &&
      decimal digits ≤ greatest
  then some (digits, text.drop count)
  else none

def daysInMonth (year month : Nat) : Nat :=
  match month with
  | 2 => if year % 4 = 0 && (year % 100 ≠ 0 || year % 400 = 0) then 29 else 28
  | 4 | 6 | 9 | 11 => 30
  | _ => 31

/-- A date `1979-05-27`. -/
def date? (text : Text) : Option (Text × Text) := do
  let (year, text) ← digits? 4 0 9999 text
  let text ← Text.after? ['-'] text
  let (month, text) ← digits? 2 1 12 text
  let text ← Text.after? ['-'] text
  let (day, text) ← digits? 2 1 (daysInMonth (decimal year) (decimal month)) text
  return (year ++ '-' :: month ++ '-' :: day, text)

def fraction? (text : Text) : Option (Text × Text) :=
  match text with
  | '.' :: text =>
    let digits := text.takeWhile Char.isDigit
    if digits = [] then none
    else
      let kept := ((digits.take 9).reverse.dropWhile (· = '0')).reverse
      some (if kept = [] then [] else '.' :: kept, text.drop digits.length)
  | text => some ([], text)

/-- A time of day `07:32:00.5`; a second may be a leap second. -/
def time? (text : Text) : Option (Text × Text) := do
  let (hour, text) ← digits? 2 0 23 text
  let text ← Text.after? [':'] text
  let (minute, text) ← digits? 2 0 59 text
  let text ← Text.after? [':'] text
  let (second, text) ← digits? 2 0 60 text
  let (fraction, text) ← fraction? text
  return (hour ++ ':' :: minute ++ ':' :: second ++ fraction, text)

/-- An offset from universal time: `Z` or `-07:30`. -/
def offset? (text : Text) : Option (Text × Text) :=
  match text with
  | [] => none
  | sign :: text =>
    if sign = 'Z' || sign = 'z' then some (['Z'], text)
    else if sign = '+' || sign = '-' then do
      let (hour, text) ← digits? 2 0 23 text
      let text ← Text.after? [':'] text
      let (minute, text) ← digits? 2 0 59 text
      -- A zero offset is shown without a minus sign.
      let sign := if decimal hour = 0 && decimal minute = 0 then '+' else sign
      return (sign :: hour ++ ':' :: minute, text)
    else none

/-- What may follow a date: nothing, or a time with or without an offset. -/
def behindDate? (date text : Text) : Option Text :=
  match text with
  | [] => some date
  | mark :: text =>
    if mark = 'T' || mark = 't' || mark = ' ' then do
      let (time, text) ← time? text
      if text = [] then return date ++ 'T' :: time
      else
        let (offset, text) ← offset? text
        if text = [] then return date ++ 'T' :: time ++ offset else none
    else none

def moment? (text : Text) : Option Text :=
  match date? text with
  | some (date, text) => behindDate? date text
  | none =>
    match time? text with
    | some (time, []) => some time
    | _ => none

end Wordbridge.Toml
