/-
  Reading dates from text.

  A text is a date with four digits for the year, one character, a time of day to the second, an
  optional fraction and an offset: `Z` or a sign with hours and minutes.  Nothing may be missing
  and nothing may follow.  Of the fraction nine digits count.  A sixtieth second is read as the end
  of the second before, and only where one may be put in: at the end of a month, in the time
  without offset.  The moment is cut off to milliseconds toward the beginning of 1970.
-/
import DocStore.Text.Whole
import DocStore.Value.Calendar

namespace DocStore.Calendar

/-- A number of exactly `width` digits at the front, and what follows. -/
def takeNumber? (width : Nat) (cs : List Char) : Option (Nat × List Char) :=
  if width ≤ cs.length then (Text.digits? 0 (cs.take width)).map (·, cs.drop width) else none

/-- What follows a character at the front. -/
def skip? (mark : Char) : List Char → Option (List Char)
  | c :: rest => if c = mark then some rest else none
  | [] => none

/-- A day, as year, month and day of the month, and what follows. -/
def takeDay? (cs : List Char) : Option (Int × List Char) := do
  let (year, cs) ← takeNumber? 4 cs
  let cs ← skip? '-' cs
  let (month, cs) ← takeNumber? 2 cs
  let cs ← skip? '-' cs
  let (day, cs) ← takeNumber? 2 cs
  if 1 ≤ month ∧ month ≤ 12 ∧ 1 ≤ day ∧ day ≤ daysInMonth year month then
    some (dayOfDate year month day, cs)
  else none

/-- Hours and minutes as minutes, and what follows. -/
def takeMinutes? (cs : List Char) : Option (Nat × List Char) := do
  let (hour, cs) ← takeNumber? 2 cs
  let cs ← skip? ':' cs
  let (minute, cs) ← takeNumber? 2 cs
  if hour ≤ 23 ∧ minute ≤ 59 then some (60 * hour + minute, cs) else none

/-- The nanoseconds of a fraction of a second, and what follows. -/
def takeFraction? : List Char → Option (Nat × List Char)
  | '.' :: cs =>
      let digits := cs.takeWhile Char.isDigit
      let nine := (digits ++ List.replicate 9 '0').take 9
      if digits.isEmpty then none
      else (Text.digits? 0 nine).map (·, cs.dropWhile Char.isDigit)
  | cs => some (0, cs)

/-- The minutes of an offset, if the text is one and no more. -/
def offset? : List Char → Option Int
  | ['Z'] => some 0
  | ['z'] => some 0
  | '+' :: cs => (takeMinutes? cs).bind fun (n, rest) => if rest.isEmpty then some n else none
  | '-' :: cs => (takeMinutes? cs).bind fun (n, rest) => if rest.isEmpty then some (-n) else none
  | _ => none

/-- Whether a second, counted from the beginning of 1970, is the last of a month. -/
def endsMonth (second : Int) : Bool :=
  let next := second + 1
  decide (next % 86400 = 0) && (dateOfDay (next / 86400)).2.2 == 1

/-- The milliseconds of a second and nanoseconds behind it, cut off toward zero. -/
def cutOff (second : Int) (nanoseconds : Nat) : Int :=
  (second * 1000000000 + nanoseconds).tdiv 1000000

/-- The moment that a text says, in milliseconds. -/
def ofText? (text : String) : Option Int := do
  let (day, cs) ← takeDay? text.toList
  let separator :: cs := cs | none
  let (minutes, cs) ← takeMinutes? cs
  let cs ← skip? ':' cs
  let (second, cs) ← takeNumber? 2 cs
  let (nanoseconds, cs) ← takeFraction? cs
  let offset ← offset? cs
  let minute := day * 86400 + 60 * (minutes - offset)
  if 127 < separator.toNat ∨ 60 < second then none
  else if second < 60 then some (cutOff (minute + second) nanoseconds)
  else if endsMonth (minute + 59) then some (cutOff (minute + 59) 999999999)
  else none

end DocStore.Calendar
