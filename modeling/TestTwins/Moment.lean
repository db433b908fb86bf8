import TestTwins.Blank
import TestTwins.Decimal

/-! Moments in universal time, to the nanosecond. Their text is a date and a time with a `Z` at the end;
reading also takes other offsets. -/

namespace TestTwins

structure Moment where
  seconds : Int
  /-- Nanoseconds after that; a leap second has more than a second of them. -/
  nanos : Nat
  deriving DecidableEq, Repr

namespace Moment

def epoch : Moment := ⟨0, 0⟩

instance : Inhabited Moment := ⟨epoch⟩

def le (a b : Moment) : Bool := a.seconds < b.seconds || (a.seconds == b.seconds && a.nanos ≤ b.nanos)

def secondNanos : Nat := 1000000000

def ofNanos (n : Int) : Moment := ⟨n / secondNanos, (n % secondNanos).toNat⟩

structure Date where
  year : Int
  month : Nat
  day : Nat
  deriving DecidableEq, Repr

/-- Days since the start of 1970. Years are counted from March, so that a leap day is the last. -/
def Date.days (d : Date) : Int :=
  let year := if d.month ≤ 2 then d.year - 1 else d.year
  let era := year / 400
  let yearOfEra := year % 400
  let month := (d.month + 9) % 12
  let dayOfYear := (153 * month + 2) / 5 + d.day - 1
  era * 146097 + yearOfEra * 365 + yearOfEra / 4 - yearOfEra / 100 + dayOfYear - 719468

def Date.ofDays (days : Int) : Date :=
  let shifted := days + 719468
  let era := shifted / 146097
  let dayOfEra := (shifted % 146097).toNat
  let yearOfEra := (dayOfEra - dayOfEra / 1460 + dayOfEra / 36524 - dayOfEra / 146096) / 365
  let dayOfYear := dayOfEra - (365 * yearOfEra + yearOfEra / 4 - yearOfEra / 100)
  let month := (5 * dayOfYear + 2) / 153
  let day := dayOfYear - (153 * month + 2) / 5 + 1
  let month := if month < 10 then month + 3 else month - 9
  ⟨yearOfEra + era * 400 + (if month ≤ 2 then 1 else 0), month, day⟩

def isLeap (year : Int) : Bool := year % 4 == 0 && (year % 100 != 0 || year % 400 == 0)

def daysIn (year : Int) (month : Nat) : Nat :=
  if month == 2 then if isLeap year then 29 else 28
  else if month == 4 || month == 6 || month == 9 || month == 11 then 30
  else 31

def Date.isValid (d : Date) : Bool :=
  1 ≤ d.month && d.month ≤ 12 && 1 ≤ d.day && d.day ≤ daysIn d.year d.month

def daySeconds : Int := 86400

def earliest : Int := Date.days ⟨-262143, 1, 1⟩ * daySeconds

def latest : Int := Date.days ⟨262143, 1, 1⟩ * daySeconds - 1

def daysBefore? (m : Moment) (days : Int) : Option Moment :=
  let seconds := m.seconds - days * daySeconds
  if earliest ≤ seconds ∧ seconds ≤ latest then some { m with seconds := seconds } else none

def padded (width n : Nat) : String :=
  let ds := Nat.toDigits 10 n
  String.ofList (List.replicate (width - ds.length) '0' ++ ds)

def yearText (year : Int) : String :=
  if 0 ≤ year ∧ year ≤ 9999 then padded 4 year.toNat
  else (if year < 0 then "-" else "+") ++ padded 4 year.natAbs

def fractionText (nanos : Nat) : String :=
  if nanos == 0 then ""
  else if nanos % 1000000 == 0 then "." ++ padded 3 (nanos / 1000000)
  else if nanos % 1000 == 0 then "." ++ padded 6 (nanos / 1000)
  else "." ++ padded 9 nanos

def text (m : Moment) : String :=
  let date := Date.ofDays (m.seconds / daySeconds)
  let time := (m.seconds % daySeconds).toNat
  let leap := secondNanos ≤ m.nanos
  let second := time % 60 + (if leap then 1 else 0)
  let nanos := if leap then m.nanos - secondNanos else m.nanos
  yearText date.year ++ "-" ++ padded 2 date.month ++ "-" ++ padded 2 date.day ++ "T" ++
    padded 2 (time / 3600) ++ ":" ++ padded 2 (time / 60 % 60) ++ ":" ++ padded 2 second ++
    fractionText nanos ++ "Z"

namespace Reader

/-- A strict text has no blanks and all digits; a loose one may leave digits out. -/
def skipBlank (strict : Bool) (cs : List Char) : List Char :=
  if strict then cs else cs.dropWhile isBlank

def number (strict : Bool) (width : Nat) (cs : List Char) : Option (Nat × List Char) :=
  let cs := skipBlank strict cs
  let ds := (cs.take width).takeWhile Char.isDigit
  if ds.isEmpty || (strict && ds.length != width) then none
  else some (Decimal.ofDigits ds, cs.drop ds.length)

def year (strict : Bool) (cs : List Char) : Option (Int × List Char) :=
  let long (sign : Int) (rest : List Char) : Option (Int × List Char) :=
    let ds := rest.takeWhile Char.isDigit
    if ds.isEmpty then none else some (sign * Decimal.ofDigits ds, rest.drop ds.length)
  if strict then (number true 4 cs).map fun (n, rest) => ((n : Int), rest)
  else
    match skipBlank false cs with
    | '-' :: rest => long (-1) rest
    | '+' :: rest => long 1 rest
    | cs => (number false 4 cs).map fun (n, rest) => ((n : Int), rest)

def mark (strict : Bool) (c : Char) (cs : List Char) : Option (List Char) :=
  match skipBlank strict cs with
  | d :: rest => if c == d then some rest else none
  | [] => none

def fraction (cs : List Char) : Option (Nat × List Char) :=
  match cs with
  | '.' :: rest =>
    let ds := rest.takeWhile Char.isDigit
    let counted := ds.take 9
    if ds.isEmpty then none
    else some (Decimal.ofDigits counted * Nat.pow 10 (9 - counted.length), rest.drop ds.length)
  | _ => some (0, cs)

def separators (strict : Bool) (cs : List Char) : Option (List Char) :=
  if strict then mark true ':' cs else some (cs.dropWhile fun c => c == ':' || isBlank c)

def twoDigits : List Char → Option (Nat × List Char)
  | a :: b :: rest =>
    if a.isDigit && b.isDigit then some (Decimal.ofDigits [a, b], rest) else none
  | _ => none

def distance (strict : Bool) (cs : List Char) : Option (Nat × List Char) := do
  let (hours, cs) ← twoDigits cs
  let (minutes, cs) ← twoDigits (← separators strict cs)
  if minutes ≤ 59 && hours ≤ 23 then some (hours * 3600 + minutes * 60, cs) else none

def isUtc : List Char → Bool
  | a :: b :: c :: _ => a.toUpper == 'U' && b.toUpper == 'T' && c.toUpper == 'C'
  | _ => false

def offset (strict : Bool) (cs : List Char) : Option (Int × List Char) :=
  let cs := skipBlank strict cs
  if !strict && isUtc cs then some (0, cs.drop 3)
  else
    match cs with
    | [] => none
    | c :: rest =>
      if c == 'Z' || c == 'z' then some (0, rest)
      else if c == '+' then (distance strict rest).map fun (n, rest) => ((n : Int), rest)
      else if c == '-' || c.toNat == 0x2212 then
        (distance strict rest).map fun (n, rest) => (-(n : Int), rest)
      else none

def separator : List Char → Option (List Char)
  | c :: rest => if c == 'T' || c == 't' || c == ' ' then some rest else none
  | [] => none

def moment (strict : Bool) (cs : List Char) : Option Moment := do
  let (year, cs) ← year strict cs
  let (month, cs) ← number strict 2 (← mark strict '-' cs)
  let (day, cs) ← number strict 2 (← mark strict '-' cs)
  let (hour, cs) ← number strict 2 (← separator cs)
  let (minute, cs) ← number strict 2 (← mark strict ':' cs)
  let (second, cs) ← number strict 2 (← mark strict ':' cs)
  let (nanos, cs) ← fraction cs
  let (offset, cs) ← offset strict cs
  let date : Date := ⟨year, month, day⟩
  if !(skipBlank strict cs).isEmpty || !date.isValid || 23 < hour || 59 < minute || 60 < second then
    none
  else
    let leap := second == 60
    let time : Int := hour * 3600 + minute * 60 + (if leap then 59 else second)
    let seconds := date.days * daySeconds + time - offset
    if earliest ≤ seconds && seconds ≤ latest then
      some ⟨seconds, if leap then nanos + secondNanos else nanos⟩
    else none

end Reader

def ofText? (text : String) : Option Moment := Reader.moment true text.toList

def ofLooseText? (text : String) : Option Moment := Reader.moment false text.toList

end Moment

end TestTwins
