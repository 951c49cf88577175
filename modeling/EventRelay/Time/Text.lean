import EventRelay.Text.Blank
import EventRelay.Text.Numeral
import EventRelay.Time.Calendar
import EventRelay.Time.Timestamp

/-!
# Timestamps in text

Writing is in one form: date, `T`, time, fraction, zone. A year outside 0 to
9999 carries its sign, and a leap second is second 60. Reading is more
liberal: blanks before and between the parts, one-digit fields, `t` or a
space between date and time, longer fractions, and any offset below a day.
-/

set_option autoImplicit false

namespace EventRelay.Timestamp

open EventRelay.Time EventRelay.Text

/-! ## Writing -/

def yearDigits (year : Int) : List Char :=
  if 0 ≤ year ∧ year ≤ 9999 then paddedDigits 4 year.toNat
  else (if year < 0 then '-' else '+') :: paddedDigits 4 year.natAbs

def fractionDigits (width nanos : Nat) : List Char :=
  if width = 0 then [] else '.' :: paddedDigits width (nanos / Nat.pow 10 (9 - width))

/-- The fewest digits, in groups of three, that show a fraction of a second exactly. -/
def exactWidth (nanos : Nat) : Nat :=
  if nanos = 0 then 0
  else if nanos % 1000000 = 0 then 3
  else if nanos % 1000 = 0 then 6
  else 9

def isLeap (t : Timestamp) : Bool := nanosPerSecond ≤ t.nanos

def fraction (t : Timestamp) : Nat := t.nanos % nanosPerSecond

def clockDigits (t : Timestamp) (width : Nat) : List Char :=
  let date := Date.ofDayNumber (t.seconds / 86400)
  let inDay := (t.seconds % 86400).toNat
  let second := inDay % 60 + (if t.isLeap then 1 else 0)
  yearDigits date.year ++ '-' :: paddedDigits 2 date.month.toNat ++
    '-' :: paddedDigits 2 date.day.toNat ++ 'T' :: paddedDigits 2 (inDay / 3600) ++
    ':' :: paddedDigits 2 (inDay / 60 % 60) ++ ':' :: paddedDigits 2 second ++
    fractionDigits width t.fraction

def text (t : Timestamp) : String :=
  String.ofList (t.clockDigits (exactWidth t.fraction) ++ ['Z'])

def zonedText (t : Timestamp) : String :=
  String.ofList (t.clockDigits (exactWidth t.fraction) ++ ['+', '0', '0', ':', '0', '0'])

def nanosText (t : Timestamp) : String := String.ofList (t.clockDigits 9 ++ ['Z'])

/-! ## Reading -/

def skipBlanks (cs : List Char) : List Char := cs.dropWhile isBlank

def valueOf (ds : List Char) : Nat := ds.foldl (fun n c => n * 10 + digitValue c) 0

def readNumeral (limit : Nat) (cs : List Char) : Option (Nat × List Char) :=
  match (cs.take limit).takeWhile isDigit with
  | [] => none
  | ds => some (valueOf ds, cs.drop ds.length)

/-- A year of up to four digits, or a signed one of any length. -/
def readYear (cs : List Char) : Option (Int × List Char) :=
  match skipBlanks cs with
  | '-' :: rest => (readNumeral rest.length rest).map fun r => (-(r.1 : Int), r.2)
  | '+' :: rest => (readNumeral rest.length rest).map fun r => ((r.1 : Int), r.2)
  | rest => (readNumeral 4 rest).map fun r => ((r.1 : Int), r.2)

def readField (least most : Nat) (cs : List Char) : Option (Nat × List Char) :=
  match readNumeral 2 (skipBlanks cs) with
  | some (n, rest) => if least ≤ n ∧ n ≤ most then some (n, rest) else none
  | none => none

def readMark (mark : Char) (cs : List Char) : Option (List Char) :=
  match skipBlanks cs with
  | c :: rest => if c = mark then some rest else none
  | [] => none

/-- Nanoseconds after a point; digits past the ninth do not count. -/
def readFraction : List Char → Option (Nat × List Char)
  | '.' :: rest =>
    match (rest.take 9).takeWhile isDigit with
    | [] => none
    | ds => some (valueOf ds * Nat.pow 10 (9 - ds.length), rest.dropWhile isDigit)
  | cs => some (0, cs)

def readOffset (cs : List Char) : Option (Nat × List Char) :=
  match cs with
  | h :: h' :: rest =>
    if isDigit h ∧ isDigit h' then
      match rest.dropWhile fun c => c == ':' || isBlank c with
      | m :: m' :: rest =>
        if isDigit m ∧ isDigit m' ∧ m < '6' then
          some (valueOf [h, h'] * 60 + valueOf [m, m'], rest)
        else none
      | _ => none
    else none
  | _ => none

/-- The seconds by which the zone at the end of a text is ahead. -/
def readZone (cs : List Char) : Option Int :=
  match cs with
  | [] => none
  | c :: rest =>
    if lowerAscii (String.ofList (cs.take 3)) = "utc" then
      if cs.length = 3 then some 0 else none
    else if c = 'Z' ∨ c = 'z' then
      if rest.isEmpty then some 0 else none
    else if c = '+' ∨ c = '-' ∨ c.toNat = 0x2212 then
      match readOffset rest with
      | some (minutes, []) =>
        if minutes < 1440 then
          some (if c = '+' then (minutes * 60 : Nat) else -((minutes * 60 : Nat) : Int))
        else none
      | _ => none
    else none

def readDate (cs : List Char) : Option (Date × List Char) := do
  let (year, cs) ← readYear cs
  let cs ← readMark '-' cs
  let (month, cs) ← readField 1 12 cs
  let cs ← readMark '-' cs
  let (day, cs) ← readField 1 31 cs
  let date : Date := ⟨year, month, day⟩
  if -262143 ≤ year ∧ year ≤ 262142 ∧ date.isReal then some (date, cs) else none

def readClock (cs : List Char) : Option (Nat × Nat × List Char) := do
  let (hour, cs) ← readField 0 23 cs
  let cs ← readMark ':' cs
  let (minute, cs) ← readField 0 59 cs
  let cs ← readMark ':' cs
  let (second, cs) ← readField 0 60 cs
  let (nanos, cs) ← readFraction cs
  let leap := if second = 60 then 1 else 0
  some (hour * 3600 + minute * 60 + second - leap, nanos + leap * nanosPerSecond, cs)

def readSeparator : List Char → Option (List Char)
  | c :: rest => if c = 't' ∨ c = 'T' ∨ c = ' ' then some rest else none
  | [] => none

def read (cs : List Char) : Option Timestamp := do
  let (date, cs) ← readDate cs
  let cs ← readSeparator cs
  let (second, nanos, cs) ← readClock cs
  let ahead ← readZone (skipBlanks cs)
  make? (date.dayNumber * 86400 + second - ahead) nanos

def ofText? (s : String) : Option Timestamp := read s.toList

end EventRelay.Timestamp
