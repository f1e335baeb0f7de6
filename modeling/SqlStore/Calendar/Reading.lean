import SqlStore.Calendar.Instant
import SqlStore.Text.Basic

namespace SqlStore.Calendar

open SqlStore.Decimal (digitsValue)
open SqlStore.Text (trim trimLeft)

def takeDigits? (n : Nat) (cs : List Char) : Option (Nat × List Char) :=
  let ds := cs.take n
  if ds.length = n && ds.all Char.isDigit then some (digitsValue ds, cs.drop n) else none

def takeNumber? (most : Nat) (cs : List Char) : Option (Nat × List Char) :=
  let ds := ((trimLeft cs).take most).takeWhile Char.isDigit
  if ds.isEmpty then none else some (digitsValue ds, (trimLeft cs).drop ds.length)

def takeChar? (c : Char) : List Char → Option (List Char)
  | d :: cs => if c = d then some cs else none
  | [] => none

def timeOfDay? (hour minute second nanos : Nat) : Option (Nat × Nat) :=
  if hour ≤ 23 && minute ≤ 59 && second ≤ 60 then
    if second = 60 then some (hour * 3600 + minute * 60 + 59, 1000000000 + nanos)
    else some (hour * 3600 + minute * 60 + second, nanos)
  else none

def instantAt? (date : Civil) (time : Nat × Nat) (offset : Int) : Option Instant :=
  if date.isValid then
    some ⟨date.dayNumber * secondsPerDay + time.1 - offset, time.2⟩
  else none

def takeFraction? : List Char → Option (Nat × List Char)
  | '.' :: cs =>
    let ds := cs.takeWhile Char.isDigit
    if ds.isEmpty then none
    else
      let nine := ds.take 9
      some (digitsValue nine * Nat.pow 10 (9 - nine.length), cs.dropWhile Char.isDigit)
  | cs => some (0, cs)

def readOffset? : List Char → Option Int
  | ['Z'] => some 0
  | ['z'] => some 0
  | c :: cs => do
    let sign : Int ← if c = '+' then some 1 else if c = '-' || c = '\u2212' then some (-1) else none
    let (hours, cs) ← takeDigits? 2 cs
    let cs ← takeChar? ':' cs
    let (minutes, cs) ← takeDigits? 2 cs
    if cs.isEmpty && hours ≤ 23 && minutes ≤ 59 then
      return sign * (hours * 3600 + minutes * 60)
    else none
  | [] => none

def readStamp? (cs : List Char) : Option Instant := do
  let (year, cs) ← takeDigits? 4 cs
  let cs ← takeChar? '-' cs
  let (month, cs) ← takeDigits? 2 cs
  let cs ← takeChar? '-' cs
  let (day, cs) ← takeDigits? 2 cs
  let cs ← takeChar? 'T' cs <|> takeChar? 't' cs <|> takeChar? ' ' cs
  let (hour, cs) ← takeDigits? 2 cs
  let cs ← takeChar? ':' cs
  let (minute, cs) ← takeDigits? 2 cs
  let cs ← takeChar? ':' cs
  let (second, cs) ← takeDigits? 2 cs
  let (nanos, cs) ← takeFraction? cs
  let offset ← readOffset? cs
  instantAt? ⟨year, month, day⟩ (← timeOfDay? hour minute second nanos) offset

def takeYear? (cs : List Char) : Option (Int × List Char) :=
  match trimLeft cs with
  | '-' :: ds => signed (-1) ds
  | '+' :: ds => signed 1 ds
  | ds => (takeNumber? 4 ds).map fun (n, rest) => ((n : Int), rest)
where
  signed (sign : Int) (cs : List Char) : Option (Int × List Char) :=
    let ds := cs.takeWhile Char.isDigit
    if ds.isEmpty then none else some (sign * digitsValue ds, cs.drop ds.length)

def takeDate? (cs : List Char) : Option (Civil × List Char) := do
  let (year, cs) ← takeYear? cs
  let cs ← takeChar? '-' cs
  let (month, cs) ← takeNumber? 2 cs
  let cs ← takeChar? '-' cs
  let (day, cs) ← takeNumber? 2 cs
  return (⟨year, month, day⟩, cs)

def readDateTime? (cs : List Char) : Option Instant := do
  let (date, cs) ← takeDate? cs
  let (hour, cs) ← takeNumber? 2 cs
  let cs ← takeChar? ':' cs
  let (minute, cs) ← takeNumber? 2 cs
  let cs ← takeChar? ':' cs
  let (second, cs) ← takeNumber? 2 cs
  if cs.isEmpty then instantAt? date (← timeOfDay? hour minute second 0) 0 else none

def readDate? (cs : List Char) : Option Instant := do
  let (date, cs) ← takeDate? cs
  if cs.isEmpty then instantAt? date (0, 0) 0 else none

def Instant.read? (text : String) : Option Instant :=
  let cs := trim text.toList
  readStamp? cs <|> readDateTime? cs <|> readDate? cs

end SqlStore.Calendar
