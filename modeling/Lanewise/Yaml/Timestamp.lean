/-!
# Timestamps

A plain scalar that is a date, with or without a time of day, is not a number. Dates are written
`2001-12-14` with months and days of one or two digits; a time follows a `T` and ends in a zone, or
follows spaces and has none.
-/

namespace Lanewise.Yaml

def shortNumber? : List Char → Option (Nat × List Char)
  | a :: b :: rest =>
    if a.isDigit then
      if b.isDigit then some (10 * (a.toNat - '0'.toNat) + (b.toNat - '0'.toNat), rest)
      else some (a.toNat - '0'.toNat, b :: rest)
    else none
  | [a] => if a.isDigit then some (a.toNat - '0'.toNat, []) else none
  | [] => none

def twoDigits? : List Char → Option (Nat × List Char)
  | a :: b :: rest =>
    if a.isDigit && b.isDigit then
      some (10 * (a.toNat - '0'.toNat) + (b.toNat - '0'.toNat), rest)
    else none
  | _ => none

def expect? (c : Char) : List Char → Option (List Char)
  | x :: rest => if x == c then some rest else none
  | [] => none

def isLeapYear (year : Nat) : Bool := year % 4 == 0 && (year % 100 != 0 || year % 400 == 0)

def daysIn (month year : Nat) : Nat :=
  match month with
  | 2 => if isLeapYear year then 29 else 28
  | 4 | 6 | 9 | 11 => 30
  | _ => 31

def date? (cs : List Char) : Option (List Char) := do
  let digits := cs.takeWhile Char.isDigit
  if digits.length != 4 then none
  let year := digits.foldl (fun n c => 10 * n + (c.toNat - '0'.toNat)) 0
  let (month, rest) ← shortNumber? (← expect? '-' (cs.drop 4))
  if month < 1 || 12 < month then none
  let (day, rest) ← shortNumber? (← expect? '-' rest)
  if day < 1 || daysIn month year < day then none
  some rest

def dropFraction : List Char → List Char
  | p :: d :: rest =>
    if (p == '.' || p == ',') && d.isDigit then rest.dropWhile Char.isDigit else p :: d :: rest
  | rest => rest

def timeOfDay? (cs : List Char) : Option (List Char) := do
  let (hour, rest) ← shortNumber? cs
  if 24 ≤ hour then none
  let (minute, rest) ← shortNumber? (← expect? ':' rest)
  if 60 ≤ minute then none
  let (second, rest) ← shortNumber? (← expect? ':' rest)
  if 60 ≤ second then none
  some (dropFraction rest)

def isZone : List Char → Bool
  | ['Z'] => true
  | sign :: rest =>
    (sign == '+' || sign == '-') &&
      (match twoDigits? rest with
      | some (hours, ':' :: rest) =>
        match twoDigits? rest with
        | some (minutes, []) => hours ≤ 24 && minutes ≤ 60
        | _ => false
      | _ => false)
  | [] => false

def isTimestamp (text : String) : Bool :=
  match date? text.toList with
  | none => false
  | some [] => true
  | some (c :: rest) =>
    if c == 'T' || c == 't' then (timeOfDay? rest).any isZone
    else if c == ' ' then timeOfDay? (rest.dropWhile (· == ' ')) == some []
    else false

end Lanewise.Yaml
