import Lanewise.Decimal.Reading
import Lanewise.Yaml.Timestamp

/-!
# What plain scalars mean

A scalar without quotes and without a tag is null, a boolean, an integer, a float, a timestamp or,
if it is none of these, a string. The first character tells which of them to try.
-/

namespace Lanewise.Yaml

open Decimal (Binary64)

inductive Value
  | null
  | bool (b : Bool)
  /-- Any integer of 64 bits, with or without sign. -/
  | int (n : Int)
  | float (x : Binary64)
  | timestamp
  | string (s : String)
  deriving DecidableEq, Repr

namespace Value

def tag : Value → String
  | .null => "!!null"
  | .bool _ => "!!bool"
  | .int _ => "!!int"
  | .float _ => "!!float"
  | .timestamp => "!!timestamp"
  | .string _ => "!!str"

def word? : String → Option Value
  | "" | "~" | "null" | "Null" | "NULL" => some .null
  | "true" | "True" | "TRUE" => some (.bool true)
  | "false" | "False" | "FALSE" => some (.bool false)
  | ".nan" | ".NaN" | ".NAN" => some (.float .nan)
  | ".inf" | ".Inf" | ".INF" | "+.inf" | "+.Inf" | "+.INF" => some (.float (.infinity false))
  | "-.inf" | "-.Inf" | "-.INF" => some (.float (.infinity true))
  | _ => none

def baseDigit (c : Char) : Nat :=
  if '0' ≤ c && c ≤ '9' then c.toNat - '0'.toNat
  else if 'a' ≤ c && c ≤ 'f' then c.toNat - 'a'.toNat + 10
  else if 'A' ≤ c && c ≤ 'F' then c.toNat - 'A'.toNat + 10
  else 16

def inBase? (base : Nat) (digits : List Char) : Option Nat :=
  if digits.all fun c => baseDigit c < base then
    some (digits.foldl (fun n c => base * n + baseDigit c) 0)
  else none

/-- An integer without sign: the base is sixteen behind `0x`, two behind `0b`, eight behind `0o`
or `0`, and ten else. -/
def natural? (cs : List Char) : Option Nat :=
  match cs with
  | [] => none
  | '0' :: letter :: digit :: rest =>
    if letter == 'x' || letter == 'X' then inBase? 16 (digit :: rest)
    else if letter == 'b' || letter == 'B' then inBase? 2 (digit :: rest)
    else if letter == 'o' || letter == 'O' then inBase? 8 (digit :: rest)
    else inBase? 8 (letter :: digit :: rest)
  | '0' :: rest => inBase? 8 rest
  | digits => inBase? 10 digits

def digitsInBase? (base : Nat) (cs : List Char) : Option Nat :=
  if cs.isEmpty then none else inBase? base cs

def splitSign : List Char → Bool × List Char
  | '-' :: rest => (true, rest)
  | '+' :: rest => (false, rest)
  | rest => (false, rest)

def signed64? (negative : Bool) (n : Nat) : Option Int :=
  if negative then if n ≤ Nat.pow 2 63 then some (-(n : Int)) else none
  else if n < Nat.pow 2 63 then some n else none

def unsigned64? (n : Nat) : Option Int := if n < Nat.pow 2 64 then some n else none

def anyBase? (cs : List Char) : Option Int :=
  let (negative, body) := splitSign cs
  match (natural? body).bind (signed64? negative) with
  | some n => some n
  | none => (natural? cs).bind unsigned64?

/-- A sign may also stand behind the base. -/
def signBehindBase? (cs : List Char) : Option Int :=
  let signed (base : Nat) (cs : List Char) : Option Int :=
    let (negative, body) := splitSign cs
    (digitsInBase? base body).bind (signed64? negative)
  let unsigned (base : Nat) (cs : List Char) : Option Int :=
    (digitsInBase? base cs).bind unsigned64?
  match cs with
  | '0' :: 'b' :: rest => (signed 2 rest).or (unsigned 2 rest)
  | '-' :: '0' :: 'b' :: rest => signed 2 ('-' :: rest)
  | '0' :: 'o' :: rest => (signed 8 rest).or (unsigned 8 rest)
  | '-' :: '0' :: 'o' :: rest => signed 8 ('-' :: rest)
  | _ => none

/-- A number that starts with a digit or a sign. Underscores do not count. -/
def number? (cs : List Char) : Option Value :=
  let plain := cs.filter (· != '_')
  match anyBase? plain with
  | some n => some (.int n)
  | none =>
    match (Decimal.written? plain).bind Decimal.Written.value? with
    | some x => some (.float x)
    | none => (signBehindBase? plain).map .int

def startsString (c : Char) : Bool := !(c.isDigit || ("+-.yYnNtTfFoO~".toList.contains c))

/-- What a text means. Dates are looked for only if `dates` holds. -/
def ofText (dates : Bool) (text : String) : Value :=
  match text.toList with
  | [] => .null
  | c :: cs =>
    if startsString c then .string text
    else
      match word? text with
      | some v => v
      | none =>
        if c == '.' then
          match Decimal.read? (c :: cs) with
          | some x => .float x
          | none => .string text
        else if c.isDigit || c == '+' || c == '-' then
          if dates && isTimestamp text then .timestamp
          else (number? (c :: cs)).getD (.string text)
        else .string text

def standardTags : List String :=
  ["", "!!str", "!!bool", "!!int", "!!float", "!!null", "!!timestamp"]

/-- What a text means under a tag, or nothing if it does not fit the tag. The empty tag fits
everything, an integer fits the tag of floats, and under a tag that is not standard every text is
a string. -/
def ofTagged? (tag text : String) : Option Value :=
  if tag == "!!str" || !standardTags.contains tag then some (.string text)
  else
    let v := ofText (tag == "" || tag == "!!timestamp") text
    if tag == "" || tag == v.tag then some v
    else
      match v with
      | .int n =>
        if tag == "!!float" && n < Decimal.Binary64.intBound then some (.float (.ofInt n)) else none
      | _ => none

end Value

end Lanewise.Yaml
