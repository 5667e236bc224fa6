import Lanewise.Text.Printable

/-!
# Quoted text

A text between double quotes in which every character that does not print is written as an escape,
so the quoted form is one line of printable characters.
-/

namespace Lanewise.Text

def hexDigits (width n : Nat) : List Char :=
  let digits := Nat.toDigits 16 n
  List.replicate (width - digits.length) '0' ++ digits

def shortEscape? (c : Char) : Option Char :=
  match c.toNat with
  | 0x07 => some 'a'
  | 0x08 => some 'b'
  | 0x0c => some 'f'
  | 0x0a => some 'n'
  | 0x0d => some 'r'
  | 0x09 => some 't'
  | 0x0b => some 'v'
  | _ => none

def quotedChar (c : Char) : List Char :=
  if c == '"' || c == '\\' then ['\\', c]
  else if isPrintable c then [c]
  else
    match shortEscape? c with
    | some letter => ['\\', letter]
    | none =>
      let n := c.toNat
      if n < 0x20 || n == 0x7f then '\\' :: 'x' :: hexDigits 2 n
      else if n < 0x10000 then '\\' :: 'u' :: hexDigits 4 n
      else '\\' :: 'U' :: hexDigits 8 n

def quoted (s : String) : String :=
  String.ofList ('"' :: s.toList.flatMap quotedChar ++ ['"'])

end Lanewise.Text
