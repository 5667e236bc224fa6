/-!
# Blank characters

The characters that count as blank everywhere text is trimmed or split: those with the Unicode
property White_Space. The set is larger than the blanks of ASCII, so a name padded with a no-break
space is trimmed as well.
-/

namespace Lanewise.Text

def isBlank (c : Char) : Bool :=
  let n := c.toNat
  (0x09 ≤ n && n ≤ 0x0d) || n == 0x20 || n == 0x85 || n == 0xa0 || n == 0x1680 ||
    (0x2000 ≤ n && n ≤ 0x200a) || n == 0x2028 || n == 0x2029 || n == 0x202f || n == 0x205f ||
    n == 0x3000

def trimBlanks (cs : List Char) : List Char :=
  ((cs.dropWhile isBlank).reverse.dropWhile isBlank).reverse

def trim (s : String) : String := String.ofList (trimBlanks s.toList)

def wordsFrom : List Char → List Char → List (List Char)
  | [], word => if word.isEmpty then [] else [word.reverse]
  | c :: cs, word =>
    if isBlank c then
      if word.isEmpty then wordsFrom cs [] else word.reverse :: wordsFrom cs []
    else wordsFrom cs (c :: word)

/-- The maximal runs of characters that are not blank. -/
def words (s : String) : List String := (wordsFrom s.toList []).map String.ofList

theorem length_trimBlanks_le (cs : List Char) : (trimBlanks cs).length ≤ cs.length := by
  have dropped (l : List Char) : (l.dropWhile isBlank).length ≤ l.length :=
    (List.dropWhile_sublist isBlank).length_le
  have second := dropped (cs.dropWhile isBlank).reverse
  have first := dropped cs
  simp only [trimBlanks, List.length_reverse] at second ⊢
  omega

end Lanewise.Text
