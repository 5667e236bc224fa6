import Lanewise.Yaml.Cursor

/-!
# Folded lines

In plain and quoted scalars a single line break between words is a space, and of several the first
is dropped. Blanks around a break are dropped too. The text is collected last character first.
-/

namespace Lanewise.Yaml

structure Folding where
  /-- What is read so far, last character first. -/
  text : List Char := []
  /-- Blanks that count only if more text follows on the line, last first. -/
  blanks : List Char := []
  firstBreak : List Char := []
  moreBreaks : List Char := []
  broken : Bool := false
  deriving Repr, Inhabited

namespace Folding

/-- Ends the current gap: what it stands for becomes part of the text. -/
def join (f : Folding) : Folding :=
  if f.broken then
    let gap :=
      if f.firstBreak == ['\n'] then if f.moreBreaks.isEmpty then [' '] else f.moreBreaks
      else f.moreBreaks ++ f.firstBreak
    { text := gap ++ f.text }
  else { text := f.blanks ++ f.text }

def push (f : Folding) (c : Char) : Folding := { f with text := c :: f.text }

/-- A blank of the gap; after a break it is indentation. -/
def blank (f : Folding) (c : Char) : Folding :=
  if f.broken then f else { f with blanks := c :: f.blanks }

def lineBreak (f : Folding) (form : List Char) : Folding :=
  if f.broken then { f with moreBreaks := form.reverse ++ f.moreBreaks }
  else { f with blanks := [], firstBreak := form, broken := true }

def escapedBreak (f : Folding) : Folding := { f with broken := true }

def result (f : Folding) : String := String.ofList f.text.reverse

end Folding

end Lanewise.Yaml
