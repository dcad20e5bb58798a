/-!
# Letter case

Names, keywords and markers are compared without regard to the case of ASCII letters; every
other character stands for itself. Inside a date literal two further characters fold to ASCII
letters, the long s and the Kelvin sign.
-/

namespace ScalarWire.Text

def lower (s : List Char) : List Char :=
  s.map Char.toLower

def upper (s : List Char) : List Char :=
  s.map Char.toUpper

/-- Equality up to the case of ASCII letters. -/
def sameFold (s t : List Char) : Bool :=
  lower s == lower t

/-- The characters that equal an ASCII letter when case is folded: the letters themselves, the
long s and the Kelvin sign. -/
def foldsToLetter (c : Char) : Bool :=
  c.isAlpha || c == '\u017F' || c == '\u212A'

/-- The lower-case ASCII letter that a character folds to, or the character itself. -/
def foldLetter (c : Char) : Char :=
  if c = '\u017F' then 's' else if c = '\u212A' then 'k' else c.toLower

end ScalarWire.Text
