/-!
# Blank characters

Which characters count as blank, and the cuts made at them: removing blanks from the ends of a
text and splitting it into words. Blank means the White_Space property, far beyond ASCII.
-/

namespace ScalarWire.Text

/-- The twenty-five characters with the White_Space property. -/
def isBlank (c : Char) : Bool :=
  let n := c.toNat
  (9 ≤ n && n ≤ 13) || n == 0x20 || n == 0x85 || n == 0xA0 || n == 0x1680 ||
    (0x2000 ≤ n && n ≤ 0x200A) || n == 0x2028 || n == 0x2029 || n == 0x202F || n == 0x205F ||
    n == 0x3000

def trimStart (s : List Char) : List Char :=
  s.dropWhile isBlank

def trimEnd (s : List Char) : List Char :=
  (s.reverse.dropWhile isBlank).reverse

def trim (s : List Char) : List Char :=
  trimEnd (trimStart s)

def isBlankText (s : List Char) : Bool :=
  s.all isBlank

/-- Puts a character in front of the word being collected; a blank closes that word. -/
def gather (c : Char) : List Char × List (List Char) → List Char × List (List Char)
  | (word, done) =>
    if isBlank c then ([], if word = [] then done else word :: done) else (c :: word, done)

/-- The maximal runs of characters that are not blank. -/
def words (s : List Char) : List (List Char) :=
  match s.foldr gather ([], []) with
  | ([], done) => done
  | (word, done) => word :: done

end ScalarWire.Text
