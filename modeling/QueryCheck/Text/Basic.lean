/-!
# Texts as lists of characters

Classes of characters are lists of closed ranges of code points. Texts are ordered by the codes of their
characters. A reader takes a value off the front of a text and leaves what follows it, or refuses the text.
-/

namespace QueryCheck.Text

abbrev CharRange := Nat × Nat

def inRanges (ranges : List CharRange) (c : Char) : Bool :=
  ranges.any fun range => decide (range.1 ≤ c.toNat) && decide (c.toNat ≤ range.2)

def order (a b : String) : Ordering :=
  List.compareLex compare (a.toList.map Char.toNat) (b.toList.map Char.toNat)

abbrev Reader (α : Type) := List Char → Option (α × List Char)

def afterWord (word : List Char) (text : List Char) : Option (List Char) :=
  if text.take word.length = word then some (text.drop word.length) else none

/-! ## Blanks -/

/-- The characters with the property `White_Space`. -/
def isWhitespace (c : Char) : Bool :=
  let code := c.toNat
  decide (9 ≤ code ∧ code ≤ 13) || code == 0x20 || code == 0x85 || code == 0xA0 ||
    code == 0x1680 || decide (0x2000 ≤ code ∧ code ≤ 0x200A) || code == 0x2028 ||
    code == 0x2029 || code == 0x202F || code == 0x205F || code == 0x3000

def trimStart (text : List Char) : List Char :=
  text.dropWhile isWhitespace

def trimEnd (text : List Char) : List Char :=
  (text.reverse.dropWhile isWhitespace).reverse

def trim (text : List Char) : List Char :=
  trimEnd (trimStart text)

end QueryCheck.Text
