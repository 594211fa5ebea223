import TypeCatalog.Text.CodePoints

/-!
Blank characters, which are those of the Unicode property White_Space, and trimming.
-/

namespace TypeCatalog.Text

/-- The ranges of white-space code points. -/
def blankRanges : List CodePoints.Range := [
  (9, 13), (32, 32), (133, 133), (160, 160), (5760, 5760), (8192, 8202), (8232, 8233),
  (8239, 8239), (8287, 8287), (12288, 12288)]

/-- Whether `c` is white space. -/
def isBlank (c : Char) : Bool := CodePoints.covers blankRanges c.toNat

/-- The text without the blanks at its two ends. -/
def trim (cs : List Char) : List Char :=
  ((cs.dropWhile isBlank).reverse.dropWhile isBlank).reverse

/-- Whether there is nothing but blanks. -/
def allBlank (cs : List Char) : Bool := cs.all isBlank

/-- The text without any of its blanks. -/
def removeBlanks (cs : List Char) : List Char := cs.filter fun c => !isBlank c

end TypeCatalog.Text
