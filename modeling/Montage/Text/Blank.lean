/-!
Blank characters, and text trimmed of them at both ends.
-/

namespace Montage.Text

/-- Code points of the characters that count as white space: the Unicode property of that name
and the four information separators. -/
def blanks : List Nat :=
  [9, 10, 11, 12, 13, 28, 29, 30, 31, 32, 133, 160, 5760, 8192, 8193, 8194, 8195, 8196, 8197,
   8198, 8199, 8200, 8201, 8202, 8232, 8233, 8239, 8287, 12288]

/-- A character that trimming removes. -/
def isBlank (character : Char) : Bool :=
  blanks.contains character.toNat

/-- The characters without the blanks they start with. -/
def trimLeft (text : List Char) : List Char :=
  text.dropWhile isBlank

/-- The characters without the blanks at either end. -/
def trimList (text : List Char) : List Char :=
  (trimLeft (trimLeft text).reverse).reverse

/-- The text without the blanks at either end. -/
def trim (text : String) : String :=
  String.ofList (trimList text.toList)

/-- Text that holds nothing but blanks. -/
def isBlankText (text : String) : Bool :=
  (trimList text.toList).isEmpty

end Montage.Text
