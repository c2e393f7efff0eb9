/-!
Texts within texts.
-/

namespace Montage.Text

/-- A text holds another one. -/
def holds (text part : List Char) : Bool :=
  match text with
  | [] => part.isEmpty
  | character :: rest => part.isPrefixOf (character :: rest) || holds rest part

end Montage.Text
