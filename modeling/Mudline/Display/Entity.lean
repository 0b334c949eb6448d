import Mudline.Text.Basic

/-!
# Entities

Three characters are written as entities in character data. Reading them back is one pass from the
left, so what an entity stands for is never read as part of another.
-/

namespace Mudline.Display

/-- Replaces the entities `&gt;`, `&lt;` and `&amp;` by the characters they stand for. -/
def unescape : Text → Text
  | [] => []
  | '&' :: 'g' :: 't' :: ';' :: rest => '>' :: unescape rest
  | '&' :: 'l' :: 't' :: ';' :: rest => '<' :: unescape rest
  | '&' :: 'a' :: 'm' :: 'p' :: ';' :: rest => '&' :: unescape rest
  | c :: rest => c :: unescape rest

end Mudline.Display
