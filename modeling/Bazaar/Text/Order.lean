/-!
# The order of texts

Texts are ordered by the code points of their characters.  The first difference decides, and a text
comes before every longer one that begins with it.
-/

namespace Bazaar.Text

/-- Whether items come before others, given what orders each of them. -/
def before [BEq α] (code : α → Nat) (xs ys : List α) : Bool :=
  xs.lex ys fun x y => decide (code x < code y)

/-- Whether characters come before others in the order of texts. -/
def charsBefore (cs ds : List Char) : Bool :=
  before Char.toNat cs ds

/-- Whether a text comes before another one. -/
def isBefore (s t : String) : Bool :=
  charsBefore s.toList t.toList

/-- Texts in order. -/
def sorted (texts : List String) : List String :=
  texts.mergeSort fun s t => !isBefore t s

end Bazaar.Text
