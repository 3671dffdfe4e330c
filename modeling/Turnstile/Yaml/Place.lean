/-!
# Places in a text

Where a reader stands, and the classes of characters it looks for. A line ends at a line feed, or at a
line or paragraph separator.
-/
namespace Turnstile.Yaml

/-- Whether a line ends with this character. -/
def isBreak (c : Char) : Bool := c = '\n' || c = '\u2028' || c = '\u2029'

/-- Whether a character parts two words on a line. -/
def isBlank (c : Char) : Bool := c = ' ' || c = '\t'

/-- Whether a word ends here: at a blank, at the end of a line or at the end of the text. -/
def endsWord : List Char → Bool
  | [] => true
  | c :: _ => isBlank c || isBreak c

/-- How much of a text has been read. -/
structure Mark where
  /-- The bytes before it. -/
  index : Nat
  /-- The lines before it. -/
  line : Nat
  /-- The characters before it on its line. -/
  column : Nat
deriving DecidableEq, Repr

namespace Mark

/-- The mark after a character, on the same line. -/
def next (m : Mark) (c : Char) : Mark := ⟨m.index + c.utf8Size, m.line, m.column + 1⟩

/-- The mark after a character that ends the line. -/
def nextLine (m : Mark) (c : Char) : Mark := ⟨m.index + c.utf8Size, m.line + 1, 0⟩

end Mark

/-- A place in a text. -/
structure Place where
  mark : Mark
  rest : List Char

namespace Place

/-- The place `n` ASCII characters on, on the same line. -/
def advance (p : Place) (n : Nat) : Place :=
  ⟨⟨p.mark.index + n, p.mark.line, p.mark.column + n⟩, p.rest.drop n⟩

/-- Whether a line starts here with a marker, three times the same character. -/
def isMarkerOf (c : Char) (p : Place) : Bool :=
  p.mark.column = 0 && p.rest.take 3 = [c, c, c] && endsWord (p.rest.drop 3)

/-- Whether a document begins or ends here. -/
def isMarker (p : Place) : Bool := p.isMarkerOf '-' || p.isMarkerOf '.'

end Place
end Turnstile.Yaml
