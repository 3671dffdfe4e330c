import Turnstile.Shape
import Turnstile.Yaml.Place
/-!
# YAML scalars

Texts without quotes and in single or double quotes. A line feed inside a text is read as a blank where
no further line break follows, and is left out before others; any other line break stands for itself.
-/
namespace Turnstile.Yaml

/-- Blanks and line breaks between two words of a text. -/
structure Gap where
  /-- The blanks before the first line break, the last one first. -/
  blanks : List Char
  /-- Whether there is a line break. -/
  broken : Bool
  /-- The first line break, unless a backslash takes it away. -/
  first : Option Char
  /-- The further line breaks, the last one first. -/
  later : List Char

namespace Gap

/-- Nothing between two characters of a word. -/
def none : Gap := ⟨[], false, Option.none, []⟩

/-- A line break that a backslash takes away. -/
def joined : Gap := ⟨[], true, Option.none, []⟩

/-- Whether the word goes on. -/
def isEmpty (g : Gap) : Bool := g.blanks.isEmpty && !g.broken

/-- One more blank; those at the start of a line do not count. -/
def blank (g : Gap) (c : Char) : Gap :=
  if g.broken then g else { g with blanks := c :: g.blanks }

/-- One more line break. -/
def line (g : Gap) (c : Char) : Gap :=
  if g.broken then { g with later := c :: g.later } else ⟨[], true, some c, []⟩

/-- A text in reverse order with what the gap is read as. -/
def fill (g : Gap) (done : List Char) : List Char :=
  if !g.broken then g.blanks ++ done
  else
    match g.first with
    | Option.none => g.later ++ done
    | some c =>
      if c ≠ '\n' then g.later ++ c :: done
      else if g.later.isEmpty then ' ' :: done
      else g.later ++ done

end Gap

/-- A text that was read. -/
structure Scalar where
  text : String
  /-- Whether the place after it is on another line than its last word. -/
  broken : Bool
  after : Place

/-! ## Without quotes -/

/-- The characters that no text without quotes begins with. -/
def indicators : List Char :=
  ['-', '?', ':', ',', '[', ']', '\x7b', '\x7d', '#', '&', '*', '!', '|', '>', '\'', '"', '%', '@',
    '\x60']

/-- The characters that part the items of a list or map in brackets. -/
def flowIndicators : List Char := [',', '[', ']', '\x7b', '\x7d']

/-- Whether a text without quotes begins here, inside brackets or not. -/
def startsPlain (flow : Bool) : List Char → Bool
  | [] => false
  | c :: rest =>
    if c = '-' then !endsWord rest
    else if c = '?' || c = ':' then !flow && !endsWord rest
    else !endsWord [c] && !indicators.contains c

/-- Whether a colon before these characters is out of place inside brackets. -/
def isStrayColon : List Char → Bool
  | c :: _ => c = '?' || flowIndicators.contains c
  | [] => false

/-- Reads on in a text without quotes, whose further lines have to be indented unless it stands in
brackets. -/
def plainFrom (flow : Bool) (indent : Nat) (done : List Char) (g : Gap) (m : Mark) :
    List Char → Option Scalar
  | [] => some ⟨String.ofList done.reverse, g.broken, ⟨m, []⟩⟩
  | c :: rest =>
    if isBreak c then plainFrom flow indent done (g.line c) (m.nextLine c) rest
    else if isBlank c then
      if g.broken && m.column < indent && c = '\t' then none
      else plainFrom flow indent done (g.blank c) (m.next c) rest
    else
      let here : Place := ⟨m, c :: rest⟩
      let dedented := g.broken && !flow && m.column < indent
      if dedented || here.isMarker || (c = '#' && !g.isEmpty) || (c = ':' && endsWord rest) ||
          (flow && flowIndicators.contains c) then
        some ⟨String.ofList done.reverse, g.broken, here⟩
      else if flow && c = ':' && isStrayColon rest then none
      else plainFrom flow indent (c :: g.fill done) .none (m.next c) rest

/-! ## In quotes -/

/-- Reads on in a text in single quotes; two of them stand for one. No document begins or ends
inside. -/
def singleFrom (done : List Char) (g : Gap) (m : Mark) : List Char → Option Scalar
  | [] => none
  | '\'' :: '\'' :: rest => singleFrom ('\'' :: g.fill done) .none ((m.next '\'').next '\'') rest
  | '\'' :: rest => some ⟨String.ofList (g.fill done).reverse, false, ⟨m.next '\'', rest⟩⟩
  | c :: rest =>
    if isBreak c then singleFrom done (g.line c) (m.nextLine c) rest
    else if isBlank c then singleFrom done (g.blank c) (m.next c) rest
    else if Place.isMarker ⟨m, c :: rest⟩ then none
    else singleFrom (c :: g.fill done) .none (m.next c) rest

/-- What the next character of a text in double quotes belongs to. -/
inductive Quoting
  | text
  /-- A backslash came before. -/
  | escape
  /-- So many more digits of a character's code follow. -/
  | code (left value : Nat)

/-- What a character after a backslash stands for. -/
def escapes : List (Char × Char) :=
  [('0', '\x00'), ('a', '\x07'), ('b', '\x08'), ('t', '\t'), ('\t', '\t'), ('n', '\n'),
   ('v', '\x0b'), ('f', '\x0c'), ('r', '\r'), ('e', '\x1b'), (' ', ' '), ('"', '"'), ('/', '/'),
   ('\\', '\\'), ('N', '\u0085'), ('_', '\u00a0'), ('L', '\u2028'), ('P', '\u2029')]

/-- How many digits follow each mark of a character's code. -/
def codeLengths : List (Char × Nat) := [('x', 2), ('u', 4), ('U', 8)]

/-- Reads on in a text in double quotes. No document begins or ends inside. -/
def doubleFrom (mode : Quoting) (done : List Char) (g : Gap) (m : Mark) :
    List Char → Option Scalar
  | [] => none
  | c :: rest =>
    match mode with
    | .code left value =>
      match Shape.digitIn? 16 c with
      | none => none
      | some d =>
        let value := value * 16 + d
        if 1 < left then doubleFrom (.code (left - 1) value) done g (m.next c) rest
        else if value.isValidChar then doubleFrom .text (Char.ofNat value :: done) g (m.next c) rest
        else none
    | .escape =>
      if isBreak c then doubleFrom .text done .joined (m.nextLine c) rest
      else
        match codeLengths.lookup c, escapes.lookup c with
        | some left, _ => doubleFrom (.code left 0) done g (m.next c) rest
        | none, some d => doubleFrom .text (d :: done) g (m.next c) rest
        | none, none => none
    | .text =>
      if c = '"' then some ⟨String.ofList (g.fill done).reverse, false, ⟨m.next c, rest⟩⟩
      else if c = '\\' then doubleFrom .escape (g.fill done) .none (m.next c) rest
      else if isBreak c then doubleFrom .text done (g.line c) (m.nextLine c) rest
      else if isBlank c then doubleFrom .text done (g.blank c) (m.next c) rest
      else if Place.isMarker ⟨m, c :: rest⟩ then none
      else doubleFrom .text (c :: g.fill done) .none (m.next c) rest

end Turnstile.Yaml
