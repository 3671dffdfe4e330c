import Turnstile.Decimal.Shortest
import Turnstile.Json.Value
import Turnstile.Text.Basic
/-!
# JSON text

A value as text, without blanks (`render`) or with one member or item to a line (`renderLines`).
Strings escape the quote, the backslash and the controls, and nothing else, so a rendered value holds
no line break.
-/
namespace Turnstile.Json

/-- A character as it stands inside a string. -/
def escape (c : Char) : List Char :=
  if c = '"' then ['\\', '"']
  else if c = '\\' then ['\\', '\\']
  else if c = '\n' then ['\\', 'n']
  else if c = '\r' then ['\\', 'r']
  else if c = '\t' then ['\\', 't']
  else if c.toNat = 0x8 then ['\\', 'b']
  else if c.toNat = 0xC then ['\\', 'f']
  else if c.toNat < 0x20 then
    ['\\', 'u', '0', '0', Nat.digitChar (c.toNat / 16), Nat.digitChar (c.toNat % 16)]
  else [c]

/-- A text as a string. -/
def quote (s : String) : List Char :=
  '"' :: s.toList.flatMap escape ++ ['"']

/-- A number as text. -/
def numberChars : Number → List Char
  | .whole n => (if n < 0 then ['-'] else []) ++ Nat.toDigits 10 n.natAbs
  | .real x => x.text.toList

mutual

/-- A value as text without blanks. -/
def chars : Json → List Char
  | .null => ['n', 'u', 'l', 'l']
  | .bool true => ['t', 'r', 'u', 'e']
  | .bool false => ['f', 'a', 'l', 's', 'e']
  | .number n => numberChars n
  | .string s => quote s
  | .array items => '[' :: itemsChars items ++ [']']
  | .object members => '\x7b' :: membersChars members ++ ['\x7d']

/-- Items with commas between them. -/
def itemsChars : List Json → List Char
  | [] => []
  | [item] => chars item
  | item :: next :: rest => chars item ++ ',' :: itemsChars (next :: rest)

/-- Members with commas between them. -/
def membersChars : List (String × Json) → List Char
  | [] => []
  | [(name, value)] => quote name ++ ':' :: chars value
  | (name, value) :: next :: rest =>
    quote name ++ ':' :: (chars value ++ ',' :: membersChars (next :: rest))

end

/-- The text of a value, without blanks. -/
def render (v : Json) : String := String.ofList v.chars

/-- A line break and the indentation of a nesting depth. -/
def lineStart (depth : Nat) : List Char := '\n' :: List.replicate (2 * depth) ' '

mutual

/-- A value as text with one member or item to a line. -/
def lines (depth : Nat) : Json → List Char
  | .array (item :: rest) =>
    '[' :: itemLines (depth + 1) (item :: rest) ++ lineStart depth ++ [']']
  | .object (member :: rest) =>
    '\x7b' :: memberLines (depth + 1) (member :: rest) ++ lineStart depth ++ ['\x7d']
  | .array [] => ['[', ']']
  | .object [] => ['\x7b', '\x7d']
  | .string s => quote s
  | .number n => numberChars n
  | .bool true => ['t', 'r', 'u', 'e']
  | .bool false => ['f', 'a', 'l', 's', 'e']
  | .null => ['n', 'u', 'l', 'l']

/-- Items on lines of their own. -/
def itemLines (depth : Nat) : List Json → List Char
  | [] => []
  | [item] => lineStart depth ++ lines depth item
  | item :: next :: rest =>
    lineStart depth ++ lines depth item ++ ',' :: itemLines depth (next :: rest)

/-- Members on lines of their own. -/
def memberLines (depth : Nat) : List (String × Json) → List Char
  | [] => []
  | [(name, value)] => lineStart depth ++ quote name ++ ':' :: ' ' :: lines depth value
  | (name, value) :: next :: rest =>
    lineStart depth ++ quote name ++ ':' :: ' ' ::
      (lines depth value ++ ',' :: memberLines depth (next :: rest))

end

/-- The text of a value with one member or item to a line, two blanks to a level. -/
def renderLines (v : Json) : String := String.ofList (v.lines 0)

end Turnstile.Json
