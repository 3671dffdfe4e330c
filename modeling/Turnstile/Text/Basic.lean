import Turnstile.Text.Hidden
import Turnstile.Text.Utf8
/-!
# Working with text

What every reader of text needs: trimming, the case of letters, cutting at separators and at line feeds,
and text between double quotes.
-/
namespace Turnstile.Text

/-! ## Blank characters -/

/-- Exactly the 25 characters with the Unicode property White_Space. -/
def isBlank (c : Char) : Bool :=
  let n := c.toNat
  (9 ≤ n && n ≤ 13) || n == 0x20 || n == 0x85 || n == 0xA0 || n == 0x1680 ||
    (0x2000 ≤ n && n ≤ 0x200A) || n == 0x2028 || n == 0x2029 || n == 0x202F || n == 0x205F ||
    n == 0x3000

/-- The list without the longest run at its end whose members satisfy `p`. -/
def dropEndWhile {α : Type} (p : α → Bool) (xs : List α) : List α :=
  (xs.reverse.dropWhile p).reverse

/-- The list without the longest runs at its two ends whose members satisfy `p`. -/
def strip {α : Type} (p : α → Bool) (xs : List α) : List α :=
  dropEndWhile p (xs.dropWhile p)

/-- The text without the blank characters at its two ends. -/
def trim (s : String) : String :=
  String.ofList (strip isBlank s.toList)

/-! ## Letter case

The 26 letters A to Z are folded only. -/

/-- The text with A to Z in lower case and every other character unchanged. -/
def lower (s : String) : String :=
  String.ofList (s.toList.map Char.toLower)

/-- Whether two texts are equal up to the case of A to Z. -/
def sameLetters (s t : String) : Bool :=
  lower s == lower t

/-! ## Cutting -/

/-- The pieces between the separators; n separators make n + 1 pieces, empty ones included. -/
def pieces {α : Type} [DecidableEq α] (sep : α) (xs : List α) : List (List α) :=
  xs.foldr (fun x done =>
    if x = sep then [] :: done
    else match done with
      | [] => [[x]]
      | first :: others => (x :: first) :: others) [[]]

/-- What stands before and after the first separator, if there is one. -/
def splitFirst {α : Type} [DecidableEq α] (sep : α) (xs : List α) : Option (List α × List α) :=
  match xs.dropWhile (fun x => x ≠ sep) with
  | [] => none
  | _ :: after => some (xs.takeWhile (fun x => x ≠ sep), after)

/-- Whether `needle` stands somewhere in the list as a contiguous run. -/
def occursIn {α : Type} [DecidableEq α] (needle : List α) : List α → Bool
  | [] => needle.isEmpty
  | x :: xs => needle.isPrefixOf (x :: xs) || occursIn needle xs

/-- The lines in order. Bytes after the last line feed are a line too. -/
def linesOf (bytes : Bytes) : List Bytes :=
  bytes.foldr (fun b lines =>
    if b = 10 then [] :: lines
    else match lines with
      | [] => [[b]]
      | line :: rest => (b :: line) :: rest) []

/-- The bytes of lines that each end with a line feed. -/
def joinLines (lines : List Bytes) : Bytes := lines.flatMap (· ++ [10])

/-! ## Quoting

As diagnostics show it: quotes, backslashes and the four named controls are escaped, and every character
that does not show is written by its number. -/

/-- The lower-case hexadecimal digits of a number, without leading zeros. -/
def hexDigits (n : Nat) : List Char :=
  Nat.toDigits 16 n

/-- A character as it stands between double quotes. -/
def escapeQuoted (c : Char) : List Char :=
  if c = '"' then ['\\', '"']
  else if c = '\\' then ['\\', '\\']
  else if c = '\n' then ['\\', 'n']
  else if c = '\r' then ['\\', 'r']
  else if c = '\t' then ['\\', 't']
  else if c.toNat = 0 then ['\\', '0']
  else if c.toNat < 0x20 || (0x7F ≤ c.toNat && isHidden c) then
    ['\\', 'u', '\x7b'] ++ hexDigits c.toNat ++ ['\x7d']
  else [c]

def quoted (s : String) : String :=
  String.ofList ('"' :: s.toList.flatMap escapeQuoted ++ ['"'])

end Turnstile.Text
