import Turnstile.Shape
/-!
# Identifiers

Identifiers of 32 hexadecimal digits, printed in five groups. They are read with the four hyphens or
without any; with the hyphens they may stand in braces or after `urn:uuid:` in letters of either case.
-/
namespace Turnstile.Log

/-- A 128 bit identifier. -/
structure Identifier where
  digits : List (Fin 16)
  length_eq : digits.length = 32
deriving DecidableEq

namespace Identifier

/-- The identifier whose digits are all zero. -/
def zero : Identifier := ⟨List.replicate 32 0, by simp⟩

instance : Inhabited Identifier := ⟨zero⟩

/-- The identifier of a number, modulo 2 ^ 128. -/
def ofNat (n : Nat) : Identifier :=
  ⟨(List.range 32).map fun i => Fin.ofNat 16 (n / Nat.pow 16 (31 - i)), by simp⟩

/-- Digits with hyphens between the groups. -/
def hyphenated (digits : List Char) : List Char :=
  digits.take 8 ++ '-' :: (digits.drop 8).take 4 ++ '-' :: (digits.drop 12).take 4 ++
    '-' :: (digits.drop 16).take 4 ++ '-' :: digits.drop 20

/-- The printed form, in lower case. -/
def text (i : Identifier) : String :=
  String.ofList (hyphenated (i.digits.map fun d => Nat.digitChar d.val))

/-- The identifier of 32 digits, in either case. -/
def ofDigits? (cs : List Char) : Option Identifier := do
  let digits ← cs.mapM fun c => (Shape.digitIn? 16 c).map (Fin.ofNat 16)
  if h : digits.length = 32 then some ⟨digits, h⟩ else none

/-- The identifier of 32 digits with the hyphens between the groups. -/
def ofHyphenated? (cs : List Char) : Option Identifier :=
  let digits := cs.filter (· ≠ '-')
  if hyphenated digits = cs then ofDigits? digits else none

/-- Reads an identifier in any of its forms. -/
def parse? (s : String) : Option Identifier :=
  let cs := s.toList
  if cs.length = 32 then ofDigits? cs
  else if cs.head? = some '\x7b' then
    if cs.getLast? = some '\x7d' then ofHyphenated? (cs.tail.dropLast) else none
  else if (cs.take 9).map Char.toLower = "urn:uuid:".toList then ofHyphenated? (cs.drop 9)
  else ofHyphenated? cs

def shape : Shape Identifier := fun t => do
  match parse? (← Shape.text "a UUID string" t) with
  | some i => .ok i
  | none => .error .badNotation

end Identifier
end Turnstile.Log
