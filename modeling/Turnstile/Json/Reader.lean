import Turnstile.Json.Tree
/-!
# Reading JSON text

`Tree.ofText` reads a text to its end or to its first flaw. Blanks are space, tab, line feed and
carriage return; nothing but blanks may follow the value.
-/
namespace Turnstile.Json

/-- What reading a part gives: the part, and what follows it unless reading stops there. -/
abbrev Reading := Tree × Option (List Char)

/-- The four blanks of JSON. -/
def isSpace (c : Char) : Bool := c = ' ' || c = '\n' || c = '\t' || c = '\r'

/-- The text from its first character that is no blank. -/
def skipSpace (cs : List Char) : List Char := cs.dropWhile isSpace

/-! ## Strings -/

/-- The value of a hexadecimal digit of either case. -/
def hexDigit? (c : Char) : Option Nat :=
  if '0' ≤ c && c ≤ '9' then some (c.toNat - '0'.toNat)
  else if 'a' ≤ c && c ≤ 'f' then some (c.toNat - 'a'.toNat + 10)
  else if 'A' ≤ c && c ≤ 'F' then some (c.toNat - 'A'.toNat + 10)
  else none

/-- The number of four hexadecimal digits. -/
def hex4? (a b c d : Char) : Option Nat := do
  let a ← hexDigit? a
  let b ← hexDigit? b
  let c ← hexDigit? c
  let d ← hexDigit? d
  some (((a * 16 + b) * 16 + c) * 16 + d)

/-- The character of a one-letter escape. -/
def shortEscape? : Char → Option Char
  | '"' => some '"'
  | '\\' => some '\\'
  | '/' => some '/'
  | 'b' => some '\x08'
  | 'f' => some '\x0c'
  | 'n' => some '\n'
  | 'r' => some '\r'
  | 't' => some '\t'
  | _ => none

/-- Whether a unit is the first or the second of a surrogate pair. -/
def isHighUnit (n : Nat) : Bool := 0xD800 ≤ n && n ≤ 0xDBFF

/-- Whether a unit is the second of a surrogate pair. -/
def isLowUnit (n : Nat) : Bool := 0xDC00 ≤ n && n ≤ 0xDFFF

/-- The characters of a string so far, last one first, and a high surrogate that waits for its
partner; or what is wrong with them. -/
inductive Unquoted
  | text (done : List Char) (waiting : Option Nat)
  | wrong (flaw : Flaw)

namespace Unquoted

def push (u : Unquoted) (c : Char) : Unquoted :=
  match u with
  | .text done none => .text (c :: done) none
  | .text _ (some _) => .wrong .malformed
  | .wrong flaw => .wrong flaw

/-- The string with one more numbered unit. -/
def pushUnit (u : Unquoted) (n : Nat) : Unquoted :=
  match u with
  | .text done none =>
    if isLowUnit n then .wrong .malformed
    else if isHighUnit n then .text done (some n)
    else .text (Char.ofNat n :: done) none
  | .text done (some high) =>
    if isLowUnit n then
      .text (Char.ofNat (0x10000 + (high - 0xD800) * 0x400 + (n - 0xDC00)) :: done) none
    else .wrong .malformed
  | .wrong flaw => .wrong flaw

/-- The string at its closing quote. -/
def close (u : Unquoted) : Written :=
  match u with
  | .text done none => ⟨.ok (String.ofList done.reverse), none⟩
  | .text _ (some _) => ⟨.error .malformed, none⟩
  | .wrong flaw => ⟨.error flaw, none⟩

/-- The string where reading stops inside it. -/
def stop (u : Unquoted) (flaw : Flaw) : Written :=
  match u with
  | .text _ _ => ⟨.error flaw, some flaw⟩
  | .wrong earlier => ⟨.error earlier, some flaw⟩

end Unquoted

/-- Fewer than four bytes cannot hold four digits. -/
def shortHexFlaw (cs : List Char) : Flaw :=
  if cs.foldl (fun n c => n + c.utf8Size) 0 < 4 then .cutShort else .malformed

/-- The rest of a string after its opening quote, and what follows the closing one. -/
def readString (u : Unquoted) : List Char → Written × Option (List Char)
  | [] => (u.stop .cutShort, none)
  | '"' :: rest => (u.close, some rest)
  | '\\' :: 'u' :: a :: b :: c :: d :: rest =>
    match hex4? a b c d with
    | some n => readString (u.pushUnit n) rest
    | none => (u.stop (shortHexFlaw (a :: b :: c :: d :: rest)), none)
  | '\\' :: 'u' :: rest => (u.stop (shortHexFlaw rest), none)
  | '\\' :: e :: rest =>
    match shortEscape? e with
    | some c => readString (u.push c) rest
    | none => (u.stop .malformed, none)
  | ['\\'] => (u.stop .cutShort, none)
  | c :: rest => if c.toNat < 0x20 then (u.stop .malformed, none) else readString (u.push c) rest

/-! ## Numbers -/

/-- The greatest whole number that is kept whole. -/
def wholeLimit : Nat := Nat.pow 2 64 - 1

/-- A significand that takes further digits while it fits 64 bits. Returns it with the digits that
no longer fit. -/
def takeDigits (significand : Nat) : List Char → Nat × List Char
  | [] => (significand, [])
  | c :: rest =>
    let more := significand * 10 + (c.toNat - '0'.toNat)
    if more ≤ wholeLimit then takeDigits more rest else (significand, c :: rest)

/-- The number with these digits before the point, after it and in the power of ten. A significand
keeps the digits that fit 64 bits; a digit left out before the point counts as a zero. -/
def numberOf (negative : Bool) (whole : List Char) (fraction : Option (List Char))
    (power : Option (Bool × List Char)) : Except Flaw Number :=
  let (significand, left) := takeDigits 0 whole
  match fraction, power with
  | none, none =>
    if left.isEmpty then
      if !negative then .ok (.whole significand)
      else if significand ≠ 0 && significand ≤ Nat.pow 2 63 then .ok (.whole (-significand))
      else real significand 0
    else real significand left.length
  | _, _ =>
    let fractionDigits := fraction.getD []
    let (significand, unread) := takeDigits significand fractionDigits
    let exponent : Int := (left.length : Int) - (fractionDigits.length - unread.length : Nat)
    match power with
    | none => real significand exponent
    | some (down, digits) =>
      let n := digits.foldl (fun n c => n * 10 + (c.toNat - '0'.toNat)) 0
      if n ≤ Nat.pow 2 31 - 1 then real significand (if down then exponent - n else exponent + n)
      else if significand ≠ 0 && !down then .error .malformed
      else real 0 0
where
  /-- The floating point number, where there is one. -/
  real (significand : Nat) (exponent : Int) : Except Flaw Number :=
    match Decimal.Binary64.ofScientific? negative significand exponent with
    | some x => .ok (.real x)
    | none => .error .malformed

/-- A number that goes on with these characters in place of a digit. -/
def noDigit (cs : List Char) : Tree := if cs.isEmpty then .cutNumber else .broken .malformed

/-- The part of a number after its digits before the point. -/
def readPower (negative : Bool) (whole : List Char) (fraction : Option (List Char))
    (cs : List Char) : Reading :=
  match cs with
  | c :: rest =>
    if c = 'e' || c = 'E' then
      let (down, unsigned) := match rest with
        | '-' :: r => (true, r)
        | '+' :: r => (false, r)
        | r => (false, r)
      let digits := unsigned.takeWhile Char.isDigit
      if digits.isEmpty then (noDigit unsigned, none)
      else
        (.number (numberOf negative whole fraction (some (down, digits))),
          some (unsigned.dropWhile Char.isDigit))
    else (.number (numberOf negative whole fraction none), some cs)
  | [] => (.number (numberOf negative whole fraction none), some [])

/-- A number after its sign. -/
def readUnsigned (negative : Bool) (cs : List Char) : Reading :=
  let whole := cs.takeWhile Char.isDigit
  let rest := cs.dropWhile Char.isDigit
  if whole.isEmpty then (noDigit cs, none)
  else if whole.head? = some '0' && whole.length ≠ 1 then (.broken .malformed, none)
  else match rest with
    | '.' :: after =>
      let fraction := after.takeWhile Char.isDigit
      if fraction.isEmpty then (noDigit after, none)
      else readPower negative whole (some fraction) (after.dropWhile Char.isDigit)
    | _ => readPower negative whole none rest

/-! ## Values -/

/-- A literal, whose first letter has been seen. -/
def readWord (value : Tree) : List Char → List Char → Reading
  | [], rest => (value, some rest)
  | _ :: _, [] => (.cutWord, none)
  | w :: word, c :: rest => if w = c then readWord value word rest else (.broken .malformed, none)

/-- What separates two items or members, or closes them. -/
inductive Separator
  | comma (rest : List Char)
  | closing (rest : List Char)
  | missing (flaw : Flaw)

/-- The separator after an item or member. -/
def separator (bracket : Char) (cs : List Char) : Separator :=
  match skipSpace cs with
  | [] => .missing .cutShort
  | c :: rest =>
    if c = ',' then .comma rest
    else if c = bracket then .closing rest
    else .missing .malformed

/-- A name that could not be read. -/
def noName (flaw : Flaw) : Written × Tree := (⟨.error flaw, some flaw⟩, .broken flaw)

mutual

/-- A value, after blanks. Two units of fuel for each character are enough. -/
def readValue : Nat → List Char → Reading
  | 0, _ => (.broken .cutShort, none)
  | fuel + 1, cs =>
    match skipSpace cs with
    | [] => (.broken .cutShort, none)
    | c :: rest =>
      if c = 'n' then readWord .null ['u', 'l', 'l'] rest
      else if c = 't' then readWord (.bool true) ['r', 'u', 'e'] rest
      else if c = 'f' then readWord (.bool false) ['a', 'l', 's', 'e'] rest
      else if c = '"' then
        let (s, after) := readString (.text [] none) rest
        (.string s, after)
      else if c = '-' then readUnsigned true rest
      else if c.isDigit then readUnsigned false (c :: rest)
      else if c = '[' then
        match skipSpace rest with
        | ']' :: after => (.array [] none, some after)
        | _ => readItems fuel [] rest
      else if c = '\x7b' then
        match skipSpace rest with
        | '\x7d' :: after => (.object [] none, some after)
        | _ => readMembers fuel [] rest
      else (.broken .malformed, none)

/-- The items of an array after `done` in reverse order, the next of which must stand here. -/
def readItems : Nat → List Tree → List Char → Reading
  | 0, done, _ => (.array (.broken .cutShort :: done).reverse none, none)
  | fuel + 1, done, cs =>
    match readValue fuel cs with
    | (item, none) => (.array (item :: done).reverse none, none)
    | (item, some rest) =>
      match separator ']' rest with
      | .comma after => readItems fuel (item :: done) after
      | .closing after => (.array (item :: done).reverse none, some after)
      | .missing flaw => (.array (item :: done).reverse (some flaw), none)

/-- The members of an object after `done` in reverse order, the next of which must stand here. -/
def readMembers : Nat → List (Written × Tree) → List Char → Reading
  | 0, done, _ => (.object (noName .cutShort :: done).reverse none, none)
  | fuel + 1, done, cs =>
    match skipSpace cs with
    | [] => (.object (noName .cutShort :: done).reverse none, none)
    | '"' :: inside =>
      match readString (.text [] none) inside with
      | (name, none) => (.object ((name, .broken .cutShort) :: done).reverse none, none)
      | (name, some rest) =>
        match skipSpace rest with
        | ':' :: after =>
          match readValue fuel after with
          | (value, none) => (.object ((name, value) :: done).reverse none, none)
          | (value, some rest) =>
            match separator '\x7d' rest with
            | .comma after => readMembers fuel ((name, value) :: done) after
            | .closing after => (.object ((name, value) :: done).reverse none, some after)
            | .missing flaw => (.object ((name, value) :: done).reverse (some flaw), none)
        | [] => (.object ((name, .broken .cutShort) :: done).reverse none, none)
        | _ => (.object ((name, .broken .malformed) :: done).reverse none, none)
    | _ => (.object (noName .malformed :: done).reverse none, none)

end

end Json

/-- A document with what is wrong after its end. -/
structure Document where
  tree : Tree
  /-- Something other than blanks follows. -/
  trailing : Bool

/-- The document a text holds. -/
def Document.ofText (s : String) : Document :=
  let cs := s.toList
  match Json.readValue (2 * cs.length + 2) cs with
  | (tree, none) => ⟨tree, false⟩
  | (tree, some rest) => ⟨tree, !(Json.skipSpace rest).isEmpty⟩

/-- The JSON value a text holds. -/
def Json.parse (s : String) : Except Flaw Json := do
  let document := Document.ofText s
  let value ← document.tree.toJson
  if document.trailing then .error .malformed else .ok value

end Turnstile
