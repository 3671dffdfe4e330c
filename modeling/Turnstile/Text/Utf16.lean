import Turnstile.Text.Utf8
/-!
# UTF-16

Text as 16-bit units in either byte order. Reading pairs the bytes first (`units`), then the
surrogates (`decodeUnits`); an unpaired surrogate and an odd last byte each read as one replacement
character.
-/
namespace Turnstile.Text.Utf16

/-- Which byte of a unit comes first. -/
inductive Order
  | big
  | little
deriving Repr, DecidableEq

namespace Order

/-- The unit made of two consecutive bytes. -/
def join (o : Order) (a b : UInt8) : Nat :=
  match o with
  | .big => a.toNat * 256 + b.toNat
  | .little => b.toNat * 256 + a.toNat

/-- The two bytes of a unit, in order. -/
def split (o : Order) (u : Nat) : Bytes :=
  match o with
  | .big => [UInt8.ofNat (u / 256), UInt8.ofNat (u % 256)]
  | .little => [UInt8.ofNat (u % 256), UInt8.ofNat (u / 256)]

end Order

/-- A unit that must be followed by a low surrogate. -/
def isHigh (u : Nat) : Bool := 0xD800 ≤ u && u ≤ 0xDBFF

/-- A unit that must follow a high surrogate. -/
def isLow (u : Nat) : Bool := 0xDC00 ≤ u && u ≤ 0xDFFF

/-- The units of a character: one, or a surrogate pair beyond U+FFFF. -/
def encodeChar (c : Char) : List Nat :=
  if c.toNat < 0x10000 then [c.toNat]
  else [0xD800 + (c.toNat - 0x10000) / 0x400, 0xDC00 + (c.toNat - 0x10000) % 0x400]

def encode (o : Order) (cs : List Char) : Bytes :=
  cs.flatMap fun c => (encodeChar c).flatMap o.split

/-- The character of a surrogate pair. -/
def joinPair (high low : Nat) : Char :=
  Char.ofNat (0x10000 + (high - 0xD800) * 0x400 + (low - 0xDC00))

/-- The units of a byte sequence after those of `done` in reverse order, and whether a byte is left. -/
def unitsOnto (o : Order) (done : List Nat) : Bytes → List Nat × Bool
  | [] => (done.reverse, false)
  | [_] => (done.reverse, true)
  | a :: b :: rest => unitsOnto o (o.join a b :: done) rest

/-- The units of a byte sequence, and whether a byte is left over. -/
def units (o : Order) (bs : Bytes) : List Nat × Bool := unitsOnto o [] bs

/-- The characters of a unit sequence after those of `done` in reverse order. -/
def charsOnto (done : List Char) : List Nat → List Char
  | [] => done.reverse
  | [u] => ((if isHigh u || isLow u then Utf8.replacement else Char.ofNat u) :: done).reverse
  | u :: v :: rest =>
    if isHigh u then
      if isLow v then charsOnto (joinPair u v :: done) rest
      else charsOnto (Utf8.replacement :: done) (v :: rest)
    else if isLow u then charsOnto (Utf8.replacement :: done) (v :: rest)
    else charsOnto (Char.ofNat u :: done) (v :: rest)

/-- The characters of a unit sequence; an unpaired surrogate reads as the replacement character. -/
def decodeUnits (us : List Nat) : List Char := charsOnto [] us

def decode (o : Order) (bs : Bytes) : List Char :=
  let (us, odd) := units o bs
  decodeUnits us ++ if odd then [Utf8.replacement] else []

end Turnstile.Text.Utf16
