import Turnstile.Text.Basic
import Turnstile.Text.Utf16
/-!
# Character sets

The five character sets a body may be declared in: their labels, the declaration inside a content
type (`ofContentType`), and the text of bytes (`decode`), which is defined for every byte sequence.
-/
namespace Turnstile

open Text

/-- A character set that bodies are read in. -/
inductive Charset
  | utf8
  | latin1
  | ascii
  | utf16be
  | utf16le
deriving Repr, DecidableEq

namespace Charset

/-- What a body without a known declaration is read in. -/
def default : Charset := .latin1

instance : Inhabited Charset := ⟨default⟩

/-- The canonical name. -/
def name : Charset → String
  | .utf8 => "UTF-8"
  | .latin1 => "ISO-8859-1"
  | .ascii => "US-ASCII"
  | .utf16be => "UTF-16BE"
  | .utf16le => "UTF-16LE"

/-- The identifier shown in diagnostics. -/
def identifier : Charset → String
  | .utf8 => "Utf8"
  | .latin1 => "Iso8859_1"
  | .ascii => "UsAscii"
  | .utf16be => "Utf16Be"
  | .utf16le => "Utf16Le"

/-- Every label that names a character set, in lower case. -/
def labels : List (String × Charset) :=
  [("utf-8", .utf8), ("utf8", .utf8),
   ("iso-8859-1", .latin1), ("iso8859-1", .latin1), ("iso_8859-1", .latin1), ("latin1", .latin1),
   ("l1", .latin1),
   ("us-ascii", .ascii), ("ascii", .ascii),
   ("utf-16be", .utf16be),
   ("utf-16le", .utf16le)]

/-- The character set of a label: blanks around it, then double quotes, then letter case are
ignored. -/
def ofLabel (label : String) : Option Charset :=
  labels.lookup (lower (String.ofList (strip (· == '"') (strip isBlank label.toList))))

/-- The label in one parameter of a content type, if the parameter is a charset declaration. -/
def labelOf (parameter : List Char) : Option String :=
  match splitFirst '=' parameter with
  | none => none
  | some (key, value) =>
    if sameLetters (String.ofList (strip isBlank key)) "charset" then
      some (String.ofList (strip isBlank value))
    else none

/-- The character set declared by a content type: the first charset parameter decides, also when
its label is unknown. -/
def ofContentType (contentType : Option String) : Charset :=
  match contentType with
  | none => default
  | some text =>
    match ((pieces ';' text.toList).drop 1).findSome? labelOf with
    | none => default
    | some label => (ofLabel label).getD default

/-- The character of a byte in US-ASCII. -/
def asciiChar (b : UInt8) : Char :=
  if b < 0x80 then Char.ofNat b.toNat else Utf8.replacement

def decodeChars : Charset → Bytes → List Char
  | .utf8, bs => Utf8.decode bs
  | .latin1, bs => bs.map fun b => Char.ofNat b.toNat
  | .ascii, bs => bs.map asciiChar
  | .utf16be, bs => Utf16.decode .big bs
  | .utf16le, bs => Utf16.decode .little bs

def decode (charset : Charset) (bs : Bytes) : String :=
  String.ofList (charset.decodeChars bs)

/-- The bytes of a character, where the character set has it. -/
def encodeChar : Charset → Char → Option Bytes
  | .utf8, c => some (String.utf8EncodeChar c)
  | .latin1, c => if c.toNat < 0x100 then some [UInt8.ofNat c.toNat] else none
  | .ascii, c => if c.toNat < 0x80 then some [UInt8.ofNat c.toNat] else none
  | .utf16be, c => some ((Utf16.encodeChar c).flatMap Utf16.Order.big.split)
  | .utf16le, c => some ((Utf16.encodeChar c).flatMap Utf16.Order.little.split)

/-- The bytes of a text, where the character set has every character of it. -/
def encode (charset : Charset) (s : String) : Option Bytes :=
  (s.toList.mapM charset.encodeChar).map List.flatten

end Charset
end Turnstile
