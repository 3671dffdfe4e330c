import Turnstile.Yaml.Token
/-!
# YAML documents

The plain part of YAML: lists and maps by indentation or in brackets, texts with and without quotes,
and comments. A text without quotes becomes a part that stands for whatever is asked for; an empty place
is such a text without characters.
-/
namespace Turnstile.Yaml

/-- An empty place. -/
def nothing : Tree := .plain ""

/-- The name that a part gives a member; only a text is one. -/
def nameOf : Tree → Written
  | .string s => s
  | .plain s => ⟨.ok s, none⟩
  | _ => ⟨.error .malformed, none⟩

namespace Token

/-- Whether no part of a map stands here. -/
def endsPair : List Token → Bool
  | .name :: _ | .colon :: _ | .dedent :: _ => true
  | _ => false

/-- Whether no entry of a list stands here, where the list is indented or not. -/
def endsEntry (indented : Bool) : List Token → Bool
  | .dash :: _ | .dedent :: _ => true
  | .name :: _ | .colon :: _ => !indented
  | _ => false

/-- Whether no part of a list or map in brackets stands here. -/
def endsItem (closing : Token → Bool) : List Token → Bool
  | .comma :: _ => true
  | t :: _ => closing t
  | [] => false

def closesList : Token → Bool
  | .closeList => true
  | _ => false

def closesMap : Token → Bool
  | .closeMap => true
  | _ => false

def isColon : Token → Bool
  | .colon => true
  | _ => false

end Token

open Token

/-- Which parts may begin at a place. -/
inductive Position
  /-- Those of one line, or in brackets. -/
  | inline
  /-- Also those by indentation. -/
  | indented
  /-- Also a list whose dashes stand at the column of its name. -/
  | named
deriving DecidableEq

mutual

def part : Nat → Position → List Token → Option (Tree × List Token)
  | 0, _, _ => none
  | fuel + 1, position, tokens =>
    match tokens with
    | .scalar t :: rest => some (t, rest)
    | .openList :: rest => items fuel [] rest
    | .openMap :: rest => pairs fuel [] rest
    | .listStart :: rest => if position = .inline then none else entries fuel true [] rest
    | .mapStart :: rest => if position = .inline then none else members fuel [] rest
    | .dash :: _ => if position = .named then entries fuel false [] tokens else none
    | _ => none

/-- Reads on in a list by indentation, or in one at the column of its name. -/
def entries : Nat → Bool → List Tree → List Token → Option (Tree × List Token)
  | 0, _, _, _ => none
  | fuel + 1, indented, done, tokens =>
    match tokens with
    | .dash :: rest => do
      let (item, rest) ←
        if endsEntry indented rest then some (nothing, rest) else part fuel .indented rest
      entries fuel indented (item :: done) rest
    | .dedent :: rest => some (.list done.reverse, if indented then rest else tokens)
    | _ => if indented then none else some (.list done.reverse, tokens)

/-- Reads on in a map by indentation. A name without a colon has an empty value. -/
def members : Nat → List (Written × Tree) → List Token → Option (Tree × List Token)
  | 0, _, _ => none
  | fuel + 1, done, tokens =>
    match tokens with
    | .name :: rest => do
      let (key, rest) ← if endsPair rest then some (nothing, rest) else part fuel .named rest
      let (value, rest) ← match rest with
        | .colon :: rest =>
          if endsPair rest then some (nothing, rest) else part fuel .named rest
        | _ => some (nothing, rest)
      members fuel ((nameOf key, value) :: done) rest
    | .dedent :: rest => some (.object done.reverse none, rest)
    | _ => none

/-- Reads on in a list in brackets. A name with its value is a map of one member; in place of an empty
name one token is passed over. -/
def items : Nat → List Tree → List Token → Option (Tree × List Token)
  | 0, _, _ => none
  | fuel + 1, done, tokens =>
    match tokens with
    | .closeList :: rest => some (.list done.reverse, rest)
    | .name :: rest => do
      let (key, rest) ←
        if endsItem (fun t => isColon t || closesList t) rest then some (nothing, rest.drop 1)
        else part fuel .inline rest
      let (value, rest) ← flowValue fuel closesList rest
      moreItems fuel (.object [(nameOf key, value)] none :: done) rest
    | _ => do
      let (item, rest) ← part fuel .inline tokens
      moreItems fuel (item :: done) rest

/-- Reads on in a list in brackets after an item. -/
def moreItems : Nat → List Tree → List Token → Option (Tree × List Token)
  | 0, _, _ => none
  | fuel + 1, done, tokens =>
    match tokens with
    | .comma :: rest => items fuel done rest
    | .closeList :: rest => some (.list done.reverse, rest)
    | _ => none

/-- Reads the value of a name inside brackets, which may be left out. -/
def flowValue : Nat → (Token → Bool) → List Token → Option (Tree × List Token)
  | 0, _, _ => none
  | fuel + 1, closing, tokens =>
    match tokens with
    | .colon :: rest => if endsItem closing rest then some (nothing, rest) else part fuel .inline rest
    | _ => some (nothing, tokens)

/-- Reads on in a map in brackets. A part that is no name has an empty value. -/
def pairs : Nat → List (Written × Tree) → List Token → Option (Tree × List Token)
  | 0, _, _ => none
  | fuel + 1, done, tokens =>
    match tokens with
    | .closeMap :: rest => some (.object done.reverse none, rest)
    | .name :: rest => do
      let (key, rest) ←
        if endsItem (fun t => isColon t || closesMap t) rest then some (nothing, rest)
        else part fuel .inline rest
      let (value, rest) ← flowValue fuel closesMap rest
      morePairs fuel ((nameOf key, value) :: done) rest
    | _ => do
      let (key, rest) ← part fuel .inline tokens
      morePairs fuel ((nameOf key, nothing) :: done) rest

/-- Reads on in a map in brackets after a member. -/
def morePairs : Nat → List (Written × Tree) → List Token → Option (Tree × List Token)
  | 0, _, _ => none
  | fuel + 1, done, tokens =>
    match tokens with
    | .comma :: rest => pairs fuel done rest
    | .closeMap :: rest => some (.object done.reverse none, rest)
    | _ => none

end

/-! ## Documents -/

/-- Whether a text may hold a character. -/
def isAllowed (c : Char) : Bool :=
  let n := c.toNat
  n = 9 || n = 10 || n = 13 || (0x20 ≤ n && n ≤ 0x7E) || n = 0x85 ||
    (0xA0 ≤ n && n ≠ 0xFFFE && n ≠ 0xFFFF)

/-- The characters with a line feed in place of carriage returns and next-line characters; the pair of
a carriage return and a line feed is one line feed. -/
def withLineFeeds : List Char → List Char
  | [] => []
  | '\r' :: '\n' :: rest => '\n' :: withLineFeeds rest
  | c :: rest => (if c = '\r' || c = '\u0085' then '\n' else c) :: withLineFeeds rest

/-- Passes over the ends of documents. -/
def skipEnds : List Token → List Token
  | .documentEnd :: rest => skipEnds rest
  | tokens => tokens

/-- Reads the one document that the tokens hold; there may be none. -/
def document (tokens : List Token) : Option Tree :=
  let fuel := 4 * tokens.length + 4
  let content : Option (Tree × List Token) :=
    match tokens with
    | [] => some (nothing, [])
    | .documentStart :: rest =>
      match rest with
      | [] | .documentStart :: _ | .documentEnd :: _ => some (nothing, rest)
      | _ => part fuel .indented rest
    | _ => part fuel .indented tokens
  match content with
  | some (t, rest) => if (skipEnds rest).isEmpty then some t else none
  | none => none

def parse (text : String) : Option Tree :=
  if text.toList.all isAllowed then
    (Token.ofText? (withLineFeeds text.toList)).bind document
  else none

end Turnstile.Yaml
