import Turnstile.Yaml.Scalar
/-!
# YAML tokens

The marks and texts of a document in order. Indentation becomes tokens: one where a list or a map
begins, and one where it ends. A text or a part in brackets may turn out to be a name only at the colon
after it, on the same line and soon enough; the token for that is then put in front of it.
-/
namespace Turnstile.Yaml

/-- A token. -/
inductive Token
  /-- A list by indentation begins. -/
  | listStart
  /-- A map by indentation begins. -/
  | mapStart
  /-- A list or map by indentation ends. -/
  | dedent
  | openList
  | closeList
  | openMap
  | closeMap
  | comma
  /-- The dash before an entry. -/
  | dash
  /-- A name follows. -/
  | name
  /-- The colon before a value. -/
  | colon
  | scalar (t : Tree)
  | documentStart
  | documentEnd

/-- A place where a name may have begun. -/
structure Candidate where
  /-- How many tokens stand before it. -/
  number : Nat
  /-- Nothing but a name can stand there. -/
  required : Bool
  mark : Mark

/-- How many bytes may stand before the colon of a name, from its beginning. -/
def nameLimit : Nat := 1024

/-- Whether a colon at `m` comes too late. -/
def Candidate.isStale (k : Candidate) (m : Mark) : Bool :=
  k.mark.line < m.line || k.mark.index + nameLimit < m.index

/-- What has been read of a text. -/
structure Progress where
  place : Place
  tokens : Array Token
  /-- Where the lists and maps by indentation begin that are open, the innermost first. -/
  columns : List Nat
  /-- Where a name may have begun. -/
  candidate : Option Candidate
  /-- The same for the brackets around, the innermost first. -/
  outer : List (Option Candidate)
  /-- Whether a name may begin here. -/
  fresh : Bool

namespace Progress

def start (cs : List Char) : Progress := ⟨⟨⟨0, 0, 0⟩, cs⟩, #[], [], none, [], true⟩

/-- Whether the place is inside brackets. -/
def inFlow (s : Progress) : Bool := !s.outer.isEmpty

def column (s : Progress) : Nat := s.place.mark.column

def push (s : Progress) (t : Token) : Progress := { s with tokens := s.tokens.push t }

/-- A token of `n` characters. -/
def take (s : Progress) (n : Nat) (t : Token) : Progress :=
  { s with place := s.place.advance n, tokens := s.tokens.push t }

/-! ## Between the tokens -/

/-- The place after blanks, line breaks and comments, and whether a name may begin there. A line may
start with a byte order mark. Outside brackets a tab is out of place where a name may begin. -/
def skipFrom (flow fresh comment : Bool) (m : Mark) : List Char → Place × Bool
  | [] => (⟨m, []⟩, fresh)
  | c :: rest =>
    if isBreak c then skipFrom flow (fresh || !flow) false (m.nextLine c) rest
    else if comment then skipFrom flow fresh true (m.next c) rest
    else if c = '\uFEFF' && m.column = 0 then skipFrom flow fresh false (m.next c) rest
    else if c = ' ' || (c = '\t' && (flow || !fresh)) then skipFrom flow fresh false (m.next c) rest
    else if c = '#' then skipFrom flow fresh true (m.next c) rest
    else (⟨m, c :: rest⟩, fresh)

/-- Goes on to the next token. -/
def skip (s : Progress) : Progress :=
  let (place, fresh) := skipFrom s.inFlow s.fresh false s.place.mark s.place.rest
  { s with place := place, fresh := fresh }

/-! ## Names -/

/-- The candidate unless it is stale; none at all if it had to be a name. -/
def refresh (m : Mark) : Option Candidate → Option (Option Candidate)
  | none => some none
  | some k => if k.isStale m then (if k.required then none else some none) else some (some k)

/-- Gives up the candidates for which it is too late. -/
def dropStale (s : Progress) : Option Progress := do
  let candidate ← refresh s.place.mark s.candidate
  let outer ← s.outer.mapM (refresh s.place.mark)
  some { s with candidate := candidate, outer := outer }

/-- Gives up the innermost candidate, unless it had to be a name. -/
def dropCandidate (s : Progress) : Option Progress :=
  if s.candidate.any (·.required) then none else some { s with candidate := none }

/-- Notes that a name may begin here. -/
def noteCandidate (s : Progress) : Option Progress := do
  if s.fresh then
    let required := !s.inFlow && s.columns.head? = some s.column
    let s ← s.dropCandidate
    some { s with candidate := some ⟨s.tokens.size, required, s.place.mark⟩ }
  else some s

/-! ## Indentation -/

/-- Ends the lists and maps that began at a column beyond `column`. -/
def closeTo (s : Progress) (column : Nat) : Progress :=
  if s.inFlow then s
  else
    let closed := s.columns.takeWhile (column < ·)
    { s with
      columns := s.columns.drop closed.length
      tokens := closed.foldl (fun tokens _ => tokens.push .dedent) s.tokens }

/-- Ends all lists and maps by indentation. -/
def closeAll (s : Progress) : Progress :=
  if s.inFlow then s
  else
    { s with
      columns := []
      tokens := s.columns.foldl (fun tokens _ => tokens.push .dedent) s.tokens }

/-- Begins a list or map at `column`, with the token numbered `number`, unless one is open there. -/
def openAt (s : Progress) (column number : Nat) (t : Token) : Progress :=
  if s.inFlow || s.columns.head?.any (column ≤ ·) then s
  else
    { s with
      columns := column :: s.columns
      tokens := s.tokens.insertIdxIfInBounds number t }

/-- The column from which the further lines of a text have to be indented. -/
def indent (s : Progress) : Nat :=
  match s.columns with
  | [] => 0
  | column :: _ => column + 1

/-! ## Tokens -/

def marker (s : Progress) (t : Token) : Option Progress := do
  let s ← s.closeAll.dropCandidate
  some { s.take 3 t with fresh := false }

def openBracket (s : Progress) (t : Token) : Option Progress := do
  let s ← s.noteCandidate
  some { s.take 1 t with candidate := none, outer := s.candidate :: s.outer, fresh := true }

def closeBracket (s : Progress) (t : Token) : Option Progress := do
  let s ← s.dropCandidate
  some { s.take 1 t with
    candidate := s.outer.head?.getD none, outer := s.outer.tail, fresh := false }

def comma (s : Progress) : Option Progress := do
  let s ← s.dropCandidate
  some { s.take 1 .comma with fresh := true }

/-- Begins a list or map here, where that is allowed. -/
def openHere (s : Progress) (t : Token) : Option Progress :=
  if s.inFlow then some s
  else if s.fresh then some (s.openAt s.column s.tokens.size t)
  else none

def dash (s : Progress) : Option Progress := do
  let s ← s.openHere .listStart
  let s ← s.dropCandidate
  some { s.take 1 .dash with fresh := true }

/-- Reads the question mark before a name. -/
def questionMark (s : Progress) : Option Progress := do
  let s ← s.openHere .mapStart
  let s ← s.dropCandidate
  some { s.take 1 .name with fresh := !s.inFlow }

/-- Reads a colon, which makes a name of the candidate. -/
def colon (s : Progress) : Option Progress :=
  match s.candidate with
  | some k =>
    let named := { s with tokens := s.tokens.insertIdxIfInBounds k.number .name, candidate := none }
    some { (named.openAt k.mark.column k.number .mapStart).take 1 .colon with fresh := false }
  | none => do
    let s ← s.openHere .mapStart
    some { s.take 1 .colon with fresh := !s.inFlow }

/-- Takes in a text that was read. -/
def scalar (s : Progress) (read : Option Scalar) (tree : String → Tree) : Option Progress := do
  let s ← s.noteCandidate
  let scalar ← read
  some { s.push (.scalar (tree scalar.text)) with place := scalar.after, fresh := scalar.broken }

/-- Reads the token that begins here with `c`. -/
def token (s : Progress) (c : Char) (rest : List Char) : Option Progress :=
  let inside := s.place.advance 1
  if s.place.isMarkerOf '-' then s.marker .documentStart
  else if s.place.isMarkerOf '.' then s.marker .documentEnd
  else if c = '[' then s.openBracket .openList
  else if c = '\x7b' then s.openBracket .openMap
  else if c = ']' then s.closeBracket .closeList
  else if c = '\x7d' then s.closeBracket .closeMap
  else if c = ',' then s.comma
  else if c = '-' && endsWord rest then s.dash
  else if c = '?' && (s.inFlow || endsWord rest) then s.questionMark
  else if c = ':' && (s.inFlow || endsWord rest) then s.colon
  else if c = '\'' then s.scalar (singleFrom [] .none inside.mark rest) .ofString
  else if c = '"' then s.scalar (doubleFrom .text [] .none inside.mark rest) .ofString
  else if startsPlain s.inFlow (c :: rest) then
    s.scalar (plainFrom s.inFlow s.indent [] .none s.place.mark (c :: rest)) .plain
  else none

/-- Reads on to the end. Each token has a character, so their number is enough fuel. -/
def run : Nat → Progress → Option (List Token)
  | 0, _ => none
  | fuel + 1, s => do
    let s ← s.skip.dropStale
    let s := s.closeTo s.column
    match s.place.rest with
    | [] =>
      let s ← s.closeAll.dropCandidate
      some s.tokens.toList
    | c :: rest =>
      let s ← s.token c rest
      run fuel s

end Progress

/-- The tokens of a text. -/
def Token.ofText? (cs : List Char) : Option (List Token) :=
  (Progress.start cs).run (cs.length + 1)

end Turnstile.Yaml
