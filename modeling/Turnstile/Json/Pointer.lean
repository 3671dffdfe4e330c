import Turnstile.Json.Value
import Turnstile.Text.Basic
/-!
# JSON pointers

A pointer addresses one value inside another. It is empty, or a slash before each token; a token
names a member of an object, or counts an item of an array in decimal digits without a leading zero.
In a token `~1` stands for a slash and `~0` for a tilde.
-/
namespace Turnstile.Json

/-- A token as it stands in a pointer. -/
def escapeToken (cs : List Char) : List Char :=
  cs.flatMap fun c => if c = '~' then ['~', '0'] else if c = '/' then ['~', '1'] else [c]

/-- The token that a part of a pointer stands for. -/
def unescapeToken : List Char → List Char
  | [] => []
  | ['~'] => ['~']
  | '~' :: '0' :: rest => '~' :: unescapeToken rest
  | '~' :: '1' :: rest => '/' :: unescapeToken rest
  | c :: rest => c :: unescapeToken rest

/-- The item that a token counts. -/
def itemIndex? (token : List Char) : Option Nat :=
  if token.isEmpty || !token.all Char.isDigit then none
  else if token.head? = some '0' && token.length ≠ 1 then none
  else
    let n := token.foldl (fun n c => n * 10 + (c.toNat - '0'.toNat)) 0
    if n < Nat.pow 2 64 then some n else none

/-- The value that a token addresses inside another. -/
def child? (token : List Char) : Json → Option Json
  | .object members => members.lookup (String.ofList token)
  | .array items => (itemIndex? token).bind fun i => items[i]?
  | _ => none

/-- The tokens of a pointer. -/
def pointerTokens? (pointer : List Char) : Option (List (List Char)) :=
  match pointer with
  | [] => some []
  | '/' :: rest => some ((Text.pieces '/' rest).map unescapeToken)
  | _ => none

/-- The value reached by a list of tokens. -/
def descend? (tokens : List (List Char)) (v : Json) : Option Json :=
  tokens.foldlM (fun node token => child? token node) v

/-- The value that a pointer addresses. -/
def atPointer? (v : Json) (pointer : String) : Option Json :=
  (pointerTokens? pointer.toList).bind fun tokens => descend? tokens v

/-- The pointer of a list of tokens. -/
def pointerOf (tokens : List String) : String :=
  String.ofList (tokens.flatMap fun token => '/' :: escapeToken token.toList)

end Turnstile.Json
