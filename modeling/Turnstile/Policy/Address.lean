import Turnstile.Headers
import Turnstile.NameSet
import Turnstile.Text.Basic
/-!
# Client addresses

The addresses a request may have come from, gathered from five headers. A header holds one address,
a list with commas, or `key=value` pairs with semicolons of which the `for` values count. Blanks
around an address are dropped, and an address that is nothing but blanks is none.
-/
namespace Turnstile.Policy

open Text

/-- How a header writes addresses. -/
inductive Convention
  | single
  | commaList
  | forwardedPairs
deriving Repr, DecidableEq

/-- The address that the characters hold, if they hold more than blanks. -/
def addressOf (cs : List Char) : Option String :=
  let trimmed := strip isBlank cs
  if trimmed.isEmpty then none else some (String.ofList trimmed)

/-- The address of a header that holds one. -/
def singleAddress (raw : String) : Option String := addressOf raw.toList

/-- The addresses of a header that lists them with commas. -/
def commaAddresses (raw : String) : List String :=
  (pieces ',' raw.toList).filterMap addressOf

/-- The address of one pair, if its key is `for`. -/
def pairAddress (segment : List Char) : Option String :=
  match splitFirst '=' segment with
  | none => none
  | some (key, value) =>
    if sameLetters (String.ofList (strip isBlank key)) "for" then addressOf value else none

/-- The addresses of a header of pairs. -/
def forwardedAddresses (raw : String) : List String :=
  (pieces ';' raw.toList).filterMap pairAddress

/-- The addresses a header's value holds under a convention. -/
def Convention.addresses : Convention → String → List String
  | .single, raw => (singleAddress raw).toList
  | .commaList, raw => commaAddresses raw
  | .forwardedPairs, raw => forwardedAddresses raw

/-- The headers that carry addresses. -/
def addressHeaders : List (String × Convention) :=
  [("x-real-ip", .single),
   ("x-forwarded-for", .commaList),
   ("x-proxyuser-ip", .single),
   ("forwarded", .forwardedPairs),
   ("proxy.client.addr", .single)]

/-- Every address the headers name. -/
def candidates (headers : Headers) : NameSet :=
  NameSet.ofList (addressHeaders.flatMap fun (name, convention) =>
    (headers.get? name).toList.flatMap convention.addresses)

end Turnstile.Policy
