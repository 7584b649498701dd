/-
The answer of an identity endpoint: a token, and for how long it is valid.

The validity is given in seconds from now or as a Unix time, each as a number or as text; the first that can be read counts. A
token is never taken to be valid for more than a day.
-/
import TenantGateway.Auth.Cache
import TenantGateway.Json.Reader
import TenantGateway.Text.Blank

namespace TenantGateway

open Text

/-- the members of an answer that matter -/
structure TokenAnswer where
  accessToken : List Char
  expiresIn : Option Json
  expiresOn : Option Json
  deriving Repr

namespace TokenAnswer

def accessTokenMember : List Char := "access_token".toList
def expiresInMember : List Char := "expires_in".toList
def expiresOnMember : List Char := "expires_on".toList

/-- whether a member is one of those that matter -/
def matters (name : List Char) : Bool :=
  name = accessTokenMember || name = expiresInMember || name = expiresOnMember

/-- a value unless it is null -/
def present : Json → Option Json
  | .null => none
  | value => some value

/-- the value of a member that comes once, if it comes -/
def once (members : List (List Char × Json)) (name : List Char) : Option (Option Json) :=
  match Json.valuesOf members name with
  | [] => some none
  | [value] => some (some value)
  | _ => none

/-- an object with these members, or an array of their values in this order, of which the last may be missing -/
def ofJson? : Json → Option TokenAnswer
  | .object members => do
    let token ← once members accessTokenMember
    let expiresIn ← once members expiresInMember
    let expiresOn ← once members expiresOnMember
    match token with
    | some (.text accessToken) => return ⟨accessToken, expiresIn.bind present, expiresOn.bind present⟩
    | _ => none
  | .array [.text accessToken] => some ⟨accessToken, none, none⟩
  | .array [.text accessToken, expiresIn] => some ⟨accessToken, present expiresIn, none⟩
  | .array [.text accessToken, expiresIn, expiresOn] => some ⟨accessToken, present expiresIn, present expiresOn⟩
  | _ => none

/-- the answer in a text -/
def ofText? (cs : List Char) : Option TokenAnswer :=
  (Json.read matters cs).bind ofJson?

/-- the largest number of seconds that is read -/
def largest : Nat := 0xFFFFFFFFFFFFFFFF

/-- a number in digits alone -/
def number? (cs : List Char) : Option Nat :=
  let n := Json.digitsValue cs
  if !cs.isEmpty && cs.all Char.isDigit && n ≤ largest then some n else none

/-- a value as seconds: a whole number, or a text of one, with blanks around it and a plus sign before it if you like -/
def seconds? : Json → Option Nat
  | .number literal => number? literal
  | .text value =>
    match trimChars value with
    | '+' :: digits => number? digits
    | digits => number? digits
  | _ => none

/-- for how many seconds the token is valid from the Unix time `now` -/
def validity? (a : TokenAnswer) (now : Nat) : Option Nat :=
  (a.expiresIn.bind seconds?).or ((a.expiresOn.bind seconds?).map (· - now))

/-- the token, valid for a day at most -/
def issue (a : TokenAnswer) (now : Nat) : FetchAnswer :=
  match a.validity? now with
  | some seconds => .ok ⟨String.ofList a.accessToken, min (24 * 3600) seconds * 1000000000⟩
  | none => .error (.credentialUnavailable "token response carries no expiry")

end TokenAnswer

end TenantGateway
