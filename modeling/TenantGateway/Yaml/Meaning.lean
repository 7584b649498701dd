/-
What a scalar means: nothing, a truth value, a number or a text.

Only plain scalars can be more than text, unless a tag says so. A number with a zero in front is a text.
-/
import TenantGateway.Decimal.Shortest
import TenantGateway.Text.Hex
import TenantGateway.Text.Quoted
import TenantGateway.Text.Search
import TenantGateway.Yaml.Tree

namespace TenantGateway.Yaml

open Text Decimal

/-- what a scalar means; a negative integer is one with a minus, be it zero, and a wide one needs more than 64 bits -/
inductive Meaning where
  | null
  | flag (value : Bool)
  | natural (value : Nat)
  | negative (size : Nat)
  | wideNatural (value : Nat)
  | wideNegative (size : Nat)
  | real (value : Floating)
  | text (value : List Char)
  deriving DecidableEq, Repr

namespace Meaning

/-- the meaning as it is named in messages -/
def describe : Meaning → String
  | .null => "unit value"
  | .flag value => "boolean \x60" ++ (if value then "true" else "false") ++ "\x60"
  | .natural value => "integer \x60" ++ toString value ++ "\x60"
  | .negative size => "integer \x60" ++ toString (-(size : Int)) ++ "\x60"
  | .wideNatural value => "integer \x60" ++ toString value ++ "\x60 as u128"
  | .wideNegative size => "integer \x60" ++ toString (-(size : Int)) ++ "\x60 as i128"
  | .real value => "floating point \x60" ++ String.ofList value.render ++ "\x60"
  | .text value => "string " ++ quoted (String.ofList value)

end Meaning

def isNull (cs : List Char) : Bool :=
  cs = ['~'] || cs = "null".toList || cs = "Null".toList || cs = "NULL".toList

def readFlag? (cs : List Char) : Option Bool :=
  if cs = "true".toList || cs = "True".toList || cs = "TRUE".toList then some true
  else if cs = "false".toList || cs = "False".toList || cs = "FALSE".toList then some false
  else none

/-- the text without its sign, if it has one -/
def unsigned : List Char → List Char
  | '-' :: rest => rest
  | '+' :: rest => rest
  | cs => cs

/-- digits of which the first of several is zero -/
def isZeroPadded (cs : List Char) : Bool :=
  match unsigned cs with
  | '0' :: d :: rest => (d :: rest).all Char.isDigit
  | _ => false

/-- digits of a base up to sixteen, at least one -/
def digits? (base : Nat) (cs : List Char) : Option Nat :=
  if cs.isEmpty then none
  else cs.foldlM (fun n c => (hexValue? c).bind fun d => if d < base then some (n * base + d) else none) 0

/-- the base that `0x`, `0o` or `0b` announces, and the digits after it -/
def baseOf : List Char → Option (Nat × List Char)
  | '0' :: 'x' :: rest => some (16, rest)
  | '0' :: 'o' :: rest => some (8, rest)
  | '0' :: 'b' :: rest => some (2, rest)
  | _ => none

/-- a number that is not negative: decimal or of an announced base, with or without a plus -/
def readNat? (cs : List Char) : Option Nat :=
  let core := match cs with
    | '+' :: rest => rest
    | cs => cs
  match baseOf core with
  | some (base, rest) => digits? base rest
  | none => if isZeroPadded cs then none else digits? 10 core

/-- a number with a minus -/
def readNegative? : List Char → Option Nat
  | '-' :: rest =>
    match baseOf rest with
    | some (base, digits) => digits? base digits
    | none => if isZeroPadded rest then none else digits? 10 rest
  | _ => none

/-- an integer of at most 128 bits -/
def readInteger? (cs : List Char) : Option Meaning :=
  match readNat? cs with
  | some n => if n < Nat.pow 2 64 then some (.natural n) else if n < Nat.pow 2 128 then some (.wideNatural n) else none
  | none =>
    match readNegative? cs with
    | some n => if n ≤ Nat.pow 2 63 then some (.negative n) else if n ≤ Nat.pow 2 127 then some (.wideNegative n) else none
    | none => none

/-- digits, a point among or around them, and an exponent; the fraction they stand for -/
def readFraction? (cs : List Char) : Option (Nat × Nat) := do
  let whole := cs.takeWhile Char.isDigit
  let (places, rest) := match cs.dropWhile Char.isDigit with
    | '.' :: rest => (rest.takeWhile Char.isDigit, rest.dropWhile Char.isDigit)
    | rest => ([], rest)
  let digits ← digits? 10 (whole ++ places)
  let exponent ← match rest with
    | [] => some (0 : Int)
    | e :: rest =>
      if e = 'e' || e = 'E' then
        match rest with
        | '-' :: rest => (digits? 10 rest).map fun n => -(n : Int)
        | '+' :: rest => (digits? 10 rest).map Int.ofNat
        | rest => (digits? 10 rest).map Int.ofNat
      else none
  let scale := exponent - places.length
  -- past this many places the number is zero or beyond every double, whatever its digits
  let bound : Int := 400 + (whole ++ places).length
  let scale := max (-bound) (min bound scale)
  if 0 ≤ scale then return (digits * Nat.pow 10 scale.toNat, 1) else return (digits, Nat.pow 10 (-scale).toNat)

/-- a finite decimal number -/
def readDecimal? (cs : List Char) : Option Floating := do
  let (negative, core) := match cs with
    | '-' :: rest => (true, rest)
    | '+' :: rest => (false, rest)
    | cs => (false, cs)
  let (num, den) ← readFraction? core
  return .finite negative (← Double.nearest? num den)

/-- a real number: a decimal one, or the words for infinity and for what is no number -/
def readReal? (cs : List Char) : Option Floating :=
  let core := match cs with
    | '+' :: rest => rest
    | cs => cs
  if [".inf", ".Inf", ".INF"].any (·.toList = core) then some (.infinite false)
  else if ["-.inf", "-.Inf", "-.INF"].any (·.toList = cs) then some (.infinite true)
  else if [".nan", ".NaN", ".NAN"].any (·.toList = cs) then some .notANumber
  else readDecimal? cs

/-- the meaning of a plain scalar without a tag -/
def plainMeaning (cs : List Char) : Meaning :=
  if cs.isEmpty || isNull cs then .null
  else
    match readFlag? cs with
    | some value => .flag value
    | none =>
      match readInteger? cs with
      | some value => value
      | none =>
        match (if isZeroPadded cs then none else readReal? cs) with
        | some value => .real value
        | none => .text cs

/-- the tags of the standard types -/
inductive StandardTag where
  | null
  | flag
  | integer
  | real
  deriving DecidableEq, Repr

namespace StandardTag

def name : StandardTag → String
  | .null => "null"
  | .flag => "bool"
  | .integer => "int"
  | .real => "float"

def bytes (t : StandardTag) : List UInt8 :=
  Text.bytes ("tag:yaml.org,2002:" ++ t.name)

/-- what a scalar with the tag has to be, as it is named in messages -/
def wanted : StandardTag → String
  | .null => "null"
  | .flag => "a boolean"
  | .integer => "an integer"
  | .real => "a float"

/-- read a text as the tag says -/
def read? (t : StandardTag) (cs : List Char) : Option Meaning :=
  match t with
  | .null => if isNull cs then some .null else none
  | .flag => (readFlag? cs).map .flag
  | .integer => readInteger? cs
  | .real => (readReal? cs).map .real

end StandardTag

namespace Scalar

/-- the standard type its tag names -/
def standardTag? (s : Scalar) : Option StandardTag :=
  s.tag.bind fun tag => [StandardTag.null, .flag, .integer, .real].find? (·.bytes = tag)

/-- the tag without its `!`, if it is local to the application -/
def localTag? (s : Scalar) : Option (List UInt8) :=
  match s.tag with
  | some (b :: rest) => if b = 0x21 then some rest else none
  | _ => none

/-- the meaning of a scalar, or the standard type its text does not fit -/
def meaning (s : Scalar) : Except StandardTag Meaning :=
  match s.standardTag? with
  | some t =>
    match t.read? s.text with
    | some m => .ok m
    | none => .error t
  | none =>
    if s.style = .plain && (s.tag.isNone || s.localTag?.isSome) then .ok (plainMeaning s.text)
    else .ok (.text s.text)

/-- whether the scalar may hold a value of a standard type: it is plain, or a literal block with that tag -/
def mayBe (s : Scalar) (t : StandardTag) : Bool :=
  s.style = .plain || (s.style = .literal && s.tag = some t.bytes)

/-- an empty plain scalar -/
def isAbsent (s : Scalar) : Bool :=
  s.text.isEmpty && s.style = .plain

end Scalar

end TenantGateway.Yaml
