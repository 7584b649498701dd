/-
Hexadecimal digits, written and read.
-/
namespace TenantGateway.Text

/-- the digit of a value below 16, in lower case -/
def hexDigit (n : Nat) : Char :=
  if n < 10 then Char.ofNat ('0'.toNat + n) else Char.ofNat ('a'.toNat + (n - 10))

/-- the digit of a value below 16, in upper case -/
def upperHexDigit (n : Nat) : Char :=
  if n < 10 then Char.ofNat ('0'.toNat + n) else Char.ofNat ('A'.toNat + (n - 10))

/-- the value of a hexadecimal digit of either case -/
def hexValue? (c : Char) : Option Nat :=
  if c.isDigit then some (c.toNat - '0'.toNat)
  else if 'a' ≤ c ∧ c ≤ 'f' then some (c.toNat - 'a'.toNat + 10)
  else if 'A' ≤ c ∧ c ≤ 'F' then some (c.toNat - 'A'.toNat + 10)
  else none

/-- a number in hexadecimal, without leading zeros -/
def hex (n : Nat) : List Char :=
  Nat.toDigits 16 n

end TenantGateway.Text
