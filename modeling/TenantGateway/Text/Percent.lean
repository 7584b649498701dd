/-
Percent encoding: the bytes of a character as percent signs with two hexadecimal digits each.

Which characters are encoded depends on where they stand; `encode` is given the test. `formEncode` is the encoding of forms,
in which a blank is a plus sign.
-/
import TenantGateway.Text.Hex
import TenantGateway.Text.Search

namespace TenantGateway.Text

/-- a byte as a percent sign and two digits -/
def percentByte (b : UInt8) : List Char :=
  ['%', upperHexDigit (b.toNat / 16), upperHexDigit (b.toNat % 16)]

/-- every byte of a character -/
def percentChar (c : Char) : List Char :=
  (bytes (String.singleton c)).flatMap percentByte

/-- encode the characters that may not stand as they are -/
def percentEncode (mustEncode : Char → Bool) (cs : List Char) : List Char :=
  cs.flatMap fun c => if mustEncode c then percentChar c else [c]

/-- the characters that stand for themselves in a form -/
def isFormChar (c : Char) : Bool :=
  c.isAlphanum || c = '*' || c = '-' || c = '.' || c = '_'

/-- a character in a form -/
def formChar (c : Char) : List Char :=
  if c = ' ' then ['+'] else if isFormChar c then [c] else percentChar c

def formEncode (cs : List Char) : List Char :=
  cs.flatMap formChar

/-- names and values as one text -/
def formPairs (pairs : List (String × String)) : List Char :=
  ((pairs.map fun (name, value) => formEncode name.toList ++ '=' :: formEncode value.toList).intersperse ['&']).flatten

/-- the bytes of a text, those that are encoded decoded; a percent sign without two digits stands for itself -/
def percentDecode : List Char → List UInt8
  | [] => []
  | c :: rest =>
    match c, rest with
    | '%', a :: b :: after =>
      match hexValue? a, hexValue? b with
      | some high, some low => UInt8.ofNat (high * 16 + low) :: percentDecode after
      | _, _ => 0x25 :: percentDecode (a :: b :: after)
    | c, rest => bytes (String.singleton c) ++ percentDecode rest

/-- the decoded text, if its bytes are one -/
def percentDecodeText? (cs : List Char) : Option (List Char) :=
  (String.fromUTF8? (ByteArray.mk (percentDecode cs).toArray)).map String.toList

end TenantGateway.Text
