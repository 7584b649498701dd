/-
JSON values, and how a string is written.

Member order and repeated members are kept: what repetition means is up to the reader of an object. `quote` writes a string
the compact way: the quote, the backslash and the control characters are escaped and everything else stands as it is.
-/
import TenantGateway.Text.Hex

namespace TenantGateway

/-- a JSON value; a number keeps the text it was written with -/
inductive Json where
  | null
  | flag (value : Bool)
  | number (literal : List Char)
  | text (value : List Char)
  | array (items : List Json)
  | object (members : List (List Char × Json))
  deriving Repr

namespace Json

/-- the one-letter escapes -/
def shortEscape? (c : Char) : Option Char :=
  if c = '"' then some '"'
  else if c = '\\' then some '\\'
  else if c.toNat = 8 then some 'b'
  else if c.toNat = 12 then some 'f'
  else if c = '\n' then some 'n'
  else if c = '\r' then some 'r'
  else if c = '\t' then some 't'
  else none

/-- one character of a string, escaped where it has to be -/
def escape (c : Char) : List Char :=
  match shortEscape? c with
  | some letter => ['\\', letter]
  | none =>
    if c.toNat < 0x20 then
      ['\\', 'u', '0', '0', Text.hexDigit (c.toNat / 16), Text.hexDigit (c.toNat % 16)]
    else [c]

/-- a string between quotes -/
def quote (cs : List Char) : List Char :=
  '"' :: (cs.flatMap escape ++ ['"'])

/-- an object whose members are all strings, without blanks -/
def writeTexts (members : List (List Char × List Char)) : List Char :=
  let written := members.map fun (key, value) => quote key ++ ':' :: quote value
  '\x7b' :: ((written.intersperse [',']).flatten ++ ['\x7d'])

end Json

end TenantGateway
