/-
Texts in double quotes, for messages and logs.

The quote, the backslash, the common controls and every character that `isShown` hides are escaped, the last as their code
point in hexadecimal between braces.
-/
import TenantGateway.Text.Hex
import TenantGateway.Text.Shown

namespace TenantGateway.Text

/-- one character of a quoted text -/
def quoteChar (c : Char) : List Char :=
  if c = '"' then ['\\', '"']
  else if c = '\\' then ['\\', '\\']
  else if c = '\t' then ['\\', 't']
  else if c = '\r' then ['\\', 'r']
  else if c = '\n' then ['\\', 'n']
  else if c.toNat = 0 then ['\\', '0']
  else if isShown c then [c]
  else '\\' :: 'u' :: '\x7b' :: (hex c.toNat ++ ['\x7d'])

/-- the text in double quotes -/
def quoted (s : String) : String :=
  String.ofList ('"' :: (s.toList.flatMap quoteChar ++ ['"']))

end TenantGateway.Text
