/-
A place in a YAML text.

A cursor holds what is left of the text and how far it is from the start of the text, in bytes, and of its line, in characters.
Moving over a line break, of which CR LF is one, goes to the start of the next line.
-/
namespace TenantGateway.Yaml

structure Cursor where
  rest : List Char
  index : Nat
  line : Nat
  column : Nat
  deriving Repr

/-- the space and the tab -/
def isBlank (c : Char) : Bool :=
  c = ' ' || c = '\t'

/-- LF, CR, NEL and the two Unicode separators -/
def isBreak (c : Char) : Bool :=
  c = '\n' || c = '\r' || c.toNat = 0x85 || c.toNat = 0x2028 || c.toNat = 0x2029

/-- a break or the end of the text -/
def endsLine : Option Char → Bool
  | none => true
  | some c => isBreak c

/-- a blank, a break or the end of the text -/
def endsWord : Option Char → Bool
  | none => true
  | some c => isBlank c || isBreak c

/-- the characters of anchors, handles and directive names -/
def isWordChar (c : Char) : Bool :=
  c.isAlphanum || c = '_' || c = '-'

namespace Cursor

def start (cs : List Char) : Cursor :=
  ⟨cs, 0, 0, 0⟩

/-- the character `n` places ahead -/
def ahead (c : Cursor) (n : Nat) : Option Char :=
  c.rest[n]?

def next (c : Cursor) : Option Char :=
  c.rest.head?

/-- move over `n` characters of the line -/
def skip (c : Cursor) : Nat → Cursor
  | 0 => c
  | n + 1 =>
    match c.rest with
    | [] => c
    | d :: rest => skip ⟨rest, c.index + d.utf8Size, c.line, c.column + 1⟩ n

/-- the leading characters with a property, and the place after them on the same line -/
def span (c : Cursor) (p : Char → Bool) : List Char × Cursor :=
  let taken := c.rest.takeWhile p
  (taken, c.skip taken.length)

/-- move over the leading characters with a property -/
def skipWhile (c : Cursor) (p : Char → Bool) : Cursor :=
  (c.span p).2

/-- move over a line break: the text it stands for, and the start of the next line -/
def takeBreak (c : Cursor) : List Char × Cursor :=
  match c.rest with
  | '\r' :: '\n' :: rest => (['\n'], ⟨rest, c.index + 2, c.line + 1, 0⟩)
  | b :: rest =>
    if isBreak b then
      (if b.toNat = 0x2028 || b.toNat = 0x2029 then [b] else ['\n'], ⟨rest, c.index + b.utf8Size, c.line + 1, 0⟩)
    else ([], c)
  | [] => ([], c)

/-- whether a document marker stands here: three times `mark` at the start of a line, alone or followed by a blank -/
def atMarker (c : Cursor) (mark : Char) : Bool :=
  c.column = 0 && [mark, mark, mark].isPrefixOf c.rest && endsWord (c.ahead 3)

/-- whether a document starts or ends here -/
def atDocumentEdge (c : Cursor) : Bool :=
  c.atMarker '-' || c.atMarker '.'

end Cursor

end TenantGateway.Yaml
