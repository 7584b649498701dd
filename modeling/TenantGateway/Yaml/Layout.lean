/-
From the text to its tokens.

Indentation opens and closes block collections, and a `:` turns what stands before it on the line into a key: the key's token
is put in front of tokens that were already found. `Token.ofText?` gives the tokens of a whole text, if every one of
them is well formed.
-/
import TenantGateway.Text.Search
import TenantGateway.Yaml.Scalar
import TenantGateway.Yaml.Token

namespace TenantGateway.Yaml

open Text

/-- a token that becomes a key if a `:` follows it -/
structure PossibleKey where
  /-- how many tokens come before it -/
  position : Nat
  /-- whether the block it stands in leaves it no other role -/
  required : Bool
  mark : Cursor
  deriving Repr

/-- the longest key, in bytes -/
def keyLength : Nat := 1024

/-- how far the tokens of a text have been found -/
structure Layout where
  cursor : Cursor
  /-- the tokens found, the last one first -/
  tokens : List Token
  count : Nat
  /-- how many brackets are open -/
  flow : Nat
  /-- the column of the innermost block, -1 outside any -/
  indent : Int
  outer : List Int
  keyAllowed : Bool
  /-- the possible key of each bracket level, the innermost first -/
  keys : List (Option PossibleKey)
  deriving Repr

namespace Layout

def start (cs : List Char) : Layout :=
  { cursor := .start cs, tokens := [], count := 0, flow := 0, indent := -1, outer := [], keyAllowed := true, keys := [none] }

def push (l : Layout) (t : Token) : Layout :=
  { l with tokens := t :: l.tokens, count := l.count + 1 }

/-- put a token in front of those from `position` on -/
def insertAt (l : Layout) (position : Nat) (t : Token) : Layout :=
  let after := l.count - position
  { l with tokens := l.tokens.take after ++ t :: l.tokens.drop after, count := l.count + 1 }

def skip (l : Layout) (n : Nat) : Layout :=
  { l with cursor := l.cursor.skip n }

/-- close the blocks deeper than a column; inside brackets indentation has no meaning -/
def unroll (l : Layout) (column : Int) : Layout :=
  if l.flow ≠ 0 then l
  else close l.outer l
where
  close : List Int → Layout → Layout
    | [], l => l
    | i :: outer, l =>
      if l.indent ≤ column then l
      else close outer { l.push .blockEnd with indent := i, outer := outer }

/-- open a block at a column if it is deeper than the innermost one -/
def roll (l : Layout) (column : Nat) (position : Nat) (opening : Token) : Layout :=
  if l.flow = 0 && l.indent < column then
    { l.insertAt position opening with indent := column, outer := l.indent :: l.outer }
  else l

/-- the possible key at this level is given up, which is refused for a required one -/
def dropKey (l : Layout) : Option Layout :=
  match l.keys with
  | some k :: keys => if k.required then none else some { l with keys := none :: keys }
  | _ => some l

/-- what follows may be a key -/
def saveKey (l : Layout) : Option Layout :=
  if l.keyAllowed then do
    let l ← l.dropKey
    let key : PossibleKey := ⟨l.count, l.flow = 0 && l.indent = l.cursor.column, l.cursor⟩
    return { l with keys := some key :: l.keys.tail }
  else some l

/-- a key has to end on its line and within `keyLength` -/
def isStale (l : Layout) (k : PossibleKey) : Bool :=
  k.mark.line < l.cursor.line || k.mark.index + keyLength < l.cursor.index

/-- give up the possible keys that have become stale -/
def dropStale (l : Layout) : Option Layout :=
  if l.keys.any fun k => k.any fun k => k.required && l.isStale k then none
  else some { l with keys := l.keys.map fun k => k.filter fun k => !l.isStale k }

/-- move over blanks, comments and line breaks to the next token, and over a byte order mark where a line begins -/
def skipToToken : (fuel : Nat) → Layout → Layout
  | 0, l => l
  | fuel + 1, l =>
    let c := l.cursor
    let c := if c.column = 0 && c.next = some (Char.ofNat 0xFEFF) then c.skip 1 else c
    let c := c.skipWhile fun b => b = ' ' || ((l.flow ≠ 0 || !l.keyAllowed) && b = '\t')
    let c := if c.next = some '#' then c.skipWhile (!isBreak ·) else c
    if c.next.any isBreak then
      skipToToken fuel { l with cursor := c.takeBreak.2, keyAllowed := l.keyAllowed || l.flow = 0 }
    else { l with cursor := c }

/-- a `---` or `...` -/
def documentEdge (l : Layout) (t : Token) : Option Layout := do
  let l ← (l.unroll (-1)).dropKey
  return ({ l with keyAllowed := false }.skip 3).push t

/-- an opening bracket -/
def openFlow (l : Layout) (t : Token) : Option Layout := do
  let l ← l.saveKey
  return ({ l with flow := l.flow + 1, keyAllowed := true, keys := none :: l.keys }.skip 1).push t

/-- a closing bracket -/
def closeFlow (l : Layout) (t : Token) : Option Layout := do
  let l ← l.dropKey
  let l := if l.flow = 0 then l else { l with flow := l.flow - 1, keys := l.keys.tail }
  return ({ l with keyAllowed := false }.skip 1).push t

/-- a comma inside brackets -/
def flowEntry (l : Layout) : Option Layout := do
  let l ← l.dropKey
  return ({ l with keyAllowed := true }.skip 1).push .flowEntry

/-- a `-` before an item -/
def blockEntry (l : Layout) : Option Layout := do
  if l.flow = 0 && !l.keyAllowed then none
  let l ← (l.roll l.cursor.column l.count .blockSequenceStart).dropKey
  return ({ l with keyAllowed := true }.skip 1).push .blockEntry

/-- a `?` before a key -/
def explicitKey (l : Layout) : Option Layout := do
  if l.flow = 0 && !l.keyAllowed then none
  let l ← (l.roll l.cursor.column l.count .blockMappingStart).dropKey
  return ({ l with keyAllowed := l.flow = 0 }.skip 1).push .key

/-- a `:` before a value -/
def value (l : Layout) : Option Layout :=
  match l.keys with
  | some k :: keys =>
    let l := (l.insertAt k.position .key).roll k.mark.column k.position .blockMappingStart
    some (({ l with keys := none :: keys, keyAllowed := false }.skip 1).push .value)
  | _ =>
    if l.flow = 0 && !l.keyAllowed then none
    else
      let l := l.roll l.cursor.column l.count .blockMappingStart
      some (({ l with keyAllowed := l.flow = 0 }.skip 1).push .value)

/-- an anchor or an alias -/
def name (l : Layout) (t : List Char → Token) : Option Layout := do
  let l ← l.saveKey
  let (name, c) := (l.cursor.skip 1).span isWordChar
  if name.isEmpty || !(endsWord c.next || c.next.any fun d => "?:,]\x7d%@\x60".toList.contains d) then none
  return { l with keyAllowed := false, cursor := c }.push (t name)

/-- the characters of a tag; inside `!< >` and in directives also the comma and the square brackets -/
def isTagChar (anywhere : Bool) (c : Char) : Bool :=
  isWordChar c || ";/?:@&=+$.%!~*'()".toList.contains c || (anywhere && ",[]".toList.contains c)

/-- the width of a character in UTF-8, by its first byte -/
def byteWidth (n : Nat) : Option Nat :=
  if n < 0x80 then some 1
  else if 0xC0 ≤ n && n < 0xE0 then some 2
  else if 0xE0 ≤ n && n < 0xF0 then some 3
  else if 0xF0 ≤ n && n < 0xF8 then some 4
  else none

/-- the bytes of a tag, a `%` with two digits standing for one; `inside` is how many more bytes the character needs -/
def tagBytes : (inside : Nat) → List Char → Option (List UInt8)
  | 0, [] => some []
  | _ + 1, [] => none
  | inside, '%' :: a :: b :: rest => do
    let byte := (← hexValue? a) * 16 + (← hexValue? b)
    let inside ← match inside with
      | 0 => (byteWidth byte).map (· - 1)
      | n + 1 => if 0x80 ≤ byte && byte < 0xC0 then some n else none
    return UInt8.ofNat byte :: (← tagBytes inside rest)
  | 0, c :: rest => if c = '%' then none else (tagBytes 0 rest).map (bytes (String.singleton c) ++ ·)
  | _ + 1, _ :: _ => none

/-- a run of tag characters as bytes -/
def tagText (anywhere : Bool) (c : Cursor) : Option (List UInt8 × Cursor) := do
  let (text, c) := c.span (isTagChar anywhere)
  return (← tagBytes 0 text, c)

/-- a handle: `!`, word characters and, where it has to be closed or is, another `!` -/
def handle (closed : Bool) (c : Cursor) : Option (List Char × Cursor) := do
  if c.next ≠ some '!' then none
  let (word, c) := (c.skip 1).span isWordChar
  if c.next = some '!' then return ('!' :: word ++ ['!'], c.skip 1)
  else if closed && !word.isEmpty then none
  else return ('!' :: word, c)

/-- the two parts of a tag -/
def tagParts (c : Cursor) : Option (List Char × List UInt8 × Cursor) := do
  if c.ahead 1 = some '<' then
    let (text, c) ← tagText true (c.skip 2)
    if text.isEmpty || c.next ≠ some '>' then none
    return ([], text, c.skip 1)
  else
    let (handle, c) ← handle false c
    if handle.length > 1 && handle.getLast? = some '!' then
      let (text, c) ← tagText false c
      if text.isEmpty then none
      return (handle, text, c)
    else
      let (text, c) ← tagText false c
      let text := bytes (String.ofList handle.tail) ++ text
      if text.isEmpty then return ([], [0x21], c)
      return (['!'], text, c)

/-- a tag -/
def tag (l : Layout) : Option Layout := do
  let l ← l.saveKey
  let (handle, suffix, c) ← tagParts l.cursor
  if !(endsWord c.next || (l.flow ≠ 0 && c.next = some ',')) then none
  return { l with keyAllowed := false, cursor := c }.push (.tag handle suffix)

/-- a number of at most nine digits -/
def smallNumber (c : Cursor) : Option (Nat × Cursor) := do
  let (digits, c) := c.span Char.isDigit
  if digits.isEmpty || digits.length > 9 then none
  return (digits.foldl (fun n d => n * 10 + (d.toNat - '0'.toNat)) 0, c)

/-- the token of a directive, and the place after it -/
def directiveToken (c : Cursor) : Option (Token × Cursor) := do
  let (name, c) := (c.skip 1).span isWordChar
  if !endsWord c.next then none
  let c := c.skipWhile isBlank
  if name = "YAML".toList then
    let (major, c) ← smallNumber c
    if c.next ≠ some '.' then none
    let (minor, c) ← smallNumber (c.skip 1)
    return (.version major minor, c)
  else if name = "TAG".toList then
    let (handle, c) ← handle true c
    if !c.next.any isBlank then none
    let (text, c) ← tagText true (c.skipWhile isBlank)
    if text.isEmpty || !endsWord c.next then none
    return (.tagHandle handle text, c)
  else none

/-- a line that begins with `%` -/
def directive (l : Layout) : Option Layout := do
  let l ← (l.unroll (-1)).dropKey
  let (t, c) ← directiveToken l.cursor
  let c := c.skipWhile isBlank
  let c := if c.next = some '#' then c.skipWhile (!isBreak ·) else c
  if !endsLine c.next then none
  return { l with keyAllowed := false, cursor := c.takeBreak.2 }.push t

/-- a block scalar -/
def blockScalar (fuel : Nat) (l : Layout) (style : Style) : Option Layout := do
  let l ← l.dropKey
  let (text, c) ← readBlock (style = .folded) l.indent fuel (l.cursor.skip 1)
  return { l with keyAllowed := true, cursor := c }.push (.scalar style text)

/-- a quoted scalar -/
def quotedScalar (fuel : Nat) (l : Layout) (style : Style) (mark : Char) : Option Layout := do
  let l ← l.saveKey
  let (text, c) ← readQuoted mark fuel [] (l.cursor.skip 1)
  return { l with keyAllowed := false, cursor := c }.push (.scalar style text)

/-- a plain scalar -/
def plainScalar (fuel : Nat) (l : Layout) : Option Layout := do
  let l ← l.saveKey
  let (text, broken, c) ← readPlain (l.flow ≠ 0) (l.indent + 1).toNat fuel [] .none l.cursor
  return { l with keyAllowed := broken, cursor := c }.push (.scalar .plain text)

/-- the characters that cannot begin a plain scalar -/
def isIndicator (c : Char) : Bool :=
  "-?:,[]\x7b\x7d#&*!|>'\"%@\x60".toList.contains c

/-- the token that begins with `c` -/
def token (fuel : Nat) (l : Layout) (c : Char) : Option Layout :=
  let ended := endsWord (l.cursor.ahead 1)
  let inFlow := l.flow ≠ 0
  if l.cursor.column = 0 && c = '%' then l.directive
  else if l.cursor.atMarker '-' then l.documentEdge .documentStart
  else if l.cursor.atMarker '.' then l.documentEdge .documentEnd
  else if c = '[' then l.openFlow .flowSequenceStart
  else if c = '\x7b' then l.openFlow .flowMappingStart
  else if c = ']' then l.closeFlow .flowSequenceEnd
  else if c = '\x7d' then l.closeFlow .flowMappingEnd
  else if c = ',' then l.flowEntry
  else if c = '-' && ended then l.blockEntry
  else if c = '?' && (inFlow || ended) then l.explicitKey
  else if c = ':' && (inFlow || ended) then l.value
  else if c = '*' then l.name .alias
  else if c = '&' then l.name .anchor
  else if c = '!' then l.tag
  else if c = '|' && !inFlow then blockScalar fuel l .literal
  else if c = '>' && !inFlow then blockScalar fuel l .folded
  else if c = '\'' then quotedScalar fuel l .singleQuoted c
  else if c = '"' then quotedScalar fuel l .doubleQuoted c
  else if !isIndicator c || c = '-' || (!inFlow && (c = '?' || c = ':')) then
    if c = '\t' then none else plainScalar fuel l
  else none

/-- the end of the text: every block ends -/
def finish (l : Layout) : Option Layout :=
  let line := if l.cursor.column = 0 then l.cursor.line else l.cursor.line + 1
  ({ l with cursor := ⟨l.cursor.rest, l.cursor.index, line, 0⟩ }.unroll (-1)).dropKey

/-- find token after token -/
def run : (fuel : Nat) → Layout → Option Layout
  | 0, _ => none
  | fuel + 1, l => do
    let l ← (skipToToken (fuel + 1) l).dropStale
    let l := l.unroll l.cursor.column
    match l.cursor.next with
    | none => l.finish
    | some c => run fuel (← token (fuel + 1) l c)

end Layout

/-- the characters a text may hold -/
def isTextChar (c : Char) : Bool :=
  let n := c.toNat
  n = 9 || n = 10 || n = 13 || (0x20 ≤ n && n ≤ 0x7E) || n = 0x85 || (0xA0 ≤ n && n ≤ 0xFFFD) || 0x10000 ≤ n

/-- the tokens of a text -/
def Token.ofText? (cs : List Char) : Option (List Token) := do
  if !cs.all isTextChar then none
  let l ← (Layout.start cs).run (cs.length + 2)
  return l.tokens.reverse

end TenantGateway.Yaml
