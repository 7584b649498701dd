/-
From the tokens to the tree of a document, its anchors and aliases still in place.

A text holds at most one document. `Tree.ofTokens?` gives the tree of that document, an empty plain scalar for a text without
one, and has no answer where the tokens do not fit together, an alias has no anchor before it, or a second document follows.
Anchors are numbered by how many names were known when they came, so that a name can be taken again.
-/
import TenantGateway.Text.Search
import TenantGateway.Yaml.Token

namespace TenantGateway.Yaml

open Text

/-- a scalar as written -/
structure Scalar where
  text : List Char
  tag : Option (List UInt8) := none
  style : Style := .plain
  deriving DecidableEq, Repr

/-- the scalar that stands where nothing is written -/
def Scalar.absent : Scalar := { text := [] }

inductive Tree where
  | scalar (anchor : Option Nat) (value : Scalar)
  | sequence (anchor : Option Nat) (tag : Option (List UInt8)) (items : List Tree)
  | mapping (anchor : Option Nat) (tag : Option (List UInt8)) (entries : List (Tree × Tree))
  | alias (anchor : Nat)
  deriving Repr

namespace Tree

def absent : Tree := .scalar none .absent

/-- the anchors known so far, a number for each name -/
abbrev Anchors := List (List Char × Nat)

/-- the tag handles of a document and what they stand for -/
abbrev Handles := List (List Char × List UInt8)

/-- the handles every document has -/
def Handles.standard : Handles :=
  [(['!'], [0x21]), (['!', '!'], bytes "tag:yaml.org,2002:")]

/-- what is known while a document is built: the tokens left, and the anchors so far -/
structure Place where
  tokens : List Token
  anchors : Anchors

namespace Place

def next (p : Place) : Option Token := p.tokens.head?

def skip (p : Place) : Place := { p with tokens := p.tokens.tail }

/-- give a name the next number -/
def bind (p : Place) (name : List Char) : Nat × Place :=
  (p.anchors.length, { p with anchors := (name, p.anchors.length) :: p.anchors.filter (·.1 ≠ name) })

end Place

/-- what stands before a node: its anchor and its tag, in either order -/
structure Marks where
  anchor : Option (List Char) := none
  tag : Option (List Char × List UInt8) := none

def readMarks (p : Place) : Marks × Place :=
  match p.tokens with
  | .anchor name :: .tag handle suffix :: rest => ({ anchor := name, tag := (handle, suffix) }, { p with tokens := rest })
  | .tag handle suffix :: .anchor name :: rest => ({ anchor := name, tag := (handle, suffix) }, { p with tokens := rest })
  | .anchor name :: rest => ({ anchor := name }, { p with tokens := rest })
  | .tag handle suffix :: rest => ({ tag := (handle, suffix) }, { p with tokens := rest })
  | _ => ({}, p)

/-- the full text of a tag; a handle that is not declared is refused -/
def fullTag (handles : Handles) : Option (List Char × List UInt8) → Option (Option (List UInt8))
  | none => some none
  | some (handle, suffix) =>
    if handle.isEmpty then some (some suffix)
    else (handles.lookup handle).map fun stem => some (stem ++ suffix)

/-- where a node stands: whether block collections may begin here, and whether a sequence may begin without indentation -/
inductive Context where
  | block
  | indentless
  | flow
  deriving DecidableEq, Repr

mutual

/-- one node; `fuel` is at least three times the number of tokens -/
def node (handles : Handles) (context : Context) : (fuel : Nat) → Place → Option (Tree × Place)
  | 0, _ => none
  | fuel + 1, p =>
    match p.next with
    | some (.alias name) => (p.anchors.lookup name).map fun number => (.alias number, p.skip)
    | _ => do
      let (marks, p) := readMarks p
      let tag ← fullTag handles marks.tag
      let (anchor, p) := match marks.anchor with
        | none => (none, p)
        | some name => (some (p.bind name).1, (p.bind name).2)
      match p.next with
      | some .blockEntry =>
        if context = .indentless then
          let (items, p) ← indentlessItems handles fuel p
          return (.sequence anchor tag items, p)
        else absentNode marks anchor tag p
      | some (.scalar style text) => return (.scalar anchor ⟨text, tag, style⟩, p.skip)
      | some .flowSequenceStart =>
        let (items, p) ← flowItems handles true fuel p.skip
        return (.sequence anchor tag items, p)
      | some .flowMappingStart =>
        let (entries, p) ← flowEntries handles true fuel p.skip
        return (.mapping anchor tag entries, p)
      | some .blockSequenceStart =>
        if context = .flow then absentNode marks anchor tag p
        else
          let (items, p) ← blockItems handles fuel p.skip
          return (.sequence anchor tag items, p)
      | some .blockMappingStart =>
        if context = .flow then absentNode marks anchor tag p
        else
          let (entries, p) ← blockEntries handles fuel p.skip
          return (.mapping anchor tag entries, p)
      | _ => absentNode marks anchor tag p

/-- nothing is written: allowed after an anchor or a tag -/
def absentNode (marks : Marks) (anchor : Option Nat) (tag : Option (List UInt8)) (p : Place) : Option (Tree × Place) :=
  if marks.anchor.isSome || marks.tag.isSome then some (.scalar anchor { Scalar.absent with tag := tag }, p) else none

/-- a node, or nothing where one of the given tokens comes next -/
def nodeUnless (handles : Handles) (context : Context) (stops : List Token) :
    (fuel : Nat) → Place → Option (Tree × Place)
  | 0, _ => none
  | fuel + 1, p =>
    if p.next.any stops.contains then some (absent, p) else node handles context fuel p

/-- the items of a block sequence, up to and with its end -/
def blockItems (handles : Handles) : (fuel : Nat) → Place → Option (List Tree × Place)
  | 0, _ => none
  | fuel + 1, p =>
    match p.next with
    | some .blockEntry => do
      let (item, p) ← nodeUnless handles .block [.blockEntry, .blockEnd] fuel p.skip
      let (items, p) ← blockItems handles fuel p
      return (item :: items, p)
    | some .blockEnd => some ([], p.skip)
    | _ => none

/-- the items of a sequence that is not indented, which ends where no item comes next -/
def indentlessItems (handles : Handles) : (fuel : Nat) → Place → Option (List Tree × Place)
  | 0, _ => none
  | fuel + 1, p =>
    match p.next with
    | some .blockEntry => do
      let (item, p) ← nodeUnless handles .block [.blockEntry, .key, .value, .blockEnd] fuel p.skip
      let (items, p) ← indentlessItems handles fuel p
      return (item :: items, p)
    | _ => some ([], p)

/-- the entries of a block mapping, up to and with its end -/
def blockEntries (handles : Handles) : (fuel : Nat) → Place → Option (List (Tree × Tree) × Place)
  | 0, _ => none
  | fuel + 1, p =>
    match p.next with
    | some .key => do
      let (key, p) ← nodeUnless handles .indentless [.key, .value, .blockEnd] fuel p.skip
      let (value, p) ←
        if p.next = some .value then nodeUnless handles .indentless [.key, .value, .blockEnd] fuel p.skip
        else some (absent, p)
      let (entries, p) ← blockEntries handles fuel p
      return ((key, value) :: entries, p)
    | some .blockEnd => some ([], p.skip)
    | _ => none

/-- the items of a sequence in brackets, up to and with the closing one -/
def flowItems (handles : Handles) (first : Bool) : (fuel : Nat) → Place → Option (List Tree × Place)
  | 0, _ => none
  | fuel + 1, p =>
    if p.next = some .flowSequenceEnd then some ([], p.skip)
    else if !first && p.next ≠ some .flowEntry then none
    else do
      let p := if first then p else p.skip
      match p.next with
      | some .flowSequenceEnd => return ([], p.skip)
      | some .key =>
        let (item, p) ← flowPair handles fuel p.skip
        let (items, p) ← flowItems handles false fuel p
        return (item :: items, p)
      | _ =>
        let (item, p) ← node handles .flow fuel p
        let (items, p) ← flowItems handles false fuel p
        return (item :: items, p)

/-- a single entry that is an item of a sequence in brackets; a key that is not written takes the token after it along -/
def flowPair (handles : Handles) : (fuel : Nat) → Place → Option (Tree × Place)
  | 0, _ => none
  | fuel + 1, p => do
    let (key, p) ←
      if p.next.any [Token.value, .flowEntry, .flowSequenceEnd].contains then some (absent, p.skip)
      else node handles .flow fuel p
    let (value, p) ←
      if p.next = some .value then nodeUnless handles .flow [.flowEntry, .flowSequenceEnd] fuel p.skip
      else some (absent, p)
    return (.mapping none none [(key, value)], p)

/-- the entries of a mapping in braces, up to and with the closing one -/
def flowEntries (handles : Handles) (first : Bool) : (fuel : Nat) → Place → Option (List (Tree × Tree) × Place)
  | 0, _ => none
  | fuel + 1, p =>
    if p.next = some .flowMappingEnd then some ([], p.skip)
    else if !first && p.next ≠ some .flowEntry then none
    else do
      let p := if first then p else p.skip
      match p.next with
      | some .flowMappingEnd => return ([], p.skip)
      | some .key =>
        let (key, p) ← nodeUnless handles .flow [.value, .flowEntry, .flowMappingEnd] fuel p.skip
        let (value, p) ←
          if p.next = some .value then nodeUnless handles .flow [.flowEntry, .flowMappingEnd] fuel p.skip
          else some (absent, p)
        let (entries, p) ← flowEntries handles false fuel p
        return ((key, value) :: entries, p)
      | _ =>
        let (key, p) ← node handles .flow fuel p
        let (entries, p) ← flowEntries handles false fuel p
        return ((key, absent) :: entries, p)

end

/-- the directives before a document: at most one version, 1.1 or 1.2, and no handle twice -/
def directives : (versioned : Bool) → Handles → List Token → Option (Handles × List Token)
  | versioned, handles, .version major minor :: rest =>
    if versioned || major ≠ 1 || !(minor = 1 || minor = 2) then none else directives true handles rest
  | versioned, handles, .tagHandle handle stem :: rest =>
    if (handles.lookup handle).isSome then none else directives versioned (handles ++ [(handle, stem)]) rest
  | _, handles, tokens => some (handles ++ Handles.standard, tokens)

/-- whether a token stands between documents -/
def isEdge : Token → Bool
  | .version _ _ | .tagHandle _ _ | .documentStart | .documentEnd => true
  | _ => false

/-- the tree of the first document and the tokens after it; after directives the document has to be marked -/
def document (tokens : List Token) : Option (Tree × List Token) := do
  let (handles, rest) ← directives false [] tokens
  let directed := rest.length < tokens.length
  match rest with
  | .documentStart :: rest =>
    if rest.head?.all isEdge then return (absent, rest)
    let (tree, p) ← node handles .block (3 * rest.length + 3) ⟨rest, []⟩
    return (tree, p.tokens)
  | rest =>
    if directed then none
    let (tree, p) ← node handles .block (3 * rest.length + 3) ⟨rest, []⟩
    return (tree, p.tokens)

/-- the tree of the one document -/
def ofTokens? (tokens : List Token) : Option Tree :=
  if tokens.isEmpty then some absent
  else do
    let (tree, rest) ← document tokens
    if rest.all (· = .documentEnd) then some tree else none

end Tree

end TenantGateway.Yaml
