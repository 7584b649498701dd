/-
The text of the scalars: plain, quoted and block.

Each reader starts at the scalar's first character and gives its text and the place after it; there is no answer where the
scalar is not well formed. Line breaks inside plain and quoted scalars are folded: one becomes a space, of several all but
the first are kept. `fuel` is at least the number of characters left.
-/
import TenantGateway.Text.Hex
import TenantGateway.Yaml.Cursor

namespace TenantGateway.Yaml

open Text

/-- what stands between two words of a scalar: blanks, or a line break and the breaks after it -/
inductive Gap where
  | blanks (text : List Char)
  | breaks (first more : List Char)
  deriving Repr

namespace Gap

def none : Gap := .blanks []

/-- the text a gap stands for -/
def folded : Gap → List Char
  | .blanks text => text
  | .breaks first more =>
    if first = ['\n'] then (if more.isEmpty then [' '] else more)
    else first ++ more

def hasBreak : Gap → Bool
  | .blanks _ => false
  | .breaks _ _ => true

/-- go on over blanks and breaks; `allowed` says whether a blank may stand at a place after a break -/
def read (allowed : Cursor → Bool) : (fuel : Nat) → Gap → Cursor → Option (Gap × Cursor)
  | 0, gap, c => some (gap, c)
  | fuel + 1, gap, c =>
    match c.next with
    | some b =>
      if isBlank b then
        match gap with
        | .blanks text => read allowed fuel (.blanks (text ++ [b])) (c.skip 1)
        | .breaks first more => if allowed c then read allowed fuel (.breaks first more) (c.skip 1) else Option.none
      else if isBreak b then
        let (text, after) := c.takeBreak
        match gap with
        | .blanks _ => read allowed fuel (.breaks text []) after
        | .breaks first more => read allowed fuel (.breaks first (more ++ text)) after
      else some (gap, c)
    | Option.none => some (gap, c)

end Gap

/-- the characters that end a plain scalar inside brackets -/
def isFlowEnd (c : Char) : Bool :=
  c = ',' || c = '[' || c = ']' || c = '\x7b' || c = '\x7d'

/-- the characters of a plain scalar up to a blank, a break or an indicator -/
def plainRun (flow : Bool) : List Char → Option (List Char)
  | [] => some []
  | c :: rest =>
    if isBlank c || isBreak c then some []
    else if flow && c = ':' && rest.head?.any (fun d => isFlowEnd d || d = '?') then none
    else if c = ':' && endsWord rest.head? then some []
    else if flow && isFlowEnd c then some []
    else (plainRun flow rest).map (c :: ·)

/-- a plain scalar whose lines after the first begin at column `indent` or beyond; also, whether a line break follows it -/
def readPlain (flow : Bool) (indent : Nat) :
    (fuel : Nat) → (text : List Char) → Gap → Cursor → Option (List Char × Bool × Cursor)
  | 0, text, gap, c => some (text, gap.hasBreak, c)
  | fuel + 1, text, gap, c => do
    if c.atDocumentEdge || c.next = some '#' then return (text, gap.hasBreak, c)
    let run ← plainRun flow c.rest
    let (text, gap) := if run.isEmpty then (text, gap) else (text ++ gap.folded ++ run, Gap.none)
    let c := c.skip run.length
    if !(c.next.any fun d => isBlank d || isBreak d) then return (text, gap.hasBreak, c)
    let (gap, c) ← gap.read (fun c => !(c.column < indent && c.next = some '\t')) fuel c
    if !flow && c.column < indent then return (text, gap.hasBreak, c)
    readPlain flow indent fuel text gap c

/-- the characters of a single-quoted scalar up to a blank, a break or the closing quote -/
def singleRun : List Char → List Char × Nat
  | '\'' :: '\'' :: rest =>
    let (text, n) := singleRun rest
    ('\'' :: text, n + 2)
  | c :: rest =>
    if isBlank c || isBreak c || c = '\'' then ([], 0)
    else
      let (text, n) := singleRun rest
      (c :: text, n + 1)
  | [] => ([], 0)

/-- the character a one-letter escape stands for -/
def escaped? (c : Char) : Option Char :=
  match c with
  | '0' => some (Char.ofNat 0)
  | 'a' => some (Char.ofNat 7)
  | 'b' => some (Char.ofNat 8)
  | 't' => some '\t'
  | '\t' => some '\t'
  | 'n' => some '\n'
  | 'v' => some (Char.ofNat 11)
  | 'f' => some (Char.ofNat 12)
  | 'r' => some '\r'
  | 'e' => some (Char.ofNat 27)
  | ' ' => some ' '
  | '"' => some '"'
  | '/' => some '/'
  | '\\' => some '\\'
  | 'N' => some (Char.ofNat 0x85)
  | '_' => some (Char.ofNat 0xA0)
  | 'L' => some (Char.ofNat 0x2028)
  | 'P' => some (Char.ofNat 0x2029)
  | _ => none

/-- how many hexadecimal digits follow an escape by number -/
def escapeLength? (c : Char) : Option Nat :=
  match c with
  | 'x' => some 2
  | 'u' => some 4
  | 'U' => some 8
  | _ => none

/-- the character of a code point, unless it is half a surrogate pair or out of range -/
def charOfCode? (n : Nat) : Option Char :=
  if (0xD800 ≤ n && n ≤ 0xDFFF) || 0x10FFFF < n then none else some (Char.ofNat n)

/-- a number of exactly `count` hexadecimal digits -/
def readHex (count : Nat) (cs : List Char) : Option Nat :=
  if cs.length < count then none
  else (cs.take count).foldlM (fun n c => (hexValue? c).map (n * 16 + ·)) 0

/-- where the run of a double-quoted scalar stops -/
inductive RunEnd where
  | here
  | escapedBreak
  deriving DecidableEq, Repr

/-- the characters of a double-quoted scalar up to a blank, a break, an escaped break or the closing quote -/
def doubleRun : (fuel : Nat) → List Char → Option (List Char × Nat × RunEnd)
  | 0, _ => none
  | _, [] => some ([], 0, .here)
  | fuel + 1, '\\' :: rest =>
    match rest with
    | [] => none
    | c :: after =>
      if isBreak c then some ([], 1, .escapedBreak)
      else
        match escapeLength? c with
        | some count => do
          let char ← charOfCode? (← readHex count after)
          let (text, n, stop) ← doubleRun fuel (after.drop count)
          return (char :: text, n + count + 2, stop)
        | none => do
          let char ← escaped? c
          let (text, n, stop) ← doubleRun fuel after
          return (char :: text, n + 2, stop)
  | fuel + 1, c :: rest =>
    if isBlank c || isBreak c || c = '"' then some ([], 0, .here)
    else do
      let (text, n, stop) ← doubleRun fuel rest
      return (c :: text, n + 1, stop)

/-- the rest of a quoted scalar, its opening quote taken -/
def readQuoted (mark : Char) : (fuel : Nat) → (text : List Char) → Cursor → Option (List Char × Cursor)
  | 0, _, _ => none
  | fuel + 1, text, c => do
    if c.atDocumentEdge || c.rest.isEmpty then none
    let (run, n, stop) ←
      if mark = '\'' then
        let (run, n) := singleRun c.rest
        some (run, n, RunEnd.here)
      else doubleRun (fuel + 1) c.rest
    let text := text ++ run
    let c := c.skip n
    let (gap, c) := match stop with
      | .here => (Gap.none, c)
      | .escapedBreak => (Gap.breaks [] [], c.takeBreak.2)
    if c.next = some mark then return (text, c.skip 1)
    let (gap, c) ← gap.read (fun _ => true) fuel c
    readQuoted mark fuel (text ++ gap.folded) c

/-- what happens to the breaks at the end of a block scalar -/
inductive Chomping where
  | strip
  | clip
  | keep
  deriving DecidableEq, Repr

/-- the header of a block scalar: chomping and explicit indentation, in either order, up to the end of the line -/
def readBlockHeader (c : Cursor) : Option (Chomping × Nat × Cursor) := do
  let chomping (c : Cursor) : Chomping × Cursor := match c.next with
    | some '+' => (.keep, c.skip 1)
    | some '-' => (.strip, c.skip 1)
    | _ => (.clip, c)
  let increment (c : Cursor) : Option (Nat × Cursor) := match c.next with
    | some '0' => none
    | some d => if d.isDigit then some (d.toNat - '0'.toNat, c.skip 1) else some (0, c)
    | none => some (0, c)
  let (chomp, c) := chomping c
  let (indent, c) ← increment c
  let (chomp, c) := if chomp = .clip && indent ≠ 0 then chomping c else (chomp, c)
  let c := c.skipWhile isBlank
  let c := if c.next = some '#' then c.skipWhile (!isBreak ·) else c
  if endsLine c.next then some (chomp, indent, c.takeBreak.2) else none

/-- the blank lines of a block scalar; `indent` is zero while it is not known. Also the deepest column that was met -/
def readBlankLines (indent : Nat) :
    (fuel : Nat) → (breaks : List Char) → (deepest : Nat) → Cursor → Option (List Char × Nat × Cursor)
  | 0, breaks, deepest, c => some (breaks, deepest, c)
  | fuel + 1, breaks, deepest, c =>
    let spaces := (c.rest.takeWhile (· = ' ')).length
    let c := c.skip (if indent = 0 then spaces else min spaces (indent - c.column))
    let deepest := max deepest c.column
    if (indent = 0 || c.column < indent) && c.next = some '\t' then none
    else if c.next.any isBreak then
      let (text, after) := c.takeBreak
      readBlankLines indent fuel (breaks ++ text) deepest after
    else some (breaks, deepest, c)

/-- the lines of a block scalar at a known indentation -/
def readBlockLines (fold : Bool) (chomp : Chomping) (indent : Nat) :
    (fuel : Nat) → (text first more : List Char) → (wasBlank : Bool) → Cursor → Option (List Char × Cursor)
  | 0, _, _, _, _, _ => none
  | fuel + 1, text, first, more, wasBlank, c =>
    if c.column = indent && !c.rest.isEmpty then do
      let startsBlank := c.next.any isBlank
      let joint :=
        if fold && first = ['\n'] && !wasBlank && !startsBlank then (if more.isEmpty then [' '] else more)
        else first ++ more
      let (line, c) := c.span (!isBreak ·)
      let (first, c) := c.takeBreak
      let (more, _, c) ← readBlankLines indent fuel [] 0 c
      readBlockLines fold chomp indent fuel (text ++ joint ++ line) first more startsBlank c
    else
      let ending := match chomp with
        | .strip => []
        | .clip => first
        | .keep => first ++ more
      some (text ++ ending, c)

/-- a block scalar after its indicator, inside a block whose indentation is `parent`, -1 at the outermost level -/
def readBlock (fold : Bool) (parent : Int) (fuel : Nat) (c : Cursor) : Option (List Char × Cursor) := do
  let (chomp, increment, c) ← readBlockHeader c
  let known := if increment = 0 then 0 else (max parent 0).toNat + increment
  let (more, deepest, c) ← readBlankLines known fuel [] 0 c
  let indent := if known = 0 then max (max deepest (parent + 1).toNat) 1 else known
  readBlockLines fold chomp indent (fuel + 1) [] [] more false c

end TenantGateway.Yaml
