/-
Reading where the tenant is named.

This section is read in two steps. First all of it is taken in, whatever its keys, and its mode is singled out; then the mode
decides what is made of the rest. So keys that the mode does not know are passed over, a scalar that is not text is no header
name, and what goes wrong in the second step is reported at the section around this one.
-/
import TenantGateway.Config.Failure
import TenantGateway.Config.Schema
import TenantGateway.Yaml.Meaning
import TenantGateway.Yaml.Node

namespace TenantGateway.Config

open Yaml

/-- where a node stands, and where the collection around it does -/
structure Position where
  here : Path
  around : Path

namespace Position

def root : Position := ⟨[], []⟩

def enter (p : Position) (s : Step) : Position :=
  ⟨p.here ++ [s], p.here⟩

end Position

abbrev Result := Except Failure

/-- fail at the place itself -/
def fail {α : Type} (p : Position) (c : Cause) : Result α :=
  .error ⟨p.here, c⟩

/-- fail at the collection around the place -/
def failAround {α : Type} (p : Position) (c : Cause) : Result α :=
  .error ⟨p.around, c⟩

/-- the cause for a scalar where something else is wanted -/
def unsuitable (s : Scalar) (wanted : String) : Cause :=
  match s.meaning with
  | .ok m => .wrongType m.describe wanted
  | .error t => .wrongValue (Meaning.text s.text).describe t.wanted

/-- the step to the value of a key -/
def stepOf : Node → Step
  | .scalar s => .key s.text
  | _ => .unnamed

/-- the tag that is local to the application, as text without the `!` before it; a `!` alone is its own name -/
def localName? (tag : Option (List UInt8)) : Option (List Char) :=
  match tag with
  | some (b :: rest) =>
    if b ≠ 0x21 then none
    else if rest.isEmpty then some ['!']
    else (String.fromUTF8? (ByteArray.mk rest.toArray)).map String.toList
  | _ => none

/-- a node taken in before it is known what it should be -/
inductive Content where
  | scalar (value : Meaning)
  | sequence (items : List Content)
  | mapping (entries : List (Content × Content))
  deriving Repr

namespace Content

def describe : Content → String
  | .scalar m => m.describe
  | .sequence _ => "sequence"
  | .mapping _ => "map"

/-- take in a scalar: it may not be wider than 64 bits nor choose a variant; `wanted` is what may stand in its place -/
def ofScalar (p : Position) (s : Scalar) (wanted : String) : Result Content :=
  if (localName? s.tag).isSome then fail p .strayVariant
  else
    match s.meaning with
    | .error _ => fail p (unsuitable s wanted)
    | .ok (.wideNatural _) | .ok (.wideNegative _) => fail p (unsuitable s wanted)
    | .ok m => .ok (.scalar m)

mutual

def ofNode (p : Position) : Node → Result Content
  | .cut => .error .malformed
  | .shared n => ofNode p n
  | .scalar s => ofScalar p s "any value"
  | .sequence tag items =>
    if (localName? tag).isSome then fail p .strayVariant else (ofItems p 0 items).map .sequence
  | .mapping tag entries =>
    if (localName? tag).isSome then fail p .strayVariant else (ofEntries p entries).map .mapping

def ofItems (p : Position) (first : Nat) : List Node → Result (List Content)
  | [] => .ok []
  | n :: rest => do
    let item ← ofNode (p.enter (.item first)) n
    let items ← ofItems p (first + 1) rest
    return item :: items

def ofEntries (p : Position) : List (Node × Node) → Result (List (Content × Content))
  | [] => .ok []
  | (k, v) :: rest => do
    let key ← ofNode p k
    let value ← ofNode (p.enter (stepOf k)) v
    let entries ← ofEntries p rest
    return (key, value) :: entries

end

/-- take in a key of the section -/
def ofKey (p : Position) (k : Node) : Result Content :=
  match k.bare with
  | .scalar s => ofScalar p s "a type tag \x60mode\x60 or any other value"
  | n => ofNode p n

/-- a text; other scalars are not taken for one here -/
def text? : Content → Except Cause String
  | .scalar (.text cs) => .ok (String.ofList cs)
  | c => .error (.wrongType c.describe "a string")

end Content

/-- the names of the modes -/
def modeNames : List String := ["path_prefix", "header"]

/-- the mode itself -/
def readMode (p : Position) : Node → Result String
  | .cut => .error .malformed
  | .shared n => readMode p n
  | .scalar s =>
    match modeNames.find? (·.toList = s.text) with
    | some name => .ok name
    | none => fail p (.unknownVariant s.text modeNames)
  | .sequence _ _ => fail p (.wrongType "sequence" "variant identifier")
  | .mapping _ _ => fail p (.wrongType "map" "variant identifier")

/-- whether a key is the one that holds the mode -/
def isModeKey : Node → Bool
  | .shared n => isModeKey n
  | .scalar s => (localName? s.tag).isNone && s.meaning.toOption = some (.text "mode".toList)
  | _ => false

/-- take in the entries, the mode apart -/
def splitMode (p : Position) :
    (mode : Option String) → List (Node × Node) → Result (Option String × List (Content × Content))
  | mode, [] => .ok (mode, [])
  | mode, (k, v) :: rest =>
    if isModeKey k then
      match mode with
      | some _ => fail p (.duplicateField "mode")
      | none => do
        let found ← readMode (p.enter (stepOf k)) v
        splitMode p (some found) rest
    else do
      let key ← Content.ofKey p k
      let value ← Content.ofNode (p.enter (stepOf k)) v
      let (mode, entries) ← splitMode p mode rest
      return (mode, (key, value) :: entries)

/-- whether a key stands for the header's name: the word, or its position -/
def isNameKey : Content → Except Cause Bool
  | .scalar (.text cs) => .ok (cs = "name".toList)
  | .scalar (.natural n) => .ok (n = 0)
  | c => .error (.wrongType c.describe "field identifier")

/-- the header's name among the entries, given at most once -/
def nameAmong : (found : Option String) → List (Content × Content) → Except Cause (Option String)
  | found, [] => .ok found
  | found, (k, v) :: rest => do
    if ← isNameKey k then
      if found.isSome then throw (.duplicateField "name")
      let name ← v.text?
      nameAmong (some name) rest
    else nameAmong found rest

/-- the source that a mode makes of what else was given -/
def sourceOf (mode : String) (rest : Content) : Except Cause TenantSource :=
  if mode = "header" then
    match rest with
    | .mapping entries => do
      return .header ((← nameAmong none entries).getD TenantSource.defaultHeader)
    | .sequence [] => .ok (.header TenantSource.defaultHeader)
    | .sequence [name] => do return .header (← name.text?)
    | .sequence (name :: more) => do
      let _ ← name.text?
      throw (.wrongLength (more.length + 1) 1)
    | c => .error (.wrongType c.describe "struct variant TenantSource::Header")
  else
    match rest with
    | .sequence (c :: more) => .error (.wrongLength (c :: more).length 0)
    | _ => .ok .pathPrefix

/-- the second step, whose failures are reported around the section -/
def finishSource (p : Position) (mode : String) (rest : Content) : Result TenantSource :=
  match sourceOf mode rest with
  | .ok s => .ok s
  | .error c => failAround p c

/-- the section itself: a mapping, or a sequence that begins with the mode -/
def readSource (p : Position) : Node → Result TenantSource
  | .cut => .error .malformed
  | .shared n => readSource p n
  | .scalar s =>
    if (localName? s.tag).isSome then fail p (.wrongType "enum" "internally tagged enum TenantSource")
    else fail p (unsuitable s "internally tagged enum TenantSource")
  | .sequence tag items =>
    if (localName? tag).isSome then fail p (.wrongType "enum" "internally tagged enum TenantSource")
    else
      match items with
      | [] => fail p (.missingField "mode")
      | mode :: rest => do
        let mode ← readMode (p.enter (.item 0)) mode
        let rest ← Content.ofItems p 1 rest
        finishSource p mode (.sequence rest)
  | .mapping tag entries =>
    if (localName? tag).isSome then fail p (.wrongType "enum" "internally tagged enum TenantSource")
    else do
      let (mode, rest) ← splitMode p none entries
      match mode with
      | some mode => finishSource p mode (.mapping rest)
      | none => fail p (.missingField "mode")

end TenantGateway.Config
