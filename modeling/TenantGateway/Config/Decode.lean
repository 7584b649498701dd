/-
Reading a document tree as a configuration.

`decode` reads a node as a shape says. The entries of a record are read in document order and each has to be a field of the
record, named once; fields that are left out get their defaults once the record ends.
-/
import TenantGateway.Config.Shape
import TenantGateway.Config.Source

namespace TenantGateway.Config

open Yaml

/-- a way to read the node at a position -/
abbrev Reader := Position → Node → Result Value

/-- a field as it is read -/
structure FieldReader where
  name : String
  read : Reader
  fallback : Option Value

/-- the cause for a node where something else is wanted -/
def misplaced (wanted : String) : Node → Cause
  | .scalar s => unsuitable s wanted
  | .sequence _ _ => .wrongType "sequence" wanted
  | .mapping _ _ => .wrongType "map" wanted
  | .shared n => misplaced wanted n
  | .cut => .malformed

def failMisplaced {α : Type} (p : Position) (n : Node) (wanted : String) : Result α :=
  match n.bare with
  | .cut => .error .malformed
  | n => fail p (misplaced wanted n)

/-- any scalar is a text, as it is written -/
def readText : Reader := fun p n =>
  match n.bare with
  | .scalar s => .ok (.text (String.ofList s.text))
  | n => failMisplaced p n "a string"

def readFlag : Reader := fun p n =>
  match n.bare with
  | .scalar s =>
    match (if s.mayBe .flag then readFlag? s.text else none) with
    | some b => .ok (.flag b)
    | none => failMisplaced p n "a boolean"
  | n => failMisplaced p n "a boolean"

/-- a number of 64 bits, and then within its kind -/
def readNumber (kind : NumberKind) : Reader := fun p n =>
  match n.bare with
  | .scalar s =>
    match (if s.mayBe .integer then readNat? s.text else none).filter (· ≤ 0xFFFFFFFFFFFFFFFF) with
    | some value =>
      if value ≤ kind.largest then .ok (.number value)
      else fail p (.wrongValue (Meaning.natural value).describe kind.name)
    | none => failMisplaced p n kind.name
  | n => failMisplaced p n kind.name

/-- the tag of a node -/
def tagOf : Node → Option (List UInt8)
  | .scalar s => s.tag
  | .sequence tag _ => tag
  | .mapping tag _ => tag
  | .shared n => tagOf n
  | .cut => none

/-- what follows a variant given as a tag: nothing -/
def readNothing (p : Position) (n : Node) : Result Unit :=
  match n.bare with
  | .scalar s =>
    if s.style = .plain && (s.text.isEmpty || isNull s.text) then .ok ()
    else fail p (.wrongValue (Meaning.text s.text).describe "null")
  | n => failMisplaced p n "unit"

/-- the position of a variant's name -/
def variantOf (names : List String) (name : List Char) : Except Cause Value :=
  match names.findIdx? (·.toList = name) with
  | some n => .ok (.variant n)
  | none => .error (.unknownVariant name names)

/-- one of several names, as a plain text or as a tag before nothing; a tag that is no name is reported around the place it
stands at, and where an alias stands for the node that is where the alias is -/
def readChoice (names : List String) : Reader := fun p n =>
  match localName? (tagOf n) with
  | some name =>
    match variantOf names name, n with
    | .ok v, _ => (readNothing p n).map fun _ => v
    | .error c, .shared _ => fail p c
    | .error c, _ => failAround p c
  | none =>
    match n.bare with
    | .scalar s =>
      match variantOf names s.text with
      | .ok v => .ok v
      | .error c => fail p c
    | n => failMisplaced p n "a YAML tag starting with '!'"

/-- whether a scalar stands for a missing value; a text with the tag of null has to be one of its spellings -/
def isMissing (s : Scalar) : Option Bool :=
  if s.style ≠ .plain then some false
  else if s.tag = some StandardTag.null.bytes then (if isNull s.text then some true else none)
  else some (s.tag.isNone && (s.text.isEmpty || isNull s.text))

def readOptional (inner : Reader) : Reader := fun p n =>
  match n.bare with
  | .scalar s =>
    match isMissing s with
    | some true => .ok .absent
    | some false => inner p n
    | none => failAround p (.wrongValue (Meaning.text s.text).describe "null")
  | _ => inner p n

def readItems (item : Reader) (p : Position) : (first : Nat) → List Node → Result (List Value)
  | _, [] => .ok []
  | first, n :: rest => do
    let v ← item (p.enter (.item first)) n
    let vs ← readItems item p (first + 1) rest
    return v :: vs

/-- a sequence; where nothing is written it is empty -/
def readList (item : Reader) : Reader := fun p n =>
  match n.bare with
  | .sequence _ items => (readItems item p 0 items).map .list
  | .scalar s => if s.isAbsent then .ok (.list []) else failMisplaced p n "a sequence"
  | n => failMisplaced p n "a sequence"

/-- the name of a field: any scalar, as it is written -/
def readKey (p : Position) (k : Node) : Result (List Char) :=
  match k.bare with
  | .scalar s => .ok s.text
  | n => failMisplaced p n "field identifier"

/-- the entries of a record as pairs of a field's name and its value, in document order -/
def readEntries (fields : List FieldReader) (p : Position) :
    (seen : List String) → List (Node × Node) → Result (List (String × Value))
  | _, [] => .ok []
  | seen, (k, n) :: rest => do
    let name ← readKey p k
    match fields.find? (·.name.toList = name) with
    | none => fail p (.unknownField name (fields.map (·.name)))
    | some f =>
      if seen.contains f.name then fail p (.duplicateField f.name)
      else do
        let v ← f.read (p.enter (stepOf k)) n
        let entries ← readEntries fields p (f.name :: seen) rest
        return (f.name, v) :: entries

/-- the value of every field, in declaration order, its default where it was left out -/
def complete (fields : List FieldReader) (p : Position) (given : List (String × Value)) : Result (List Value) :=
  fields.mapM fun f =>
    match (given.lookup f.name).or f.fallback with
    | some v => .ok v
    | none => fail p (.missingField f.name)

/-- a mapping; where nothing is written it is empty -/
def readRecord (name : String) (fields : List FieldReader) : Reader := fun p n =>
  let finish (entries : List (Node × Node)) : Result Value := do
    let given ← readEntries fields p [] entries
    return .record (← complete fields p given)
  match n.bare with
  | .mapping _ entries => finish entries
  | .scalar s => if s.isAbsent then finish [] else failMisplaced p n ("struct " ++ name)
  | n => failMisplaced p n ("struct " ++ name)

mutual

/-- the way to read a shape -/
def decode : Shape → Reader
  | .text => readText
  | .flag => readFlag
  | .number kind => readNumber kind
  | .choice names => readChoice names
  | .optional inner => readOptional (decode inner)
  | .list item => readList (decode item)
  | .record name fields => readRecord name (fieldReaders fields)
  | .source => fun p n => (readSource p n).map .source

def fieldReaders : List Field → List FieldReader
  | [] => []
  | (name, shape, fallback) :: rest => ⟨name, decode shape, fallback⟩ :: fieldReaders rest

end

/-- the configuration in a document tree -/
def ofNode (n : Node) : Result Config :=
  (decode Shape.config .root n).map Value.toConfig

/-- the configuration in a text, not yet validated -/
def ofText (s : String) : Result Config :=
  match Node.ofText? s.toList with
  | some n => ofNode n
  | none => .error .malformed

end TenantGateway.Config
