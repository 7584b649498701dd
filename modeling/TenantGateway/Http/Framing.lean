/-
How far the body of an answer goes.

The headers of an answer tell its `Extent`: a number of bytes, chunks that each tell their size, or all that comes before the
connection ends. `Extent.read` takes the body from what was sent; where less was sent, or not in this form, it breaks.
-/
import TenantGateway.Reply
import TenantGateway.Text.Blank

namespace TenantGateway

open Text

inductive Extent where
  | sized (length : Nat)
  | chunked
  | toEnd
  deriving DecidableEq, Repr

/-- how many header fields an answer may have -/
def maxFields : Nat := 100

namespace Extent

/-- the parts of a header's values between commas, without blanks around them -/
def listed? (values : List HeaderValue) : Option (List (List Char)) :=
  (values.mapM HeaderValue.text?).map fun values => values.flatMap fun value => (splitOn ',' value).map trimChars

/-- a length in digits -/
def readLength? (cs : List Char) : Option Nat :=
  if !cs.isEmpty && cs.all Char.isDigit then some (cs.foldl (fun n c => n * 10 + (c.toNat - '0'.toNat)) 0) else none

/-- the length that is told; told more than once, it has to be the same -/
def ofLengths? (values : List HeaderValue) : Option Extent := do
  let lengths ← (← listed? values).mapM readLength?
  let length ← lengths.head?
  if lengths.all (· = length) then some (.sized length) else none

/-- whether the last encoding that was applied is the one in chunks -/
def endsChunked (encodings : List HeaderValue) : Bool :=
  match encodings.getLast?.bind fun value => listed? [value] with
  | some names => names.getLast?.any fun name => lowerAscii name = "chunked".toList
  | none => false

/-- what the headers tell, if they do not contradict themselves; an encoding counts more than a length -/
def ofHeaders? (h : Headers) : Option Extent :=
  let encodings := h.values ⟨"transfer-encoding"⟩
  let lengths := h.values .contentLength
  if !encodings.isEmpty then some (if endsChunked encodings then .chunked else .toEnd)
  else if lengths.isEmpty then some .toEnd
  else ofLengths? lengths

/-! ## Chunks -/

def carriageReturn : UInt8 := 13

def lineFeed : UInt8 := 10

/-- what follows a line end -/
def afterLineEnd? : List UInt8 → Option (List UInt8)
  | a :: b :: rest => if a = carriageReturn && b = lineFeed then some rest else none
  | _ => none

/-- the value of a byte that is a hexadecimal digit -/
def digitValue? (b : UInt8) : Option Nat :=
  hexValue? (Char.ofNat b.toNat)

/-- the line with a chunk's size, and what follows it; after the size there may be blanks, and after a semicolon anything -/
def readSize? (bytes : List UInt8) : Option (Nat × List UInt8) := do
  let digits := bytes.takeWhile fun b => (digitValue? b).isSome
  if digits.isEmpty then none
  let size := digits.foldl (fun n b => n * 16 + (digitValue? b).getD 0) 0
  let rest := (bytes.drop digits.length).dropWhile fun b => b = 9 || b = 0x20
  let rest :=
    if rest.head? = some 0x3B then rest.dropWhile fun b => !(b = carriageReturn || b = lineFeed) else rest
  return (size, ← afterLineEnd? rest)

/-- whether a line is a header field -/
def isField (line : List UInt8) : Bool :=
  let name := line.takeWhile (· ≠ 0x3A)
  !name.isEmpty && name.all (fun b => isTokenChar (Char.ofNat b.toNat)) && name.length < line.length
    && line.all HeaderValue.isAllowed

/-- whether fields and an empty line follow the last chunk -/
def isEnded : (fuel : Nat) → List UInt8 → Bool
  | 0, _ => false
  | fuel + 1, bytes =>
    let line := bytes.takeWhile (· ≠ carriageReturn)
    match afterLineEnd? (bytes.drop line.length) with
    | none => false
    | some rest => line.isEmpty || (isField line && isEnded fuel rest)

/-- the data of chunks, up to the one of size zero -/
def readChunks : (fuel : Nat) → List UInt8 → List Chunk
  | 0, _ => [.broken]
  | fuel + 1, bytes =>
    match readSize? bytes with
    | none => [.broken]
    | some (0, rest) => if isEnded (rest.length + 1) rest then [] else [.broken]
    | some (size, rest) =>
      match afterLineEnd? (rest.drop size) with
      | some more => .data (rest.take size) :: readChunks fuel more
      | none => [.data (rest.take size), .broken]

/-- the body among the bytes that were sent -/
def readBytes (e : Extent) (bytes : List UInt8) : List Chunk :=
  match e with
  | .toEnd => [.data bytes]
  | .sized length => if bytes.length < length then [.data bytes, .broken] else [.data (bytes.take length)]
  | .chunked => readChunks (bytes.length + 1) bytes

/-- the body of an answer from what was sent; what breaks off while it is sent is passed on as it is -/
def read (e : Extent) (sent : List Chunk) : List Chunk :=
  match bodyBytes? sent with
  | some bytes => e.readBytes bytes
  | none => sent

end Extent

end TenantGateway
