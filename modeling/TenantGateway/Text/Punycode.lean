/-
Labels of domain names outside ASCII, written in ASCII.

The ASCII characters of a label come first. Then each of the others is told, in the order of their code points, by how many
steps further it stands; the steps are numbers in base 36 whose digits' thresholds adapt to the sizes seen so far. `encode`
writes a label in this way and `decode` reads it.
-/
namespace TenantGateway.Text.Punycode

/-- the bias before the first step -/
def firstBias : Nat := 72

/-- the digit of a value below 36 -/
def digit (n : Nat) : Char :=
  if n < 26 then Char.ofNat ('a'.toNat + n) else Char.ofNat ('0'.toNat + (n - 26))

/-- how far `bias` goes up while a size is divided down -/
def spread : (fuel size k : Nat) → Nat
  | 0, _, k => k
  | fuel + 1, size, k => if size > 455 then spread fuel (size / 35) (k + 36) else k + 36 * size / (size + 38)

/-- the bias after a step of a given size, the `count`-th one -/
def adapt (size count : Nat) (first : Bool) : Nat :=
  let size := if first then size / 700 else size / 2
  spread (size + 1) (size + size / count) 0

/-- the least digit that ends a number, where `k` is 36 times the digit's place counted from 1 -/
def threshold (bias k : Nat) : Nat :=
  if k ≤ bias then 1 else if bias + 26 ≤ k then 26 else k - bias

/-- a number in digits -/
def number (bias : Nat) : (fuel n k : Nat) → List Char
  | 0, _, _ => []
  | fuel + 1, n, k =>
    let t := threshold bias k
    if n < t then [digit n] else digit (t + (n - t) % (36 - t)) :: number bias fuel ((n - t) / (36 - t)) (k + 36)

structure State where
  point : Nat := 128
  step : Nat := 0
  bias : Nat := firstBias
  handled : Nat
  output : List Char

/-- go through the label once for a code point -/
def pass (basic : Nat) (point : Nat) (cs : List Char) (s : State) : State :=
  let s := { s with step := s.step + (point - s.point) * (s.handled + 1), point }
  let s := cs.foldl (fun (s : State) c =>
    if c.toNat < point then { s with step := s.step + 1 }
    else if c.toNat = point then
      { s with
        output := s.output ++ number s.bias (s.step + 1) s.step 36
        bias := adapt s.step (s.handled + 1) (s.handled = basic)
        step := 0
        handled := s.handled + 1 }
    else s) s
  { s with step := s.step + 1, point := point + 1 }

/-- a label in ASCII, without the mark that says so -/
def encode (cs : List Char) : List Char :=
  let basic := cs.filter (·.toNat < 128)
  let points := (((cs.filter (128 ≤ ·.toNat)).map Char.toNat).mergeSort).eraseDups
  let start : State :=
    { handled := basic.length, output := if basic.isEmpty then [] else basic ++ ['-'] }
  (points.foldl (fun s point => pass basic.length point cs s) start).output

/-- the value of a digit -/
def digitValue? (c : Char) : Option Nat :=
  if c.isLower then some (c.toNat - 'a'.toNat)
  else if c.isDigit then some (c.toNat - '0'.toNat + 26)
  else none

/-- the largest weight a digit may have -/
def maxWeight : Nat := 0xFFFFFFFF

/-- a number of which `n` has been read, from its digit of the given weight on, and what follows it -/
def readNumber (bias : Nat) : (n weight k : Nat) → List Char → Option (Nat × List Char)
  | _, _, _, [] => none
  | n, weight, k, c :: rest => do
    let d ← digitValue? c
    let n := n + d * weight
    let t := threshold bias k
    if d < t then return (n, rest)
    else if maxWeight < weight * (36 - t) then none
    else readNumber bias n (weight * (36 - t)) (k + 36) rest

/-- put in the code points that the digits tell of: each number says how far the next one stands behind `step`, counted through
the places of the label for one code point after the other. `fuel` bounds the numbers -/
def insertPoints : (fuel point step bias : Nat) → List Char → List Char → Option (List Char)
  | _, _, _, _, label, [] => some label
  | 0, _, _, _, _, _ => none
  | fuel + 1, point, step, bias, label, digits => do
    let (delta, rest) ← readNumber bias 0 1 36 digits
    let places := label.length + 1
    let point := point + (step + delta) / places
    let place := (step + delta) % places
    if !point.isValidChar then none
    insertPoints fuel point (place + 1) (adapt delta places (step = 0)) (label.take place ++ Char.ofNat point :: label.drop place)
      rest

/-- the label that a text in ASCII stands for: characters of ASCII before the last hyphen, if there are any, then digits -/
def decode (cs : List Char) : Option (List Char) :=
  let digits := (cs.reverse.takeWhile (· ≠ '-')).reverse
  let basic := cs.take (cs.length - digits.length - 1)
  if basic.isEmpty then insertPoints cs.length 128 0 firstBias [] cs
  else insertPoints digits.length 128 0 firstBias basic digits

end TenantGateway.Text.Punycode
