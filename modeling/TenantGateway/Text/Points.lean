/-
Tables over code points, written as text.

A table is a list of lines, a line is words with blanks between them, and code points are written in hexadecimal digits.
`Turns` is a property, `Steps` a value for every code point, and `Images` what some code points become. In all three the words
come in the order of their code points, so that they can be searched by halves.
-/
import TenantGateway.Text.Hex
import TenantGateway.Text.Search

namespace TenantGateway.Text

/-- a number in hexadecimal digits -/
def hexNumber (cs : List Char) : Nat :=
  cs.foldl (fun n c => n * 16 + (hexValue? c).getD 0) 0

/-- the words of a table -/
def tableWords (lines : List String) : List (List Char) :=
  lines.flatMap fun line => splitOn ' ' line.toList

/-- how many of the rising numbers are at most `n` -/
def countUpTo (rising : Array Nat) (n : Nat) : Nat :=
  halve rising.size 0 rising.size
where
  /-- the count lies between the two bounds; `fuel` is at least their distance -/
  halve : (fuel low high : Nat) → Nat
    | 0, low, _ => low
    | fuel + 1, low, high =>
      if high ≤ low then low
      else
        let middle := (low + high) / 2
        if rising.getD middle 0 ≤ n then halve fuel (middle + 1) high else halve fuel low middle

/-- the code points at which a property begins, and in turn ceases, to hold -/
structure Turns where
  starts : Array Nat
  deriving Repr

namespace Turns

def ofLines (lines : List String) : Turns :=
  ⟨((tableWords lines).map hexNumber).toArray⟩

/-- whether the property holds -/
def contains (t : Turns) (c : Char) : Bool :=
  countUpTo t.starts c.toNat % 2 = 1

end Turns

/-- a value for every code point: each holds from its start up to the next one, and `first` before them all -/
structure Steps (α : Type) where
  first : α
  starts : Array Nat
  values : Array α
  deriving Repr

namespace Steps

variable {α : Type}

/-- read words such as `3a:o`, a start and the text of its value -/
def ofLines (first : α) (read : List Char → α) (lines : List String) : Steps α :=
  let steps := (tableWords lines).map (cutAt ':')
  ⟨first, (steps.map fun (start, _) => hexNumber start).toArray, (steps.map fun (_, value) => read (value.getD [])).toArray⟩

/-- the value of a character -/
def value (s : Steps α) (c : Char) : α :=
  match countUpTo s.starts c.toNat with
  | 0 => s.first
  | n + 1 => s.values.getD n s.first

end Steps

/-- what some code points become -/
structure Images where
  points : Array Nat
  images : Array (List Char)
  deriving Repr

namespace Images

/-- an image: code points with plus signs between them, or a bar for nothing at all -/
def readImage (cs : List Char) : List Char :=
  if cs = ['-'] then [] else (splitOn '+' cs).map fun point => Char.ofNat (hexNumber point)

/-- take in a word: a point and its image, or the image of the point after the last one -/
def addWord (table : Images) (word : List Char) : Images :=
  match cutAt ':' word with
  | (point, some image) => ⟨table.points.push (hexNumber point), table.images.push (readImage image)⟩
  | (image, none) => ⟨table.points.push (table.points.back?.getD 0 + 1), table.images.push (readImage image)⟩

def ofLines (lines : List String) : Images :=
  (tableWords lines).foldl addWord ⟨#[], #[]⟩

/-- what a character becomes, if it is one of the table's -/
def image? (table : Images) (c : Char) : Option (List Char) :=
  match countUpTo table.points c.toNat with
  | 0 => none
  | n + 1 => if table.points.getD n 0 = c.toNat then table.images[n]? else none

/-- the character that becomes the given ones -/
def source? (table : Images) (image : List Char) : Option Char :=
  (table.images.findIdx? (· = image)).map fun n => Char.ofNat (table.points.getD n 0)

end Images

end TenantGateway.Text
