/-
Families of measurements, one series for each set of labels.

The order in which labels are given does not matter. Counters and histograms count modulo 2^64.
-/
import TenantGateway.Table

namespace TenantGateway

/-- label names and values -/
abbrev Labels := List (String × String)

namespace Labels

/-- whether a label comes before another, by name and then by value -/
def le (a b : String × String) : Bool :=
  a.1 < b.1 || (a.1 = b.1 && a.2 ≤ b.2)

/-- the labels in order -/
def key (l : Labels) : Labels :=
  l.mergeSort le

/-- a character of a label's value as it is written -/
def escape (c : Char) : List Char :=
  if c = '\\' then ['\\', '\\']
  else if c = '"' then ['\\', '"']
  else if c = '\n' then ['\\', 'n']
  else [c]

/-- a label as it is written -/
def renderLabel (l : String × String) : List Char :=
  l.1.toList ++ '=' :: '"' :: (l.2.toList.flatMap escape ++ ['"'])

/-- the labels as they are written, with commas between them -/
def render (l : Labels) : List Char :=
  ((l.map renderLabel).intersperse [',']).flatten

end Labels

structure Counters where
  table : Table Labels UInt64

namespace Counters

def empty : Counters := ⟨.empty⟩

def add (c : Counters) (l : Labels) (n : UInt64) : Counters :=
  ⟨c.table.update l.key 0 (· + n)⟩

def increment (c : Counters) (l : Labels) : Counters :=
  c.add l 1

/-- the count of a set of labels, zero where nothing was counted -/
def get (c : Counters) (l : Labels) : UInt64 :=
  (c.table.get? l.key).getD 0

end Counters

structure Gauges where
  table : Table Labels Int

namespace Gauges

def empty : Gauges := ⟨.empty⟩

def set (g : Gauges) (l : Labels) (n : Int) : Gauges :=
  ⟨g.table.insert l.key n⟩

def get? (g : Gauges) (l : Labels) : Option Int :=
  g.table.get? l.key

end Gauges

/-- the upper ends of the buckets of a histogram, in microseconds -/
def bucketBounds : List Nat :=
  [1000, 5000, 10000, 50000, 100000, 500000, 1000000, 5000000, 30000000]

/-- how many observations there were, their sum, and how many lie within each bound -/
structure Histogram where
  count : UInt64
  sum : UInt64
  buckets : List UInt64
  deriving DecidableEq, Repr

namespace Histogram

def empty : Histogram := ⟨0, 0, bucketBounds.map fun _ => 0⟩

/-- the largest number of 64 bits -/
def largest : Nat := 0xFFFFFFFFFFFFFFFF

/-- whole microseconds of a time in nanoseconds, the largest number where there are more -/
def micros (nanoseconds : Nat) : Nat :=
  min (nanoseconds / 1000) largest

def observe (h : Histogram) (nanoseconds : Nat) : Histogram :=
  let n := micros nanoseconds
  { count := h.count + 1
    sum := h.sum + UInt64.ofNat n
    buckets := List.zipWith (fun bound count => if n ≤ bound then count + 1 else count) bucketBounds h.buckets }

end Histogram

structure Histograms where
  table : Table Labels Histogram

namespace Histograms

def empty : Histograms := ⟨.empty⟩

def observe (h : Histograms) (l : Labels) (nanoseconds : Nat) : Histograms :=
  ⟨h.table.update l.key .empty (·.observe nanoseconds)⟩

end Histograms

end TenantGateway
