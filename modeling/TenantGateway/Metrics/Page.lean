/-
The metrics of the gateway and the page that shows them.

Each family begins with a line that names its kind. The series of a family follow in the order of their text, a counter or a
gauge on one line, a histogram on twelve.
-/
import TenantGateway.Metrics.Series

namespace TenantGateway

structure Metrics where
  /-- by tenant, category and outcome -/
  requests : Counters
  /-- by tenant -/
  remaining : Gauges
  /-- by tenant and category -/
  durations : Histograms
  /-- by tenant -/
  streamBytes : Counters
  /-- by sink -/
  dropped : Counters
  /-- by result -/
  reloads : Counters
  draining : Bool

namespace Metrics

def empty : Metrics :=
  { requests := .empty, remaining := .empty, durations := .empty, streamBytes := .empty, dropped := .empty,
    reloads := .empty, draining := false }

/-- a sample: name, labels in braces, value -/
def sample (name : String) (labels : List Char) (value : String) : String :=
  name ++ String.ofList ('\x7b' :: labels ++ ['\x7d', ' ']) ++ value

/-- the lines of a histogram, the labels of its buckets ending with the bound -/
def histogramLines (name : String) (l : Labels) (h : Histogram) : List String :=
  let labels := l.render
  let bucket (bound : String) (count : UInt64) : String :=
    let le := Labels.renderLabel ("le", bound)
    sample (name ++ "_bucket") (if labels.isEmpty then le else labels ++ ',' :: le) (toString count)
  List.zipWith (fun bound count => bucket (toString bound) count) bucketBounds h.buckets
    ++ [bucket "+Inf" h.count, sample (name ++ "_sum") labels (toString h.sum),
      sample (name ++ "_count") labels (toString h.count)]

/-- the line that begins a family -/
def typeLine (name kind : String) : String :=
  "# TYPE " ++ name ++ " " ++ kind

/-- groups of lines in the order of their text -/
def inOrder (groups : List (List String)) : List String :=
  (groups.mergeSort fun a b => decide ("\n".intercalate a ≤ "\n".intercalate b)).flatten

def counterLines (name : String) (c : Counters) : List String :=
  typeLine name "counter" :: inOrder (c.table.entries.map fun (l, n) => [sample name l.render (toString n)])

def gaugeLines (name : String) (g : Gauges) : List String :=
  typeLine name "gauge" :: inOrder (g.table.entries.map fun (l, n) => [sample name l.render (toString n)])

def histogramsLines (name : String) (h : Histograms) : List String :=
  typeLine name "histogram" :: inOrder (h.table.entries.map fun (l, h) => histogramLines name l h)

/-- a line with a single value -/
def plainLine (name : String) (value : Nat) : String :=
  name ++ " " ++ toString value

/-- the lines of the page; `extra` are single values that come last -/
def lines (m : Metrics) (extra : List (String × Nat)) : List String :=
  counterLines "aihub_requests_total" m.requests
    ++ gaugeLines "aihub_rate_limit_remaining" m.remaining
    ++ histogramsLines "aihub_request_duration_micros" m.durations
    ++ counterLines "aihub_stream_bytes_total" m.streamBytes
    ++ counterLines "aihub_diagnostics_dropped_total" m.dropped
    ++ counterLines "aihub_config_reloads_total" m.reloads
    ++ [typeLine "aihub_draining" "gauge", plainLine "aihub_draining" (if m.draining then 1 else 0)]
    ++ extra.map fun (name, value) => plainLine name value

/-- the page: every line ends with a line feed -/
def page (m : Metrics) (extra : List (String × Nat)) : String :=
  String.join ((m.lines extra).map (· ++ "\n"))

end Metrics

end TenantGateway
