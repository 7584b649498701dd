/-
What the page of the metrics tells, whatever the values of labels are.

`built` is what a list of calls leaves behind, and `families` is what a page is to show of it: for each series one sample, and
twelve for a series of a histogram.
- `Text.pieces_join`: a text of lines is cut at its line feeds into these lines, and a line further where it has a line feed;
- `Family.shownBy_lines`: the lines of a family are read back as its samples, series by series;
- `labelled_built`, `buckets_built`: after any calls the labels of a series are those of a call, and each histogram has a count for
  every bound;
- `page_unforged`: a page has the lines of its series and no others, and tells of each what was recorded under its labels.
-/
import TenantGateway.Proofs.Metrics.Samples

namespace TenantGateway

/-! ## Texts cut at their line feeds -/

namespace Text

/-- what stands between the line feeds of a text -/
def pieces (s : String) : List String :=
  (s.toList.splitOn '\n').map String.ofList

theorem pieces_eq_singleton {s : String} (single : '\n' ∉ s.toList) : pieces s = [s] := by
  rw [pieces, List.splitOn_eq_singleton single, List.map_singleton, String.ofList_toList]

theorem pieces_append (s t : String) : pieces (s ++ "\n" ++ t) = pieces s ++ pieces t := by
  have text : (s ++ "\n" ++ t).toList = s.toList ++ '\n' :: t.toList := by simp
  rw [pieces, text, List.splitOn_append_cons_self, List.map_append]
  rfl

theorem pieces_join (lines : List String) : pieces (String.join (lines.map (· ++ "\n"))) = lines.flatMap pieces ++ [""] := by
  induction lines with
  | nil => rfl
  | cons line lines ih =>
    rw [List.map_cons, String.join_cons, pieces_append, ih, List.flatMap_cons, List.append_assoc]

theorem flatMap_pieces {lines : List String} (single : ∀ line ∈ lines, '\n' ∉ line.toList) : lines.flatMap pieces = lines := by
  induction lines with
  | nil => rfl
  | cons line lines ih =>
    obtain ⟨own, single⟩ := List.forall_mem_cons.1 single
    rw [List.flatMap_cons, pieces_eq_singleton own, ih single]
    rfl

end Text

namespace Table

variable {κ ν : Type} [DecidableEq κ]

/-- what holds of the value to begin with, and is kept by the change, holds of every value -/
theorem forall_update {P : ν → Prop} {t : Table κ ν} (all : ∀ e ∈ t.entries, P e.2) {initial : ν} (first : P initial) {f : ν → ν}
    (kept : ∀ v, P v → P (f v)) (k : κ) : ∀ e ∈ (t.update k initial f).entries, P e.2 := by
  have changed : P (f ((t.get? k).getD initial)) := by
    apply kept
    cases found : t.entries.find? (·.1 = k) with
    | none => simpa [get?, found] using first
    | some e => simpa [get?, found] using all e (List.mem_of_find?_eq_some found)
  intro e member
  simp only [update, insert, inserted] at member
  split_ifs at member with known
  · obtain ⟨old, entry, rfl⟩ := List.mem_map.1 member
    by_cases own : old.1 = k
    · simpa [own] using changed
    · simpa [own] using all old entry
  · rcases List.mem_append.1 member with old | new
    · exact all e old
    · obtain rfl := List.mem_singleton.1 new
      exact changed

end Table

/-! ## Families -/

/-- a sample of which neither the name nor the names of the labels can be taken for anything else -/
structure Sample.Legible (s : Sample) : Prop where
  brace : '\x7b' ∉ s.name.toList
  newline : '\n' ∉ s.name.toList
  labels : s.labels.Plain

/-- the samples of a histogram: one for each bound, one without a bound, the sum and the count -/
def Histogram.samples (h : Histogram) (name : String) (l : Labels) : List Sample :=
  let bucket (bound : String) (count : UInt64) : Sample := ⟨name ++ "_bucket", l ++ [("le", bound)], count.toNat⟩
  List.zipWith (fun bound count => bucket (toString bound) count) bucketBounds h.buckets
    ++ [bucket "+Inf" h.count, ⟨name ++ "_sum", l, h.sum.toNat⟩, ⟨name ++ "_count", l, h.count.toNat⟩]

/-- a family of measurements and the samples of each of its series -/
structure Family where
  name : String
  kind : String
  series : List (List Sample)

namespace Family

open Metrics

/-- a family whose series are the entries of a table -/
def ofTable {ν : Type} (name kind : String) (t : Table Labels ν) (samples : Labels → ν → List Sample) : Family :=
  ⟨name, kind, t.entries.map fun e => samples e.1 e.2⟩

/-- a family of which each series has one sample -/
def single {ν : Type} (name kind : String) (t : Table Labels ν) (value : ν → ℤ) : Family :=
  ofTable name kind t fun l v => [⟨name, l, value v⟩]

def counters (name : String) (c : Counters) : Family :=
  single name "counter" c.table fun n => n.toNat

def gauges (name : String) (g : Gauges) : Family :=
  single name "gauge" g.table id

def histograms (name : String) (h : Histograms) : Family :=
  ofTable name "histogram" h.table fun l h => h.samples name l

def lines (f : Family) : List String :=
  typeLine f.name f.kind :: inOrder (f.series.map fun samples => samples.map Sample.line)

/-- lines that show a family: its kind, and then its series in some order, each sample of a series on a line of its own -/
def ShownBy (f : Family) (lines : List String) : Prop :=
  ∃ groups : List (List String), lines = typeLine f.name f.kind :: groups.flatten ∧
    (groups.map fun group => group.map Sample.read?).Perm (f.series.map fun samples => samples.map some)

structure Legible (f : Family) : Prop where
  kind : '\n' ∉ (typeLine f.name f.kind).toList
  samples : ∀ samples ∈ f.series, ∀ s ∈ samples, s.Legible

theorem exists_inOrder (groups : List (List String)) :
    ∃ sorted : List (List String), sorted.Perm groups ∧ inOrder groups = sorted.flatten :=
  ⟨_, List.mergeSort_perm .., rfl⟩

variable {f : Family}

/-- the lines of a family are read back -/
theorem shownBy_lines (legible : f.Legible) : f.ShownBy f.lines := by
  -- lines are put in order series by series, so that those of one series stay together
  obtain ⟨groups, same, sorted⟩ := exists_inOrder (f.series.map fun samples => samples.map Sample.line)
  refine ⟨groups, by rw [lines, sorted], ?_⟩
  have back : (f.series.map fun samples => samples.map Sample.line).map (fun group => group.map Sample.read?) =
      f.series.map fun samples => samples.map some := by
    rw [List.map_map]
    apply List.map_congr_left
    intro samples member
    rw [Function.comp_apply, List.map_map]
    apply List.map_congr_left
    intro s member'
    have legible := legible.samples samples member s member'
    exact Sample.read?_line legible.brace legible.labels
  rw [← back]
  exact same.map _

theorem newline_notMem_lines (legible : f.Legible) : ∀ line ∈ f.lines, '\n' ∉ line.toList := by
  obtain ⟨groups, same, sorted⟩ := exists_inOrder (f.series.map fun samples => samples.map Sample.line)
  intro line member
  rw [lines, sorted] at member
  rcases List.mem_cons.1 member with rfl | member
  · exact legible.kind
  · obtain ⟨group, grouped, shown⟩ := List.mem_flatten.1 member
    obtain ⟨samples, series, rfl⟩ := List.mem_map.1 (same.mem_iff.1 grouped)
    obtain ⟨s, sampled, rfl⟩ := List.mem_map.1 shown
    have legible := legible.samples samples series s sampled
    exact Sample.newline_notMem_line legible.newline legible.labels

/-- a family takes one line for its kind and one for each sample -/
theorem length_lines {n : ℕ} (each : ∀ samples ∈ f.series, samples.length = n) : f.lines.length = 1 + n * f.series.length := by
  obtain ⟨groups, same, sorted⟩ := exists_inOrder (f.series.map fun samples => samples.map Sample.line)
  have lengths : (f.series.map fun samples => samples.map Sample.line).map List.length = f.series.map fun _ => n := by
    rw [List.map_map]
    apply List.map_congr_left
    intro samples member
    rw [Function.comp_apply, List.length_map, each samples member]
  rw [lines, sorted, List.length_cons, same.flatten.length_eq, List.length_flatten, lengths, List.map_const', List.sum_replicate,
    smul_eq_mul]
  ring

section Tables

variable {ν : Type} {name kind : String} {t : Table Labels ν} {samples : Labels → ν → List Sample}

theorem legible_ofTable (newline : '\n' ∉ name.toList) (newline' : '\n' ∉ kind.toList)
    (legible : ∀ e ∈ t.entries, ∀ s ∈ samples e.1 e.2, s.Legible) : (ofTable name kind t samples).Legible := by
  refine ⟨?_, fun group member => ?_⟩
  · simp [typeLine, ofTable, newline, newline']
  · obtain ⟨e, entry, rfl⟩ := List.mem_map.1 member
    exact legible e entry

theorem legible_single (brace : '\x7b' ∉ name.toList) (newline : '\n' ∉ name.toList) (newline' : '\n' ∉ kind.toList)
    (plain : ∀ l ∈ t.keys, l.Plain) (value : ν → ℤ) : (single name kind t value).Legible := by
  apply legible_ofTable newline newline'
  intro e entry s member
  obtain rfl := List.mem_singleton.1 member
  exact ⟨brace, newline, plain e.1 (List.mem_map_of_mem entry)⟩

theorem length_lines_ofTable {n : ℕ} (each : ∀ e ∈ t.entries, (samples e.1 e.2).length = n) :
    (ofTable name kind t samples).lines.length = 1 + n * t.size := by
  have length : (ofTable name kind t samples).series.length = t.size := List.length_map ..
  rw [← length]
  apply length_lines
  intro group member
  obtain ⟨e, entry, rfl⟩ := List.mem_map.1 member
  exact each e entry

theorem length_lines_single (value : ν → ℤ) : (single name kind t value).lines.length = 1 + t.size := by
  have lengths : (single name kind t value).lines.length = 1 + 1 * t.size := length_lines_ofTable fun _ _ => rfl
  rw [lengths, one_mul]

end Tables

end Family

namespace Metrics

/-! ## Families of the gateway -/

theorem lines_counters (name : String) (c : Counters) : (Family.counters name c).lines = counterLines name c := by
  simp only [Family.lines, Family.counters, Family.single, Family.ofTable, counterLines, List.map_map]
  rfl

theorem lines_gauges (name : String) (g : Gauges) : (Family.gauges name g).lines = gaugeLines name g := by
  simp only [Family.lines, Family.gauges, Family.single, Family.ofTable, gaugeLines, List.map_map]
  rfl

theorem map_line_samples (name : String) (l : Labels) (h : Histogram) :
    (h.samples name l).map Sample.line = histogramLines name l h := by
  simp only [Histogram.samples, histogramLines, List.map_append, List.map_zipWith, List.map_cons, List.map_nil, Sample.line,
    Labels.render_concat]
  rfl

theorem lines_histograms (name : String) (h : Histograms) : (Family.histograms name h).lines = histogramsLines name h := by
  simp only [Family.lines, Family.histograms, Family.ofTable, histogramsLines, List.map_map, Function.comp_def, map_line_samples]

/-- what a page is to show -/
def families (m : Metrics) : List Family :=
  [.counters "aihub_requests_total" m.requests, .gauges "aihub_rate_limit_remaining" m.remaining,
    .histograms "aihub_request_duration_micros" m.durations, .counters "aihub_stream_bytes_total" m.streamBytes,
    .counters "aihub_diagnostics_dropped_total" m.dropped, .counters "aihub_config_reloads_total" m.reloads]

/-- the two lines on draining -/
def drainingLines (m : Metrics) : List String :=
  [typeLine "aihub_draining" "gauge", plainLine "aihub_draining" (if m.draining then 1 else 0)]

theorem lines_eq (m : Metrics) (extra : List (String × ℕ)) :
    m.lines extra = m.families.flatMap Family.lines ++ m.drainingLines ++ extra.map fun e => plainLine e.1 e.2 := by
  simp only [lines, families, drainingLines, List.flatMap_cons, List.flatMap_nil, lines_counters, lines_gauges, lines_histograms,
    List.append_assoc, List.append_nil]

/-- the labels of all series -/
def labelled (m : Metrics) : List Labels :=
  m.requests.table.keys ++ m.remaining.table.keys ++ m.durations.table.keys ++ m.streamBytes.table.keys ++ m.dropped.table.keys
    ++ m.reloads.table.keys

theorem legible_samples {name : String} (brace : '\x7b' ∉ name.toList) (newline : '\n' ∉ name.toList) {l : Labels} (plain : l.Plain)
    (h : Histogram) : ∀ s ∈ h.samples name l, s.Legible := by
  have bucket (bound : String) (count : ℤ) : Sample.Legible ⟨name ++ "_bucket", l ++ [("le", bound)], count⟩ :=
    ⟨by simp [brace], by simp [newline], plain.concat (Labels.plain_of_identifiers (by simp))⟩
  have total {part : String} (brace' : '\x7b' ∉ part.toList) (newline' : '\n' ∉ part.toList) (value : ℤ) :
      Sample.Legible ⟨name ++ part, l, value⟩ :=
    ⟨by simp [brace, brace'], by simp [newline, newline'], plain⟩
  intro s member
  rcases List.mem_append.1 member with bounded | rest
  · rw [← List.map_uncurry_zip_eq_zipWith] at bounded
    obtain ⟨e, -, rfl⟩ := List.mem_map.1 bounded
    exact bucket ..
  · simp only [List.mem_cons, List.not_mem_nil, or_false] at rest
    rcases rest with rfl | rfl | rfl
    · exact bucket ..
    · exact total (by simp) (by simp) _
    · exact total (by simp) (by simp) _

theorem legible_histograms {name : String} (brace : '\x7b' ∉ name.toList) (newline : '\n' ∉ name.toList) {h : Histograms}
    (plain : ∀ l ∈ h.table.keys, l.Plain) : (Family.histograms name h).Legible := by
  apply Family.legible_ofTable newline (by simp)
  intro e entry
  exact legible_samples brace newline (plain e.1 (List.mem_map_of_mem entry)) e.2

theorem legible_families {m : Metrics} (plain : ∀ l ∈ m.labelled, l.Plain) : ∀ f ∈ m.families, f.Legible := by
  simp only [labelled, List.mem_append, or_imp, forall_and] at plain
  obtain ⟨⟨⟨⟨⟨requests, remaining⟩, durations⟩, streamBytes⟩, dropped⟩, reloads⟩ := plain
  simp only [families, List.forall_mem_cons, List.not_mem_nil, false_imp_iff, implies_true, and_true]
  refine ⟨Family.legible_single ?_ ?_ ?_ requests _, Family.legible_single ?_ ?_ ?_ remaining _, legible_histograms ?_ ?_ durations,
    Family.legible_single ?_ ?_ ?_ streamBytes _, Family.legible_single ?_ ?_ ?_ dropped _,
    Family.legible_single ?_ ?_ ?_ reloads _⟩
  all_goals simp

/-! ## Cutting the page -/

/-- a single value stays on its line where its name has no line feed -/
theorem pieces_plainLine {name : String} (newline : '\n' ∉ name.toList) (value : ℕ) :
    Text.pieces (plainLine name value) = [plainLine name value] := by
  have digits := Sample.newline_notMem_toDigits value
  apply Text.pieces_eq_singleton
  simp [plainLine, newline, digits]

/-- the page is cut into its own lines, and what comes last into the pieces that it has -/
theorem pieces_page {m : Metrics} (plain : ∀ l ∈ m.labelled, l.Plain) (extra : List (String × ℕ)) :
    Text.pieces (m.page extra) =
      m.families.flatMap Family.lines ++ m.drainingLines ++ (extra.flatMap fun e => Text.pieces (plainLine e.1 e.2)) ++ [""] := by
  have families : (m.families.flatMap Family.lines).flatMap Text.pieces = m.families.flatMap Family.lines := by
    apply Text.flatMap_pieces
    intro line member
    obtain ⟨f, family, shown⟩ := List.mem_flatMap.1 member
    exact Family.newline_notMem_lines (legible_families plain f family) line shown
  have draining : m.drainingLines.flatMap Text.pieces = m.drainingLines := by
    have kind : Text.pieces (typeLine "aihub_draining" "gauge") = [typeLine "aihub_draining" "gauge"] :=
      Text.pieces_eq_singleton (by simp [typeLine])
    rw [drainingLines, List.flatMap_cons, List.flatMap_singleton, kind, pieces_plainLine (by simp)]
    rfl
  rw [page, Text.pieces_join, lines_eq, List.flatMap_append, List.flatMap_append, families, draining, List.flatMap_map]

/-! ## Calls -/

/-- the families of counters -/
inductive CounterFamily
  | requests
  | streamBytes
  | dropped
  | reloads

/-- what may be recorded, under labels in any order -/
inductive Call
  | increment (family : CounterFamily) (l : Labels)
  | add (family : CounterFamily) (l : Labels) (n : UInt64)
  | set (l : Labels) (n : ℤ)
  | observe (l : Labels) (nanoseconds : ℕ)
  | drain

def Call.labels : Call → Labels
  | .increment _ l | .add _ l _ | .set l _ | .observe l _ => l
  | .drain => []

def withCounters (m : Metrics) (f : Counters → Counters) : CounterFamily → Metrics
  | .requests => { m with requests := f m.requests }
  | .streamBytes => { m with streamBytes := f m.streamBytes }
  | .dropped => { m with dropped := f m.dropped }
  | .reloads => { m with reloads := f m.reloads }

def perform (m : Metrics) : Call → Metrics
  | .increment family l => m.withCounters (·.increment l) family
  | .add family l n => m.withCounters (·.add l n) family
  | .set l n => { m with remaining := m.remaining.set l n }
  | .observe l nanoseconds => { m with durations := m.durations.observe l nanoseconds }
  | .drain => { m with draining := true }

/-- what calls leave behind -/
def built (calls : List Call) : Metrics :=
  calls.foldl perform empty

theorem built_concat (calls : List Call) (call : Call) : built (calls ++ [call]) = (built calls).perform call :=
  List.foldl_concat ..

theorem labelled_withCounters (m : Metrics) (family : CounterFamily) (k : Labels) (n : UInt64) :
    ∀ l ∈ (m.withCounters (·.add k n) family).labelled, l = k.key ∨ l ∈ m.labelled := by
  intro l member
  cases family
  all_goals
    simp only [labelled, withCounters, Counters.add, Table.update, List.mem_append, Table.mem_keys_insert] at member ⊢
    tauto

/-- a call gives no series labels but its own -/
theorem labelled_perform (m : Metrics) (call : Call) : ∀ l ∈ (m.perform call).labelled, l = call.labels.key ∨ l ∈ m.labelled := by
  intro l member
  cases call with
  | increment family k => exact labelled_withCounters m family k 1 l member
  | add family k n => exact labelled_withCounters m family k n l member
  | set k n =>
    simp only [labelled, perform, Call.labels, Gauges.set, List.mem_append, Table.mem_keys_insert] at member ⊢
    tauto
  | observe k nanoseconds =>
    simp only [labelled, perform, Call.labels, Histograms.observe, Table.update, List.mem_append, Table.mem_keys_insert] at member ⊢
    tauto
  | drain => exact .inr member

theorem labelled_built (calls : List Call) : ∀ l ∈ (built calls).labelled, ∃ call ∈ calls, l = call.labels.key := by
  induction calls using List.reverseRecOn with
  | nil => intro l member; exact absurd member List.not_mem_nil
  | append_singleton calls call ih =>
    intro l member
    rw [built_concat] at member
    rcases labelled_perform (built calls) call l member with rfl | before
    · exact ⟨call, by simp, rfl⟩
    · obtain ⟨earlier, made, same⟩ := ih l before
      exact ⟨earlier, List.mem_append_left _ made, same⟩

/-- every histogram has a count for each bound -/
theorem buckets_built (calls : List Call) :
    ∀ e ∈ (built calls).durations.table.entries, e.2.buckets.length = bucketBounds.length := by
  induction calls using List.reverseRecOn with
  | nil => intro e member; exact absurd member List.not_mem_nil
  | append_singleton calls call ih =>
    rw [built_concat]
    cases call with
    | increment family l => cases family <;> exact ih
    | add family l n => cases family <;> exact ih
    | set l n => exact ih
    | observe l nanoseconds =>
      have kept (h : Histogram) (bounded : h.buckets.length = bucketBounds.length) :
          (h.observe nanoseconds).buckets.length = bucketBounds.length := by
        simp [Histogram.observe, bounded]
      exact Table.forall_update (P := fun h : Histogram => h.buckets.length = bucketBounds.length) ih rfl kept l.key
    | drain => exact ih

/-! ## The page -/

theorem length_samples (name : String) (l : Labels) {h : Histogram} (bounded : h.buckets.length = bucketBounds.length) :
    (h.samples name l).length = 12 := by
  simp only [Histogram.samples, List.length_append, List.length_zipWith, bounded]
  rfl

/-- one line for each series of a counter or a gauge, and twelve for one of a histogram -/
theorem length_families (calls : List Call) :
    (built calls).families.map (fun f => f.lines.length) =
      [1 + (built calls).requests.table.size, 1 + (built calls).remaining.table.size, 1 + 12 * (built calls).durations.table.size,
        1 + (built calls).streamBytes.table.size, 1 + (built calls).dropped.table.size, 1 + (built calls).reloads.table.size] := by
  have counters (name : String) (c : Counters) : (Family.counters name c).lines.length = 1 + c.table.size :=
    Family.length_lines_single ..
  have gauges (name : String) (g : Gauges) : (Family.gauges name g).lines.length = 1 + g.table.size :=
    Family.length_lines_single ..
  have histograms (name : String) : (Family.histograms name (built calls).durations).lines.length =
      1 + 12 * (built calls).durations.table.size :=
    Family.length_lines_ofTable fun e entry => length_samples name e.1 (buckets_built calls e entry)
  simp only [families, List.map_cons, List.map_nil, counters, gauges, histograms]

theorem plain_built {calls : List Call} (plain : ∀ call ∈ calls, call.labels.Plain) : ∀ l ∈ (built calls).labelled, l.Plain := by
  intro l member
  obtain ⟨call, made, rfl⟩ := labelled_built calls l member
  exact (Labels.plain_key_iff _).2 (plain call made)

/-- **The page cannot be forged.** After any calls under labels with plain names, whatever the values of the labels are, the page
cut at its line feeds is: for each family a line with its kind and one line for each sample, twelve samples for a histogram, that is
read back as the sample of its series, with the labels and the value that it has; the two lines on draining; and the extra lines.
Lists of labels are written alike only if they are the same labels. -/
theorem page_unforged (calls : List Call) (plain : ∀ call ∈ calls, call.labels.Plain) (extra : List (String × ℕ)) :
    (∃ shown : List (List String),
      List.Forall₂ Family.ShownBy (built calls).families shown ∧
      shown.map List.length =
        [1 + (built calls).requests.table.size, 1 + (built calls).remaining.table.size, 1 + 12 * (built calls).durations.table.size,
          1 + (built calls).streamBytes.table.size, 1 + (built calls).dropped.table.size, 1 + (built calls).reloads.table.size] ∧
      Text.pieces ((built calls).page extra) =
        shown.flatten ++ (built calls).drainingLines ++ (extra.flatMap fun e => Text.pieces (plainLine e.1 e.2)) ++ [""]) ∧
    (∀ e ∈ extra, '\n' ∉ e.1.toList → Text.pieces (plainLine e.1 e.2) = [plainLine e.1 e.2]) ∧
    ∀ l l' : Labels, l.Plain → l'.Plain → (l.key.render = l'.key.render ↔ l.Perm l') := by
  have labels := plain_built plain
  refine ⟨⟨(built calls).families.map Family.lines, ?_, ?_, ?_⟩, ?_, ?_⟩
  · rw [List.forall₂_map_right_iff]
    exact List.forall₂_same.2 fun f family => Family.shownBy_lines (legible_families labels f family)
  · rw [List.map_map]
    exact length_families calls
  · rw [pieces_page labels, List.flatMap_def]
  · exact fun e _ newline => pieces_plainLine newline e.2
  · exact fun l l' names names' => Labels.render_key_eq_iff names names'

/-- calls under values that would end the value, the labels, the line, and begin another sample -/
def forgery : List Call :=
  [.increment .requests [("tenant", "a\"\x7d 7\naihub_requests_total\x7btenant=\"b"), ("outcome", "\\\"")],
    .observe [("tenant", "\\n\",le=\"+Inf")] 2000000]

theorem page_unforged_forgery :
    (∀ call ∈ forgery, call.labels.Plain) ∧
      ∃ shown : List (List String), List.Forall₂ Family.ShownBy (built forgery).families shown ∧
        shown.map List.length = [2, 1, 13, 1, 1, 1] ∧
        Text.pieces ((built forgery).page [("aihub_tenants", 3)]) =
          shown.flatten ++ (built forgery).drainingLines ++ [plainLine "aihub_tenants" 3] ++ [""] := by
  have plain : ∀ call ∈ forgery, call.labels.Plain := by
    simp [forgery, Call.labels, Labels.Plain, or_imp, forall_and]
  obtain ⟨⟨shown, families, lengths, page⟩, extra, -⟩ := page_unforged forgery plain [("aihub_tenants", 3)]
  refine ⟨plain, shown, families, lengths, ?_⟩
  rw [page, List.flatMap_singleton, extra _ List.mem_cons_self (by simp)]

end Metrics

end TenantGateway
