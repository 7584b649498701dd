/-
What counters and histograms tell of the calls that made them.

`added` is what calls add to one counter, `observed` which durations they observe for one series. Both go by labels up to their order, and
so do the families, which keep labels in order (`Labels.key_eq_key_iff`).
- `get_built`: a counter is the sum of what was added under its labels, modulo 2^64;
- `get?_durations_built`: a series is what the durations observed under its labels make of an empty histogram;
- `Histogram.buckets_ofDurations`: each bucket counts the durations within its bound;
- `every_call_accounted`: so every call is accounted for, in one series and nowhere else, and the page shows it.
-/
import TenantGateway.Proofs.Metrics.Page

namespace TenantGateway

theorem Labels.key_eq_key_iff (l l' : Labels) : l.key = l'.key ↔ l.Perm l' := by
  constructor
  · intro same
    exact (perm_key l).symm.trans (same ▸ perm_key l')
  · exact fun same => key_eq (same.trans (perm_key l').symm) (sorted_key l')

/-! ## Durations -/

namespace Histogram

/-- how many durations are no longer than a bound, in whole microseconds -/
def within (durations : List ℕ) (bound : ℕ) : ℕ :=
  durations.countP fun d => d / 1000 ≤ bound

/-- what durations make of an empty histogram -/
def ofDurations (durations : List ℕ) : Histogram :=
  durations.foldl observe empty

theorem ofDurations_concat (durations : List ℕ) (d : ℕ) : ofDurations (durations ++ [d]) = (ofDurations durations).observe d :=
  List.foldl_concat ..

theorem within_concat (durations : List ℕ) (d bound : ℕ) :
    within (durations ++ [d]) bound = within durations bound + if d / 1000 ≤ bound then 1 else 0 := by
  simp [within]

theorem within_mono (durations : List ℕ) {bound bound' : ℕ} (le : bound ≤ bound') : within durations bound ≤ within durations bound' := by
  apply List.countP_mono_left
  intro d _ short
  simp only [decide_eq_true_eq] at short ⊢
  exact short.trans le

theorem within_le_length (durations : List ℕ) (bound : ℕ) : within durations bound ≤ durations.length :=
  List.countP_le_length

/-- no bound is so large that durations which 64 bits do not hold would be taken for shorter ones -/
theorem micros_le_iff {bound : ℕ} (known : bound ∈ bucketBounds) (d : ℕ) : micros d ≤ bound ↔ d / 1000 ≤ bound := by
  have small : ∀ bound ∈ bucketBounds, bound < largest := by decide
  rw [micros, min_le_iff, or_iff_left (not_le_of_gt (small bound known))]

theorem count_ofDurations (durations : List ℕ) : (ofDurations durations).count = UInt64.ofNat durations.length := by
  induction durations using List.reverseRecOn with
  | nil => rfl
  | append_singleton durations d ih =>
    rw [ofDurations_concat, observe, ih, List.length_append, UInt64.ofNat_add]
    rfl

theorem sum_ofDurations (durations : List ℕ) : (ofDurations durations).sum = UInt64.ofNat (durations.map micros).sum := by
  induction durations using List.reverseRecOn with
  | nil => rfl
  | append_singleton durations d ih =>
    rw [ofDurations_concat, observe, ih, List.map_append, List.sum_append, UInt64.ofNat_add, List.map_singleton, List.sum_singleton]

/-- **Each bucket counts what lies within its bound.** -/
theorem buckets_ofDurations (durations : List ℕ) :
    (ofDurations durations).buckets = bucketBounds.map fun bound => UInt64.ofNat (within durations bound) := by
  induction durations using List.reverseRecOn with
  | nil => rfl
  | append_singleton durations d ih =>
    rw [ofDurations_concat, observe, ih, List.zipWith_map_right, List.zipWith_self]
    apply List.map_congr_left
    intro bound known
    rw [within_concat, UInt64.ofNat_add]
    by_cases short : d / 1000 ≤ bound
    · rw [if_pos ((micros_le_iff known d).2 short), if_pos short]
      rfl
    · rw [if_neg (mt (micros_le_iff known d).1 short), if_neg short]
      exact (UInt64.add_zero _).symm

/-- what a histogram tells of fewer durations than 64 bits count: how many there were, and how many within each bound, which are the
more the larger the bound is -/
structure TellsOf (h : Histogram) (durations : List ℕ) : Prop where
  count : h.count.toNat = durations.length
  buckets : h.buckets.map UInt64.toNat = bucketBounds.map (within durations)
  nested : h.buckets.Pairwise (· ≤ ·)
  bounded : ∀ bucket ∈ h.buckets, bucket ≤ h.count

theorem tellsOf_ofDurations {durations : List ℕ} (few : durations.length < 2 ^ 64) : (ofDurations durations).TellsOf durations := by
  have exact_within (bound : ℕ) : (UInt64.ofNat (within durations bound)).toNat = within durations bound :=
    UInt64.toNat_ofNat_of_lt' ((within_le_length durations bound).trans_lt few)
  have exact_count : (ofDurations durations).count.toNat = durations.length := by
    rw [count_ofDurations]
    exact UInt64.toNat_ofNat_of_lt' few
  refine ⟨exact_count, ?_, ?_, ?_⟩
  · rw [buckets_ofDurations, List.map_map]
    exact List.map_congr_left fun bound _ => exact_within bound
  · rw [buckets_ofDurations, List.pairwise_map]
    have increasing : bucketBounds.Pairwise (· ≤ ·) := by decide
    refine increasing.imp fun le => ?_
    rw [UInt64.le_iff_toNat_le, exact_within, exact_within]
    exact within_mono durations le
  · intro bucket member
    rw [buckets_ofDurations] at member
    obtain ⟨bound, -, rfl⟩ := List.mem_map.1 member
    rw [UInt64.le_iff_toNat_le, exact_within, exact_count]
    exact within_le_length durations bound

end Histogram

theorem Histograms.get?_observe (h : Histograms) (k l : Labels) (nanoseconds : ℕ) :
    (h.observe k nanoseconds).table.get? l.key =
      if k.Perm l then some (((h.table.get? l.key).getD .empty).observe nanoseconds) else h.table.get? l.key := by
  rw [observe, Table.update, Table.get?_insert]
  by_cases own : k.Perm l
  · have same : k.key = l.key := (Labels.key_eq_key_iff k l).2 own
    rw [if_pos own, if_pos same.symm, same]
  · rw [if_neg own, if_neg fun same => own ((Labels.key_eq_key_iff k l).1 same.symm)]

namespace Metrics

deriving instance DecidableEq for CounterFamily

def counters (m : Metrics) : CounterFamily → Counters
  | .requests => m.requests
  | .streamBytes => m.streamBytes
  | .dropped => m.dropped
  | .reloads => m.reloads

/-- what a call adds to the counter of a family that has labels, in any order -/
def Call.added (family : CounterFamily) (l : Labels) : Call → ℕ
  | .increment other k => if other = family ∧ k.Perm l then 1 else 0
  | .add other k n => if other = family ∧ k.Perm l then n.toNat else 0
  | .set _ _ | .observe _ _ | .drain => 0

/-- the duration that a call observes for labels, in any order -/
def Call.observed? (l : Labels) : Call → Option ℕ
  | .observe k nanoseconds => if k.Perm l then some nanoseconds else none
  | .increment _ _ | .add _ _ _ | .set _ _ | .drain => none

/-- what calls add to a counter -/
def added (family : CounterFamily) (l : Labels) (calls : List Call) : ℕ :=
  (calls.map (Call.added family l)).sum

/-- the durations that calls observe for labels -/
def observed (l : Labels) (calls : List Call) : List ℕ :=
  calls.filterMap (Call.observed? l)

/-! ## Counters -/

theorem get_withCounters (m : Metrics) (k l : Labels) (n : UInt64) (other family : CounterFamily) :
    ((m.withCounters (·.add k n) other).counters family).get l =
      (m.counters family).get l + if other = family ∧ k.Perm l then n else 0 := by
  by_cases own : other = family
  · subst own
    have alike : (if l.key = k.key then n else 0) = if k.Perm l then n else 0 := by
      simp only [eq_comm (a := l.key), Labels.key_eq_key_iff]
    have added : ((m.withCounters (·.add k n) other).counters other) = (m.counters other).add k n := by
      cases other <;> rfl
    rw [added, Counters.get_add, alike]
    simp
  · have kept : ((m.withCounters (·.add k n) other).counters family) = m.counters family := by
      cases other <;> cases family <;> first | rfl | exact absurd rfl own
    simp [kept, own]

/-- a call moves a counter by what it adds to it -/
theorem get_perform (m : Metrics) (call : Call) (family : CounterFamily) (l : Labels) :
    ((m.perform call).counters family).get l = (m.counters family).get l + UInt64.ofNat (call.added family l) := by
  cases call with
  | increment other k =>
    refine (get_withCounters m k l 1 other family).trans ?_
    rw [Call.added, apply_ite UInt64.ofNat]
    rfl
  | add other k n =>
    refine (get_withCounters m k l n other family).trans ?_
    rw [Call.added, apply_ite UInt64.ofNat, UInt64.ofNat_toNat]
    rfl
  | set k n => cases family <;> exact (UInt64.add_zero _).symm
  | observe k nanoseconds => cases family <;> exact (UInt64.add_zero _).symm
  | drain => cases family <;> exact (UInt64.add_zero _).symm

/-- **A counter is the sum of what was added under its labels**, modulo 2^64. -/
theorem get_built (calls : List Call) (family : CounterFamily) (l : Labels) :
    ((built calls).counters family).get l = UInt64.ofNat (added family l calls) := by
  induction calls using List.reverseRecOn with
  | nil => cases family <;> rfl
  | append_singleton calls call ih =>
    rw [built_concat, get_perform, ih, ← UInt64.ofNat_add, added, added, List.map_append, List.sum_append, List.map_singleton,
      List.sum_singleton]

/-! ## Histograms -/

theorem observed_concat (l : Labels) (calls : List Call) (call : Call) :
    observed l (calls ++ [call]) = observed l calls ++ (call.observed? l).toList := by
  rw [observed, List.filterMap_append]
  rfl

/-- a call that observes nothing for labels leaves their series alone -/
theorem get?_perform_of_none (m : Metrics) {call : Call} {l : Labels} (other : call.observed? l = none) :
    (m.perform call).durations.table.get? l.key = m.durations.table.get? l.key := by
  cases call with
  | increment family k => cases family <;> rfl
  | add family k n => cases family <;> rfl
  | set k n => rfl
  | observe k nanoseconds =>
    have apart : ¬ k.Perm l := by simpa [Call.observed?] using other
    rw [perform, Histograms.get?_observe, if_neg apart]
  | drain => rfl

theorem get?_perform_of_some (m : Metrics) {call : Call} {l : Labels} {d : ℕ} (own : call.observed? l = some d) :
    (m.perform call).durations.table.get? l.key = some (((m.durations.table.get? l.key).getD .empty).observe d) := by
  cases call with
  | observe k nanoseconds =>
    simp only [Call.observed?, Option.ite_none_right_eq_some, Option.some.injEq] at own
    obtain ⟨same, rfl⟩ := own
    rw [perform, Histograms.get?_observe, if_pos same]
  | increment | add | set | drain => cases own

/-- **A series is what the durations under its labels make of an empty histogram**; there is none where there are no durations. -/
theorem get?_durations_built (calls : List Call) (l : Labels) :
    (built calls).durations.table.get? l.key =
      if observed l calls = [] then none else some (.ofDurations (observed l calls)) := by
  induction calls using List.reverseRecOn with
  | nil => rfl
  | append_singleton calls call ih =>
    rw [built_concat, observed_concat]
    cases told : call.observed? l with
    | none => rw [get?_perform_of_none _ told, ih, Option.toList_none, List.append_nil]
    | some d =>
      have before : ((built calls).durations.table.get? l.key).getD .empty = .ofDurations (observed l calls) := by
        rw [ih]
        split_ifs with first
        · rw [first]
          rfl
        · rfl
      rw [get?_perform_of_some _ told, before, Option.toList_some, if_neg (by simp), Histogram.ofDurations_concat]

/-- each line of a series stands on the page -/
theorem line_mem_lines {m : Metrics} {l : Labels} {h : Histogram} (series : m.durations.table.get? l = some h) {s : Sample}
    (sample : s ∈ h.samples "aihub_request_duration_micros" l) (extra : List (String × ℕ)) : s.line ∈ m.lines extra := by
  have entry : (l, h) ∈ m.durations.table.entries := by
    obtain ⟨⟨k, v⟩, found, rfl⟩ := Option.map_eq_some_iff.1 series
    have own : k = l := by simpa using List.find?_some found
    exact own ▸ List.mem_of_find?_eq_some found
  have shown : s.line ∈ (Family.histograms "aihub_request_duration_micros" m.durations).lines := by
    obtain ⟨sorted, same, lines⟩ := Family.exists_inOrder
      ((Family.histograms "aihub_request_duration_micros" m.durations).series.map fun samples => samples.map Sample.line)
    rw [Family.lines, lines]
    refine List.mem_cons_of_mem _ (List.mem_flatten.2 ⟨_, same.mem_iff.2 (List.mem_map_of_mem ?_), List.mem_map_of_mem sample⟩)
    exact List.mem_map.2 ⟨(l, h), entry, rfl⟩
  rw [lines_eq]
  refine List.mem_append_left _ (List.mem_append_left _ (List.mem_flatMap.2 ⟨_, ?_, shown⟩))
  simp [families]

/-- **Every call is accounted for.** After any calls under labels in any order, a counter of any family is the sum of the amounts that were
added to that family under the same labels in some order, modulo 2^64. A series of the histogram is there if a duration was observed under
its labels in some order, however long it was; its sum is the sum of these durations in microseconds, each at most what 64 bits hold,
modulo 2^64. Where fewer than 2^64 were observed, it counts them, its buckets count those within each bound and are nested in one another and
in the count, and the page shows each bucket, and the count without a bound. -/
theorem every_call_accounted (calls : List Call) :
    (∀ family l, (((built calls).counters family).get l).toNat = added family l calls % 2 ^ 64) ∧
    ∀ l, ((built calls).durations.table.get? l.key = none ↔ observed l calls = []) ∧
      ∀ h, (built calls).durations.table.get? l.key = some h →
        h.sum.toNat = ((observed l calls).map Histogram.micros).sum % 2 ^ 64 ∧
        ((observed l calls).length < 2 ^ 64 →
          h.TellsOf (observed l calls) ∧
          ∀ extra,
            (∀ bound ∈ bucketBounds,
              (⟨"aihub_request_duration_micros_bucket", l.key ++ [("le", toString bound)],
                Histogram.within (observed l calls) bound⟩ : Sample).line ∈ (built calls).lines extra) ∧
            (⟨"aihub_request_duration_micros_bucket", l.key ++ [("le", "+Inf")], (observed l calls).length⟩ : Sample).line ∈
              (built calls).lines extra) := by
  refine ⟨fun family l => ?_, fun l => ⟨?_, fun h series => ?_⟩⟩
  · rw [get_built, UInt64.toNat_ofNat']
  · rw [get?_durations_built]
    split_ifs with none <;> simp [none]
  have made : h = .ofDurations (observed l calls) := by
    rw [get?_durations_built] at series
    split_ifs at series
    exact (Option.some.inj series).symm
  refine ⟨by rw [made, Histogram.sum_ofDurations, UInt64.toNat_ofNat'], fun few => ?_⟩
  have tells : h.TellsOf (observed l calls) := made ▸ Histogram.tellsOf_ofDurations few
  refine ⟨tells, fun extra => ⟨fun bound known => ?_, ?_⟩⟩
  · apply line_mem_lines series
    have exact_within : (UInt64.ofNat (Histogram.within (observed l calls) bound)).toNat = Histogram.within (observed l calls) bound :=
      UInt64.toNat_ofNat_of_lt' ((Histogram.within_le_length _ bound).trans_lt few)
    rw [Histogram.samples, made, Histogram.buckets_ofDurations, List.zipWith_map_right, List.zipWith_self]
    refine List.mem_append_left _ (List.mem_map.2 ⟨bound, known, ?_⟩)
    simp only [exact_within]
    rfl
  · apply line_mem_lines series
    rw [← tells.count]
    exact List.mem_append_right _ List.mem_cons_self

/-- calls under labels in both orders: amounts beyond 64 bits, a duration that just lies within the first bound, and one that 64 bits
do not hold -/
def ledger : List Call :=
  [.add .requests [("tenant", "a"), ("category", "b")] 18446744073709551615,
    .increment .requests [("category", "b"), ("tenant", "a")],
    .increment .requests [("tenant", "a")],
    .increment .reloads [("tenant", "a"), ("category", "b")],
    .add .requests [("category", "b"), ("tenant", "a")] 6,
    .observe [("tenant", "a"), ("category", "b")] 1000999,
    .observe [("category", "b"), ("tenant", "a")] 100000000000000000000000,
    .observe [("tenant", "b"), ("category", "a")] 0]

theorem every_call_accounted_ledger :
    ((built ledger).requests.get [("tenant", "a"), ("category", "b")]).toNat = 6 ∧
      (∃ h, (built ledger).durations.table.get? (Labels.key [("tenant", "a"), ("category", "b")]) = some h ∧
        h.sum.toNat = 999 ∧ h.buckets.map UInt64.toNat = [1, 1, 1, 1, 1, 1, 1, 1, 1] ∧ h.count.toNat = 2) ∧
      (⟨"aihub_request_duration_micros_bucket", [("category", "b"), ("tenant", "a"), ("le", "+Inf")], 2⟩ : Sample).line ∈
        (built ledger).lines [] := by
  obtain ⟨counters, series⟩ := every_call_accounted ledger
  have durations : observed [("tenant", "a"), ("category", "b")] ledger = [1000999, 100000000000000000000000] := by decide
  have ordered : Labels.key [("tenant", "a"), ("category", "b")] = [("category", "b"), ("tenant", "a")] :=
    Labels.key_eq (by decide) (by decide)
  obtain ⟨exists_iff, told⟩ := series [("tenant", "a"), ("category", "b")]
  rw [durations] at exists_iff told
  obtain ⟨h, found⟩ := Option.ne_none_iff_exists'.1 (mt exists_iff.1 (by decide))
  obtain ⟨sum, few⟩ := told h found
  obtain ⟨tells, page⟩ := few (by decide)
  refine ⟨?_, ⟨h, found, sum, ?_, tells.count⟩, ?_⟩
  · exact (counters .requests _).trans (by decide)
  · exact tells.buckets.trans (by decide)
  · have line := (page []).2
    rw [ordered] at line
    exact line

end Metrics

end TenantGateway
