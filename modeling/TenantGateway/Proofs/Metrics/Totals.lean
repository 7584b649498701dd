/-
Sums over the series of a family.

`Counters.total` and `Histograms.total` add up the counts of all series whose labels satisfy a condition. Counts have 64 bits,
so that what such a sum tells is a number modulo 2^64, and that number itself as long as nothing has wrapped round: this is
`Tells`. The main results say what the families tell of a list of records.
- `Labels.key_eq`: labels are kept in order, so that two lists of the same labels name one series;
- `tells_requests`, `tells_durations`: each record is counted in one series of each family, which its labels name;
- `get?_remaining`: the gauge of a tenant is the latest number that was given for it.
-/
import Mathlib.Data.Prod.Lex
import Mathlib.Data.String.Basic
import Mathlib.Tactic
import TenantGateway.Diagnostics

namespace TenantGateway

/-! ## Sums over tables -/

namespace Table

variable {κ ν : Type}

/-- what the entries of a table weigh together -/
def sum (t : Table κ ν) (weight : κ → ν → ℕ) : ℕ :=
  (t.entries.map fun e => weight e.1 e.2).sum

variable [DecidableEq κ]

theorem replaced_of_new {k : κ} (v : ν) {entries : List (κ × ν)} (new : k ∉ entries.map (·.1)) :
    replaced k v entries = entries := by
  induction entries with
  | nil => rfl
  | cons e rest ih =>
    simp only [List.map_cons, List.mem_cons, not_or] at new
    rw [replaced_cons, if_neg (Ne.symm new.1), ih new.2]

theorem get?_of_new (t : Table κ ν) {k : κ} (new : k ∉ t.keys) : t.get? k = none := by
  rw [get?, find?_eq_none_of_not_mem new]
  rfl

/-- where a value is put in the place of another, only their difference counts -/
theorem sum_replaced (weight : κ → ν → ℕ) (k : κ) (v : ν) (entries : List (κ × ν)) (distinct : (entries.map (·.1)).Nodup)
    (member : k ∈ entries.map (·.1)) :
    ((replaced k v entries).map fun e => weight e.1 e.2).sum
        + ((entries.find? (·.1 = k)).map (·.2)).elim 0 (weight k) =
      (entries.map fun e => weight e.1 e.2).sum + weight k v := by
  induction entries with
  | nil => simp at member
  | cons e rest ih =>
    obtain ⟨j, u⟩ := e
    obtain ⟨new, distinct⟩ := List.nodup_cons.1 distinct
    rw [replaced_cons]
    by_cases own : j = k
    · subst own
      rw [replaced_of_new v new]
      simp only [if_true, List.map_cons, List.sum_cons, decide_true, List.find?_cons_of_pos, Option.map_some,
        Option.elim_some]
      omega
    · have later : k ∈ rest.map (·.1) := by
        simpa [Ne.symm own] using member
      have rest' := ih distinct later
      simp only [own, if_false, List.map_cons, List.sum_cons, decide_false, Bool.false_eq_true, not_false_eq_true,
        List.find?_cons_of_neg]
      omega

/-- what a table weighs when a key was given a value -/
theorem sum_insert (t : Table κ ν) (weight : κ → ν → ℕ) (k : κ) (v : ν) :
    (t.insert k v).sum weight + (t.get? k).elim 0 (weight k) = t.sum weight + weight k v := by
  by_cases member : k ∈ t.keys
  · have placed : (t.insert k v).entries = replaced k v t.entries := if_pos member
    rw [sum, placed]
    exact sum_replaced weight k v t.entries t.distinct member
  · rw [t.get?_of_new member, sum, t.entries_insert_of_new member]
    simp [sum]

/-- a value of the table weighs no more than the whole -/
theorem weight_le_sum (t : Table κ ν) (weight : κ → ν → ℕ) (k : κ) : (t.get? k).elim 0 (weight k) ≤ t.sum weight := by
  cases found : t.entries.find? (·.1 = k) with
  | none => simp [get?, found]
  | some e =>
    have own : e.1 = k := by simpa using List.find?_some found
    have member : weight k e.2 ∈ t.entries.map fun e => weight e.1 e.2 :=
      List.mem_map.2 ⟨e, List.mem_of_find?_eq_some found, by rw [own]⟩
    rw [get?, found]
    exact List.single_le_sum (fun _ _ => Nat.zero_le _) _ member

/-- a table of which one key alone weighs anything -/
theorem sum_single (t : Table κ ν) (weight : ν → ℕ) (k : κ) :
    (t.sum fun j v => if j = k then weight v else 0) = (t.get? k).elim 0 weight := by
  obtain ⟨entries, distinct⟩ := t
  simp only [sum, get?]
  induction entries with
  | nil => rfl
  | cons e rest ih =>
    obtain ⟨j, v⟩ := e
    obtain ⟨new, distinct⟩ := List.nodup_cons.1 distinct
    have rest' := ih distinct
    by_cases own : j = k
    · subst own
      rw [find?_eq_none_of_not_mem new] at rest'
      simpa using rest'
    · simpa [own] using rest'

theorem size_le_card (t : Table κ ν) (names : Finset κ) (known : ∀ k ∈ t.keys, k ∈ names) : t.size ≤ names.card := by
  have distinct : t.keys.Nodup := t.distinct
  have size : t.size = t.keys.toFinset.card := by
    rw [List.toFinset_card_of_nodup distinct, keys, List.length_map, Table.size]
  rw [size]
  exact Finset.card_le_card fun k member => known k (List.mem_toFinset.1 member)

theorem mem_keys_insert (t : Table κ ν) (k : κ) (v : ν) (j : κ) : j ∈ (t.insert k v).keys ↔ j = k ∨ j ∈ t.keys := by
  by_cases member : k ∈ t.keys
  · have placed : (t.insert k v).entries = replaced k v t.entries := if_pos member
    rw [keys, placed, map_fst_replaced]
    constructor
    · exact .inr
    · rintro (rfl | known)
      · exact member
      · exact known
  · rw [keys, t.entries_insert_of_new member]
    simp [keys, or_comm]

end Table

/-! ## Labels in order -/

namespace Labels

theorem le_iff (a b : String × String) : le a b = true ↔ toLex a ≤ toLex b := by
  rw [Prod.Lex.toLex_le_toLex]
  simp [le]

theorem perm_key (l : Labels) : l.key.Perm l :=
  List.mergeSort_perm l le

theorem sorted_key (l : Labels) : l.key.Pairwise fun a b => toLex a ≤ toLex b := by
  have sorted : (l.mergeSort le).Pairwise fun a b => le a b = true := List.pairwise_mergeSort
    (fun a b c ab bc => (le_iff a c).2 (((le_iff a b).1 ab).trans ((le_iff b c).1 bc)))
    (fun a b => by simpa [le_iff] using le_total (toLex a) (toLex b)) l
  exact sorted.imp (le_iff _ _).1

/-- labels that are in order are kept as they are, however they are given -/
theorem key_eq {l l' : Labels} (same : l.Perm l') (sorted : l'.Pairwise fun a b => toLex a ≤ toLex b) : l.key = l' :=
  ((perm_key l).trans same).eq_of_pairwise (fun _ _ _ _ ab ba => toLex.injective (le_antisymm ab ba)) (sorted_key l) sorted

theorem mem_key (l : Labels) (label : String × String) : label ∈ l.key ↔ label ∈ l :=
  (perm_key l).mem_iff

end Labels

/-! ## Counts of 64 bits -/

/-- what a sum of counts tells of a number, where `counted` things were counted altogether: the number modulo 2^64, and the
number itself as long as no count can have wrapped round -/
structure Tells (sum number counted : ℕ) : Prop where
  modulo : sum ≡ number [MOD 2 ^ 64]
  exactly : counted < 2 ^ 64 → sum = number

theorem Tells.both {a b number counted : ℕ} (ha : Tells a number counted) (hb : Tells b number counted) :
    Tells a b counted :=
  ⟨ha.modulo.trans hb.modulo.symm, fun few => (ha.exactly few).trans (hb.exactly few).symm⟩

namespace Table

variable {ν : Type}

/-- the counts of the series whose labels satisfy a condition, added up -/
def total (t : Table Labels ν) (count : ν → UInt64) (among : Labels → Bool) : ℕ :=
  t.sum fun l v => if among l then (count v).toNat else 0

variable {t : Table Labels ν} {count : ν → UInt64} {among : Labels → Bool} {number counted : ℕ}

/-- a series outside of a sum does not move it -/
theorem total_update_of_not_among {k : Labels} (out : among k = false) (initial : ν) (f : ν → ν) :
    (t.update k initial f).total count among = t.total count among := by
  have moved := t.sum_insert (fun l v => if among l then (count v).toNat else 0) k (f ((t.get? k).getD initial))
  have light : ((t.get? k).elim 0 fun _ => 0) = 0 := by
    cases t.get? k <;> rfl
  simp only [out, Bool.false_eq_true, if_false, light, add_zero] at moved
  exact moved

/-- a series of a sum moves it from what it held to what it holds after one more -/
theorem total_update_of_among {k : Labels} (member : among k = true) {initial : ν} {f : ν → ν} (zero : count initial = 0)
    (one : ∀ v, count (f v) = count v + 1) :
    ∃ held ≤ t.total count among,
      (t.update k initial f).total count among + held = t.total count among + (held + 1) % 2 ^ 64 := by
  have moved := t.sum_insert (fun l v => if among l then (count v).toNat else 0) k (f ((t.get? k).getD initial))
  have least := t.weight_le_sum (fun l v => if among l then (count v).toNat else 0) k
  have held : ((t.get? k).elim 0 fun v => if among k then (count v).toNat else 0) =
      (count ((t.get? k).getD initial)).toNat := by
    cases t.get? k <;> simp [member, zero]
  rw [held] at moved least
  refine ⟨_, least, moved.trans ?_⟩
  rw [if_pos member, one, UInt64.toNat_add]
  rfl

/-- a series that is counted once more moves the sums that it belongs to by one, and no other -/
theorem tells_update (tells : Tells (t.total count among) number counted) (few : number ≤ counted) (k : Labels)
    {initial : ν} {f : ν → ν} (zero : count initial = 0) (one : ∀ v, count (f v) = count v + 1) :
    Tells ((t.update k initial f).total count among) (number + if among k then 1 else 0) (counted + 1) := by
  obtain ⟨modulo, exactly⟩ := tells
  cases member : among k with
  | false =>
    rw [total_update_of_not_among member]
    exact ⟨modulo, fun h => exactly (by omega)⟩
  | true =>
    obtain ⟨held, least, moved⟩ := total_update_of_among (t := t) member zero one
    rw [if_pos rfl]
    constructor
    · unfold Nat.ModEq at *
      omega
    · intro h
      -- no count is beyond the number of all that was counted, so that none wraps round now
      have same := exactly (by omega)
      omega

end Table

namespace Counters

/-- the counts of the series whose labels satisfy a condition, added up -/
def total (c : Counters) (among : Labels → Bool) : ℕ :=
  c.table.total id among

theorem get_add (c : Counters) (l k : Labels) (n : UInt64) :
    (c.add l n).get k = c.get k + if k.key = l.key then n else 0 := by
  rw [get, add, Table.update, Table.get?_insert]
  split_ifs with own
  · rw [get, own]
    rfl
  · rw [get, UInt64.add_zero]

end Counters

namespace Histograms

/-- the observations of the series whose labels satisfy a condition, added up -/
def total (h : Histograms) (among : Labels → Bool) : ℕ :=
  h.table.total Histogram.count among

/-- the observations of one series -/
def observations (h : Histograms) (l : Labels) : ℕ :=
  (h.table.get? l.key).elim 0 (·.count.toNat)

theorem total_single (h : Histograms) (l : Labels) : h.total (· = l.key) = h.observations l := by
  simp only [total, Table.total, decide_eq_true_eq]
  exact h.table.sum_single (·.count.toNat) l.key

end Histograms

/-! ## What the families tell of records -/

namespace Record

/-- the labels under which a record is counted -/
def requestLabels (r : Record) : Labels :=
  [("tenant", r.tenantLabel), ("category", r.category), ("outcome", r.outcome.label)]

/-- the labels under which its latency is observed -/
def durationLabels (r : Record) : Labels :=
  [("tenant", r.tenantLabel), ("category", r.category)]

end Record

namespace Metrics

/-- the metrics of a list of records, and of nothing else -/
def ofRecords (rs : List Record) : Metrics :=
  rs.foldl count empty

theorem ofRecords_concat (rs : List Record) (r : Record) : ofRecords (rs ++ [r]) = (ofRecords rs).count r :=
  List.foldl_concat ..

theorem tells_requests (rs : List Record) (among : Labels → Bool) :
    Tells ((ofRecords rs).requests.total among) (rs.countP fun r => among r.requestLabels.key) rs.length := by
  induction rs using List.reverseRecOn with
  | nil => exact ⟨rfl, fun _ => rfl⟩
  | append_singleton rs r ih =>
    rw [ofRecords_concat, List.countP_append, List.countP_singleton, List.length_append]
    exact Table.tells_update ih List.countP_le_length r.requestLabels.key rfl fun _ => rfl

theorem tells_durations (rs : List Record) (among : Labels → Bool) :
    Tells ((ofRecords rs).durations.total among) (rs.countP fun r => among r.durationLabels.key) rs.length := by
  induction rs using List.reverseRecOn with
  | nil => exact ⟨rfl, fun _ => rfl⟩
  | append_singleton rs r ih =>
    rw [ofRecords_concat, List.countP_append, List.countP_singleton, List.length_append]
    exact Table.tells_update ih List.countP_le_length r.durationLabels.key rfl fun _ => rfl

theorem key_durationLabels (tenant category : String) :
    Labels.key [("tenant", tenant), ("category", category)] = [("category", category), ("tenant", tenant)] := by
  have order : "category" < "tenant" := by decide
  exact Labels.key_eq (.swap ..) (List.pairwise_pair.2 (Prod.Lex.toLex_le_toLex.2 (.inl order)))

/-- the requests of a tenant and a category, whatever their outcomes, are the observations of their latencies -/
theorem tells_outcomes (rs : List Record) (tenant category : String) :
    Tells ((ofRecords rs).requests.total fun l => l.contains ("tenant", tenant) && l.contains ("category", category))
      ((ofRecords rs).durations.observations [("tenant", tenant), ("category", category)]) rs.length := by
  have requests := tells_requests rs fun l => l.contains ("tenant", tenant) && l.contains ("category", category)
  have observed := tells_durations rs fun l => decide (l = Labels.key [("tenant", tenant), ("category", category)])
  rw [Histograms.total_single] at observed
  refine requests.both ?_
  convert observed using 3 with r
  simp [Labels.mem_key, Record.requestLabels, Record.durationLabels, key_durationLabels, and_comm, eq_comm]

/-! ## The gauges -/

theorem key_singleton (label : String × String) : Labels.key [label] = [label] :=
  Labels.key_eq (.refl _) (List.pairwise_singleton _ _)

/-- the number that the latest of the records under a tenant's label tells, if one tells any -/
def latest? (tenant : String) (rs : List Record) : Option ℕ :=
  rs.reverse.findSome? fun r => if r.tenantLabel = tenant then r.remaining else none

theorem latest?_concat (tenant : String) (rs : List Record) (r : Record) :
    latest? tenant (rs ++ [r]) = ((if r.tenantLabel = tenant then r.remaining else none).or (latest? tenant rs)) := by
  simp only [latest?, List.reverse_append, List.reverse_singleton, List.singleton_append, List.findSome?_cons]
  cases (if r.tenantLabel = tenant then r.remaining else none) <;> rfl

/-- the gauge of a tenant is the latest number told of it, within 63 bits -/
theorem get?_remaining (rs : List Record) (tenant : String) :
    (ofRecords rs).remaining.get? [("tenant", tenant)] =
      (latest? tenant rs).map fun n => ((min n Record.largestSigned : ℕ) : ℤ) := by
  induction rs using List.reverseRecOn with
  | nil => rfl
  | append_singleton rs r ih =>
    rw [ofRecords_concat, latest?_concat, Option.map_or, ← ih]
    cases told : r.remaining with
    | none => simp [count, told]
    | some n =>
      have set : ((ofRecords rs).count r).remaining =
          (ofRecords rs).remaining.set [("tenant", r.tenantLabel)] (min n Record.largestSigned : ℕ) := by
        simp [count, told]
      rw [set, Gauges.get?, Gauges.set, key_singleton, key_singleton, Table.get?_insert]
      by_cases own : r.tenantLabel = tenant
      · simp [own]
      · simp [own, Ne.symm own, Gauges.get?, key_singleton]

/-! ## Which series there are -/

theorem mem_keys_remaining (rs : List Record) (l : Labels) :
    l ∈ (ofRecords rs).remaining.table.keys ↔ ∃ r ∈ rs, r.remaining.isSome = true ∧ l = [("tenant", r.tenantLabel)] := by
  induction rs using List.reverseRecOn with
  | nil => simp [ofRecords, empty, Gauges.empty, Table.keys, Table.empty]
  | append_singleton rs r ih =>
    rw [ofRecords_concat]
    cases told : r.remaining with
    | none => simp [count, told, ih, or_and_right, exists_or]
    | some n =>
      have set : ((ofRecords rs).count r).remaining =
          (ofRecords rs).remaining.set [("tenant", r.tenantLabel)] (min n Record.largestSigned : ℕ) := by
        simp [count, told]
      rw [set, Gauges.set, key_singleton, Table.mem_keys_insert, ih]
      simp [told, or_and_right, exists_or, or_comm]

theorem mem_keys_requests (rs : List Record) (l : Labels) :
    l ∈ (ofRecords rs).requests.table.keys ↔ ∃ r ∈ rs, l = r.requestLabels.key := by
  induction rs using List.reverseRecOn with
  | nil => simp [ofRecords, empty, Counters.empty, Table.keys, Table.empty]
  | append_singleton rs r ih =>
    rw [ofRecords_concat]
    refine (Table.mem_keys_insert ..).trans ?_
    rw [ih]
    simp [or_and_right, exists_or, or_comm]
    rfl

theorem mem_keys_durations (rs : List Record) (l : Labels) :
    l ∈ (ofRecords rs).durations.table.keys ↔ ∃ r ∈ rs, l = r.durationLabels.key := by
  induction rs using List.reverseRecOn with
  | nil => simp [ofRecords, empty, Histograms.empty, Table.keys, Table.empty]
  | append_singleton rs r ih =>
    rw [ofRecords_concat]
    refine (Table.mem_keys_insert ..).trans ?_
    rw [ih]
    simp [or_and_right, exists_or, or_comm]
    rfl

end Metrics

end TenantGateway
