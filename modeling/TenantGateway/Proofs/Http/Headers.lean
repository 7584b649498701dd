/-
Header fields as a multimap.

A multimap is known by its `values`, the values of each name in their order, and here is what every operation does to them.
`Headers.ofFields?` reads fields whose names come in any case.
-/
import Mathlib.Tactic
import TenantGateway.Http.Client
import TenantGateway.Reply

namespace TenantGateway

namespace HeaderName

/-- whether a text spells a name, in capitals or not -/
def isSpelled (name : HeaderName) (s : String) : Bool :=
  Text.lowerAscii s.toList = name.text.toList

theorem ofText?_eq_some {s : String} {n : HeaderName} (h : ofText? s = some n) (name : HeaderName) :
    n = name ↔ name.isSpelled s = true := by
  have text : n.text.toList = Text.lowerAscii s.toList := by
    unfold ofText? at h
    split at h
    · cases h
      simp
    · cases h
  rw [isSpelled, decide_eq_true_iff, ← text, String.toList_inj]
  constructor
  · rintro rfl
    rfl
  · intro same
    cases n
    cases name
    simpa using same

end HeaderName

namespace Headers

variable (h : Headers) (n : HeaderName) (v : HeaderValue)

/-- the headers that fields stand for, unless one of their names cannot be one -/
def ofFields? : List (String × HeaderValue) → Option Headers
  | [] => some empty
  | (s, v) :: fields => do
    let name ← HeaderName.ofText? s
    let h ← ofFields? fields
    return ⟨(name, v) :: h.fields⟩

/-! ## The values of a name after each operation -/

theorem values_remove (m : HeaderName) : (h.remove n).values m = if m = n then [] else h.values m := by
  unfold values remove
  rw [List.filterMap_filter]
  split
  · rename_i same
    subst same
    simp [List.filterMap_eq_nil_iff]
  · rename_i other
    refine List.filterMap_congr fun f _ => ?_
    by_cases hf : f.1 = m
    · simp [hf, other]
    · simp [hf]

theorem values_append (m : HeaderName) :
    (h.append n v).values m = if m = n then h.values m ++ [v] else h.values m := by
  unfold values append
  by_cases same : m = n
  · simp [same]
  · have other : ¬ n = m := fun e => same e.symm
    simp [same, other]

theorem values_insert (m : HeaderName) : (h.insert n v).values m = if m = n then [v] else h.values m := by
  rw [insert, values_append, values_remove]
  split <;> simp

theorem values_insertIf_some (m : HeaderName) :
    (h.insertIf n (some v)).values m = if m = n then [v] else h.values m :=
  values_insert h n v m

theorem values_insertIf (value : Option HeaderValue) (m : HeaderName) :
    (h.insertIf n value).values m = if m = n then value.elim (h.values m) ([·]) else h.values m := by
  cases value with
  | none => exact (ite_self _).symm
  | some v => exact values_insertIf_some h n v m

theorem values_removeAll (names : List HeaderName) (m : HeaderName) :
    (names.foldl remove h).values m = if m ∈ names then [] else h.values m := by
  induction names generalizing h with
  | nil => simp
  | cons n names ih =>
    rw [List.foldl_cons, ih, values_remove]
    by_cases first : m = n <;> by_cases later : m ∈ names <;> simp [first, later]

theorem values_stripHopByHop (m : HeaderName) :
    h.stripHopByHop.values m = if m ∈ HeaderName.hopByHop then [] else h.values m :=
  values_removeAll h HeaderName.hopByHop m

theorem contains_of_values {n : HeaderName} (some : h.values n ≠ []) : h.contains n = true := by
  by_contra none
  refine some (List.filterMap_eq_nil_iff.mpr fun f member => ?_)
  have other : f.1 ≠ n := by
    intro same
    exact none (List.any_eq_true.mpr ⟨f, member, by simpa using same⟩)
  simp [other]

/-- fields that name all that was there before take its place -/
theorem replace_eq {new : Headers} (named : ∀ f ∈ h.fields, new.contains f.1 = true) : h.replace new = new := by
  have gone : h.fields.filter (fun f => !new.contains f.1) = [] :=
    List.filter_eq_nil_iff.mpr fun f member => by simp [named f member]
  rw [replace, gone]
  rfl

theorem values_cons (fields : List (HeaderName × HeaderValue)) (m : HeaderName) :
    (mk ((n, v) :: fields)).values m = if n = m then v :: (mk fields).values m else (mk fields).values m := by
  unfold values
  by_cases same : n = m <;> simp [same]

theorem values_ofFields? {fields : List (String × HeaderValue)} {h : Headers} (read : ofFields? fields = some h)
    (name : HeaderName) : h.values name = (fields.filter fun f => name.isSpelled f.1).map (·.2) := by
  induction fields generalizing h with
  | nil =>
    cases read
    rfl
  | cons f fields ih =>
    obtain ⟨s, v⟩ := f
    simp only [ofFields?, Option.bind_eq_bind, Option.bind_eq_some_iff] at read
    obtain ⟨n, first, rest, later, whole⟩ := read
    cases whole
    rw [values_cons, ih later]
    have spelled := HeaderName.ofText?_eq_some first name
    by_cases same : n = name
    · simp [same, spelled.mp same]
    · simp [same, mt spelled.mpr same]

end Headers

end TenantGateway
