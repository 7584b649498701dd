/-
Finite tables: at most one value for each key, in the order in which the keys came.
-/
namespace TenantGateway

structure Table (κ ν : Type) where
  entries : List (κ × ν)
  distinct : (entries.map (·.1)).Nodup

namespace Table

variable {κ ν : Type}

def empty : Table κ ν := ⟨[], List.nodup_nil⟩

instance : Inhabited (Table κ ν) := ⟨empty⟩

def size (t : Table κ ν) : Nat := t.entries.length

def keys (t : Table κ ν) : List κ := t.entries.map (·.1)

variable [DecidableEq κ]

def get? (t : Table κ ν) (k : κ) : Option ν :=
  (t.entries.find? (·.1 = k)).map (·.2)

def contains (t : Table κ ν) (k : κ) : Bool :=
  (t.get? k).isSome

/-- the entries with the value of one key replaced -/
def replaced (k : κ) (v : ν) (entries : List (κ × ν)) : List (κ × ν) :=
  entries.map fun e => if e.1 = k then (k, v) else e

theorem map_fst_replaced (k : κ) (v : ν) (entries : List (κ × ν)) :
    (replaced k v entries).map (·.1) = entries.map (·.1) := by
  induction entries with
  | nil => rfl
  | cons e rest ih =>
    have h : (if e.1 = k then (k, v) else e).1 = e.1 := by
      by_cases h : e.1 = k <;> simp [h]
    simpa [replaced, h] using ih

/-- the entries with a key given a value, in its place or at the end -/
def inserted (k : κ) (v : ν) (entries : List (κ × ν)) : List (κ × ν) :=
  if k ∈ entries.map (·.1) then replaced k v entries else entries ++ [(k, v)]

theorem nodup_inserted (k : κ) (v : ν) (entries : List (κ × ν)) (h : (entries.map (·.1)).Nodup) :
    ((inserted k v entries).map (·.1)).Nodup := by
  unfold inserted
  split
  · rw [map_fst_replaced]
    exact h
  · rename_i hk
    rw [List.map_append, List.nodup_append]
    refine ⟨h, by simp, ?_⟩
    intro a ha b hb
    simp only [List.map_cons, List.map_nil, List.mem_singleton] at hb
    subst hb
    intro hab
    exact hk (hab ▸ ha)

/-- give a key a value, in the place of the one it has if it has one -/
def insert (t : Table κ ν) (k : κ) (v : ν) : Table κ ν :=
  ⟨inserted k v t.entries, nodup_inserted k v t.entries t.distinct⟩

/-- the table of a list of entries; of several values of one key the last one stays -/
def ofList (entries : List (κ × ν)) : Table κ ν :=
  entries.foldl (fun t e => t.insert e.1 e.2) empty

/-- change the value of a key, given a value to begin with where it has none -/
def update (t : Table κ ν) (k : κ) (initial : ν) (f : ν → ν) : Table κ ν :=
  t.insert k (f ((t.get? k).getD initial))

omit [DecidableEq κ] in
theorem map_fst_filterMap_sublist {μ : Type} (f : κ → ν → Option μ) (entries : List (κ × ν)) :
    ((entries.filterMap fun (k, v) => (f k v).map fun u => (k, u)).map (·.1)).Sublist (entries.map (·.1)) := by
  induction entries with
  | nil => exact List.Sublist.refl _
  | cons e rest ih =>
    obtain ⟨k, v⟩ := e
    cases h : f k v with
    | none =>
      simp only [List.filterMap_cons, h, Option.map_none, List.map_cons]
      exact ih.cons k
    | some u =>
      simp only [List.filterMap_cons, h, Option.map_some, List.map_cons]
      exact ih.cons_cons k

omit [DecidableEq κ] in
/-- keep the entries for which there is a new value, and give it to them -/
def filterMap {μ : Type} (t : Table κ ν) (f : κ → ν → Option μ) : Table κ μ :=
  ⟨t.entries.filterMap fun (k, v) => (f k v).map fun u => (k, u),
    t.distinct.sublist (map_fst_filterMap_sublist f t.entries)⟩

/-! ## Lists of entries -/

theorem entries_insert_of_new (t : Table κ ν) {k : κ} (new : k ∉ t.keys) (v : ν) :
    (t.insert k v).entries = t.entries ++ [(k, v)] :=
  if_neg new

theorem entries_foldl_insert (entries : List (κ × ν)) (t : Table κ ν)
    (distinct : ((t.entries ++ entries).map (·.1)).Nodup) :
    (entries.foldl (fun t e => t.insert e.1 e.2) t).entries = t.entries ++ entries := by
  induction entries generalizing t with
  | nil => simp
  | cons e rest ih =>
    have new : e.1 ∉ t.keys := by
      rw [List.map_append, List.nodup_append] at distinct
      intro member
      exact distinct.2.2 e.1 member e.1 List.mem_cons_self rfl
    have added : (t.insert e.1 e.2).entries = t.entries ++ [e] := t.entries_insert_of_new new e.2
    have whole : (t.insert e.1 e.2).entries ++ rest = t.entries ++ e :: rest := by simp [added]
    rw [List.foldl_cons, ih _ (whole ▸ distinct), whole]

/-- a list of entries with distinct keys is the table's own list -/
theorem entries_ofList {entries : List (κ × ν)} (distinct : (entries.map (·.1)).Nodup) :
    (ofList entries).entries = entries :=
  entries_foldl_insert entries empty distinct

/-! ## Lookups -/

@[simp] theorem get?_empty (k : κ) : (empty : Table κ ν).get? k = none := rfl

theorem replaced_cons (k : κ) (v : ν) (e : κ × ν) (rest : List (κ × ν)) :
    replaced k v (e :: rest) = (if e.1 = k then (k, v) else e) :: replaced k v rest := rfl

theorem find?_replaced_self (k : κ) (v : ν) (entries : List (κ × ν)) (hk : k ∈ entries.map (·.1)) :
    ((replaced k v entries).find? (·.1 = k)).map (·.2) = some v := by
  induction entries with
  | nil => simp at hk
  | cons e rest ih =>
    by_cases he : e.1 = k
    · simp [replaced_cons, he]
    · have hr : k ∈ rest.map (·.1) := by
        rcases List.mem_cons.1 hk with h | h
        · exact absurd h.symm he
        · exact h
      simpa [replaced_cons, he] using ih hr

theorem find?_replaced_ne {k j : κ} (hj : j ≠ k) (v : ν) (entries : List (κ × ν)) :
    ((replaced k v entries).find? (·.1 = j)).map (·.2) = (entries.find? (·.1 = j)).map (·.2) := by
  have hkj : ¬ k = j := fun h => hj h.symm
  induction entries with
  | nil => rfl
  | cons e rest ih =>
    rw [replaced_cons]
    by_cases he : e.1 = k
    · have : ¬ e.1 = j := fun h => hkj (he.symm.trans h)
      simpa [he, hkj] using ih
    · by_cases hej : e.1 = j
      · simp [hej, hj]
      · simpa [he, hej] using ih

theorem find?_eq_none_of_not_mem {k : κ} {entries : List (κ × ν)} (h : k ∉ entries.map (·.1)) :
    entries.find? (·.1 = k) = none := by
  rw [List.find?_eq_none]
  intro e he hk
  exact h (of_decide_eq_true hk ▸ List.mem_map_of_mem he)

/-- a key that was given a value has it, and no other key changes -/
theorem get?_insert (t : Table κ ν) (k : κ) (v : ν) (j : κ) :
    (t.insert k v).get? j = if j = k then some v else t.get? j := by
  unfold get? insert inserted
  by_cases hj : j = k
  · subst hj
    by_cases hk : j ∈ t.entries.map (·.1)
    · simpa [hk] using find?_replaced_self j v t.entries hk
    · simp [hk, List.find?_append, find?_eq_none_of_not_mem hk]
  · have hkj : ¬ k = j := fun h => hj h.symm
    by_cases hk : k ∈ t.entries.map (·.1)
    · simpa [hk, hj] using find?_replaced_ne hj v t.entries
    · cases h : t.entries.find? (·.1 = j) <;> simp [hk, hj, hkj, List.find?_append, h]

/-- the value of a key in the entries kept, for distinct keys -/
theorem find?_filterMap {μ : Type} (f : κ → ν → Option μ) (k : κ) (entries : List (κ × ν))
    (distinct : (entries.map (·.1)).Nodup) :
    ((entries.filterMap fun (k, v) => (f k v).map fun u => (k, u)).find? (·.1 = k)).map (·.2) =
      ((entries.find? (·.1 = k)).map (·.2)).bind (f k) := by
  induction entries with
  | nil => rfl
  | cons e rest ih =>
    obtain ⟨j, v⟩ := e
    obtain ⟨hj, hrest⟩ := List.nodup_cons.1 distinct
    by_cases hk : j = k
    · subst hk
      cases hf : f j v with
      | some u => simp [hf]
      | none =>
        have gone : j ∉ (rest.filterMap fun (k, v) => (f k v).map fun u => (k, u)).map (·.1) :=
          fun h => hj ((map_fst_filterMap_sublist f rest).subset h)
        simp only [List.filterMap_cons, hf, Option.map_none]
        rw [find?_eq_none_of_not_mem gone]
        simp [hf]
    · cases hf : f j v with
      | some u => simpa [hf, hk] using ih hrest
      | none => simpa [hf, hk] using ih hrest

theorem get?_filterMap {μ : Type} (t : Table κ ν) (f : κ → ν → Option μ) (k : κ) :
    (t.filterMap f).get? k = (t.get? k).bind (f k) :=
  find?_filterMap f k t.entries t.distinct

end Table

end TenantGateway
