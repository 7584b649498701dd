/-
What the sections of a configuration are read as.

A reader looks at the place of a node only to report a failure: what it makes of the node is the same everywhere, which is
`Reader.Placeless`, once for each kind of reader. `readRecord_eq_ok_iff` says what a section is read as without following its
entries in order: its keys are names of fields, each at most once, and every field is what its entry is read as, or its
default where there is none. `readItems_eq_ok_iff` is the like for lists.
-/
import TenantGateway.Config.Load
import TenantGateway.Proofs.Config.Valid

namespace TenantGateway

theorem Except.map_eq_ok_iff {ε α β : Type} {x : Except ε α} {f : α → β} {b : β} :
    x.map f = .ok b ↔ ∃ a, x = .ok a ∧ f a = b := by
  cases x <;> simp [Except.map]

theorem Except.toOption_eq_some_iff {ε α : Type} {x : Except ε α} {a : α} : x.toOption = some a ↔ x = .ok a := by
  cases x <;> simp [Except.toOption]

theorem Except.mapM_eq_ok_iff {ε α β : Type} {f : α → Except ε β} {xs : List α} {ys : List β} :
    xs.mapM f = .ok ys ↔ List.Forall₂ (fun x y => f x = .ok y) xs ys := by
  induction xs generalizing ys with
  | nil => simp [pure, Except.pure, eq_comm]
  | cons x xs ih =>
    simp only [List.mapM_cons, Except.bind_eq_ok_iff, ih, List.forall₂_cons_left_iff]
    constructor
    · rintro ⟨y, head, ys, tail, ⟨⟩⟩
      exact ⟨y, ys, head, tail, rfl⟩
    · rintro ⟨y, ys, head, tail, rfl⟩
      exact ⟨y, head, ys, tail, rfl⟩

/-- among things of which no two have the same name, the first with the name of one of them is that one -/
theorem List.find?_of_distinct {α : Type} {name : α → String} {xs : List α} (distinct : (xs.map name).Nodup) {x : α}
    (member : x ∈ xs) : xs.find? (fun y => decide ((name y).toList = (name x).toList)) = some x := by
  induction xs with
  | nil => cases member
  | cons y xs ih =>
    obtain ⟨new, distinct⟩ := List.nodup_cons.1 distinct
    rcases List.mem_cons.1 member with rfl | later
    · simp
    · have other : name y ≠ name x := fun same => new (same ▸ List.mem_map_of_mem later)
      rw [List.find?_cons_of_neg (by simpa [String.toList_inj] using other)]
      exact ih distinct later

namespace Config

open Yaml

/-! ## Readers that do not look where they are -/

/-- what is read does not depend on the place -/
def Reader.Placeless (r : Reader) : Prop :=
  ∀ p q n v, r p n = .ok v → r q n = .ok v

theorem failMisplaced_ne_ok {α : Type} (p : Position) (n : Node) (wanted : String) (v : α) :
    failMisplaced p n wanted ≠ .ok v := by
  unfold failMisplaced
  split <;> simp [fail]

theorem placeless_text : Reader.Placeless readText := by
  intro p q n v read
  unfold readText at *
  split at read
  · exact read
  · exact (failMisplaced_ne_ok _ _ _ _ read).elim

theorem placeless_flag : Reader.Placeless readFlag := by
  intro p q n v read
  unfold readFlag at *
  split at read
  · split at read
    · exact read
    · exact (failMisplaced_ne_ok _ _ _ _ read).elim
  · exact (failMisplaced_ne_ok _ _ _ _ read).elim

theorem placeless_number (kind : NumberKind) : Reader.Placeless (readNumber kind) := by
  intro p q n v read
  unfold readNumber at *
  split at read
  · split at read
    · split_ifs at read ⊢
      · exact read
      · cases read
    · exact (failMisplaced_ne_ok _ _ _ _ read).elim
  · exact (failMisplaced_ne_ok _ _ _ _ read).elim

theorem readNothing_placeless {p q : Position} {n : Node} (nothing : readNothing p n = .ok ()) : readNothing q n = .ok () := by
  unfold readNothing at *
  split at nothing
  · split_ifs at nothing ⊢
    · rfl
    · cases nothing
  · exact (failMisplaced_ne_ok _ _ _ _ nothing).elim

theorem placeless_choice (names : List String) : Reader.Placeless (readChoice names) := by
  intro p q n v read
  unfold readChoice at *
  split at read
  · split at read
    · obtain ⟨⟨⟩, nothing, rfl⟩ := Except.map_eq_ok_iff.1 read
      rw [readNothing_placeless nothing]
      rfl
    · cases read
    · cases read
  · split at read
    · split at read
      · exact read
      · cases read
    · exact (failMisplaced_ne_ok _ _ _ _ read).elim

theorem Reader.Placeless.optional {r : Reader} (placeless : r.Placeless) : Reader.Placeless (readOptional r) := by
  intro p q n v read
  unfold readOptional at *
  split at read
  · split at read
    · exact read
    · exact placeless p q n v read
    · cases read
  · exact placeless p q n v read

theorem readItems_eq_ok_iff {r : Reader} (placeless : r.Placeless) (p : Position) (first : ℕ) (items : List Node)
    (vs : List Value) :
    readItems r p first items = .ok vs ↔ List.Forall₂ (fun n v => r .root n = .ok v) items vs := by
  induction items generalizing first vs with
  | nil => simp [readItems, eq_comm]
  | cons n rest ih =>
    simp only [readItems, Except.bind_eq_ok_iff, ih, List.forall₂_cons_left_iff]
    constructor
    · rintro ⟨v, item, vs, items, ⟨⟩⟩
      exact ⟨v, vs, placeless _ _ _ _ item, items, rfl⟩
    · rintro ⟨v, vs, item, items, rfl⟩
      exact ⟨v, placeless _ _ _ _ item, vs, items, rfl⟩

/-- the items of a sequence; of what is not written there are none -/
def items? (n : Node) : Option (List Node) :=
  match n.bare with
  | .sequence _ items => some items
  | .scalar s => if s.isAbsent then some [] else none
  | _ => none

/-- **What a list is read as.** -/
theorem readList_eq_ok_iff {r : Reader} (placeless : r.Placeless) (p : Position) (n : Node) (v : Value) :
    readList r p n = .ok v ↔
      ∃ items vs, items? n = some items ∧ v = .list vs ∧ List.Forall₂ (fun n v => r .root n = .ok v) items vs := by
  unfold readList items?
  cases n.bare with
  | sequence tag items =>
    simp only [Except.map_eq_ok_iff, readItems_eq_ok_iff placeless, Option.some.injEq, exists_and_left, exists_eq_left']
    exact exists_congr fun vs => and_comm.trans (and_congr_left' eq_comm)
  | scalar s =>
    by_cases absent : s.isAbsent = true
    · simp [absent, eq_comm]
    · simp [absent, failMisplaced_ne_ok]
  | mapping | shared | cut => simp [failMisplaced_ne_ok]

theorem Reader.Placeless.list {r : Reader} (placeless : r.Placeless) : Reader.Placeless (readList r) := fun p q n v read =>
  (readList_eq_ok_iff placeless q n v).2 ((readList_eq_ok_iff placeless p n v).1 read)

/-! ## Records -/

/-- the text of a key, if it is a scalar -/
def keyText? (k : Node) : Option (List Char) :=
  match k.bare with
  | .scalar s => some s.text
  | _ => none

/-- the entries of a mapping; of what is not written there are none -/
def entries? (n : Node) : Option (List (Node × Node)) :=
  match n.bare with
  | .mapping _ entries => some entries
  | .scalar s => if s.isAbsent then some [] else none
  | _ => none

/-- every key is one of the names, and none is there twice -/
structure Strict (names : List String) (entries : List (Node × Node)) : Prop where
  declared : ∀ e ∈ entries, ∃ name ∈ names, keyText? e.1 = some name.toList
  once : (entries.map (keyText? ·.1)).Nodup

namespace FieldReader

/-- the field is what its entry is read as, or its default where it has none -/
def Gives (f : FieldReader) (entries : List (Node × Node)) (v : Value) : Prop :=
  (∃ e ∈ entries, keyText? e.1 = some f.name.toList ∧ f.read .root e.2 = .ok v) ∨
    (∀ e ∈ entries, keyText? e.1 ≠ some f.name.toList) ∧ f.fallback = some v

end FieldReader

theorem readKey_eq_ok_iff {p : Position} {k : Node} {name : List Char} :
    readKey p k = .ok name ↔ keyText? k = some name := by
  unfold readKey keyText?
  cases k.bare with
  | scalar s => simp
  | sequence | mapping | shared | cut => simp [failMisplaced_ne_ok]

/-- an entry as it is read: the name of its field, and a value -/
def EntryReads (fields : List FieldReader) (e : Node × Node) (g : String × Value) : Prop :=
  ∃ f ∈ fields, keyText? e.1 = some f.name.toList ∧ f.name = g.1 ∧ f.read .root e.2 = .ok g.2

theorem forall₂_exists {α β : Type} {R : α → β → Prop} {xs : List α} {ys : List β} (related : List.Forall₂ R xs ys) {x : α}
    (member : x ∈ xs) : ∃ y ∈ ys, R x y := by
  induction related with
  | nil => cases member
  | cons head tail ih =>
    rcases List.mem_cons.1 member with rfl | later
    · exact ⟨_, List.mem_cons_self, head⟩
    · obtain ⟨y, there, here⟩ := ih later
      exact ⟨y, List.mem_cons_of_mem _ there, here⟩

theorem forall₂_imp {α β : Type} {R S : α → β → Prop} {xs : List α} {ys : List β} (step : ∀ x ∈ xs, ∀ y, R x y → S x y)
    (related : List.Forall₂ R xs ys) : List.Forall₂ S xs ys := by
  induction related with
  | nil => exact .nil
  | cons head tail ih =>
    exact .cons (step _ List.mem_cons_self _ head) (ih fun x member => step x (List.mem_cons_of_mem _ member))

theorem exists_forall₂ {α β : Type} {R : α → β → Prop} {xs : List α} (each : ∀ x ∈ xs, ∃ y, R x y) :
    ∃ ys, List.Forall₂ R xs ys := by
  induction xs with
  | nil => exact ⟨[], .nil⟩
  | cons x xs ih =>
    obtain ⟨y, head⟩ := each x List.mem_cons_self
    obtain ⟨ys, tail⟩ := ih fun x member => each x (List.mem_cons_of_mem _ member)
    exact ⟨y :: ys, .cons head tail⟩

theorem forall₂_congr {α β : Type} {R S : α → β → Prop} {xs : List α} {ys : List β}
    (same : ∀ x ∈ xs, ∀ y, R x y ↔ S x y) : List.Forall₂ R xs ys ↔ List.Forall₂ S xs ys := by
  induction xs generalizing ys with
  | nil => simp
  | cons x xs ih =>
    simp only [List.forall₂_cons_left_iff, same x List.mem_cons_self, ih fun x member => same x (List.mem_cons_of_mem _ member)]

theorem EntryReads.keys {fields : List FieldReader} {entries : List (Node × Node)} {given : List (String × Value)}
    (reads : List.Forall₂ (EntryReads fields) entries given) :
    entries.map (keyText? ·.1) = (given.map (·.1)).map fun name => some name.toList := by
  induction reads with
  | nil => rfl
  | cons head tail ih =>
    obtain ⟨f, -, key, named, -⟩ := head
    simp [key, named, ih]

section

variable {fields : List FieldReader} (distinct : (fields.map (·.name)).Nodup) (placeless : ∀ f ∈ fields, f.read.Placeless)

include distinct

include placeless in
theorem readEntries_eq_ok_iff (p : Position) (seen : List String) (entries : List (Node × Node))
    (given : List (String × Value)) :
    readEntries fields p seen entries = .ok given ↔
      List.Forall₂ (EntryReads fields) entries given ∧ (given.map (·.1)).Nodup ∧ ∀ g ∈ given, g.1 ∉ seen := by
  induction entries generalizing seen given with
  | nil => simp +contextual [readEntries, eq_comm]
  | cons e rest ih =>
    obtain ⟨k, n⟩ := e
    rw [readEntries, Except.bind_eq_ok_iff]
    constructor
    · rintro ⟨name, key, read⟩
      split at read
      · cases read
      · rename_i f found
        split_ifs at read with again
        · cases read
        · obtain ⟨v, value, read⟩ := Except.bind_eq_ok_iff.1 read
          obtain ⟨given, others, ⟨⟩⟩ := Except.bind_eq_ok_iff.1 read
          obtain ⟨reads, once, new⟩ := (ih _ _).1 others
          have member := List.mem_of_find?_eq_some found
          have named : f.name.toList = name := by simpa using List.find?_some found
          refine ⟨.cons ⟨f, member, ?_, rfl, placeless f member _ _ _ _ value⟩ reads, ?_, ?_⟩
          · rw [named]
            exact readKey_eq_ok_iff.1 key
          · refine List.nodup_cons.2 ⟨fun twice => ?_, once⟩
            obtain ⟨g, member, same⟩ := List.mem_map.1 twice
            exact new g member (same ▸ List.mem_cons_self)
          · rintro g (_ | ⟨_, member⟩)
            · simpa using again
            · exact fun was => new g member (List.mem_cons_of_mem _ was)
    · rintro ⟨reads, once, new⟩
      cases reads with
      | @cons _ g _ given head reads =>
        obtain ⟨f, member, key, named, value⟩ := head
        obtain ⟨first, once⟩ := List.nodup_cons.1 once
        have others : readEntries fields p (f.name :: seen) rest = .ok given := by
          refine (ih _ _).2 ⟨reads, once, fun g' member was => ?_⟩
          rcases List.mem_cons.1 was with same | was
          · exact first (List.mem_map.2 ⟨g', member, same.trans named⟩)
          · exact new g' (List.mem_cons_of_mem _ member) was
        have fresh : seen.contains f.name = false := by
          simpa [named] using new g List.mem_cons_self
        refine ⟨f.name.toList, readKey_eq_ok_iff.2 key, ?_⟩
        rw [List.find?_of_distinct distinct member]
        simp only [fresh, Bool.false_eq_true, if_false, placeless f member _ _ _ _ value, others]
        rw [named]
        rfl

/-- the value that the entries give to a name -/
theorem lookup_eq_some_iff {entries : List (Node × Node)} {given : List (String × Value)}
    (reads : List.Forall₂ (EntryReads fields) entries given) (once : (given.map (·.1)).Nodup) {f : FieldReader}
    (member : f ∈ fields) (v : Value) :
    given.lookup f.name = some v ↔ ∃ e ∈ entries, keyText? e.1 = some f.name.toList ∧ f.read .root e.2 = .ok v := by
  induction reads with
  | nil => simp
  | @cons e g entries given head reads ih =>
    obtain ⟨f', member', key, named, value⟩ := head
    obtain ⟨first, once⟩ := List.nodup_cons.1 once
    rw [List.lookup_cons, List.exists_mem_cons_iff]
    by_cases own : f.name = g.1
    · obtain rfl : f' = f := List.inj_on_of_nodup_map distinct member' member (named.trans own.symm)
      have later : ¬∃ e ∈ entries, keyText? e.1 = some f'.name.toList ∧ f'.read .root e.2 = .ok v := by
        rintro ⟨e', there, key', -⟩
        obtain ⟨g', given', f'', -, key'', named'', -⟩ := forall₂_exists reads there
        have same : f''.name = f'.name := String.toList_inj.1 (Option.some.inj (key''.symm.trans key'))
        exact first (List.mem_map.2 ⟨g', given', by rw [← named'', same, own]⟩)
      rw [beq_iff_eq.2 own]
      simp only [key, value, later, or_false, true_and, Option.some.injEq, Except.ok.injEq]
    · have apart : keyText? e.1 ≠ some f.name.toList := by
        rw [key]
        intro same
        exact own ((String.toList_inj.1 (Option.some.inj same)).symm.trans named)
      rw [beq_eq_false_iff_ne.2 own]
      simp only [apart, false_and, false_or]
      exact ih once

omit distinct in
/-- where every entry of strict keys can be read, they all are -/
theorem exists_given {entries : List (Node × Node)} {vs : List Value} (strict : Strict (fields.map (·.name)) entries)
    (gives : List.Forall₂ (fun f v => f.Gives entries v) fields vs) :
    ∃ given, List.Forall₂ (EntryReads fields) entries given := by
  refine exists_forall₂ fun e there => ?_
  obtain ⟨name, known, key⟩ := strict.declared e there
  obtain ⟨f, member, rfl⟩ := List.mem_map.1 known
  obtain ⟨v, -, given⟩ := forall₂_exists gives member
  rcases given with ⟨e', there', key', value⟩ | ⟨none, -⟩
  · obtain rfl : e' = e := List.inj_on_of_nodup_map strict.once there' there (key'.trans key.symm)
    exact ⟨(f.name, v), f, member, key, rfl, value⟩
  · exact absurd key (none e there)

/-- the fields of a record whose entries were read -/
theorem complete_eq_ok_iff (p : Position) {entries : List (Node × Node)} {given : List (String × Value)}
    (reads : List.Forall₂ (EntryReads fields) entries given) (once : (given.map (·.1)).Nodup) (vs : List Value) :
    complete fields p given = .ok vs ↔ List.Forall₂ (fun f v => f.Gives entries v) fields vs := by
  rw [complete, Except.mapM_eq_ok_iff]
  refine forall₂_congr fun f member v => ?_
  have looked := lookup_eq_some_iff distinct reads once member
  have missing : given.lookup f.name = none ↔ ∀ e ∈ entries, keyText? e.1 ≠ some f.name.toList := by
    have injective : Function.Injective fun name : String => some name.toList := fun a b same =>
      String.toList_inj.1 (Option.some.inj same)
    have keyed : (∀ e ∈ entries, keyText? e.1 ≠ some f.name.toList) ↔
        some f.name.toList ∉ entries.map (keyText? ·.1) := by simp
    rw [keyed, EntryReads.keys reads, List.mem_map_of_injective injective, List.lookup_eq_none_iff]
    simp only [bne_iff_ne, ne_eq, List.mem_map, not_exists, not_and]
    exact ⟨fun apart g there same => apart g there same.symm, fun apart g there same => apart g there same.symm⟩
  rw [FieldReader.Gives, ← looked, ← missing, ← Option.or_eq_some_iff]
  cases (given.lookup f.name).or f.fallback <;> simp [fail]

include placeless in
/-- what entries are read as, once all of them are -/
theorem fields_eq_ok_iff (p : Position) (entries : List (Node × Node)) (v : Value) :
    (do let given ← readEntries fields p [] entries
        return Value.record (← complete fields p given)) = (.ok v : Result Value) ↔
      ∃ vs, v = .record vs ∧ Strict (fields.map (·.name)) entries ∧
        List.Forall₂ (fun f v => f.Gives entries v) fields vs := by
  simp only [Except.bind_eq_ok_iff, readEntries_eq_ok_iff distinct placeless]
  constructor
  · rintro ⟨given, ⟨reads, once, -⟩, vs, completed, ⟨⟩⟩
    refine ⟨vs, rfl, ⟨fun e there => ?_, ?_⟩, (complete_eq_ok_iff distinct p reads once vs).1 completed⟩
    · obtain ⟨g, -, f, member, key, -⟩ := forall₂_exists reads there
      exact ⟨f.name, List.mem_map_of_mem member, key⟩
    · rw [EntryReads.keys reads]
      exact once.map fun a b same => String.toList_inj.1 (Option.some.inj same)
  · rintro ⟨vs, rfl, strict, gives⟩
    obtain ⟨given, reads⟩ := exists_given strict gives
    have once : (given.map (·.1)).Nodup := by
      have keys := strict.once
      rw [EntryReads.keys reads] at keys
      exact keys.of_map _
    exact ⟨given, ⟨reads, once, by simp⟩, vs, (complete_eq_ok_iff distinct p reads once vs).2 gives, rfl⟩

include placeless in
/-- **What a record is read as.** -/
theorem readRecord_eq_ok_iff (title : String) (p : Position) (n : Node) (v : Value) :
    readRecord title fields p n = .ok v ↔
      ∃ entries vs, entries? n = some entries ∧ v = .record vs ∧ Strict (fields.map (·.name)) entries ∧
        List.Forall₂ (fun f v => f.Gives entries v) fields vs := by
  unfold readRecord entries?
  cases n.bare with
  | mapping tag entries =>
    refine (fields_eq_ok_iff distinct placeless p entries v).trans ?_
    simp
  | scalar s =>
    by_cases absent : s.isAbsent = true
    · simp only [absent, if_true]
      refine (fields_eq_ok_iff distinct placeless p [] v).trans ?_
      simp
    · simp [absent, failMisplaced_ne_ok]
  | sequence | shared | cut => simp [failMisplaced_ne_ok]

end

end Config

end TenantGateway
