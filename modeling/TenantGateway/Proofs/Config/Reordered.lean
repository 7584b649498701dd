/-
The order of the entries of a mapping.

`Reordered` puts the entries of a mapping in another order, wherever in a document it is, be it in a key. What is read of a
document, under whatever shape, is the same in the other order (`Reordered.reads_iff`). For a record this is so because its
fields are looked up by name, and for the section that names the tenant's source because all its entries are taken in before
any is looked at; a collection where a scalar is wanted is refused in any order.
-/
import TenantGateway.Proofs.Config.Reading

namespace TenantGateway.Config

open Yaml

/-! ## Another order -/

/-- a mapping in a tree has its entries in another order -/
inductive Reordered : Node → Node → Prop
  | entries {tag : Option (List UInt8)} {entries entries' : List (Node × Node)} (order : entries.Perm entries') :
      Reordered (.mapping tag entries) (.mapping tag entries')
  | key {tag : Option (List UInt8)} (before after : List (Node × Node)) {k k' : Node} (v : Node) (within : Reordered k k') :
      Reordered (.mapping tag (before ++ (k, v) :: after)) (.mapping tag (before ++ (k', v) :: after))
  | value {tag : Option (List UInt8)} (before after : List (Node × Node)) (k : Node) {v v' : Node} (within : Reordered v v') :
      Reordered (.mapping tag (before ++ (k, v) :: after)) (.mapping tag (before ++ (k, v') :: after))
  | item {tag : Option (List UInt8)} (before after : List Node) {n n' : Node} (within : Reordered n n') :
      Reordered (.sequence tag (before ++ n :: after)) (.sequence tag (before ++ n' :: after))
  | shared {n n' : Node} (within : Reordered n n') : Reordered (.shared n) (.shared n')

namespace Reordered

theorem symm {n n' : Node} (reordered : Reordered n n') : Reordered n' n := by
  induction reordered with
  | entries order => exact .entries order.symm
  | key before after v _ ih => exact .key before after v ih
  | value before after k _ ih => exact .value before after k ih
  | item before after _ ih => exact .item before after ih
  | shared _ ih => exact .shared ih

/-- there is no order in a scalar -/
theorem bare_ne_scalar {n n' : Node} (reordered : Reordered n n') (x : Scalar) : n.bare ≠ .scalar x := by
  induction reordered with
  | entries | key | value | item => simp [Node.bare]
  | shared _ ih => simpa [Node.bare] using ih

/-- what can be taken in can be taken in in any order -/
theorem bufferable {n n' : Node} (reordered : Reordered n n') (taken : bufferable n = true) : Config.bufferable n' = true := by
  induction reordered with
  | entries order =>
    simp only [Config.bufferable, Bool.and_eq_true, entriesBufferable_iff] at taken ⊢
    exact ⟨taken.1, fun e there => taken.2 e (order.mem_iff.2 there)⟩
  | key before after v _ ih =>
    simp only [Config.bufferable, Bool.and_eq_true, entriesBufferable_iff, List.forall_mem_append,
      List.forall_mem_cons] at taken ⊢
    obtain ⟨untagged, first, ⟨key, value⟩, last⟩ := taken
    exact ⟨untagged, first, ⟨ih key, value⟩, last⟩
  | value before after k _ ih =>
    simp only [Config.bufferable, Bool.and_eq_true, entriesBufferable_iff, List.forall_mem_append,
      List.forall_mem_cons] at taken ⊢
    obtain ⟨untagged, first, ⟨key, value⟩, last⟩ := taken
    exact ⟨untagged, first, ⟨key, ih value⟩, last⟩
  | item before after _ ih =>
    simp only [Config.bufferable, Bool.and_eq_true, itemsBufferable_iff, List.forall_mem_append,
      List.forall_mem_cons] at taken ⊢
    obtain ⟨untagged, first, item, last⟩ := taken
    exact ⟨untagged, first, ih item, last⟩
  | shared _ ih =>
    simp only [Config.bufferable] at taken ⊢
    exact ih taken

/-- a tree with a mapping in it is no scalar that is taken in -/
theorem taken?_eq_none {n n' : Node} (reordered : Reordered n n') : taken? n = none := by
  unfold taken?
  split
  · exact absurd ‹_› (reordered.bare_ne_scalar _)
  · rfl

theorem takenText?_eq_none {n n' : Node} (reordered : Reordered n n') : takenText? n = none := by
  simp [takenText?, reordered.taken?_eq_none]

theorem modeText?_eq_none {n n' : Node} (reordered : Reordered n n') : modeText? n = none := by
  unfold modeText?
  split
  · exact absurd ‹_› (reordered.bare_ne_scalar _)
  · rfl

theorem keyText?_eq_none {n n' : Node} (reordered : Reordered n n') : keyText? n = none := by
  unfold keyText?
  split
  · exact absurd ‹_› (reordered.bare_ne_scalar _)
  · rfl

end Reordered

/-! ## What is read in another order -/

/-- shapes of what is written as a scalar -/
def Shape.isPlain : Shape → Bool
  | .text | .flag | .number _ | .choice _ => true
  | .optional _ | .list _ | .record _ _ | .source => false

theorem scalar_of_reads {s : Shape} (plain : s.isPlain = true) {n : Node} {v : Value} (reads : Reads s n v) :
    ∃ x, n.bare = .scalar x := by
  cases s with
  | text =>
    simp only [Reads, decode, readText] at reads
    split at reads
    · exact ⟨_, ‹_›⟩
    · exact (failMisplaced_ne_ok _ _ _ _ reads).elim
  | flag =>
    simp only [Reads, decode, readFlag] at reads
    split at reads
    · exact ⟨_, ‹_›⟩
    · exact (failMisplaced_ne_ok _ _ _ _ reads).elim
  | number kind =>
    simp only [Reads, decode, readNumber] at reads
    split at reads
    · exact ⟨_, ‹_›⟩
    · exact (failMisplaced_ne_ok _ _ _ _ reads).elim
  | choice names =>
    simp only [Reads, decode, readChoice] at reads
    split at reads
    · split at reads
      · obtain ⟨⟨⟩, nothing, -⟩ := Except.map_eq_ok_iff.1 reads
        unfold readNothing at nothing
        split at nothing
        · exact ⟨_, ‹_›⟩
        · exact (failMisplaced_ne_ok _ _ _ _ nothing).elim
      · cases reads
      · cases reads
    · split at reads
      · exact ⟨_, ‹_›⟩
      · exact (failMisplaced_ne_ok _ _ _ _ reads).elim
  | optional | list | record | source => cases plain

/-- where lists, records and sources are read alike of two collections, all shapes are -/
theorem reads_of_parts {n n' : Node} (collection : ∀ x, n.bare ≠ .scalar x) (collection' : ∀ x, n'.bare ≠ .scalar x)
    (list : ∀ item v, item.distinct = true → Reads (.list item) n v → Reads (.list item) n' v)
    (record : ∀ title fields v, (Shape.record title fields).distinct = true → Reads (.record title fields) n v →
      Reads (.record title fields) n' v)
    (source : ∀ src, ReadsSource n src → ReadsSource n' src) :
    ∀ (s : Shape) (v : Value), s.distinct = true → Reads s n v → Reads s n' v
  | .text, v, _, reads | .flag, v, _, reads | .number _, v, _, reads | .choice _, v, _, reads => by
    obtain ⟨x, bare⟩ := scalar_of_reads rfl reads
    exact absurd bare (collection x)
  | .optional inner, v, distinct, reads => by
    rcases (reads_optional_iff ..).1 reads with ⟨x, bare, -⟩ | ⟨-, given⟩
    · exact absurd bare (collection x)
    · have inner' := reads_of_parts collection collection' list record source inner v distinct given
      exact (reads_optional_iff ..).2 (.inr ⟨fun x bare => absurd bare (collection' x), inner'⟩)
  | .list item, v, distinct, reads => list item v distinct reads
  | .record title fields, v, distinct, reads => record title fields v distinct reads
  | .source, v, _, reads => by
    obtain ⟨src, read, rfl⟩ := (reads_source_iff ..).1 reads
    exact (reads_source_iff ..).2 ⟨src, source src read, rfl⟩

/-- what an alias stands for is read as it would be in its place -/
theorem reads_shared_iff (n : Node) (v : Value) : ∀ s : Shape, Reads s (.shared n) v ↔ Reads s n v
  | .text | .flag | .number _ | .list _ | .record _ _ => Iff.rfl
  | .choice names => by
    simp only [Reads, decode, readChoice, tagOf]
    split
    · rename_i name tagged
      cases variantOf names name with
      | ok w => rfl
      | error c => cases n <;> simp [fail, failAround]
    · rfl
  | .optional inner => by
    rw [reads_optional_iff, reads_optional_iff, reads_shared_iff n v inner]
    rfl
  | .source => by
    simp only [Reads, decode, readSource]

/-! ### Of the entries of a record -/

theorem Strict.perm {names : List String} {entries entries' : List (Node × Node)} (strict : Strict names entries)
    (order : entries.Perm entries') : Strict names entries' where
  declared e there := strict.declared e (order.mem_iff.2 there)
  once := (order.map _).nodup_iff.1 strict.once

theorem FieldReads.perm {entries entries' : List (Node × Node)} {f : Field} {v : Value} (reads : FieldReads entries f v)
    (order : entries.Perm entries') : FieldReads entries' f v := by
  rcases reads with ⟨e, there, given⟩ | ⟨absent, fallback⟩
  · exact .inl ⟨e, order.mem_iff.1 there, given⟩
  · exact .inr ⟨fun e there => absent e (order.mem_iff.2 there), fallback⟩

theorem FieldReads.replace {before after : List (Node × Node)} {k v v' : Node} {f : Field} {w : Value}
    (alike : keyText? k = some f.1.toList → ∀ w, Reads f.2.1 v w → Reads f.2.1 v' w)
    (reads : FieldReads (before ++ (k, v) :: after) f w) : FieldReads (before ++ (k, v') :: after) f w := by
  rcases reads with ⟨e, there, key, value⟩ | ⟨absent, fallback⟩
  · rcases List.mem_append.1 there with first | there
    · exact .inl ⟨e, List.mem_append_left _ first, key, value⟩
    · rcases List.mem_cons.1 there with rfl | last
      · exact .inl ⟨(k, v'), List.mem_append_right _ List.mem_cons_self, key, alike key w value⟩
      · exact .inl ⟨e, List.mem_append_right _ (List.mem_cons_of_mem _ last), key, value⟩
  · refine .inr ⟨?_, fallback⟩
    simp only [List.forall_mem_append, List.forall_mem_cons] at absent ⊢
    exact absent

theorem Strict.replace {names : List String} {before after : List (Node × Node)} {k v v' : Node}
    (strict : Strict names (before ++ (k, v) :: after)) : Strict names (before ++ (k, v') :: after) where
  declared := by
    have declared := strict.declared
    simp only [List.forall_mem_append, List.forall_mem_cons] at declared ⊢
    exact declared
  once := by
    have once := strict.once
    simp only [List.map_append, List.map_cons] at once ⊢
    exact once

/-- entries that are strict and give every field in the one order and in the other -/
theorem reads_record_of_entries {title : String} {fields : List Field}
    (distinct : (Shape.record title fields).distinct = true) {n n' : Node} {entries entries' : List (Node × Node)}
    (listed : entries? n = some entries) (listed' : entries? n' = some entries')
    (strict : Strict (fields.map (·.1)) entries → Strict (fields.map (·.1)) entries')
    (gives : Strict (fields.map (·.1)) entries → ∀ f ∈ fields, ∀ v, FieldReads entries f v → FieldReads entries' f v) {v : Value}
    (reads : Reads (.record title fields) n v) : Reads (.record title fields) n' v := by
  obtain ⟨found, vs, listing, rfl, strict', each⟩ := (reads_record_iff distinct ..).1 reads
  obtain rfl : found = entries := Option.some.inj (listing.symm.trans listed)
  refine (reads_record_iff distinct ..).2 ⟨entries', vs, listed', rfl, strict strict', ?_⟩
  exact forall₂_imp (gives strict') each

/-! ### Of the entries that give a source -/

theorem GivesMode.perm {entries entries' : List (Node × Node)} {mode : String} (gives : GivesMode entries mode)
    (order : entries.Perm entries') : GivesMode entries' mode := by
  obtain ⟨e, one, given⟩ := gives.once
  refine ⟨⟨e, ?_, given⟩, fun e there => gives.bufferable e (order.mem_iff.2 there)⟩
  exact List.perm_singleton.1 (one ▸ (order.filter _).symm)

theorem GivesSource.perm {entries entries' : List (Node × Node)} {src : TenantSource} (gives : GivesSource entries src)
    (order : entries.Perm entries') : GivesSource entries' src := by
  have names := (order.filter fun e => namesHeader e.1).symm
  refine gives.congr (fun m mode => mode.perm order) (fun words e there => words e (order.mem_iff.2 there)) ?_ ?_
  · intro none
    exact List.perm_nil.1 (none ▸ names)
  · intro e name _ one
    exact List.perm_singleton.1 (one ▸ names)

/-- an entry that gives neither the mode nor the name, and another that would be taken for the same -/
structure Replaces (e e' : Node × Node) : Prop where
  mode : isModeKey e'.1 = isModeKey e.1
  name : namesHeader e'.1 = namesHeader e.1
  word : isIdentifier e.1 = true → isIdentifier e'.1 = true
  noMode : isModeKey e.1 = true → modeText? e.2 = none
  noName : namesHeader e.1 = true → takenText? e.2 = none
  key : bufferable e.1 = true → bufferable e'.1 = true
  value : bufferable e.2 = true → bufferable e'.2 = true

/-- among entries of which one is found and can be read, one that cannot be read is not found -/
theorem not_found_of_unreadable {read : Node → Option String} {found : Node → Bool} {entries : List (Node × Node)}
    {e one : Node × Node} {text : String} (once : entries.filter (fun e => found e.1) = [one])
    (readable : read one.2 = some text) (there : e ∈ entries) (unreadable : found e.1 = true → read e.2 = none) :
    found e.1 = false := by
  by_contra here
  have here : found e.1 = true := by simpa using here
  have hit : e ∈ entries.filter fun e => found e.1 := List.mem_filter.2 ⟨there, here⟩
  rw [once, List.mem_singleton] at hit
  rw [← hit, unreadable here] at readable
  cases readable

theorem GivesMode.replace {before after : List (Node × Node)} {e e' : Node × Node} {mode : String}
    (gives : GivesMode (before ++ e :: after) mode) (replaces : Replaces e e') : GivesMode (before ++ e' :: after) mode := by
  obtain ⟨one, once, given⟩ := gives.once
  have there : e ∈ before ++ e :: after := by simp
  have other : isModeKey e.1 = false := not_found_of_unreadable once given there replaces.noMode
  obtain ⟨key, value⟩ := gives.bufferable e there other
  have without := (givesMode_insert_iff other key value).1 gives
  exact (givesMode_insert_iff (replaces.mode.trans other) (replaces.key key) (replaces.value value)).2 without

theorem GivesSource.replace {before after : List (Node × Node)} {e e' : Node × Node} {src : TenantSource}
    (gives : GivesSource (before ++ e :: after) src) (replaces : Replaces e e') : GivesSource (before ++ e' :: after) src := by
  have names (other : namesHeader e.1 = false) : (before ++ e' :: after).filter (fun e => namesHeader e.1) =
      (before ++ e :: after).filter fun e => namesHeader e.1 := by
    simp [other, replaces.name.trans other]
  refine gives.congr (fun m mode => mode.replace replaces) ?_ ?_ ?_
  · intro words
    simp only [List.forall_mem_append, List.forall_mem_cons] at words ⊢
    exact ⟨words.1, replaces.word words.2.1, words.2.2⟩
  · intro none
    have other : namesHeader e.1 = false := by
      simpa using List.filter_eq_nil_iff.1 none e (by simp)
    rw [names other, none]
  · intro one name text once
    have other := not_found_of_unreadable once text (by simp) replaces.noName
    rw [names other, once]

/-- a tree in another order, as the key of an entry or as its value -/
theorem Reordered.replaces_key {k k' : Node} (v : Node) (reordered : Reordered k k') : Replaces (k, v) (k', v) := by
  have none := reordered.taken?_eq_none
  have none' := reordered.symm.taken?_eq_none
  have mode : isModeKey k = false := by
    rw [← Bool.not_eq_true, isModeKey_iff, none]
    simp
  have mode' : isModeKey k' = false := by
    rw [← Bool.not_eq_true, isModeKey_iff, none']
    simp
  exact ⟨by rw [mode, mode'], by simp [namesHeader, none, none'], by simp [isIdentifier, none], by simp [mode],
    by simp [namesHeader, none], reordered.bufferable, id⟩

theorem Reordered.replaces_value (k : Node) {v v' : Node} (reordered : Reordered v v') : Replaces (k, v) (k, v') :=
  ⟨rfl, rfl, id, fun _ => reordered.modeText?_eq_none, fun _ => reordered.takenText?_eq_none, id, reordered.bufferable⟩

/-- the items that give a source are scalars -/
theorem ItemsGiveSource.readable {items : List Node} {src : TenantSource} (gives : ItemsGiveSource items src) :
    ∀ n ∈ items, modeText? n ≠ none ∨ takenText? n ≠ none := by
  cases gives with
  | pathPrefix mode | unnamed mode => simp [mode]
  | named mode text => simp [mode, text]

/-! ### Of any node -/

theorem forall₂_replace {α β : Type} {R : α → β → Prop} {before after : List α} {x x' : α} {ys : List β}
    (step : ∀ y, R x y → R x' y) (related : List.Forall₂ R (before ++ x :: after) ys) :
    List.Forall₂ R (before ++ x' :: after) ys := by
  induction before generalizing ys with
  | nil =>
    cases related with
    | cons head tail => exact .cons (step _ head) tail
  | cons y before ih =>
    cases related with
    | cons head tail => exact .cons head (ih tail)

/-- two mappings of which the entries give the same fields and the same source -/
theorem reads_of_entries {tag : Option (List UInt8)} {entries entries' : List (Node × Node)}
    (strict : ∀ names, Strict names entries → Strict names entries')
    (fields : ∀ title fs, (Shape.record title fs).distinct = true → Strict (fs.map (·.1)) entries → ∀ f ∈ fs, ∀ v,
      FieldReads entries f v → FieldReads entries' f v)
    (source : ∀ src, GivesSource entries src → GivesSource entries' src) (s : Shape) (v : Value) (distinct : s.distinct = true) :
    Reads s (.mapping tag entries) v → Reads s (.mapping tag entries') v := by
  refine reads_of_parts (by simp [Node.bare]) (by simp [Node.bare]) ?_ ?_ ?_ s v distinct
  · intro item v distinct reads
    obtain ⟨items, vs, ⟨⟩, -⟩ := (reads_list_iff distinct ..).1 reads
  · intro title fs v distinct reads
    exact reads_record_of_entries distinct rfl rfl (strict _) (fields title fs distinct) reads
  · intro src reads
    obtain ⟨untagged, gives⟩ := (readsSource_mapping_iff ..).1 reads
    exact (readsSource_mapping_iff ..).2 ⟨untagged, source src gives⟩

theorem Reordered.reads {n n' : Node} (reordered : Reordered n n') :
    ∀ (s : Shape) (v : Value), s.distinct = true → Reads s n v → Reads s n' v := by
  induction reordered with
  | entries order =>
    exact reads_of_entries (fun _ strict => strict.perm order) (fun _ _ _ _ _ _ _ given => given.perm order)
      (fun _ gives => gives.perm order)
  | @key tag before after k k' v within ih =>
    -- a record has no key that is not a scalar
    have loose (names : List String) : ¬Strict names (before ++ (k, v) :: after) := by
      intro strict
      obtain ⟨name, -, key⟩ := strict.declared (k, v) (List.mem_append_right _ List.mem_cons_self)
      rw [within.keyText?_eq_none] at key
      cases key
    exact reads_of_entries (fun names strict => absurd strict (loose names)) (fun _ _ _ strict => absurd strict (loose _))
      (fun _ gives => gives.replace (within.replaces_key v))
  | value before after k within ih =>
    refine reads_of_entries (fun _ => Strict.replace) (fun _ _ distinct _ f member w given => ?_)
      (fun _ gives => gives.replace (within.replaces_value k))
    exact given.replace fun _ w => ih f.2.1 w ((Shape.fields_distinct distinct).2 f member)
  | item before after within ih =>
    refine reads_of_parts (by simp [Node.bare]) (by simp [Node.bare]) ?_ ?_ ?_
    · intro item v distinct reads
      obtain ⟨items, vs, ⟨⟩, rfl, each⟩ := (reads_list_iff distinct ..).1 reads
      refine (reads_list_iff distinct ..).2 ⟨_, vs, rfl, rfl, forall₂_replace (fun w reads => ?_) each⟩
      exact ih item w distinct reads
    · intro title fields w distinct reads
      obtain ⟨entries, vs, ⟨⟩, -⟩ := (reads_record_iff distinct ..).1 reads
    · -- the items of a source are scalars
      intro src reads
      obtain ⟨-, gives⟩ := (readsSource_sequence_iff ..).1 reads
      rcases gives.readable _ (List.mem_append_right _ List.mem_cons_self) with mode | name
      · exact absurd within.modeText?_eq_none mode
      · exact absurd within.takenText?_eq_none name
  | shared _ ih =>
    intro s v distinct reads
    exact (reads_shared_iff _ v s).2 (ih s v distinct ((reads_shared_iff _ v s).1 reads))

theorem Reordered.reads_iff {n n' : Node} (reordered : Reordered n n') {s : Shape} (distinct : s.distinct = true) (v : Value) :
    Reads s n v ↔ Reads s n' v :=
  ⟨reordered.reads s v distinct, reordered.symm.reads s v distinct⟩

end TenantGateway.Config
