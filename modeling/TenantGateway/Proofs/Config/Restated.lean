/-
Documents that say the same.

`Spelled` adds to a section a field that was left out, with a value that is read as the field's default, wherever the section
is. `same_configuration` says that texts whose documents differ by such changes and by the order of entries, however many and
in either direction, are accepted alike and give the same configuration. Every default can be written so (`spellable_config`):
that of a section with an empty mapping, and that of what may be missing with null.
-/
import Mathlib
import TenantGateway.Proofs.Config.Reordered

namespace TenantGateway.Config

open Yaml

/-! ## Defaults that are written -/

/-- a field that was left out of a section, wherever it is, is written with its default -/
inductive Spelled : Shape → Node → Node → Prop
  | field {title : String} {fields : List Field} {f : Field} {d : Value} (declared : f ∈ fields) (default : f.2.2 = some d)
      {tag : Option (List UInt8)} (before after : List (Node × Node)) {k v : Node}
      (omitted : ∀ e ∈ before ++ after, keyText? e.1 ≠ some f.1.toList) (key : keyText? k = some f.1.toList)
      (value : Reads f.2.1 v d) :
      Spelled (.record title fields) (.mapping tag (before ++ after)) (.mapping tag (before ++ (k, v) :: after))
  /-- the section itself was not written, only its key was -/
  | first {title : String} {fields : List Field} {f : Field} {d : Value} (declared : f ∈ fields) (default : f.2.2 = some d)
      {x : Scalar} (nothing : x.isAbsent = true) (tag : Option (List UInt8)) {k v : Node} (key : keyText? k = some f.1.toList)
      (value : Reads f.2.1 v d) : Spelled (.record title fields) (.scalar x) (.mapping tag [(k, v)])
  /-- the name of the header, which only header mode looks at -/
  | name {tag : Option (List UInt8)} (before after : List (Node × Node)) {k v : Node}
      (omitted : ∀ e ∈ before ++ after, namesHeader e.1 = false) (key : namesHeader k = true)
      (value : takenText? v = some TenantSource.defaultHeader) :
      Spelled .source (.mapping tag (before ++ after)) (.mapping tag (before ++ (k, v) :: after))
  | nameItem {tag : Option (List UInt8)} {m v : Node} (mode : modeText? m = some "header")
      (value : takenText? v = some TenantSource.defaultHeader) : Spelled .source (.sequence tag [m]) (.sequence tag [m, v])
  | within {title : String} {fields : List Field} {f : Field} (declared : f ∈ fields) {tag : Option (List UInt8)}
      (before after : List (Node × Node)) {k v v' : Node} (key : keyText? k = some f.1.toList) (inner : Spelled f.2.1 v v') :
      Spelled (.record title fields) (.mapping tag (before ++ (k, v) :: after)) (.mapping tag (before ++ (k, v') :: after))
  | item {s : Shape} {tag : Option (List UInt8)} (before after : List Node) {n n' : Node} (inner : Spelled s n n') :
      Spelled (.list s) (.sequence tag (before ++ n :: after)) (.sequence tag (before ++ n' :: after))
  | given {s : Shape} {n n' : Node} (here : ∀ x, n.bare ≠ .scalar x) (inner : Spelled s n n') : Spelled (.optional s) n n'
  | shared {s : Shape} {n n' : Node} (inner : Spelled s n n') : Spelled s (.shared n) (.shared n')

theorem Strict.insert_iff {names : List String} {before after : List (Node × Node)} {k v : Node} {name : String}
    (known : name ∈ names) (omitted : ∀ e ∈ before ++ after, keyText? e.1 ≠ some name.toList)
    (key : keyText? k = some name.toList) :
    Strict names (before ++ after) ↔ Strict names (before ++ (k, v) :: after) := by
  have new : some name.toList ∉ (before ++ after).map (keyText? ·.1) := by
    intro there
    obtain ⟨e, member, same⟩ := List.mem_map.1 there
    exact omitted e member same
  have once : ((before ++ (k, v) :: after).map (keyText? ·.1)).Nodup ↔ ((before ++ after).map (keyText? ·.1)).Nodup := by
    rw [List.map_append, List.map_cons, List.nodup_middle, ← List.map_append, List.nodup_cons, key]
    exact and_iff_right new
  constructor
  · intro strict
    refine ⟨?_, once.2 strict.once⟩
    have declared := strict.declared
    simp only [List.forall_mem_append, List.forall_mem_cons] at declared ⊢
    exact ⟨declared.1, ⟨name, known, key⟩, declared.2⟩
  · intro strict
    refine ⟨?_, once.1 strict.once⟩
    have declared := strict.declared
    simp only [List.forall_mem_append, List.forall_mem_cons] at declared ⊢
    exact ⟨declared.1, declared.2.2⟩

theorem mem_middle_iff {α : Type} {before after : List α} {x y : α} :
    x ∈ before ++ y :: after ↔ x = y ∨ x ∈ before ++ after := by
  simp [or_left_comm]

/-- a field that is left out has its default -/
theorem fieldReads_omitted_iff {entries : List (Node × Node)} {f : Field} {d : Value} (default : f.2.2 = some d)
    (omitted : ∀ e ∈ entries, keyText? e.1 ≠ some f.1.toList) (w : Value) : FieldReads entries f w ↔ w = d := by
  constructor
  · rintro (⟨e, there, key, -⟩ | ⟨-, fallback⟩)
    · exact absurd key (omitted e there)
    · exact Option.some.inj (fallback.symm.trans default)
  · rintro rfl
    exact .inr ⟨omitted, default⟩

/-- a field that is written in one entry only has what is read there -/
theorem fieldReads_written_iff {before after : List (Node × Node)} {k v : Node} {f : Field} {d : Value}
    (omitted : ∀ e ∈ before ++ after, keyText? e.1 ≠ some f.1.toList) (key : keyText? k = some f.1.toList)
    (value : Reads f.2.1 v d) (w : Value) : FieldReads (before ++ (k, v) :: after) f w ↔ w = d := by
  constructor
  · rintro (⟨e, there, key', given⟩ | ⟨absent, -⟩)
    · rcases mem_middle_iff.1 there with rfl | there
      · exact given.unique value
      · exact absurd key' (omitted e there)
    · exact absurd key (absent (k, v) (mem_middle_iff.2 (.inl rfl)))
  · rintro rfl
    exact .inl ⟨(k, v), mem_middle_iff.2 (.inl rfl), key, value⟩

/-- an entry says nothing of a field of another name -/
theorem fieldReads_other_iff {before after : List (Node × Node)} {k v : Node} {f : Field}
    (other : keyText? k ≠ some f.1.toList) (w : Value) :
    FieldReads (before ++ after) f w ↔ FieldReads (before ++ (k, v) :: after) f w := by
  constructor
  · rintro (⟨e, there, given⟩ | ⟨absent, fallback⟩)
    · exact .inl ⟨e, mem_middle_iff.2 (.inr there), given⟩
    · refine .inr ⟨fun e there => ?_, fallback⟩
      rcases mem_middle_iff.1 there with rfl | there
      · exact other
      · exact absent e there
  · rintro (⟨e, there, key, given⟩ | ⟨absent, fallback⟩)
    · rcases mem_middle_iff.1 there with rfl | there
      · exact absurd key other
      · exact .inl ⟨e, there, key, given⟩
    · exact .inr ⟨fun e there => absent e (mem_middle_iff.2 (.inr there)), fallback⟩

/-- a field that was left out has the value that its default is written with; the other fields have theirs -/
theorem fieldReads_insert_iff {fields : List Field} (distinct : (fields.map (·.1)).Nodup) {f g : Field} {d : Value}
    (declared : f ∈ fields) (default : f.2.2 = some d) {before after : List (Node × Node)} {k v : Node}
    (omitted : ∀ e ∈ before ++ after, keyText? e.1 ≠ some f.1.toList) (key : keyText? k = some f.1.toList)
    (value : Reads f.2.1 v d) (member : g ∈ fields) (w : Value) :
    FieldReads (before ++ after) g w ↔ FieldReads (before ++ (k, v) :: after) g w := by
  by_cases own : g.1 = f.1
  · obtain rfl : g = f := List.inj_on_of_nodup_map distinct member declared own
    rw [fieldReads_omitted_iff default omitted, fieldReads_written_iff omitted key value]
  · refine fieldReads_other_iff (fun same => own ?_) w
    exact String.toList_inj.1 (Option.some.inj (same.symm.trans key))

/-- a section with a field that was left out, and with it written, whether the section was or not -/
theorem reads_insert_iff {title : String} {fields : List Field} (distinct : (Shape.record title fields).distinct = true)
    {f : Field} {d : Value} (declared : f ∈ fields) (default : f.2.2 = some d) {n n' : Node}
    {before after : List (Node × Node)} {k v : Node} (listed : entries? n = some (before ++ after))
    (listed' : entries? n' = some (before ++ (k, v) :: after))
    (omitted : ∀ e ∈ before ++ after, keyText? e.1 ≠ some f.1.toList) (key : keyText? k = some f.1.toList)
    (value : Reads f.2.1 v d) (w : Value) :
    Reads (.record title fields) n w ↔ Reads (.record title fields) n' w := by
  have strict := Strict.insert_iff (v := v) (List.mem_map_of_mem declared) omitted key
  have gives (g : Field) (member : g ∈ fields) := fieldReads_insert_iff (Shape.fields_distinct distinct).1 declared default
    omitted key value member
  constructor
  · exact reads_record_of_entries distinct listed listed' strict.1 fun _ g member w => (gives g member w).1
  · exact reads_record_of_entries distinct listed' listed strict.2 fun _ g member w => (gives g member w).2

/-- the header's name that is written is the one that is taken where none is -/
theorem givesSource_name_iff {before after : List (Node × Node)} {k v : Node}
    (omitted : ∀ e ∈ before ++ after, namesHeader e.1 = false) (key : namesHeader k = true)
    (value : takenText? v = some TenantSource.defaultHeader) (src : TenantSource) :
    GivesSource (before ++ after) src ↔ GivesSource (before ++ (k, v) :: after) src := by
  obtain ⟨word, other⟩ := identifier_of_namesHeader key
  have mode (m : String) : GivesMode (before ++ (k, v) :: after) m ↔ GivesMode (before ++ after) m :=
    givesMode_insert_iff other (bufferable_of_isIdentifier word) (bufferable_of_taken (takenText?_eq_some_iff.1 value))
  have words : (∀ e ∈ before ++ (k, v) :: after, isIdentifier e.1 = true) ↔
      ∀ e ∈ before ++ after, isIdentifier e.1 = true := by
    simp only [List.forall_mem_append, List.forall_mem_cons, word, true_and]
  have none : (before ++ after).filter (fun e => namesHeader e.1) = [] :=
    List.filter_eq_nil_iff.2 fun e there => by simp [omitted e there]
  have one : (before ++ (k, v) :: after).filter (fun e => namesHeader e.1) = [(k, v)] := by
    have parts := none
    rw [List.filter_append, List.append_eq_nil_iff] at parts
    simp [parts.1, parts.2, key]
  constructor
  · intro gives
    cases gives with
    | pathPrefix given => exact .pathPrefix ((mode _).2 given)
    | unnamed given identifiers => exact .named ((mode _).2 given) (words.2 identifiers) one value
    | named _ _ found => cases none.symm.trans found
  · intro gives
    cases gives with
    | pathPrefix given => exact .pathPrefix ((mode _).1 given)
    | unnamed _ _ absent => cases one.symm.trans absent
    | named given identifiers found text =>
      cases one.symm.trans found
      obtain rfl := Option.some.inj (text.symm.trans value)
      exact .unnamed ((mode _).1 given) (words.1 identifiers) none

theorem itemsGiveSource_name_iff {m v : Node} (mode : modeText? m = some "header")
    (value : takenText? v = some TenantSource.defaultHeader) (src : TenantSource) :
    ItemsGiveSource [m] src ↔ ItemsGiveSource [m, v] src := by
  constructor
  · intro gives
    cases gives with
    | pathPrefix mode' => exact absurd (mode.symm.trans mode') (by decide)
    | unnamed => exact .named mode value
  · intro gives
    cases gives with
    | named _ text =>
      obtain rfl := Option.some.inj (text.symm.trans value)
      exact .unnamed mode

/-- a default is not written in a scalar -/
theorem Spelled.bare_ne_scalar {s : Shape} {n n' : Node} (spelled : Spelled s n n') (x : Scalar) : n'.bare ≠ .scalar x := by
  induction spelled with
  | field | first | name | nameItem | within | item => simp [Node.bare]
  | given _ _ ih => exact ih
  | shared _ ih => simpa [Node.bare] using ih

/-- a section in which the value of a field is written in another way -/
theorem reads_replace {title : String} {fields : List Field} (distinct : (Shape.record title fields).distinct = true)
    {f : Field} (declared : f ∈ fields) {tag : Option (List UInt8)} {before after : List (Node × Node)} {k v v' : Node}
    (key : keyText? k = some f.1.toList) (alike : ∀ w, Reads f.2.1 v w → Reads f.2.1 v' w) {w : Value}
    (reads : Reads (.record title fields) (.mapping tag (before ++ (k, v) :: after)) w) :
    Reads (.record title fields) (.mapping tag (before ++ (k, v') :: after)) w := by
  refine reads_record_of_entries distinct rfl rfl Strict.replace (fun _ g member w given => ?_) reads
  refine given.replace fun key' => ?_
  have name : g.1 = f.1 := String.toList_inj.1 (Option.some.inj (key'.symm.trans key))
  obtain rfl : g = f := List.inj_on_of_nodup_map (Shape.fields_distinct distinct).1 member declared name
  exact alike

theorem Spelled.reads_iff {s : Shape} {n n' : Node} (spelled : Spelled s n n') :
    s.distinct = true → ∀ v, Reads s n v ↔ Reads s n' v := by
  induction spelled with
  | field declared default before after omitted key value =>
    intro distinct
    exact reads_insert_iff distinct declared default rfl rfl omitted key value
  | @first _ _ _ _ declared default x nothing tag k v key value =>
    intro distinct
    have listed : entries? (.scalar x) = some ([] ++ []) := if_pos nothing
    have listed' : entries? (.mapping tag [(k, v)]) = some ([] ++ (k, v) :: []) := rfl
    exact reads_insert_iff distinct declared default listed listed' (by simp) key value
  | name before after omitted key value =>
    intro _ w
    simp only [reads_source_iff]
    refine exists_congr fun src => and_congr_left' ?_
    rw [readsSource_mapping_iff, readsSource_mapping_iff, givesSource_name_iff omitted key value]
  | nameItem mode value =>
    intro _ w
    simp only [reads_source_iff]
    refine exists_congr fun src => and_congr_left' ?_
    rw [readsSource_sequence_iff, readsSource_sequence_iff, itemsGiveSource_name_iff mode value]
  | within declared before after key inner ih =>
    intro distinct w
    have alike := ih ((Shape.fields_distinct distinct).2 _ declared)
    exact ⟨reads_replace distinct declared key fun w => (alike w).1, reads_replace distinct declared key fun w => (alike w).2⟩
  | @item s _ before after _ _ inner ih =>
    intro (distinct : s.distinct = true) w
    have alike := ih distinct
    rw [reads_list_iff distinct, reads_list_iff distinct]
    constructor
    · rintro ⟨items, vs, ⟨⟩, rfl, each⟩
      exact ⟨_, vs, rfl, rfl, forall₂_replace (fun w => (alike w).1) each⟩
    · rintro ⟨items, vs, ⟨⟩, rfl, each⟩
      exact ⟨_, vs, rfl, rfl, forall₂_replace (fun w => (alike w).2) each⟩
  | given here inner ih =>
    -- neither is a scalar, so neither stands for a missing value
    intro distinct w
    rw [reads_optional_iff, reads_optional_iff, ih distinct w]
    simp [here, inner.bare_ne_scalar]
  | shared inner ih =>
    intro distinct v
    rw [reads_shared_iff, reads_shared_iff]
    exact ih distinct v

/-! ## Every default can be written -/

namespace Shape

mutual

/-- every field of every record in a shape has a property -/
def EachField (P : Field → Prop) : Shape → Prop
  | .optional inner => inner.EachField P
  | .list item => item.EachField P
  | .record _ fields => EachBelow P fields
  | .text | .flag | .number _ | .choice _ | .source => True

def EachBelow (P : Field → Prop) : List Field → Prop
  | [] => True
  | (name, s, fallback) :: rest => P (name, s, fallback) ∧ s.EachField P ∧ EachBelow P rest

end

theorem EachBelow.of_mem {P : Field → Prop} {fields : List Field} (each : EachBelow P fields) {f : Field} (member : f ∈ fields) :
    P f ∧ f.2.1.EachField P := by
  induction fields with
  | nil => cases member
  | cons g rest ih =>
    obtain ⟨first, below, others⟩ := each
    rcases List.mem_cons.1 member with rfl | later
    · exact ⟨first, below⟩
    · exact ih others later

end Shape

theorem Part.eachField {P : Field → Prop} {s t : Shape} {n m : Node} (part : Part s n t m) (each : s.EachField P) :
    t.EachField P := by
  induction part with
  | whole => exact each
  | given _ _ ih => exact ih
  | item _ _ _ ih => exact ih
  | entry _ _ _ field _ ih => exact (ih.of_mem field).2

/-- a scalar as it is written without quotes -/
def plain (text : String) : Node := .scalar { text := text.toList }

/-- the default of a field can be written; that of a section with nothing in it, and that of what may be missing as null -/
structure Spellable (f : Field) : Prop where
  written : ∀ d, f.2.2 = some d → ∃ v, Reads f.2.1 v d
  empty : ∀ d, f.2.2 = some d → ∀ title fields, f.2.1 = .record title fields → Reads f.2.1 (.mapping none []) d
  null : ∀ d, f.2.2 = some d → ∀ s, f.2.1 = .optional s → Reads f.2.1 (plain "null") d

namespace Spellable

theorem required (name : String) (s : Shape) : Spellable (Shape.required name s) :=
  ⟨nofun, nofun, nofun⟩

theorem optional (name : String) (s : Shape) : Spellable (Shape.defaulted name (.optional s) .absent) where
  written := by
    rintro _ ⟨⟩
    exact ⟨plain "null", rfl⟩
  empty := nofun
  null := by
    rintro _ ⟨⟩ _ ⟨⟩
    rfl

theorem record {name title : String} {fields : List Field} {d : Value}
    (reads : Reads (.record title fields) (.mapping none []) d) : Spellable (Shape.defaulted name (.record title fields) d) where
  written := by
    rintro _ ⟨⟩
    exact ⟨_, reads⟩
  empty := by
    rintro _ ⟨⟩ _ _ ⟨⟩
    exact reads
  null := nofun

theorem value {name : String} {s : Shape} {d : Value} {v : Node} (reads : Reads s v d)
    (filled : ∀ title fields, s ≠ .record title fields) (present : ∀ inner, s ≠ .optional inner) :
    Spellable (Shape.defaulted name s d) where
  written := by
    rintro _ ⟨⟩
    exact ⟨v, reads⟩
  empty _ _ title fields same := absurd same (filled title fields)
  null _ _ inner same := absurd same (present inner)

end Spellable

theorem spellable_gateway : Shape.gateway.EachField Spellable :=
  ⟨.value (v := plain "0.0.0.0:8080") rfl nofun nofun, trivial,
    .value (v := .mapping none [(plain "mode", plain "path_prefix")]) rfl nofun nofun, trivial,
    .value (v := plain "1") rfl nofun nofun, trivial,
    .value (v := plain "5000") rfl nofun nofun, trivial,
    .value (v := plain "52428800") rfl nofun nofun, trivial, trivial⟩

theorem spellable_backends : Shape.backends.EachField Spellable := by
  have endpoint : Shape.endpoint.EachField Spellable := ⟨.required .., trivial, trivial⟩
  exact ⟨.value (v := plain "30000") rfl nofun nofun, trivial, .optional .., endpoint, .optional .., endpoint, trivial⟩

theorem spellable_credentials : Shape.credentials.EachField Spellable :=
  ⟨.value (v := plain "managed_identity") rfl nofun nofun, trivial,
    .optional .., trivial,
    .value (v := plain "AIHUB_STATIC_TOKEN") rfl nofun nofun, trivial,
    .value (v := plain "300") rfl nofun nofun, trivial, trivial⟩

theorem spellable_policy : Shape.policy.EachField Spellable := by
  have off (name : String) : Spellable (Shape.defaulted name .flag (.flag false)) :=
    .value (v := plain "false") rfl nofun nofun
  have redaction : Shape.piiRedaction.EachField Spellable :=
    ⟨off _, trivial, .value (v := plain "fail_closed") rfl nofun nofun, trivial, trivial⟩
  exact ⟨.record rfl, redaction, off _, trivial, off _, trivial, off _, trivial, trivial⟩

theorem spellable_tenant : Shape.tenant.EachField Spellable := by
  have limit : Shape.rateLimit.EachField Spellable := ⟨.value (v := plain "1000") rfl nofun nofun, trivial, trivial⟩
  exact ⟨.required .., trivial,
    .optional .., trivial,
    .value (v := plain "true") rfl nofun nofun, trivial,
    .value (v := .sequence none [plain "document_intelligence", plain "openai"]) rfl nofun nofun, trivial,
    .record rfl, limit,
    .record rfl, spellable_policy, trivial⟩

/-- **Every default can be written**, in any section. -/
theorem spellable_config : Shape.config.EachField Spellable := by
  have route : Shape.route.EachField Spellable := ⟨.required .., trivial, .required .., trivial, trivial⟩
  exact ⟨.required .., trivial,
    .record rfl, spellable_gateway,
    .record rfl, spellable_backends,
    .record rfl, spellable_credentials,
    .optional .., route,
    .value (v := .sequence none []) rfl nofun nofun, spellable_tenant, trivial⟩

theorem spellable_header :
    namesHeader (plain "name") = true ∧ takenText? (plain TenantSource.defaultHeader) = some TenantSource.defaultHeader := by
  decide +kernel

/-! ## Texts -/

/-- one step between documents of the same meaning -/
inductive Restated (n n' : Node) : Prop
  | order (reordered : Reordered n n') : Restated n n'
  | default (spelled : Spelled Shape.config n n') : Restated n n'

theorem reads_iff_of_restated {n n' : Node} (restated : Relation.EqvGen Restated n n') (v : Value) :
    Reads Shape.config n v ↔ Reads Shape.config n' v := by
  induction restated with
  | rel n n' step =>
    cases step with
    | order reordered => exact reordered.reads_iff Shape.distinct_config v
    | default spelled => exact spelled.reads_iff Shape.distinct_config v
  | refl => rfl
  | symm _ _ _ ih => exact ih.symm
  | trans _ _ _ _ _ first second => exact first.trans second

/-- **Neither order nor written defaults matter.** Take two texts whose documents differ by steps of two kinds, any number of
them and in either direction: the entries of a mapping, wherever it is, stand in another order; or a field that was left out
of a section has its default written. They are accepted alike, with the same configuration. In every section every field
that may be left out has such a writing of its default: for a section an empty mapping is one, and for what may be missing
null is. The header that names the tenant has one too. -/
theorem same_configuration (text text' : String) {n n' : Node} (parsed : Node.ofText? text.toList = some n)
    (parsed' : Node.ofText? text'.toList = some n') (restated : Relation.EqvGen Restated n n') :
    (∀ c, load text = .ok c ↔ load text' = .ok c) ∧
      (∀ title fields m, Part Shape.config n (.record title fields) m → ∀ f ∈ fields, Spellable f) ∧
      namesHeader (plain "name") = true ∧ takenText? (plain TenantSource.defaultHeader) = some TenantSource.defaultHeader := by
  refine ⟨?_, ?_, spellable_header⟩
  · intro c
    have found : ofText text = .ok c ↔ ofText text' = .ok c := by
      rw [ofText_eq_ok_iff, ofText_eq_ok_iff, parsed, parsed']
      simp only [Option.some.injEq, exists_and_left, exists_eq_left', reads_iff_of_restated restated]
    rw [load_eq_ok_iff, load_eq_ok_iff, found]
  · intro title fields m part f declared
    have each : (Shape.record title fields).EachField Spellable := part.eachField spellable_config
    exact (each.of_mem declared).1

/-- a text with nothing in it that may be left out -/
def shortText : String :=
  "version: 1\ntenants:\n  - id: acme\n"

/-- the same configuration in another order, with two of the defaults -/
def longText : String :=
  "tenants:\n  - enabled: true\n    id: acme\ngateway: \x7b\x7d\nversion: 1\n"

def line (name value : String) : Node × Node := (plain name, plain value)

def oneTenant (lines : List (Node × Node)) : Node × Node := (plain "tenants", .sequence none [.mapping none lines])

def emptyGateway : Node × Node := (plain "gateway", .mapping none [])

/-- **A longer text.** The longer of the two texts is accepted with the configuration of the shorter one. -/
theorem same_configuration_longer :
    ∃ n n', Node.ofText? shortText.toList = some n ∧ Node.ofText? longText.toList = some n' ∧ Relation.EqvGen Restated n n' ∧
      load longText = .ok { version := 1, tenants := [{ id := "acme" }] } := by
  have short : Node.ofText? shortText.toList = some (.mapping none [line "version" "1", oneTenant [line "id" "acme"]]) := by
    cbv
  have long : Node.ofText? longText.toList =
      some (.mapping none [oneTenant [line "enabled" "true", line "id" "acme"], emptyGateway, line "version" "1"]) := by
    cbv
  have enabled : Spelled Shape.tenant (.mapping none [line "id" "acme"])
      (.mapping none [line "enabled" "true", line "id" "acme"]) :=
    .field (f := Shape.defaulted "enabled" .flag (.flag true)) (by simp) rfl [] _ (by decide) rfl rfl
  have first : Spelled Shape.config (.mapping none [line "version" "1", oneTenant [line "id" "acme"]])
      (.mapping none [line "version" "1", oneTenant [line "enabled" "true", line "id" "acme"]]) :=
    .within (f := Shape.defaulted "tenants" (.list .tenant) (.list [])) (by simp) [line "version" "1"] [] rfl
      (.item [] [] enabled)
  have second : Spelled Shape.config (.mapping none [line "version" "1", oneTenant [line "enabled" "true", line "id" "acme"]])
      (.mapping none [line "version" "1", emptyGateway, oneTenant [line "enabled" "true", line "id" "acme"]]) :=
    .field (f := Shape.defaulted "gateway" .gateway Shape.gateway.emptyRecord) (by simp) rfl [line "version" "1"] _
      (by decide) rfl rfl
  have third : Reordered (.mapping none [line "version" "1", emptyGateway, oneTenant [line "enabled" "true", line "id" "acme"]])
      (.mapping none [oneTenant [line "enabled" "true", line "id" "acme"], emptyGateway, line "version" "1"]) :=
    .entries (List.reverse_perm _).symm
  have restated := ((Relation.EqvGen.rel _ _ (Restated.default first)).trans _ _ _ (.rel _ _ (.default second))).trans _ _ _
    (.rel _ _ (.order third))
  refine ⟨_, _, short, long, restated, ?_⟩
  have accepted : load shortText = .ok { version := 1, tenants := [{ id := "acme" }] } :=
    Except.toOption_eq_some_iff.1 (by decide +kernel)
  exact ((same_configuration shortText longText short long restated).1 _).1 accepted

end TenantGateway.Config
