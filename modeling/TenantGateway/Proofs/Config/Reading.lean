/-
What a document is read as.

`Reads` is what a node is read as under a shape, wherever it stands (`decode_placeless`). For the shapes that have parts it is
told by what these are read as (`reads_optional_iff`, `reads_list_iff`, `reads_record_iff`, `reads_source_iff`), and a
record's by its entries in whatever order. `Part` leads from a document to the nodes in it that are read, each with the
shape under which it is.
-/
import TenantGateway.Proofs.Config.Sources

namespace TenantGateway.Config

open Yaml

namespace Shape

mutual

/-- no record has two fields of one name -/
def distinct : Shape → Bool
  | .optional inner => inner.distinct
  | .list item => item.distinct
  | .record _ fields => (fields.map (·.1)).Nodup && fieldsDistinct fields
  | .text | .flag | .number _ | .choice _ | .source => true

def fieldsDistinct : List Field → Bool
  | [] => true
  | (_, s, _) :: rest => s.distinct && fieldsDistinct rest

end

theorem distinct_of_mem {fields : List Field} (distinct : fieldsDistinct fields = true) {f : Field}
    (member : f ∈ fields) : f.2.1.distinct = true := by
  induction fields with
  | nil => cases member
  | cons g rest ih =>
    obtain ⟨first, others⟩ := Bool.and_eq_true_iff.1 distinct
    rcases List.mem_cons.1 member with rfl | later
    · exact first
    · exact ih others later

theorem fields_distinct {title : String} {fields : List Field} (distinct : (record title fields).distinct = true) :
    (fields.map (·.1)).Nodup ∧ ∀ f ∈ fields, f.2.1.distinct = true := by
  simp only [Shape.distinct, Bool.and_eq_true, decide_eq_true_eq] at distinct
  exact ⟨distinct.1, fun f member => distinct_of_mem distinct.2 member⟩

theorem distinct_config : Shape.config.distinct = true := by
  decide +kernel

end Shape

/-! ## Places do not matter -/

/-- the reader of a field -/
def reader (f : Field) : FieldReader := ⟨f.1, decode f.2.1, f.2.2⟩

theorem fieldReaders_eq (fields : List Field) : fieldReaders fields = fields.map reader := by
  induction fields with
  | nil => rfl
  | cons f rest ih => rw [fieldReaders, ih, List.map_cons, reader]

theorem names_fieldReaders (fields : List Field) : (fieldReaders fields).map (·.name) = fields.map (·.1) := by
  rw [fieldReaders_eq, List.map_map]
  rfl

mutual

theorem decode_placeless : ∀ s : Shape, s.distinct = true → Reader.Placeless (decode s)
  | .text, _ => placeless_text
  | .flag, _ => placeless_flag
  | .number kind, _ => placeless_number kind
  | .choice names, _ => placeless_choice names
  | .optional inner, distinct => (decode_placeless inner distinct).optional
  | .list item, distinct => (decode_placeless item distinct).list
  | .record title fields, distinct => by
    intro p q n v read
    simp only [Shape.distinct, Bool.and_eq_true, decide_eq_true_eq, ← names_fieldReaders] at distinct
    have placeless := fieldReaders_placeless fields distinct.2
    exact (readRecord_eq_ok_iff distinct.1 placeless title q n v).2
      ((readRecord_eq_ok_iff distinct.1 placeless title p n v).1 read)
  | .source, _ => by
    intro p q n v read
    simp only [decode, Except.map_eq_ok_iff, readSource_eq_ok_iff] at read ⊢
    exact read

theorem fieldReaders_placeless :
    ∀ fields : List Field, Shape.fieldsDistinct fields = true → ∀ f ∈ fieldReaders fields, f.read.Placeless
  | [], _, f, member => by cases member
  | (name, s, fallback) :: rest, distinct, f, member => by
    obtain ⟨first, others⟩ := Bool.and_eq_true_iff.1 distinct
    rcases List.mem_cons.1 member with rfl | later
    · exact decode_placeless s first
    · exact fieldReaders_placeless rest others f later

end

/-- what a node is read as under a shape -/
def Reads (s : Shape) (n : Node) (v : Value) : Prop := decode s .root n = .ok v

theorem Reads.unique {s : Shape} {n : Node} {v v' : Value} (reads : Reads s n v) (reads' : Reads s n v') : v = v' :=
  Except.ok.inj (reads.symm.trans reads')

/-! ## What is read of the parts -/

/-- the value of a field: what its entry is read as, or its default where it has none -/
def FieldReads (entries : List (Node × Node)) (f : Field) (v : Value) : Prop :=
  (∃ e ∈ entries, keyText? e.1 = some f.1.toList ∧ Reads f.2.1 e.2 v) ∨
    (∀ e ∈ entries, keyText? e.1 ≠ some f.1.toList) ∧ f.2.2 = some v

theorem reads_record_iff {title : String} {fields : List Field} (distinct : (Shape.record title fields).distinct = true)
    (n : Node) (v : Value) :
    Reads (.record title fields) n v ↔
      ∃ entries vs, entries? n = some entries ∧ v = .record vs ∧ Strict (fields.map (·.1)) entries ∧
        List.Forall₂ (FieldReads entries) fields vs := by
  simp only [Shape.distinct, Bool.and_eq_true, decide_eq_true_eq, ← names_fieldReaders] at distinct
  refine (readRecord_eq_ok_iff distinct.1 (fieldReaders_placeless fields distinct.2) title .root n v).trans ?_
  simp only [names_fieldReaders]
  rw [fieldReaders_eq]
  simp only [List.forall₂_map_left_iff]
  rfl

theorem reads_list_iff {item : Shape} (distinct : item.distinct = true) (n : Node) (v : Value) :
    Reads (.list item) n v ↔ ∃ items vs, items? n = some items ∧ v = .list vs ∧ List.Forall₂ (Reads item) items vs :=
  readList_eq_ok_iff (decode_placeless item distinct) .root n v

theorem reads_optional_iff (inner : Shape) (n : Node) (v : Value) :
    Reads (.optional inner) n v ↔
      (∃ s, n.bare = .scalar s ∧ isMissing s = some true ∧ v = .absent) ∨
        (∀ s, n.bare = .scalar s → isMissing s = some false) ∧ Reads inner n v := by
  simp only [Reads, decode, readOptional]
  cases n.bare with
  | scalar s =>
    rcases missing : isMissing s with _ | _ | _
    · simp [missing, failAround]
    · simp [missing]
    · simp [missing, eq_comm]
  | sequence | mapping | shared | cut => simp

theorem reads_source_iff (n : Node) (v : Value) : Reads .source n v ↔ ∃ src, ReadsSource n src ∧ v = .source src := by
  simp only [Reads, decode, Except.map_eq_ok_iff, readSource_eq_ok_iff]
  exact exists_congr fun src => and_congr_right' eq_comm

/-! ## The parts of a document -/

/-- a node that is read, and the shape under which it is, when `n` is read under `s` -/
inductive Part (s : Shape) (n : Node) : Shape → Node → Prop
  | whole : Part s n s n
  /-- what may be null, where it is not -/
  | given {t : Shape} {m : Node} (part : Part s n (.optional t) m) (here : ∀ x, m.bare = .scalar x → isMissing x = some false) :
      Part s n t m
  | item {t : Shape} {m i : Node} {items : List Node} (part : Part s n (.list t) m) (listed : items? m = some items)
      (member : i ∈ items) : Part s n t i
  | entry {title : String} {fields : List Field} {m : Node} {entries : List (Node × Node)} {f : Field} {e : Node × Node}
      (part : Part s n (.record title fields) m) (listed : entries? m = some entries) (member : e ∈ entries)
      (field : f ∈ fields) (key : keyText? e.1 = some f.1.toList) : Part s n f.2.1 e.2

/-! ## Texts -/

theorem ofText_eq_ok_iff (text : String) (c : Config) :
    ofText text = .ok c ↔ ∃ n v, Node.ofText? text.toList = some n ∧ Reads Shape.config n v ∧ v.toConfig = c := by
  unfold ofText
  cases Node.ofText? text.toList with
  | none => simp
  | some n =>
    simp only [ofNode, Except.map_eq_ok_iff, Option.some.injEq, exists_and_left, exists_eq_left']
    rfl

theorem load_eq_ok_iff (text : String) (c : Config) :
    load text = .ok c ↔ ofText text = .ok c ∧ c.validate = .ok () := by
  unfold load
  cases ofText text with
  | error f => simp [throw, throwThe, MonadExceptOf.throw]
  | ok found =>
    simp only [Except.seq_eq_ok_iff, Except.ok.injEq]
    constructor
    · rintro ⟨valid, ⟨⟩⟩
      exact ⟨rfl, valid⟩
    · rintro ⟨rfl, valid⟩
      exact ⟨valid, rfl⟩

end TenantGateway.Config
