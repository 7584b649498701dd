/-
Which keys a configuration may have.

`strict_sections` says of every text: if it is accepted, each section in it has only keys that are names of its fields, none
of them twice, and a text of which that is not so is refused. The section that names the tenant's source is apart. Its mode
and its name are there at most once, but of its other keys nothing is asked (`givesSource_stray_iff`): `stray_key_accepted` is
a text with a misspelt key in it that is accepted.
-/
import TenantGateway.Proofs.Config.Reading

namespace TenantGateway.Config

open Yaml

/-! ## What is read of a document -/

/-- an entry under the name of a field is read -/
theorem reads_entry {title : String} {fields : List Field} (distinct : (Shape.record title fields).distinct = true) {n : Node}
    {v : Value} (reads : Reads (.record title fields) n v) {entries : List (Node × Node)} (listed : entries? n = some entries)
    {e : Node × Node} (member : e ∈ entries) {f : Field} (field : f ∈ fields) (key : keyText? e.1 = some f.1.toList) :
    ∃ w, Reads f.2.1 e.2 w := by
  obtain ⟨entries', vs, listed', -, strict, each⟩ := (reads_record_iff distinct n v).1 reads
  obtain rfl : entries' = entries := Option.some.inj (listed'.symm.trans listed)
  obtain ⟨w, -, given⟩ := forall₂_exists each field
  rcases given with ⟨e', member', key', value⟩ | ⟨none, -⟩
  · obtain rfl : e' = e := List.inj_on_of_nodup_map strict.once member' member (key'.trans key.symm)
    exact ⟨w, value⟩
  · exact absurd key (none e member)

/-- where a document is read, so are its parts -/
theorem Part.reads {s t : Shape} {n m : Node} (part : Part s n t m) (distinct : s.distinct = true) {v : Value}
    (reads : Reads s n v) : t.distinct = true ∧ ∃ w, Reads t m w := by
  induction part with
  | whole => exact ⟨distinct, v, reads⟩
  | given part here ih =>
    obtain ⟨distinct, w, reads⟩ := ih
    refine ⟨distinct, ?_⟩
    rcases (reads_optional_iff ..).1 reads with ⟨x, bare, missing, -⟩ | ⟨-, inner⟩
    · rw [here x bare] at missing
      cases missing
    · exact ⟨w, inner⟩
  | @item t m i items part listed member ih =>
    obtain ⟨(distinct : t.distinct = true), w, reads⟩ := ih
    obtain ⟨items, vs, listed', -, each⟩ := (reads_list_iff distinct m w).1 reads
    rw [listed, Option.some.injEq] at listed'
    subst listed'
    obtain ⟨v, -, item⟩ := forall₂_exists each member
    exact ⟨distinct, v, item⟩
  | entry part listed member field key ih =>
    obtain ⟨distinct, w, reads⟩ := ih
    exact ⟨(Shape.fields_distinct distinct).2 _ field, reads_entry distinct reads listed member field key⟩

/-! ## Keys -/

/-- the mode is given by one key, and in header mode the name by at most one -/
structure StrictSource (entries : List (Node × Node)) : Prop where
  mode : ∃ e mode, entries.filter (fun e => isModeKey e.1) = [e] ∧ modeText? e.2 = some mode ∧
    (mode = "header" → (entries.filter fun e => namesHeader e.1).length ≤ 1)

theorem GivesSource.strict {entries : List (Node × Node)} {src : TenantSource} (gives : GivesSource entries src) :
    StrictSource entries := by
  cases gives with
  | pathPrefix mode =>
    obtain ⟨e, one, given⟩ := mode.once
    exact ⟨e, _, one, given, fun header => absurd header (by decide)⟩
  | unnamed mode _ none =>
    obtain ⟨e, one, given⟩ := mode.once
    exact ⟨e, _, one, given, by simp [none]⟩
  | named mode _ once =>
    obtain ⟨e, one, given⟩ := mode.once
    exact ⟨e, _, one, given, by simp [once]⟩

/-- every section of a document has the keys of its fields, each at most once; and the one for the tenant's source, its own -/
structure StrictDocument (n : Node) : Prop where
  sections : ∀ {title fields m tag entries}, Part Shape.config n (.record title fields) m → m.bare = .mapping tag entries →
    Strict (fields.map (·.1)) entries
  sources : ∀ {m tag entries}, Part Shape.config n .source m → m.bare = .mapping tag entries → StrictSource entries

theorem strict_of_reads {n : Node} {v : Value} (reads : Reads Shape.config n v) : StrictDocument n where
  sections {title fields m tag entries} part whole := by
    obtain ⟨distinct, w, record⟩ := part.reads Shape.distinct_config reads
    obtain ⟨entries', vs, listed, -, strict, -⟩ := (reads_record_iff distinct m w).1 record
    obtain rfl : entries = entries' := by simpa [entries?, whole] using listed
    exact strict
  sources {m tag entries} part whole := by
    obtain ⟨-, w, source⟩ := part.reads Shape.distinct_config reads
    obtain ⟨src, read, -⟩ := (reads_source_iff m w).1 source
    cases read with
    | mapping bare _ gives =>
      obtain ⟨-, rfl⟩ := Node.mapping.inj (whole.symm.trans bare)
      exact gives.strict
    | sequence bare => cases whole.symm.trans bare

/-! ## Keys that are passed over -/

/-- an entry with a word for its key that is neither for the mode nor for the name -/
structure Stray (e : Node × Node) : Prop where
  mode : isModeKey e.1 = false
  name : namesHeader e.1 = false
  word : isIdentifier e.1 = true
  value : bufferable e.2 = true

/-- **A stray key is passed over.** -/
theorem givesSource_stray_iff {e : Node × Node} (stray : Stray e) (before after : List (Node × Node)) (src : TenantSource) :
    GivesSource (before ++ e :: after) src ↔ GivesSource (before ++ after) src := by
  have mode (m : String) : GivesMode (before ++ e :: after) m ↔ GivesMode (before ++ after) m :=
    givesMode_insert_iff stray.mode (bufferable_of_isIdentifier stray.word) stray.value
  have words : (∀ w ∈ before ++ e :: after, isIdentifier w.1 = true) ↔ ∀ w ∈ before ++ after, isIdentifier w.1 = true := by
    simp [or_imp, forall_and, stray.word]
  have names : (before ++ e :: after).filter (fun e => namesHeader e.1) =
      (before ++ after).filter (fun e => namesHeader e.1) := by
    simp [stray.name]
  constructor
  · intro gives
    exact gives.congr (fun m => (mode m).1) words.1 (names ▸ ·) (fun _ _ _ one => names ▸ one)
  · intro gives
    exact gives.congr (fun m => (mode m).2) words.2 (names ▸ ·) (fun _ _ _ one => names ▸ one)

/-! ## Texts -/

/-- what stands under a name in a section -/
def under (name : String) (n : Node) : Option Node :=
  (entries? n).bind fun entries => (entries.find? fun e => keyText? e.1 = some name.toList).map (·.2)

/-- the keys of a section, as they are written -/
def keys? (n : Node) : Option (List (Option (List Char))) :=
  (entries? n).map fun entries => entries.map (keyText? ·.1)

theorem Part.under {s : Shape} {n m i : Node} {title : String} {fields : List Field} (part : Part s n (.record title fields) m)
    {f : Field} (field : f ∈ fields) (found : under f.1 m = some i) : Part s n f.2.1 i := by
  obtain ⟨entries, listed, found⟩ := Option.bind_eq_some_iff.1 found
  obtain ⟨e, first, rfl⟩ := Option.map_eq_some_iff.1 found
  exact .entry part listed (List.mem_of_find?_eq_some first) field (by simpa using List.find?_some first)

/-- where keys are written, there is a mapping -/
theorem mapping_of_keys? {n : Node} {keys : List (Option (List Char))} (written : keys? n = some keys) (some : keys ≠ []) :
    ∃ tag entries, n.bare = .mapping tag entries ∧ entries.map (keyText? ·.1) = keys := by
  unfold keys? entries? at written
  split at written
  · rename_i tag entries bare
    exact ⟨tag, entries, bare, Option.some.inj written⟩
  · split_ifs at written
    · exact absurd (Option.some.inj written).symm some
    · cases written
  · cases written

/-- **Sections are strict.** Take any text. If it is accepted as a configuration, every section in it that is read has only
keys that are names of its fields, and none of them twice; and if its document is not so, the text is refused as a bad
request. Where the tenant's source is named, this holds of the keys for the mode and for the name, but any other word may
stand there as a key: with it and without it the same is read. -/
theorem strict_sections (text : String) :
    (∀ c, load text = .ok c → ∃ n, Node.ofText? text.toList = some n ∧ StrictDocument n) ∧
    (∀ n, Node.ofText? text.toList = some n → ¬StrictDocument n → ∃ message, load text = .error (.badRequest message)) ∧
    ∀ p tag before after e, Stray e → ∀ src,
      readSource p (.mapping tag (before ++ e :: after)) = .ok src ↔ readSource p (.mapping tag (before ++ after)) = .ok src := by
  refine ⟨fun c loaded => ?_, fun n parsed loose => ?_, fun p tag before after e stray src => ?_⟩
  · obtain ⟨read, -⟩ := (load_eq_ok_iff text c).1 loaded
    obtain ⟨n, v, parsed, reads, -⟩ := (ofText_eq_ok_iff text c).1 read
    exact ⟨n, parsed, strict_of_reads reads⟩
  · cases read : ofText text with
    | error f => exact ⟨"invalid yaml: " ++ f.message, by rw [load, read]; rfl⟩
    | ok c =>
      obtain ⟨n', v, parsed', reads, -⟩ := (ofText_eq_ok_iff text c).1 read
      obtain rfl : n = n' := Option.some.inj (parsed.symm.trans parsed')
      exact absurd (strict_of_reads reads) loose
  · rw [readSource_mapping_eq_ok_iff, readSource_mapping_eq_ok_iff, givesSource_stray_iff stray]

/-- a text with a section deep in it -/
def spelledLimit : String :=
  "version: 1\ntenants:\n  - id: acme\n    rate_limit: \x7b tokens_per_minute: 123 \x7d\n"

/-- the same text with a misspelt key -/
def misspeltLimit : String :=
  "version: 1\ntenants:\n  - id: acme\n    rate_limit: \x7b tokens_per_minit: 123 \x7d\n"

/-- a text with a misspelt key where the tenant's source is named -/
def misspeltSource : String :=
  "version: 1\ngateway:\n  tenant_source:\n    mode: header\n    nmae: x-customer\ntenants:\n  - id: acme\n"

/-- **One key that is accepted and one that is not.** Of the two texts the first is accepted, and so it is strict; the second
has the same section with a misspelt key, and is refused. -/
theorem strict_sections_limit :
    (∃ n, Node.ofText? spelledLimit.toList = some n ∧ StrictDocument n) ∧
      ∃ message, load misspeltLimit = .error (.badRequest message) := by
  constructor
  · have loads : (load spelledLimit).toOption.isSome = true := by decide +kernel
    obtain ⟨c, loaded⟩ := Option.isSome_iff_exists.1 loads
    exact (strict_sections spelledLimit).1 c (Except.toOption_eq_some_iff.1 loaded)
  · have written : (((((Node.ofText? misspeltLimit.toList).bind (under "tenants")).bind items?).bind List.head?).bind
        (under "rate_limit")).bind keys? = some [some "tokens_per_minit".toList] := by decide +kernel
    obtain ⟨limit, found, keys⟩ := Option.bind_eq_some_iff.1 written
    obtain ⟨tenant, found, named⟩ := Option.bind_eq_some_iff.1 found
    obtain ⟨items, found, first⟩ := Option.bind_eq_some_iff.1 found
    obtain ⟨tenants, found, listed⟩ := Option.bind_eq_some_iff.1 found
    obtain ⟨n, parsed, found⟩ := Option.bind_eq_some_iff.1 found
    have list : Part Shape.config n (.list .tenant) tenants :=
      Part.under (f := Shape.defaulted "tenants" (.list .tenant) (.list [])) .whole (by simp) found
    have section' : Part Shape.config n .rateLimit limit :=
      Part.under (f := Shape.defaulted "rate_limit" .rateLimit (.record [.number 1000]))
        (list.item listed (List.mem_of_mem_head? first)) (by simp) named
    refine (strict_sections misspeltLimit).2.1 n parsed fun strict => ?_
    obtain ⟨tag, entries, bare, keyed⟩ := mapping_of_keys? keys (by simp)
    obtain ⟨e, member, key⟩ : ∃ e ∈ entries, keyText? e.1 = some "tokens_per_minit".toList :=
      List.mem_map.1 (keyed ▸ List.mem_cons_self)
    obtain ⟨name, known, same⟩ := (strict.sections section' bare).declared e member
    obtain rfl : name = "tokens_per_minute" := by simpa [Shape.defaulted] using known
    exact absurd (key.symm.trans same) (by decide)

/-- **A misspelt key that is accepted.** Where the tenant's source is named, this text has a key that is neither for the mode
nor for the name. It is accepted, and the header is the one that is taken where no name is given. -/
theorem stray_key_accepted :
    load misspeltSource =
        .ok { version := 1, gateway := { tenantSource := .header "x-tenant-id" }, tenants := [{ id := "acme" }] } ∧
      ∃ n m tag entries, Node.ofText? misspeltSource.toList = some n ∧ Part Shape.config n .source m ∧
        m.bare = .mapping tag entries ∧ ∃ e ∈ entries, keyText? e.1 = some "nmae".toList := by
  refine ⟨Except.toOption_eq_some_iff.1 (by decide +kernel), ?_⟩
  have written : (((Node.ofText? misspeltSource.toList).bind (under "gateway")).bind (under "tenant_source")).bind keys? =
      some [some "mode".toList, some "nmae".toList] := by decide +kernel
  obtain ⟨m, found, keys⟩ := Option.bind_eq_some_iff.1 written
  obtain ⟨gateway, found, named⟩ := Option.bind_eq_some_iff.1 found
  obtain ⟨n, parsed, found⟩ := Option.bind_eq_some_iff.1 found
  have part : Part Shape.config n .gateway gateway :=
    Part.under (f := Shape.defaulted "gateway" .gateway Shape.gateway.emptyRecord) .whole (by simp) found
  have source : Part Shape.config n .source m :=
    Part.under (f := Shape.defaulted "tenant_source" .source (.source .pathPrefix)) part (by simp) named
  obtain ⟨tag, entries, bare, keyed⟩ := mapping_of_keys? keys (by simp)
  have misspelt : some "nmae".toList ∈ entries.map (keyText? ·.1) := by simp [keyed]
  obtain ⟨e, member, key⟩ := List.mem_map.1 misspelt
  exact ⟨n, m, tag, entries, parsed, source, bare, e, member, key⟩

end TenantGateway.Config
