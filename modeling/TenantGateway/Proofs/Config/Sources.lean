/-
What the section that names a tenant's source is read as.

All of this section is taken in before its mode is known, so that what a key means is settled late. `GivesSource` says what
comes of the entries without following them in order: one of them gives the mode, and in header mode at most one gives the
name. Any other key is passed over, as long as it can be taken in. `readSource_mapping_eq_ok_iff` is that this is what is read.
-/
import TenantGateway.Proofs.Config.Records

namespace TenantGateway.Config

open Yaml

/-! ## What can be taken in -/

/-- a scalar as it is taken in, if it can be -/
def takenScalar? (s : Scalar) : Option Meaning :=
  if (localName? s.tag).isSome then none
  else
    match s.meaning with
    | .error _ | .ok (.wideNatural _) | .ok (.wideNegative _) => none
    | .ok m => some m

/-- a node as it is taken in, if it is a scalar -/
def taken? (n : Node) : Option Meaning :=
  match n.bare with
  | .scalar s => takenScalar? s
  | _ => none

/-- a node that is taken in as a text -/
def takenText? (n : Node) : Option String :=
  match taken? n with
  | some (.text cs) => some (String.ofList cs)
  | _ => none

mutual

/-- whether a node can be taken in: none of its tags chooses a variant, and no number is wider than 64 bits -/
def bufferable : Node → Bool
  | .cut => false
  | .shared n => bufferable n
  | .scalar s => (takenScalar? s).isSome
  | .sequence tag items => (localName? tag).isNone && itemsBufferable items
  | .mapping tag entries => (localName? tag).isNone && entriesBufferable entries

def itemsBufferable : List Node → Bool
  | [] => true
  | n :: rest => bufferable n && itemsBufferable rest

def entriesBufferable : List (Node × Node) → Bool
  | [] => true
  | (k, v) :: rest => bufferable k && bufferable v && entriesBufferable rest

end

theorem itemsBufferable_iff (items : List Node) : itemsBufferable items = true ↔ ∀ n ∈ items, bufferable n = true := by
  induction items with
  | nil => simp [itemsBufferable]
  | cons n rest ih => simp [itemsBufferable, ih]

theorem entriesBufferable_iff (entries : List (Node × Node)) :
    entriesBufferable entries = true ↔ ∀ e ∈ entries, bufferable e.1 = true ∧ bufferable e.2 = true := by
  induction entries with
  | nil => simp [entriesBufferable]
  | cons e rest ih => simp [entriesBufferable, ih]

theorem bufferable_of_taken {n : Node} {m : Meaning} (taken : taken? n = some m) : bufferable n = true := by
  unfold taken? at taken
  fun_induction Node.bare n with
  | case1 n ih => simpa [bufferable] using ih taken
  | case2 n whole =>
    cases n with
    | shared n => exact absurd rfl (whole n)
    | scalar s => exact Option.isSome_iff_exists.2 ⟨m, taken⟩
    | sequence | mapping | cut => cases taken

theorem takenText?_eq_some_iff {n : Node} {text : String} :
    takenText? n = some text ↔ taken? n = some (.text text.toList) := by
  unfold takenText?
  split
  · rename_i cs taken
    simp only [Option.some.injEq, Meaning.text.injEq, taken]
    constructor
    · rintro rfl
      simp
    · rintro rfl
      simp
  · rename_i other
    simp only [reduceCtorEq, false_iff]
    exact other _

namespace Content

theorem ofScalar_eq_ok_iff {p : Position} {s : Scalar} {wanted : String} {c : Content} :
    ofScalar p s wanted = .ok c ↔ ∃ m, takenScalar? s = some m ∧ c = .scalar m := by
  unfold ofScalar takenScalar?
  split_ifs
  · simp [fail]
  · rcases s.meaning with t | m
    · simp [fail]
    · cases m <;> simp [fail, eq_comm]

/-- a scalar is taken in as its meaning, and nothing else is taken in as one -/
theorem taken_of_ofNode {p : Position} {n : Node} {c : Content} (taken : ofNode p n = .ok c) (m : Meaning) :
    c = .scalar m ↔ taken? n = some m := by
  fun_induction Node.bare n with
  | case1 n ih => exact ih (by simpa [ofNode] using taken)
  | case2 n whole =>
    cases n with
    | shared n => exact absurd rfl (whole n)
    | cut => simp [ofNode] at taken
    | scalar s =>
      obtain ⟨m', known, rfl⟩ := ofScalar_eq_ok_iff.1 (by simpa [ofNode] using taken)
      simp [taken?, Node.bare, known]
    | sequence tag items =>
      simp only [ofNode] at taken
      split_ifs at taken
      · cases taken
      · obtain ⟨cs, -, rfl⟩ := Except.map_eq_ok_iff.1 taken
        simp [taken?, Node.bare]
    | mapping tag entries =>
      simp only [ofNode] at taken
      split_ifs at taken
      · cases taken
      · obtain ⟨cs, -, rfl⟩ := Except.map_eq_ok_iff.1 taken
        simp [taken?, Node.bare]

mutual

theorem ofNode_isOk_iff (p : Position) : ∀ n : Node, (∃ c, ofNode p n = .ok c) ↔ bufferable n = true
  | .cut => by simp [ofNode, bufferable]
  | .shared n => by
    simp only [ofNode, bufferable]
    exact ofNode_isOk_iff p n
  | .scalar s => by
    simp only [ofNode, bufferable, ofScalar_eq_ok_iff, Option.isSome_iff_exists]
    constructor
    · rintro ⟨c, m, known, -⟩
      exact ⟨m, known⟩
    · rintro ⟨m, known⟩
      exact ⟨_, m, known, rfl⟩
  | .sequence tag items => by
    have parts := ofItems_isOk_iff p 0 items
    simp only [ofNode, bufferable]
    cases (localName? tag) <;> simp [fail, Except.map_eq_ok_iff, parts]
  | .mapping tag entries => by
    have parts := ofEntries_isOk_iff p entries
    simp only [ofNode, bufferable]
    cases (localName? tag) <;> simp [fail, Except.map_eq_ok_iff, parts]

theorem ofItems_isOk_iff (p : Position) (first : ℕ) :
    ∀ items : List Node, (∃ cs, ofItems p first items = .ok cs) ↔ itemsBufferable items = true
  | [] => by simp [ofItems, itemsBufferable]
  | n :: rest => by
    have head := ofNode_isOk_iff (p.enter (.item first)) n
    have tail := ofItems_isOk_iff p (first + 1) rest
    rw [itemsBufferable, Bool.and_eq_true, ← head, ← tail]
    simp only [ofItems, Except.bind_eq_ok_iff]
    constructor
    · rintro ⟨-, c, item, cs, items, -⟩
      exact ⟨⟨c, item⟩, cs, items⟩
    · rintro ⟨⟨c, item⟩, cs, items⟩
      exact ⟨c :: cs, c, item, cs, items, rfl⟩

theorem ofEntries_isOk_iff (p : Position) :
    ∀ entries : List (Node × Node), (∃ cs, ofEntries p entries = .ok cs) ↔ entriesBufferable entries = true
  | [] => by simp [ofEntries, entriesBufferable]
  | (k, v) :: rest => by
    have key := ofNode_isOk_iff p k
    have value := ofNode_isOk_iff (p.enter (stepOf k)) v
    have tail := ofEntries_isOk_iff p rest
    rw [entriesBufferable, Bool.and_eq_true, Bool.and_eq_true, ← key, ← value, ← tail]
    simp only [ofEntries, Except.bind_eq_ok_iff]
    constructor
    · rintro ⟨-, ck, key, cv, value, cs, entries, -⟩
      exact ⟨⟨⟨ck, key⟩, cv, value⟩, cs, entries⟩
    · rintro ⟨⟨⟨ck, key⟩, cv, value⟩, cs, entries⟩
      exact ⟨(ck, cv) :: cs, ck, key, cv, value, cs, entries, rfl⟩

end

/-- a key is taken in like any other node -/
theorem ofKey_eq_ok_iff {p : Position} {k : Node} {c : Content} : ofKey p k = .ok c ↔ ofNode p k = .ok c := by
  have bare : ∀ n : Node, ofNode p n = ofNode p n.bare := by
    intro n
    fun_induction Node.bare n with
    | case1 n ih => simpa [ofNode] using ih
    | case2 n => rfl
  rw [bare k, ofKey]
  cases k.bare <;> simp [ofNode, ofScalar_eq_ok_iff]

theorem text?_eq_ok_iff {p : Position} {n : Node} {c : Content} (taken : ofNode p n = .ok c) (name : String) :
    c.text? = .ok name ↔ takenText? n = some name := by
  have known := taken_of_ofNode taken
  unfold text? takenText?
  split
  · rename_i cs
    simp [(known _).1 rfl]
  · rename_i other
    split
    · rename_i cs found
      exact absurd ((known _).2 found) (other cs)
    · simp

end Content

/-! ## What a key means -/

/-- whether a key may be one of header mode: a word, or a position -/
def isIdentifier (k : Node) : Bool :=
  match taken? k with
  | some (.text _) | some (.natural _) => true
  | _ => false

/-- whether a key stands for the header's name: the word, or its position -/
def namesHeader (k : Node) : Bool :=
  taken? k = some (.text "name".toList) || taken? k = some (.natural 0)

theorem isModeKey_iff (k : Node) : isModeKey k = true ↔ taken? k = some (.text "mode".toList) := by
  fun_induction Node.bare k with
  | case1 n ih => simpa [isModeKey, taken?, Node.bare] using ih
  | case2 n whole =>
    cases n with
    | shared n => exact absurd rfl (whole n)
    | scalar s =>
      simp only [isModeKey, taken?, Node.bare, takenScalar?, Bool.and_eq_true, decide_eq_true_eq]
      rcases localName? s.tag with _ | name
      · rcases s.meaning with t | m
        · simp [Except.toOption]
        · cases m <;> simp [Except.toOption]
      · simp
    | sequence | mapping | cut => simp [isModeKey, taken?, Node.bare]

theorem isNameKey_eq_ok_iff {p : Position} {k : Node} {c : Content} (taken : Content.ofNode p k = .ok c) (b : Bool) :
    isNameKey c = .ok b ↔ isIdentifier k = true ∧ namesHeader k = b := by
  have known := Content.taken_of_ofNode taken
  unfold isNameKey isIdentifier namesHeader
  split
  · rename_i cs
    simp [(known _).1 rfl]
  · rename_i n
    simp [(known _).1 rfl]
  · rename_i noText noNumber
    split
    · rename_i cs found
      exact absurd ((known _).2 found) (noText cs)
    · rename_i n found
      exact absurd ((known _).2 found) (noNumber n)
    · simp

/-- the mode that a node names -/
def modeText? (n : Node) : Option String :=
  match n.bare with
  | .scalar s => modeNames.find? (·.toList = s.text)
  | _ => none

theorem readMode_eq_ok_iff {p : Position} {n : Node} {mode : String} : readMode p n = .ok mode ↔ modeText? n = some mode := by
  fun_induction Node.bare n with
  | case1 n ih => simpa [readMode, modeText?, Node.bare] using ih
  | case2 n whole =>
    cases n with
    | shared n => exact absurd rfl (whole n)
    | scalar s =>
      simp only [readMode, modeText?, Node.bare]
      cases modeNames.find? (·.toList = s.text) <;> simp [fail]
    | sequence | mapping | cut => simp [readMode, modeText?, Node.bare, fail]

/-! ## What entries give -/

/-- an entry as it is taken in -/
def EntryTaken (p : Position) (e : Node × Node) (c : Content × Content) : Prop :=
  Content.ofNode p e.1 = .ok c.1 ∧ Content.ofNode (p.enter (stepOf e.1)) e.2 = .ok c.2

/-- what is known once these entries were seen, none of which may come second -/
def Settles (read : Node → Option String) (hits : List (Node × Node)) (before after : Option String) : Prop :=
  hits = [] ∧ after = before ∨ before = none ∧ ∃ e text, hits = [e] ∧ read e.2 = some text ∧ after = some text

theorem settles_cons_iff {read : Node → Option String} {e : Node × Node} {hits : List (Node × Node)}
    {before after : Option String} :
    Settles read (e :: hits) before after ↔
      before = none ∧ ∃ text, read e.2 = some text ∧ Settles read hits (some text) after := by
  simp only [Settles, reduceCtorEq, false_and, false_or, or_false, List.cons.injEq]
  constructor
  · rintro ⟨rfl, e', text, ⟨rfl, rfl⟩, given, rfl⟩
    exact ⟨rfl, text, given, rfl, rfl⟩
  · rintro ⟨rfl, text, given, rfl, rfl⟩
    exact ⟨rfl, e, text, ⟨rfl, rfl⟩, given, rfl⟩

theorem splitMode_eq_ok_iff (p : Position) (before : Option String) (entries : List (Node × Node)) (after : Option String)
    (cs : List (Content × Content)) :
    splitMode p before entries = .ok (after, cs) ↔
      List.Forall₂ (EntryTaken p) (entries.filter fun e => !isModeKey e.1) cs ∧
        Settles modeText? (entries.filter fun e => isModeKey e.1) before after := by
  induction entries generalizing before cs with
  | nil => simp [splitMode, Settles, eq_comm, and_comm]
  | cons e rest ih =>
    obtain ⟨k, v⟩ := e
    cases mode : isModeKey k with
    | true =>
      simp only [splitMode, mode, if_true, List.filter_cons, Bool.not_true, Bool.false_eq_true, if_false, settles_cons_iff]
      cases before with
      | some known => simp [fail]
      | none =>
        simp only [Except.bind_eq_ok_iff, readMode_eq_ok_iff, ih, true_and]
        exact ⟨fun ⟨text, given, taken, settles⟩ => ⟨taken, text, given, settles⟩,
          fun ⟨taken, text, given, settles⟩ => ⟨text, given, taken, settles⟩⟩
    | false =>
      simp only [splitMode, mode, List.filter_cons, Bool.not_false, Bool.false_eq_true, if_false, if_true,
        List.forall₂_cons_left_iff, Except.bind_eq_ok_iff, Content.ofKey_eq_ok_iff]
      constructor
      · rintro ⟨key, takenKey, value, takenValue, ⟨mode', cs⟩, others, ⟨⟩⟩
        obtain ⟨taken, settles⟩ := (ih before cs).1 others
        exact ⟨⟨(key, value), cs, ⟨takenKey, takenValue⟩, taken, rfl⟩, settles⟩
      · rintro ⟨⟨⟨key, value⟩, cs, ⟨takenKey, takenValue⟩, taken, rfl⟩, settles⟩
        exact ⟨key, takenKey, value, takenValue, (after, cs), (ih before cs).2 ⟨taken, settles⟩, rfl⟩

theorem nameAmong_eq_ok_iff {p : Position} {entries : List (Node × Node)} {cs : List (Content × Content)}
    (taken : List.Forall₂ (EntryTaken p) entries cs) (before after : Option String) :
    nameAmong before cs = .ok after ↔
      (∀ e ∈ entries, isIdentifier e.1 = true) ∧
        Settles takenText? (entries.filter fun e => namesHeader e.1) before after := by
  induction taken generalizing before with
  | nil =>
    rw [nameAmong, Except.ok.injEq]
    simp only [List.not_mem_nil, false_implies, implies_true, true_and, List.filter_nil, Settles, reduceCtorEq, false_and,
      and_false, exists_false, or_false]
    exact eq_comm
  | @cons e c entries cs head tail ih =>
    obtain ⟨k, v⟩ := e
    obtain ⟨ck, cv⟩ := c
    obtain ⟨key, value⟩ := head
    have named := isNameKey_eq_ok_iff key
    rw [nameAmong, Except.bind_eq_ok_iff, List.forall_mem_cons, List.filter_cons]
    cases own : namesHeader k with
    | true =>
      simp only [named, own, if_true, settles_cons_iff]
      cases before with
      | some known => simp [throw, throwThe, MonadExceptOf.throw, bind, Except.bind]
      | none =>
        simp only [true_and, Option.isSome_none, Bool.false_eq_true, if_false]
        constructor
        · rintro ⟨_, ⟨identifier, rfl⟩, read⟩
          obtain ⟨text, given, read⟩ := Except.bind_eq_ok_iff.1 read
          obtain ⟨identifiers, settles⟩ := (ih (some text)).1 read
          exact ⟨⟨identifier, identifiers⟩, text, (Content.text?_eq_ok_iff value text).1 given, settles⟩
        · rintro ⟨⟨identifier, identifiers⟩, text, given, settles⟩
          refine ⟨true, ⟨identifier, rfl⟩, Except.bind_eq_ok_iff.2 ⟨text, (Content.text?_eq_ok_iff value text).2 given, ?_⟩⟩
          exact (ih (some text)).2 ⟨identifiers, settles⟩
    | false =>
      simp only [named, own, Bool.false_eq_true, if_false]
      constructor
      · rintro ⟨_, ⟨identifier, rfl⟩, read⟩
        obtain ⟨identifiers, settles⟩ := (ih before).1 read
        exact ⟨⟨identifier, identifiers⟩, settles⟩
      · rintro ⟨⟨identifier, identifiers⟩, settles⟩
        exact ⟨false, ⟨identifier, rfl⟩, (ih before).2 ⟨identifiers, settles⟩⟩

/-! ## The section -/

/-- one of the entries gives the mode, and the others can be taken in -/
structure GivesMode (entries : List (Node × Node)) (mode : String) : Prop where
  once : ∃ e, entries.filter (fun e => isModeKey e.1) = [e] ∧ modeText? e.2 = some mode
  bufferable : ∀ e ∈ entries, isModeKey e.1 = false → bufferable e.1 = true ∧ bufferable e.2 = true

/-- the source that the entries of the section give -/
inductive GivesSource (entries : List (Node × Node)) : TenantSource → Prop
  | pathPrefix (mode : GivesMode entries "path_prefix") : GivesSource entries .pathPrefix
  | unnamed (mode : GivesMode entries "header") (identifiers : ∀ e ∈ entries, isIdentifier e.1 = true)
      (none : entries.filter (fun e => namesHeader e.1) = []) : GivesSource entries (.header TenantSource.defaultHeader)
  | named (mode : GivesMode entries "header") (identifiers : ∀ e ∈ entries, isIdentifier e.1 = true) {e : Node × Node}
      {name : String} (one : entries.filter (fun e => namesHeader e.1) = [e]) (given : takenText? e.2 = some name) :
      GivesSource entries (.header name)

/-- the source that the items of the section give, where it is a sequence -/
inductive ItemsGiveSource : List Node → TenantSource → Prop
  | pathPrefix {m : Node} (mode : modeText? m = some "path_prefix") : ItemsGiveSource [m] .pathPrefix
  | unnamed {m : Node} (mode : modeText? m = some "header") : ItemsGiveSource [m] (.header TenantSource.defaultHeader)
  | named {m n : Node} {name : String} (mode : modeText? m = some "header") (given : takenText? n = some name) :
      ItemsGiveSource [m, n] (.header name)

theorem modeText?_mem {n : Node} {mode : String} (given : modeText? n = some mode) :
    mode = "path_prefix" ∨ mode = "header" := by
  unfold modeText? at given
  split at given
  · simpa [modeNames] using List.mem_of_find?_eq_some given
  · cases given

/-- the key of the name is a word or a position, and not the one for the mode -/
theorem identifier_of_namesHeader {k : Node} (name : namesHeader k = true) : isIdentifier k = true ∧ isModeKey k = false := by
  simp only [namesHeader, Bool.or_eq_true, decide_eq_true_eq] at name
  rw [← Bool.not_eq_true, isModeKey_iff]
  rcases name with name | name <;> simp [isIdentifier, name]

/-- the key of the mode is a word, and not the one for the name -/
theorem identifier_of_isModeKey {k : Node} (mode : isModeKey k = true) : isIdentifier k = true ∧ namesHeader k = false := by
  have word := (isModeKey_iff k).1 mode
  simp [isIdentifier, namesHeader, word]

theorem exists_taken_iff (p : Position) (entries : List (Node × Node)) :
    (∃ cs, List.Forall₂ (EntryTaken p) (entries.filter fun e => !isModeKey e.1) cs) ↔
      ∀ e ∈ entries, isModeKey e.1 = false → bufferable e.1 = true ∧ bufferable e.2 = true := by
  constructor
  · rintro ⟨cs, taken⟩ e there other
    obtain ⟨c, -, key, value⟩ := forall₂_exists taken (List.mem_filter.2 ⟨there, by simpa using other⟩)
    exact ⟨(Content.ofNode_isOk_iff p e.1).1 ⟨_, key⟩, (Content.ofNode_isOk_iff _ e.2).1 ⟨_, value⟩⟩
  · intro each
    refine exists_forall₂ fun e there => ?_
    obtain ⟨there, other⟩ := List.mem_filter.1 there
    obtain ⟨key, value⟩ := each e there (by simpa using other)
    obtain ⟨ck, key⟩ := (Content.ofNode_isOk_iff p e.1).2 key
    obtain ⟨cv, value⟩ := (Content.ofNode_isOk_iff (p.enter (stepOf e.1)) e.2).2 value
    exact ⟨(ck, cv), key, value⟩

theorem nameAmong_others {p : Position} {entries : List (Node × Node)} {cs : List (Content × Content)}
    (taken : List.Forall₂ (EntryTaken p) (entries.filter fun e => !isModeKey e.1) cs) (name : Option String) :
    nameAmong none cs = .ok name ↔
      (∀ e ∈ entries, isIdentifier e.1 = true) ∧
        Settles takenText? (entries.filter fun e => namesHeader e.1) none name := by
  rw [nameAmong_eq_ok_iff taken, List.filter_filter]
  have names : (entries.filter fun e => namesHeader e.1 && !isModeKey e.1) = entries.filter fun e => namesHeader e.1 := by
    refine List.filter_congr fun e _ => ?_
    cases mode : isModeKey e.1 with
    | true => simp [(identifier_of_isModeKey mode).2]
    | false => simp
  have identifiers : (∀ e ∈ entries.filter (fun e => !isModeKey e.1), isIdentifier e.1 = true) ↔
      ∀ e ∈ entries, isIdentifier e.1 = true := by
    refine ⟨fun each e there => ?_, fun each e there => each e (List.mem_filter.1 there).1⟩
    cases mode : isModeKey e.1 with
    | true => exact (identifier_of_isModeKey mode).1
    | false => exact each e (List.mem_filter.2 ⟨there, by simp [mode]⟩)
  rw [names, identifiers]

theorem finishSource_eq_ok_iff {p : Position} {mode : String} {c : Content} {src : TenantSource} :
    finishSource p mode c = .ok src ↔ sourceOf mode c = .ok src := by
  unfold finishSource
  cases sourceOf mode c <;> simp [failAround]

theorem GivesMode.unique {entries : List (Node × Node)} {mode mode' : String} (gives : GivesMode entries mode)
    (gives' : GivesMode entries mode') : mode = mode' := by
  obtain ⟨e, one, given⟩ := gives.once
  obtain ⟨e', one', given'⟩ := gives'.once
  obtain rfl : e = e' := by simpa using one.symm.trans one'
  exact Option.some.inj (given.symm.trans given')

theorem GivesSource.mode {entries : List (Node × Node)} {src : TenantSource} (gives : GivesSource entries src) :
    ∃ mode, GivesMode entries mode := by
  cases gives <;> exact ⟨_, by assumption⟩

/-- an entry that is not for the mode does not matter to the mode, as long as it can be taken in -/
theorem givesMode_insert_iff {before after : List (Node × Node)} {e : Node × Node} {mode : String}
    (other : isModeKey e.1 = false) (key : bufferable e.1 = true) (value : bufferable e.2 = true) :
    GivesMode (before ++ e :: after) mode ↔ GivesMode (before ++ after) mode := by
  have modes : (before ++ e :: after).filter (fun e => isModeKey e.1) = (before ++ after).filter (fun e => isModeKey e.1) := by
    simp [other]
  constructor
  · rintro ⟨once, taken⟩
    refine ⟨modes ▸ once, fun e' there => taken e' ?_⟩
    simp only [List.mem_append, List.mem_cons] at there ⊢
    exact there.imp_right .inr
  · rintro ⟨once, taken⟩
    refine ⟨modes ▸ once, fun e' there other' => ?_⟩
    simp only [List.mem_append, List.mem_cons] at there
    rcases there with first | rfl | last
    · exact taken e' (List.mem_append_left _ first) other'
    · exact ⟨key, value⟩
    · exact taken e' (List.mem_append_right _ last) other'

/-- entries that give the same mode and the same name give the same source -/
theorem GivesSource.congr {entries entries' : List (Node × Node)} {src : TenantSource} (gives : GivesSource entries src)
    (mode : ∀ m, GivesMode entries m → GivesMode entries' m)
    (words : (∀ e ∈ entries, isIdentifier e.1 = true) → ∀ e ∈ entries', isIdentifier e.1 = true)
    (none : entries.filter (fun e => namesHeader e.1) = [] → entries'.filter (fun e => namesHeader e.1) = [])
    (one : ∀ e name, takenText? e.2 = some name → entries.filter (fun e => namesHeader e.1) = [e] →
      entries'.filter (fun e => namesHeader e.1) = [e]) : GivesSource entries' src := by
  cases gives with
  | pathPrefix given => exact .pathPrefix (mode _ given)
  | unnamed given identifiers absent => exact .unnamed (mode _ given) (words identifiers) (none absent)
  | named given identifiers found text => exact .named (mode _ given) (words identifiers) (one _ _ text found) text

theorem bufferable_of_isIdentifier {k : Node} (word : isIdentifier k = true) : bufferable k = true := by
  unfold isIdentifier at word
  split at word
  · exact bufferable_of_taken ‹_›
  · exact bufferable_of_taken ‹_›
  · cases word

theorem sourceOf_eq_ok_iff {p : Position} {entries : List (Node × Node)} {cs : List (Content × Content)} {mode : String}
    (taken : List.Forall₂ (EntryTaken p) (entries.filter fun e => !isModeKey e.1) cs) (gives : GivesMode entries mode)
    (src : TenantSource) : sourceOf mode (.mapping cs) = .ok src ↔ GivesSource entries src := by
  have among := nameAmong_others taken
  obtain ⟨e, -, given⟩ := gives.once
  rcases modeText?_mem given with rfl | rfl
  · have read : sourceOf "path_prefix" (.mapping cs) = .ok .pathPrefix := rfl
    rw [read, Except.ok.injEq]
    constructor
    · rintro rfl
      exact .pathPrefix gives
    · intro source
      cases source with
      | pathPrefix => rfl
      | unnamed mode | named mode => exact absurd (gives.unique mode) (by decide)
  · have read : sourceOf "header" (.mapping cs) = (do
        return .header ((← nameAmong none cs).getD TenantSource.defaultHeader)) := rfl
    rw [read, Except.bind_eq_ok_iff]
    constructor
    · rintro ⟨name, found, ⟨⟩⟩
      obtain ⟨identifiers, ⟨none, rfl⟩ | ⟨-, e, text, one, given, rfl⟩⟩ := (among name).1 found
      · exact .unnamed gives identifiers none
      · exact .named gives identifiers one given
    · intro source
      cases source with
      | pathPrefix mode => exact absurd (gives.unique mode) (by decide)
      | unnamed _ identifiers absent => exact ⟨none, (among none).2 ⟨identifiers, .inl ⟨absent, rfl⟩⟩, rfl⟩
      | @named _ identifiers e name one given =>
        exact ⟨some name, (among (some name)).2 ⟨identifiers, .inr ⟨rfl, e, name, one, given, rfl⟩⟩, rfl⟩

/-- **What the section is read as.** -/
theorem readSource_mapping_eq_ok_iff (p : Position) (tag : Option (List UInt8)) (entries : List (Node × Node))
    (src : TenantSource) :
    readSource p (.mapping tag entries) = .ok src ↔ localName? tag = none ∧ GivesSource entries src := by
  rw [readSource]
  cases localName? tag with
  | some name => simp [fail]
  | none =>
    simp only [Option.isSome_none, Bool.false_eq_true, if_false, true_and, Except.bind_eq_ok_iff]
    constructor
    · rintro ⟨⟨mode, cs⟩, split, read⟩
      obtain ⟨taken, settles⟩ := (splitMode_eq_ok_iff p none entries mode cs).1 split
      rcases settles with ⟨-, rfl⟩ | ⟨-, e, mode, one, given, rfl⟩
      · cases read
      · have gives : GivesMode entries mode := ⟨⟨e, one, given⟩, (exists_taken_iff p entries).1 ⟨cs, taken⟩⟩
        exact (sourceOf_eq_ok_iff taken gives src).1 (finishSource_eq_ok_iff.1 read)
    · intro source
      obtain ⟨mode, gives⟩ := source.mode
      obtain ⟨e, one, given⟩ := gives.once
      obtain ⟨cs, taken⟩ := (exists_taken_iff p entries).2 gives.bufferable
      refine ⟨(some mode, cs), (splitMode_eq_ok_iff ..).2 ⟨taken, .inr ⟨rfl, e, mode, one, given, rfl⟩⟩, ?_⟩
      exact finishSource_eq_ok_iff.2 ((sourceOf_eq_ok_iff taken gives src).2 source)

theorem ofItems_taken {p : Position} {first : ℕ} {items : List Node} {cs : List Content}
    (taken : Content.ofItems p first items = .ok cs) :
    List.Forall₂ (fun n c => ∃ q, Content.ofNode q n = .ok c) items cs := by
  induction items generalizing first cs with
  | nil =>
    cases taken
    exact .nil
  | cons n rest ih =>
    rw [Content.ofItems, Except.bind_eq_ok_iff] at taken
    obtain ⟨c, item, taken⟩ := taken
    obtain ⟨cs, items, ⟨⟩⟩ := Except.bind_eq_ok_iff.1 taken
    exact .cons ⟨_, item⟩ (ih items)

/-- what the mode makes of the items after it: in header mode there may be one, which is the name -/
theorem sourceOf_items_eq_ok_iff (p : Position) {m : Node} {mode : String} (given : modeText? m = some mode)
    (rest : List Node) (src : TenantSource) :
    (∃ cs, Content.ofItems p 1 rest = .ok cs ∧ sourceOf mode (.sequence cs) = .ok src) ↔ ItemsGiveSource (m :: rest) src := by
  have header : mode = "header" ∨ mode = "path_prefix" := (modeText?_mem given).symm
  constructor
  · rintro ⟨cs, taken, read⟩
    have items := ofItems_taken taken
    rcases header with rfl | rfl
    · cases items with
      | nil =>
        cases read
        exact .unnamed given
      | @cons n c more cs item others =>
        obtain ⟨q, item⟩ := item
        cases others with
        | nil =>
          obtain ⟨name, text, ⟨⟩⟩ := Except.bind_eq_ok_iff.1 read
          exact .named given ((Content.text?_eq_ok_iff item name).1 text)
        | cons =>
          obtain ⟨name, -, read⟩ := Except.bind_eq_ok_iff.1 read
          cases read
    · cases items with
      | nil =>
        cases read
        exact .pathPrefix given
      | cons => cases read
  · intro source
    cases source with
    | pathPrefix mode' =>
      obtain rfl := Option.some.inj (given.symm.trans mode')
      exact ⟨[], rfl, rfl⟩
    | unnamed mode' =>
      obtain rfl := Option.some.inj (given.symm.trans mode')
      exact ⟨[], rfl, rfl⟩
    | @named _ n name mode' text =>
      obtain rfl := Option.some.inj (given.symm.trans mode')
      obtain ⟨c, item⟩ := (Content.ofNode_isOk_iff (p.enter (.item 1)) n).2 (bufferable_of_taken (takenText?_eq_some_iff.1 text))
      refine ⟨[c], by rw [Content.ofItems, item]; rfl, Except.bind_eq_ok_iff.2 ⟨name, ?_, rfl⟩⟩
      exact (Content.text?_eq_ok_iff item name).2 text

theorem readSource_sequence_eq_ok_iff (p : Position) (tag : Option (List UInt8)) (items : List Node) (src : TenantSource) :
    readSource p (.sequence tag items) = .ok src ↔ localName? tag = none ∧ ItemsGiveSource items src := by
  unfold readSource
  cases localName? tag with
  | some name => simp [fail]
  | none =>
    simp only [Option.isSome_none, Bool.false_eq_true, if_false, true_and]
    cases items with
    | nil =>
      constructor
      · intro read
        cases read
      · intro source
        cases source
    | cons m rest =>
      simp only [Except.bind_eq_ok_iff, readMode_eq_ok_iff, finishSource_eq_ok_iff]
      constructor
      · rintro ⟨mode, given, read⟩
        exact (sourceOf_items_eq_ok_iff p given rest src).1 read
      · intro source
        obtain ⟨mode, given⟩ : ∃ mode, modeText? m = some mode := by
          cases source <;> exact ⟨_, by assumption⟩
        exact ⟨mode, given, (sourceOf_items_eq_ok_iff p given rest src).2 source⟩

theorem bare_ne_shared (n n' : Node) : n.bare ≠ .shared n' := by
  fun_induction Node.bare n with
  | case1 n ih => exact ih
  | case2 n whole => exact fun same => whole n' same

/-- what a node in the place of this section is read as -/
inductive ReadsSource (n : Node) : TenantSource → Prop
  | mapping {tag : Option (List UInt8)} {entries : List (Node × Node)} {src : TenantSource}
      (bare : n.bare = .mapping tag entries) (untagged : localName? tag = none) (gives : GivesSource entries src) :
      ReadsSource n src
  | sequence {tag : Option (List UInt8)} {items : List Node} {src : TenantSource} (bare : n.bare = .sequence tag items)
      (untagged : localName? tag = none) (gives : ItemsGiveSource items src) : ReadsSource n src

theorem readSource_eq_ok_iff (p : Position) (n : Node) (src : TenantSource) :
    readSource p n = .ok src ↔ ReadsSource n src := by
  have bare : readSource p n = readSource p n.bare := by
    fun_induction Node.bare n with
    | case1 n ih => simpa [readSource] using ih
    | case2 n => rfl
  rw [bare]
  constructor
  · intro read
    cases whole : n.bare with
    | mapping tag entries =>
      rw [whole, readSource_mapping_eq_ok_iff] at read
      exact .mapping whole read.1 read.2
    | sequence tag items =>
      rw [whole, readSource_sequence_eq_ok_iff] at read
      exact .sequence whole read.1 read.2
    | scalar s =>
      rw [whole, readSource] at read
      split_ifs at read <;> cases read
    | shared n' => exact absurd whole (bare_ne_shared n n')
    | cut =>
      rw [whole, readSource] at read
      cases read
  · rintro (⟨whole, untagged, gives⟩ | ⟨whole, untagged, gives⟩)
    · rw [whole]
      exact (readSource_mapping_eq_ok_iff ..).2 ⟨untagged, gives⟩
    · rw [whole]
      exact (readSource_sequence_eq_ok_iff ..).2 ⟨untagged, gives⟩

theorem readsSource_mapping_iff (tag : Option (List UInt8)) (entries : List (Node × Node)) (src : TenantSource) :
    ReadsSource (.mapping tag entries) src ↔ localName? tag = none ∧ GivesSource entries src := by
  rw [← readSource_eq_ok_iff .root, readSource_mapping_eq_ok_iff]

theorem readsSource_sequence_iff (tag : Option (List UInt8)) (items : List Node) (src : TenantSource) :
    ReadsSource (.sequence tag items) src ↔ localName? tag = none ∧ ItemsGiveSource items src := by
  rw [← readSource_eq_ok_iff .root, readSource_sequence_eq_ok_iff]

end TenantGateway.Config
