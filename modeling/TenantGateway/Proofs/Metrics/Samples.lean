/-
Samples read off the lines that show them.

A line shows a sample as its name, its labels in braces and its value. `Sample.read?` takes a line apart again. It goes through the
labels character by character (`Labels.read`) and undoes the three escapes of their values on the way.
- `Labels.flatMap_escape`: escaping is three replacements, one after another, the one of backslashes first;
- `Labels.readBraces_render`: labels with plain names are read back as they were, whatever their values are;
- `Labels.render_key_eq_iff`: lists of labels are written alike exactly if they are the same labels in some order;
- `Sample.read?_line`, `Sample.newline_notMem_line`: a sample stays on its line, and is read back from it.
-/
import Mathlib
import TenantGateway.Metrics.Page
import TenantGateway.Proofs.Http.Targets
import TenantGateway.Proofs.Metrics.Totals

namespace TenantGateway

namespace Labels

/-! ## Escapes -/

/-- every occurrence of a character replaced -/
def replace (c : Char) (replacement cs : List Char) : List Char :=
  cs.flatMap fun d => if d = c then replacement else [d]

/-- the backslashes come first, so that those which the other two put in stay single -/
theorem flatMap_escape (cs : List Char) :
    cs.flatMap escape = replace '\n' ['\\', 'n'] (replace '"' ['\\', '"'] (replace '\\' ['\\', '\\'] cs)) := by
  simp only [replace, List.flatMap_assoc]
  refine congrArg (List.flatMap · cs) (funext fun c => ?_)
  unfold escape
  split_ifs with backslash quote newline
  · rfl
  · simp [quote]
  · simp [newline]
  · simp [quote, newline]

/-- were line feeds replaced before backslashes, a line feed would be written as a backslash and a letter are -/
example : replace '\\' ['\\', '\\'] (replace '\n' ['\\', 'n'] ['\n']) =
    replace '\\' ['\\', '\\'] (replace '\n' ['\\', 'n'] ['\\', 'n']) := by
  decide

theorem newline_notMem_escape (c : Char) : '\n' ∉ escape c := by
  unfold escape
  split_ifs with backslash quote newline
  · decide
  · decide
  · decide
  · simpa using Ne.symm newline

/-- the character that an escape stands for, by what follows the backslash -/
def unescape? : Char → Option Char
  | '\\' => some '\\'
  | '"' => some '"'
  | 'n' => some '\n'
  | _ => none

/-! ## Labels in braces -/

/-- labels of whose names nothing can be taken for a mark around them -/
def Plain (l : Labels) : Prop :=
  ∀ label ∈ l, ∀ c ∈ label.1.toList, c ≠ '=' ∧ c ≠ '\x7d' ∧ c ≠ '\n'

instance (l : Labels) : Decidable l.Plain :=
  inferInstanceAs (Decidable (∀ label ∈ l, ∀ c ∈ label.1.toList, c ≠ '=' ∧ c ≠ '\x7d' ∧ c ≠ '\n'))

/-- identifiers are such names -/
theorem plain_of_identifiers {l : Labels} (identifiers : ∀ label ∈ l, ∀ c ∈ label.1.toList, c.isAlphanum = true ∨ c = '_') :
    l.Plain := by
  intro label labels c member
  refine ⟨?_, ?_, ?_⟩
  all_goals
    rintro rfl
    have := identifiers label labels _ member
    revert this
    decide

/-- where a reader stands in a list of labels -/
inductive Place
  | name
  /-- after the equals sign -/
  | opening
  | value
  /-- after a backslash -/
  | escaped
  /-- after the closing quote -/
  | closing

/-- the labels up to the closing brace, after those that are read already, and what follows the brace; `name` and `value` are what
is read of the label that the reader stands in -/
def read (place : Place) (name value : List Char) (already : Labels) : List Char → Option (Labels × List Char)
  | [] => none
  | c :: rest =>
    match place with
    | .name => if c = '=' then read .opening name [] already rest else read .name (name ++ [c]) [] already rest
    | .opening => if c = '"' then read .value name [] already rest else none
    | .value =>
      if c = '"' then read .closing [] [] (already ++ [(String.ofList name, String.ofList value)]) rest
      else if c = '\\' then read .escaped name value already rest
      else read .value name (value ++ [c]) already rest
    | .escaped => (unescape? c).bind fun d => read .value name (value ++ [d]) already rest
    | .closing =>
      if c = ',' then read .name [] [] already rest
      else if c = '\x7d' then some (already, rest)
      else none

/-- the labels after an opening brace, of which there may be none -/
def readBraces : List Char → Option (Labels × List Char)
  | '\x7d' :: rest => some ([], rest)
  | cs => read .name [] [] [] cs

section Reading

variable (name value : List Char) (already : Labels) (rest : List Char)

theorem read_name {cs : List Char} (plain : ∀ c ∈ cs, c ≠ '=') :
    read .name name [] already (cs ++ '=' :: rest) = read .opening (name ++ cs) [] already rest := by
  induction cs generalizing name with
  | nil => simp [read]
  | cons c cs ih =>
    obtain ⟨other, plain⟩ := List.forall_mem_cons.1 plain
    rw [List.cons_append, read, if_neg other, ih (name ++ [c]) plain]
    simp

/-- a character of a value is read as it was before it was escaped -/
theorem read_escape (c : Char) : read .value name value already (escape c ++ rest) = read .value name (value ++ [c]) already rest := by
  unfold escape
  split_ifs with backslash quote newline
  · subst backslash
    rfl
  · subst quote
    rfl
  · subst newline
    rfl
  · rw [List.singleton_append, read, if_neg quote, if_neg backslash]

theorem read_value (cs : List Char) :
    read .value name value already (cs.flatMap escape ++ '"' :: rest) =
      read .closing [] [] (already ++ [(String.ofList name, String.ofList (value ++ cs))]) rest := by
  induction cs generalizing value with
  | nil => simp [read]
  | cons c cs ih =>
    rw [List.flatMap_cons, List.append_assoc, read_escape, ih (value ++ [c])]
    simp

theorem read_renderLabel {label : String × String} (plain : ∀ c ∈ label.1.toList, c ≠ '=') :
    read .name [] [] already (renderLabel label ++ rest) = read .closing [] [] (already ++ [label]) rest := by
  obtain ⟨key, text⟩ := label
  have shown : renderLabel (key, text) ++ rest = key.toList ++ '=' :: '"' :: (text.toList.flatMap escape ++ '"' :: rest) := by
    simp [renderLabel]
  rw [shown, read_name [] already _ plain, read, if_pos rfl, read_value]
  simp

end Reading

/-! ## Lists of labels -/

theorem render_singleton (label : String × String) : render [label] = renderLabel label := by
  simp [render]

theorem render_cons_cons (label next : String × String) (l : Labels) :
    render (label :: next :: l) = renderLabel label ++ ',' :: render (next :: l) := by
  simp [render]

/-- what is written of labels begins with the name of the first -/
theorem exists_render_cons (label : String × String) (l : Labels) :
    ∃ tail, render (label :: l) = label.1.toList ++ '=' :: tail := by
  cases l with
  | nil => exact ⟨_, render_singleton label⟩
  | cons next l =>
    refine ⟨'"' :: (label.2.toList.flatMap escape ++ '"' :: ',' :: render (next :: l)), ?_⟩
    rw [render_cons_cons]
    simp [renderLabel]

theorem isEmpty_render_cons (label : String × String) (l : Labels) : (render (label :: l)).isEmpty = false := by
  obtain ⟨tail, shown⟩ := exists_render_cons label l
  rw [shown]
  simp

/-- one more label at the end -/
theorem render_concat (l : Labels) (label : String × String) :
    render (l ++ [label]) = if l.render.isEmpty then renderLabel label else l.render ++ ',' :: renderLabel label := by
  induction l with
  | nil => exact render_singleton label
  | cons first l ih =>
    rw [isEmpty_render_cons, if_neg Bool.false_ne_true]
    cases l with
    | nil => rw [List.singleton_append, render_cons_cons, render_singleton, render_singleton]
    | cons next l =>
      rw [isEmpty_render_cons, if_neg Bool.false_ne_true] at ih
      simp only [List.cons_append] at ih ⊢
      rw [render_cons_cons, ih, render_cons_cons, List.append_assoc, List.cons_append]

theorem newline_notMem_renderLabel {label : String × String} (plain : ∀ c ∈ label.1.toList, c ≠ '\n') :
    '\n' ∉ renderLabel label := by
  have key : '\n' ∉ label.1.toList := fun member => plain _ member rfl
  have text : '\n' ∉ label.2.toList.flatMap escape := by
    simp only [List.mem_flatMap, not_exists, not_and]
    exact fun c _ => newline_notMem_escape c
  simp [renderLabel, key, text]

theorem newline_notMem_render {l : Labels} (plain : l.Plain) : '\n' ∉ render l := by
  induction l with
  | nil => exact List.not_mem_nil
  | cons label l ih =>
    obtain ⟨own, plain⟩ := List.forall_mem_cons.1 plain
    have first := newline_notMem_renderLabel fun c member => (own c member).2.2
    cases l with
    | nil => rwa [render_singleton]
    | cons next l =>
      rw [render_cons_cons]
      simp [first, ih plain]

/-- labels are read up to the brace, where there is at least one of them -/
theorem read_render (already : Labels) (label : String × String) (l : Labels) (plain : Plain (label :: l)) (rest : List Char) :
    read .name [] [] already (render (label :: l) ++ '\x7d' :: rest) = some (already ++ label :: l, rest) := by
  induction l generalizing already label with
  | nil =>
    obtain ⟨own, -⟩ := List.forall_mem_cons.1 plain
    rw [render_singleton, read_renderLabel already _ fun c member => (own c member).1]
    rfl
  | cons next l ih =>
    obtain ⟨own, plain⟩ := List.forall_mem_cons.1 plain
    rw [render_cons_cons, List.append_assoc, read_renderLabel already _ fun c member => (own c member).1, List.cons_append, read,
      if_pos rfl, ih (already ++ [label]) next plain]
    simp

/-- labels with plain names are read back, whatever their values are -/
theorem readBraces_render {l : Labels} (plain : l.Plain) (rest : List Char) :
    readBraces (render l ++ '\x7d' :: rest) = some (l, rest) := by
  cases l with
  | nil => rfl
  | cons label l =>
    -- what is written begins with a name or an equals sign, and neither begins with a closing brace
    have opened : ∀ tail, render (label :: l) ++ '\x7d' :: rest ≠ '\x7d' :: tail := by
      intro tail closed
      obtain ⟨tail', shown⟩ := exists_render_cons label l
      obtain ⟨own, -⟩ := List.forall_mem_cons.1 plain
      rw [shown] at closed
      cases key : label.1.toList with
      | nil => simp [key] at closed
      | cons c cs =>
        rw [key] at closed own
        exact (own c List.mem_cons_self).2.1 (List.cons.inj closed).1
    rw [readBraces]
    · exact read_render [] label l plain rest
    · exact opened

theorem plain_key_iff (l : Labels) : l.key.Plain ↔ l.Plain :=
  forall_congr' fun label => imp_congr_left (l.mem_key label)

theorem Plain.concat {l : Labels} (plain : l.Plain) {label : String × String} (own : Plain [label]) : Plain (l ++ [label]) := by
  intro other member
  rcases List.mem_append.1 member with before | last
  · exact plain other before
  · exact own other last

/-- labels that are written alike are the same -/
theorem render_injective {l l' : Labels} (plain : l.Plain) (plain' : l'.Plain) (same : l.render = l'.render) : l = l' := by
  have read := readBraces_render plain []
  rw [same, readBraces_render plain' []] at read
  exact (Prod.mk.inj (Option.some.inj read)).1.symm

theorem render_key_eq_iff {l l' : Labels} (plain : l.Plain) (plain' : l'.Plain) :
    l.key.render = l'.key.render ↔ l.Perm l' := by
  constructor
  · intro same
    have keys := render_injective ((plain_key_iff l).2 plain) ((plain_key_iff l').2 plain') same
    exact (perm_key l).symm.trans (keys ▸ perm_key l')
  · intro same
    rw [key_eq (same.trans (perm_key l').symm) (sorted_key l')]

end Labels

/-! ## Samples -/

structure Sample where
  name : String
  labels : Labels
  value : ℤ
  deriving DecidableEq

namespace Sample

/-- the line that shows a sample -/
def line (s : Sample) : String :=
  Metrics.sample s.name s.labels.render (toString s.value)

/-- the sample that a line shows, if it shows one -/
def read? (line : String) : Option Sample :=
  match Text.cutAt '\x7b' line.toList with
  | (_, none) => none
  | (name, some braces) =>
    match Labels.readBraces braces with
    | some (labels, ' ' :: value) => (String.ofList value).toInt?.map (⟨String.ofList name, labels, ·⟩)
    | _ => none

theorem newline_notMem_toDigits (n : ℕ) : '\n' ∉ Nat.toDigits 10 n := by
  intro member
  have digit := Nat.isDigit_of_mem_toDigits (by decide) (by decide) member
  exact absurd digit (by decide)

theorem newline_notMem_toString (n : ℤ) : '\n' ∉ (toString n).toList := by
  rw [Int.toString_eq_repr, Int.repr_eq_if]
  split_ifs with positive
  · simpa using newline_notMem_toDigits n.toNat
  · simpa using newline_notMem_toDigits (-n).toNat

variable {s : Sample}

theorem toList_line (s : Sample) :
    s.line.toList = s.name.toList ++ '\x7b' :: (s.labels.render ++ '\x7d' :: ' ' :: (toString s.value).toList) := by
  simp [line, Metrics.sample]

/-- a sample is read back from its line -/
theorem read?_line (name : '\x7b' ∉ s.name.toList) (plain : s.labels.Plain) : read? s.line = some s := by
  rw [read?, toList_line, Text.cutAt_append name, Text.cutAt, if_pos rfl]
  simp only [Labels.readBraces_render plain, List.append_nil, String.ofList_toList, Int.toString_eq_repr, Int.toInt?_repr,
    Option.map_some]

/-- a sample stays on its line -/
theorem newline_notMem_line (name : '\n' ∉ s.name.toList) (plain : s.labels.Plain) : '\n' ∉ s.line.toList := by
  have labels := Labels.newline_notMem_render plain
  have value := newline_notMem_toString s.value
  rw [toList_line]
  simp [-Int.toString_eq_repr, name, labels, value]

end Sample

end TenantGateway
