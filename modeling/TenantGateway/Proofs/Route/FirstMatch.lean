/-
The route of a path.

A pattern covers a path (`Covers`) where it stands in it, trimmed and without gaps, before the first question mark; two letters of ASCII
that differ in their case are the same there (`Text.SameButCase`), and no other two characters are. Nothing is lowered in this relation,
and `RouteRule.appliesTo_iff` says that the rule made of a pattern applies to the paths that the pattern covers. `classify_by_first`
puts it together for any patterns and any path: the first pattern that covers the path names its category.
-/
import Mathlib.Tactic
import TenantGateway.Proofs.Config.Records
import TenantGateway.Proofs.Registry.History

namespace TenantGateway

/-! ## Texts that differ in case -/

namespace Text

/-- the capital and the small form of a letter of ASCII -/
def IsCapitalOf (a b : Char) : Prop := 65 ≤ a.toNat ∧ a.toNat ≤ 90 ∧ b.toNat = a.toNat + 32

/-- a character and itself, or the two forms of a letter of ASCII -/
def SameLetter (a b : Char) : Prop := a = b ∨ IsCapitalOf a b ∨ IsCapitalOf b a

/-- two texts agree, the case of ASCII letters aside -/
def SameButCase (cs ds : List Char) : Prop := List.Forall₂ SameLetter cs ds

theorem toNat_toLower (c : Char) :
    c.toLower.toNat = if 65 ≤ c.toNat ∧ c.toNat ≤ 90 then c.toNat + 32 else c.toNat := by
  have range : (c.val ≥ 'A'.val ∧ c.val ≤ 'Z'.val) ↔ 65 ≤ c.toNat ∧ c.toNat ≤ 90 := by
    simp [UInt32.le_iff_toNat_le]
  unfold Char.toLower
  split_ifs with capital small small
  · have sum : (c.val + ('a'.val - 'A'.val)).toNat = (c.toNat + 32) % 2 ^ 32 := UInt32.toNat_add ..
    show (c.val + ('a'.val - 'A'.val)).toNat = c.toNat + 32
    omega
  · exact absurd (range.1 capital) small
  · exact absurd (range.2 small) capital
  · rfl

theorem sameLetter_iff (a b : Char) : SameLetter a b ↔ a.toLower = b.toLower := by
  rw [← Char.toNat_inj, toNat_toLower, toNat_toLower]
  unfold SameLetter IsCapitalOf
  rw [← Char.toNat_inj]
  split_ifs <;> omega

theorem sameButCase_iff (cs ds : List Char) : SameButCase cs ds ↔ lowerAscii cs = lowerAscii ds := by
  have letters : SameLetter = fun a b => a.toLower = b.toLower := by
    funext a b
    exact propext (sameLetter_iff a b)
  unfold SameButCase lowerAscii
  rw [letters, ← List.forall₂_eq_eq_eq, List.forall₂_map_left_iff, List.forall₂_map_right_iff]

/-- no blank is a letter -/
theorem isBlank_toLower (c : Char) : isBlank c.toLower = isBlank c := by
  unfold isBlank
  rw [toNat_toLower, Bool.eq_iff_iff]
  split_ifs
  · simp only [Bool.or_eq_true, Bool.and_eq_true, decide_eq_true_eq]
    omega
  · rfl

theorem lowerAscii_trimChars (cs : List Char) : lowerAscii (trimChars cs) = trimChars (lowerAscii cs) := by
  have blank : isBlank ∘ Char.toLower = isBlank := funext isBlank_toLower
  unfold lowerAscii trimChars
  rw [List.dropWhile_map, blank, ← List.map_reverse, List.dropWhile_map, blank, List.map_reverse]

/-- a question mark is no letter -/
theorem lowerAscii_before (cs : List Char) : lowerAscii (before '?' cs) = before '?' (lowerAscii cs) := by
  have mark : ((fun c => decide (c ≠ '?')) ∘ Char.toLower) = fun c => decide (c ≠ '?') := by
    funext c
    have small : c.toLower = '?' ↔ c = '?' := by
      rw [← Char.toNat_inj, ← Char.toNat_inj, toNat_toLower]
      have code : '?'.toNat = 63 := rfl
      split_ifs <;> omega
    simp [small]
  unfold lowerAscii before
  rw [List.takeWhile_map, mark]

/-! ## Texts within texts -/

theorem occursIn_iff (needle cs : List Char) : occursIn needle cs = true ↔ needle <:+: cs := by
  induction cs with
  | nil => simp [occursIn]
  | cons c cs ih => rw [occursIn, Bool.or_eq_true, List.isPrefixOf_iff_prefix, ih, List.infix_cons_iff]

/-- a text stands within another, without gaps and the case of ASCII letters aside -/
def StandsIn (needle cs : List Char) : Prop :=
  ∃ front part back, cs = front ++ part ++ back ∧ SameButCase needle part

theorem standsIn_iff (needle cs : List Char) : StandsIn needle cs ↔ occursIn (lowerAscii needle) (lowerAscii cs) = true := by
  rw [occursIn_iff]
  constructor
  · rintro ⟨front, part, back, rfl, same⟩
    refine ⟨lowerAscii front, lowerAscii back, ?_⟩
    rw [(sameButCase_iff needle part).1 same]
    simp [lowerAscii]
  · rintro ⟨front, back, whole⟩
    -- what was lowered to the needle is a part of the text
    obtain ⟨start, back', rfl, lowered, -⟩ := List.map_eq_append_iff.1 whole.symm
    obtain ⟨front', part, rfl, -, lowered⟩ := List.map_eq_append_iff.1 lowered
    exact ⟨front', part, back', rfl, (sameButCase_iff needle part).2 lowered.symm⟩

end Text

open Text

instance (needle cs : List Char) : Decidable (Text.StandsIn needle cs) :=
  decidable_of_iff _ (Text.standsIn_iff needle cs).symm

/-! ## Rules -/

/-- a pattern stands in a path, before the first question mark; blanks around the pattern do not count -/
def Covers (pattern path : String) : Prop :=
  StandsIn (trimChars pattern.toList) (before '?' path.toList)

instance (pattern path : String) : Decidable (Covers pattern path) :=
  inferInstanceAs (Decidable (StandsIn _ _))

/-- the case of a path does not count -/
theorem covers_recased (pattern : String) {path path' : String} (same : SameButCase path.toList path'.toList) :
    Covers pattern path ↔ Covers pattern path' := by
  unfold Covers
  rw [standsIn_iff, standsIn_iff, lowerAscii_before, lowerAscii_before, (sameButCase_iff _ _).1 same]

namespace RouteRule

/-- which patterns make a rule, and what rule they make -/
theorem make_eq_ok_iff (pattern : String) (category : Category) (rule : RouteRule) :
    make pattern category = .ok rule ↔
      trim pattern ≠ "" ∧ category ≠ .unmatched ∧
        rule = ⟨String.ofList (lowerAscii (trimChars pattern.toList)), category⟩ := by
  have core : (trim pattern).toList = trimChars pattern.toList := String.toList_ofList
  unfold make Category.isMatched
  dsimp only
  rw [core]
  split_ifs with empty matched
  · simp [String.isEmpty_iff.1 empty]
  · have nonempty : trim pattern ≠ "" := fun same => empty (String.isEmpty_iff.2 same)
    simp only [decide_eq_true_eq] at matched
    simp [nonempty, matched, eq_comm]
  · simp only [decide_eq_true_eq] at matched
    simp [matched]

/-- a rule applies to the paths that its pattern covers -/
theorem appliesTo_iff {pattern : String} {category : Category} {rule : RouteRule} (made : make pattern category = .ok rule)
    (path : String) : rule.appliesTo (lowerAscii (before '?' path.toList)) = true ↔ Covers pattern path := by
  obtain ⟨-, -, rfl⟩ := (make_eq_ok_iff pattern category rule).1 made
  unfold appliesTo Covers
  rw [standsIn_iff, String.toList_ofList]

/-- the case of a pattern does not count -/
theorem make_recased {pattern pattern' : String} (same : SameButCase pattern.toList pattern'.toList) {category : Category}
    {rule : RouteRule} (made : make pattern category = .ok rule) : make pattern' category = .ok rule := by
  obtain ⟨named, matched, rfl⟩ := (make_eq_ok_iff pattern category rule).1 made
  have lowered : lowerAscii (trimChars pattern.toList) = lowerAscii (trimChars pattern'.toList) := by
    rw [lowerAscii_trimChars, lowerAscii_trimChars, (sameButCase_iff _ _).1 same]
  refine (make_eq_ok_iff pattern' category _).2 ⟨?_, matched, by rw [lowered]⟩
  -- nothing is left of one pattern exactly if nothing is left of the other
  intro empty
  have none : trimChars pattern'.toList = [] := String.ofList_eq_empty_iff.1 empty
  rw [none] at lowered
  exact named (String.ofList_eq_empty_iff.2 (List.map_eq_nil_iff.1 lowered))

end RouteRule

/-! ## Tables -/

namespace RouteTable

/-- rules made of patterns and categories, one of each -/
def Makes (pairs : List (String × Category)) (rules : List RouteRule) : Prop :=
  List.Forall₂ (fun pair rule => RouteRule.make pair.1 pair.2 = .ok rule) pairs rules

/-- the same categories under patterns that agree, the case of ASCII letters aside -/
def Recased (pairs pairs' : List (String × Category)) : Prop :=
  List.Forall₂ (fun pair pair' => SameButCase pair.1.toList pair'.1.toList ∧ pair.2 = pair'.2) pairs pairs'

theorem makes_iff (pairs : List (String × Category)) (rules : List RouteRule) :
    pairs.mapM (fun pair => RouteRule.make pair.1 pair.2) = .ok rules ↔ Makes pairs rules :=
  Except.mapM_eq_ok_iff

theorem make_eq_ok_iff (rules : List RouteRule) (table : RouteTable) :
    make rules = .ok table ↔ rules ≠ [] ∧ table = ⟨rules⟩ := by
  unfold make
  cases rules <;> simp [eq_comm]

/-- the first pattern that covers a path decides -/
theorem classify_eq {pairs : List (String × Category)} {rules : List RouteRule} (makes : Makes pairs rules) (path : String) :
    classify ⟨rules⟩ path = ((pairs.find? fun pair => Covers pair.1 path).map (·.2)).getD .unmatched := by
  induction makes with
  | nil => rfl
  | @cons pair rule pairs rules made _ ih =>
    have applies := RouteRule.appliesTo_iff made path
    obtain ⟨-, -, shape⟩ := (RouteRule.make_eq_ok_iff _ _ _).1 made
    unfold classify at ih ⊢
    dsimp only at ih ⊢
    by_cases covers : Covers pair.1 path
    · simp only [List.find?_cons, applies.2 covers, decide_eq_true covers, Option.map_some, Option.getD_some]
      rw [shape]
    · simp only [List.find?_cons, eq_false_of_ne_true (mt applies.1 covers), decide_eq_false covers]
      exact ih

section

variable {pairs : List (String × Category)} {rules : List RouteRule} (makes : Makes pairs rules) {path : String}
include makes

theorem classify_of_first {front back : List (String × Category)} {pattern : String} {category : Category}
    (split : pairs = front ++ (pattern, category) :: back) (early : ∀ pair ∈ front, ¬Covers pair.1 path)
    (covers : Covers pattern path) : classify ⟨rules⟩ path = category := by
  have found : pairs.find? (fun pair => Covers pair.1 path) = some (pattern, category) := by
    refine List.find?_eq_some_iff_append.2 ⟨by simpa using covers, front, back, split, ?_⟩
    simpa using early
  rw [classify_eq makes, found]
  rfl

/-- a path that some pattern covers belongs to the category of a pattern -/
theorem exists_first (some' : ∃ pair ∈ pairs, Covers pair.1 path) :
    ∃ front pattern category back, pairs = front ++ (pattern, category) :: back ∧
      (∀ pair ∈ front, ¬Covers pair.1 path) ∧ Covers pattern path ∧ category ≠ .unmatched ∧
      classify ⟨rules⟩ path = category := by
  have found : (pairs.find? fun pair => Covers pair.1 path).isSome = true := by
    simpa [List.find?_isSome] using some'
  obtain ⟨⟨pattern, category⟩, first⟩ := Option.isSome_iff_exists.1 found
  obtain ⟨covers, front, back, split, early⟩ := List.find?_eq_some_iff_append.1 first
  have covers : Covers pattern path := by simpa using covers
  have early : ∀ pair ∈ front, ¬Covers pair.1 path := by simpa using early
  obtain ⟨rule, -, made⟩ := Config.forall₂_exists makes (List.mem_of_find?_eq_some first)
  obtain ⟨-, matched, -⟩ := (RouteRule.make_eq_ok_iff _ _ _).1 made
  exact ⟨front, pattern, category, back, split, early, covers, matched, classify_of_first makes split early covers⟩

theorem classify_eq_unmatched_iff : classify ⟨rules⟩ path = .unmatched ↔ ∀ pair ∈ pairs, ¬Covers pair.1 path := by
  constructor
  · intro unmatched pair member covers
    obtain ⟨-, -, category, -, -, -, -, matched, result⟩ := exists_first makes ⟨pair, member, covers⟩
    exact matched (result.symm.trans unmatched)
  · intro uncovered
    have absent : pairs.find? (fun pair => Covers pair.1 path) = none := by
      simpa [List.find?_eq_none] using uncovered
    rw [classify_eq makes, absent]
    rfl

/-- the case of patterns does not count -/
theorem makes_recased {pairs' : List (String × Category)} (same : Recased pairs pairs') : Makes pairs' rules := by
  induction makes generalizing pairs' with
  | nil =>
    cases same
    exact .nil
  | cons made _ ih =>
    cases same with
    | cons head tail =>
      obtain ⟨recased, category⟩ := head
      refine .cons ?_ (ih tail)
      rw [← category]
      exact RouteRule.make_recased recased made

/-- a table made of the same patterns and of further ones after them keeps the category of every path that had one -/
theorem classify_longer {more : List (String × Category)} {rules' : List RouteRule} (makes' : Makes (pairs ++ more) rules')
    (matched : classify ⟨rules⟩ path ≠ .unmatched) : classify ⟨rules'⟩ path = classify ⟨rules⟩ path := by
  have covered : ∃ pair ∈ pairs, Covers pair.1 path := by
    by_contra none
    exact matched ((classify_eq_unmatched_iff makes).2 fun pair member covers => none ⟨pair, member, covers⟩)
  obtain ⟨front, pattern, category, back, split, early, covers, -, result⟩ := exists_first makes covered
  have longer : pairs ++ more = front ++ (pattern, category) :: (back ++ more) := by simp [split]
  rw [result]
  exact classify_of_first makes' longer early covers

end

/-- **The first pattern decides.** Take any patterns with their categories of which rules and a table can be made, and any path. If a
pattern covers the path and none before it does, the path belongs to its category, and it is unmatched exactly if no pattern covers it.
So a category that is found is that of a pattern; it changes neither with the case of letters in the path or in the patterns, which make
the same table in any case, nor with patterns that are added at the end. -/
theorem classify_by_first {pairs : List (String × Category)} {rules : List RouteRule} {table : RouteTable}
    (compiled : pairs.mapM (fun pair => RouteRule.make pair.1 pair.2) = .ok rules) (made : make rules = .ok table) :
    (∀ path front pattern category back, pairs = front ++ (pattern, category) :: back →
      (∀ pair ∈ front, ¬Covers pair.1 path) → Covers pattern path → table.classify path = category) ∧
    (∀ path, table.classify path = .unmatched ↔ ∀ pair ∈ pairs, ¬Covers pair.1 path) ∧
    (∀ path, table.classify path ≠ .unmatched → ∃ pair ∈ pairs, Covers pair.1 path ∧ pair.2 = table.classify path) ∧
    (∀ path path', SameButCase path.toList path'.toList → table.classify path' = table.classify path) ∧
    (∀ pairs', Recased pairs pairs' → pairs'.mapM (fun pair => RouteRule.make pair.1 pair.2) = .ok rules) ∧
    ∀ more rules' table', (pairs ++ more).mapM (fun pair => RouteRule.make pair.1 pair.2) = .ok rules' →
      make rules' = .ok table' →
      ∀ path, table.classify path ≠ .unmatched → table'.classify path = table.classify path := by
  have makes := (makes_iff pairs rules).1 compiled
  obtain ⟨-, rfl⟩ := (make_eq_ok_iff rules table).1 made
  refine ⟨?_, ?_, ?_, ?_, ?_, ?_⟩
  · intro path front pattern category back split early covers
    exact classify_of_first makes split early covers
  · intro path
    exact classify_eq_unmatched_iff makes
  · intro path matched
    by_contra none
    refine matched ((classify_eq_unmatched_iff makes).2 fun pair member covers => none ?_)
    obtain ⟨front, pattern, category, back, split, -, covers, -, result⟩ := exists_first makes ⟨pair, member, covers⟩
    exact ⟨(pattern, category), by simp [split], covers, result.symm⟩
  · intro path path' same
    have covers (pair : String × Category) : Covers pair.1 path' ↔ Covers pair.1 path := (covers_recased pair.1 same).symm
    simp only [classify_eq makes, covers]
  · intro pairs' same
    exact (makes_iff pairs' rules).2 (makes_recased makes same)
  · intro more rules' table' compiled' made' path matched
    obtain ⟨-, rfl⟩ := (make_eq_ok_iff rules' table').1 made'
    exact classify_longer makes ((makes_iff _ _).1 compiled') matched

/-- patterns that overlap, one with blanks around it, one with a letter outside of ASCII and one that no path has before its query -/
def overlapping : List (String × Category) :=
  [("É/openai", .documentIntelligence), ("chat?x", .documentIntelligence), (" OpenAI\t", .openai),
    ("penai/d", .documentIntelligence)]

def overlappingRules : List RouteRule :=
  [⟨"É/openai", .documentIntelligence⟩, ⟨"chat?x", .documentIntelligence⟩, ⟨"openai", .openai⟩,
    ⟨"penai/d", .documentIntelligence⟩]

/-- **Overlapping patterns.** Two patterns cover the path, another one stands in its query only, and one differs from it in the case of
a letter that is not of ASCII. -/
theorem classify_by_first_overlapping :
    overlapping.mapM (fun pair => RouteRule.make pair.1 pair.2) = .ok overlappingRules ∧
      make overlappingRules = .ok ⟨overlappingRules⟩ ∧
      Covers " OpenAI\t" "/é/oPENai/deployments/chat?x" ∧ Covers "penai/d" "/é/oPENai/deployments/chat?x" ∧
      classify ⟨overlappingRules⟩ "/é/oPENai/deployments/chat?x" = .openai ∧
      classify ⟨overlappingRules⟩ "/chat?x" = .unmatched := by
  have compiled : overlapping.mapM (fun pair => RouteRule.make pair.1 pair.2) = .ok overlappingRules := by
    decide +kernel
  have made : make overlappingRules = .ok ⟨overlappingRules⟩ := rfl
  obtain ⟨first, unmatched, -⟩ := classify_by_first compiled made
  have covers : Covers " OpenAI\t" "/é/oPENai/deployments/chat?x" := by
    decide +kernel
  refine ⟨compiled, made, covers, by decide +kernel, ?_, ?_⟩
  · exact first _ (overlapping.take 2) _ _ (overlapping.drop 3) rfl (by decide +kernel) covers
  · exact (unmatched _).2 (by decide +kernel)

end RouteTable

end TenantGateway
