/-
What request targets read as.

The path of a target is the asterisk, nothing, or a text that begins with a slash (`Uri.path_of_parse`). Where a target begins with a
segment, the segment is the tenant in path mode, and what is forwarded depends on the rest of the target alone
(`TenantSource.extract_segment`).
-/
import Mathlib.Tactic
import TenantGateway.Extraction

namespace TenantGateway

/-! ## Texts that are cut -/

namespace Text

variable {mark : Char} {xs : List Char}

theorem before_append (absent : mark ∉ xs) (ys : List Char) : before mark (xs ++ ys) = xs ++ before mark ys := by
  refine List.takeWhile_append_of_pos fun c member => ?_
  have other : c ≠ mark := ne_of_mem_of_not_mem member absent
  simpa using other

/-- what comes after the mark does not count -/
theorem before_append_mark (xs ys : List Char) : before mark (xs ++ mark :: ys) = before mark xs := by
  induction xs with
  | nil => simp [before]
  | cons c xs ih =>
    unfold before at ih ⊢
    rw [List.cons_append, List.takeWhile_cons, List.takeWhile_cons, ih]

theorem cutAt_append (absent : mark ∉ xs) (ys : List Char) :
    cutAt mark (xs ++ ys) = (xs ++ (cutAt mark ys).1, (cutAt mark ys).2) := by
  induction xs with
  | nil => rfl
  | cons c xs ih =>
    obtain ⟨other, absent⟩ := List.ne_and_not_mem_of_not_mem_cons absent
    rw [List.cons_append, cutAt, if_neg other.symm, ih absent]
    rfl

/-- a text falls into what is before the mark, and the mark with what follows it -/
theorem cutAt_parts (mark : Char) (cs : List Char) :
    mark ∉ (cutAt mark cs).1 ∧ cs = (cutAt mark cs).1 ++ ((cutAt mark cs).2.map (mark :: ·)).getD [] := by
  induction cs with
  | nil => simp [cutAt]
  | cons c cs ih =>
    rw [cutAt]
    split_ifs with same
    · simp [same]
    · obtain ⟨absent, parts⟩ := ih
      refine ⟨?_, congrArg (c :: ·) parts⟩
      simp only [List.mem_cons, not_or]
      exact ⟨fun found => same found.symm, absent⟩

theorem drop_takeWhile (p : Char → Bool) (cs : List Char) : cs.drop (cs.takeWhile p).length = cs.dropWhile p := by
  induction cs with
  | nil => rfl
  | cons c cs ih => by_cases passes : p c = true <;> simp [passes, ih]

end Text

open Text

namespace Uri

/-! ## The path of a target -/

/-- a text that is empty or begins with a slash -/
def IsRest (cs : List Char) : Prop := ∀ c ∈ cs.head?, c = '/'

theorem isRest_before {cs : List Char} (rest : IsRest cs) : IsRest (before '#' cs) := by
  cases cs with
  | nil => exact rest
  | cons c cs =>
    obtain rfl : c = '/' := rest c rfl
    simp [IsRest, before]

theorem isRest_cutAt {cs : List Char} (rest : IsRest cs) : IsRest (cutAt '?' cs).1 := by
  cases cs with
  | nil => exact rest
  | cons c cs =>
    obtain rfl : c = '/' := rest c rfl
    simp [IsRest, cutAt]

/-- an authority goes on as far as a character that ends it -/
theorem endsAuthority_of_head (cs : List Char) : ∀ c ∈ (cs.dropWhile (!endsAuthority ·)).head?, endsAuthority c = true := by
  intro c member
  have ended := List.head?_dropWhile_not (!endsAuthority ·) cs
  rw [member] at ended
  simpa using ended

/-- what is read off a path and a query, which may be followed by a fragment -/
theorem eq_of_ofPath? {cs : List Char} {u : Uri} (read : ofPath? cs = some u) :
    let (target, query) := cutAt '?' (before '#' cs)
    u = ⟨if target.isEmpty then "/" else String.ofList target, query.map String.ofList⟩ := by
  unfold ofPath? at read
  dsimp only at read ⊢
  split at read
  · exact (Option.some.inj read).symm
  · cases read

/-- where an authority has ended, a path begins with a slash -/
theorem path_of_ofPath? {cs : List Char} {u : Uri} (ended : ∀ c ∈ cs.head?, endsAuthority c = true)
    (read : ofPath? cs = some u) : ∃ rest, u.path.toList = '/' :: rest := by
  have path := congrArg Uri.path (eq_of_ofPath? read)
  dsimp only at path
  rw [path]
  cases cs with
  | nil => exact ⟨[], rfl⟩
  | cons c cs =>
    have ends : (c = '/' ∨ c = '?') ∨ c = '#' := by simpa [endsAuthority] using ended c rfl
    rcases ends with (rfl | rfl) | rfl
    · simp [before, cutAt]
    · simp [before, cutAt]
    · simp [before, cutAt]

theorem ofPath?_of_parse {s : String} {u : Uri} {cs : List Char} (parsed : parse s = some u) (slash : s.toList = '/' :: cs) :
    ofPath? ('/' :: cs) = some u := by
  unfold parse at parsed
  rw [slash] at parsed
  split at parsed
  · cases parsed
  · exact parsed

/-- **The path of a target.** It is the asterisk, nothing, or a text that begins with a slash. -/
theorem path_of_parse {s : String} {u : Uri} (parsed : parse s = some u) :
    (s = "*" ∧ u = ⟨"*", none⟩) ∨ u = ⟨"", none⟩ ∨ ∃ rest, u.path.toList = '/' :: rest := by
  unfold parse at parsed
  split_ifs at parsed with long
  split at parsed
  case h_1 => cases parsed
  case h_2 asterisk =>
    exact .inl ⟨String.toList_inj.1 asterisk, (Option.some.inj parsed).symm⟩
  case h_3 =>
    exact .inr (.inr (path_of_ofPath? (by simp [endsAuthority]) parsed))
  case h_4 =>
    -- a scheme and an authority before the path, or an authority alone
    split at parsed
    case h_1 scheme rest _ =>
      dsimp only at parsed
      split_ifs at parsed with unfit
      rw [drop_takeWhile] at parsed
      exact .inr (.inr (path_of_ofPath? (endsAuthority_of_head rest) parsed))
    case h_2 =>
      split_ifs at parsed with fit
      exact .inr (.inl (Option.some.inj parsed).symm)

end Uri

namespace TenantSource

/-! ## Targets that begin with a segment -/

/-- a text that can be the first segment of a path -/
structure IsSegment (id : List Char) : Prop where
  nonempty : id ≠ []
  unslashed : '/' ∉ id
  unasked : '?' ∉ id
  whole : '#' ∉ id

theorem splitPath_segment {id tail : List Char} (segment : IsSegment id) (rest : Uri.IsRest tail) :
    splitPath ('/' :: id ++ tail) = (id, '/' :: tail.tail) := by
  have first : ('/' :: id ++ tail).dropWhile (· = '/') = id ++ tail := by
    obtain ⟨c, cs, rfl⟩ := List.exists_cons_of_ne_nil segment.nonempty
    have other : ¬c = '/' := fun same => segment.unslashed (same ▸ List.mem_cons_self)
    simp [other]
  unfold splitPath
  rw [first, cutAt_append segment.unslashed]
  cases tail with
  | nil => simp [cutAt]
  | cons c tail =>
    obtain rfl : c = '/' := rest c rfl
    simp [cutAt]

/-- the path and query that are forwarded for a target, given what follows its first segment -/
def forwardedRest (rest : List Char) : String :=
  let (tail, query) := cutAt '?' (before '#' rest)
  String.ofList ('/' :: tail.tail) ++ Uri.queryPart ⟨"", query.map String.ofList⟩

/-- **Targets that begin with a segment.** In path mode the segment is the tenant, and what is forwarded does not depend on it. -/
theorem extract_segment {id rest : String} (segment : IsSegment id.toList) (isRest : Uri.IsRest rest.toList) {u : Uri}
    (parsed : Uri.parse ("/" ++ id ++ rest) = some u) (h : Headers) :
    TenantSource.pathPrefix.extract u h = (id, forwardedRest rest.toList) := by
  have text : ("/" ++ id ++ rest).toList = '/' :: (id.toList ++ rest.toList) := by
    simp
  have read := Uri.eq_of_ofPath? (Uri.ofPath?_of_parse parsed text)
  have unasked : '?' ∉ '/' :: id.toList := by simp [segment.unasked]
  have whole : '#' ∉ '/' :: id.toList := by simp [segment.whole]
  rw [← List.cons_append, before_append whole, cutAt_append unasked] at read
  subst read
  have tail := Uri.isRest_cutAt (Uri.isRest_before isRest)
  simp only [extract, List.cons_append, List.isEmpty_cons, Bool.false_eq_true, if_false, String.toList_ofList]
  rw [← List.cons_append, splitPath_segment segment tail]
  simp [forwardedRest, Uri.queryPart]

/-! ## What is forwarded for a target -/

/-- what is forwarded is the asterisk, nothing, or a text that begins with a slash; the asterisk is forwarded only where a header
names the tenant -/
theorem extract_of_parse {source : TenantSource} {s : String} {u : Uri} (parsed : Uri.parse s = some u) (h : Headers) :
    (source ≠ .pathPrefix ∧ s = "*" ∧ (source.extract u h).2 = "*") ∨
      ¬(source ≠ .pathPrefix ∧ s = "*") ∧ Uri.IsRest (source.extract u h).2.toList := by
  cases source with
  | pathPrefix =>
    refine .inr ⟨by simp, ?_⟩
    simp [extract, splitPath, Uri.IsRest]
  | header name =>
    have asterisk : s = "*" → u.path = "*" := by
      rintro rfl
      obtain rfl := Option.some.inj (parsed.symm.trans (rfl : Uri.parse "*" = some ⟨"*", none⟩))
      rfl
    rcases Uri.path_of_parse parsed with ⟨rfl, rfl⟩ | rfl | ⟨rest, slash⟩
    · exact .inl ⟨by simp, rfl, rfl⟩
    · refine .inr ⟨fun ⟨_, same⟩ => ?_, by simp [extract, Uri.queryPart, Uri.IsRest]⟩
      simpa using asterisk same
    · refine .inr ⟨fun ⟨_, same⟩ => ?_, by simp [extract, slash, Uri.IsRest]⟩
      simp [asterisk same] at slash

end TenantSource

end TenantGateway
