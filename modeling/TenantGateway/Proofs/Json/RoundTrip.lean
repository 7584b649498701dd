/-
Texts written as JSON are read back as they were.

`parse_writeTexts` says so of an object whose members are all texts. It comes from `readString_escape`, which is about one
string, and that from what is said of one character.
-/
import Mathlib.Tactic
import TenantGateway.Json.Reader

namespace TenantGateway.Json

open Text

/-! ## Characters -/

theorem hexValue?_hexDigit {n : ℕ} (digit : n < 16) : hexValue? (hexDigit n) = some n := by
  revert n
  decide

/-- the letter after a backslash stands for the character that it was written for -/
theorem readEscape_short {c letter : Char} (short : shortEscape? c = some letter) (rest : List Char) :
    readEscape .read (letter :: rest) = some ([c], rest) := by
  have same (n : ℕ) (code : c.toNat = n) : c = Char.ofNat n := code ▸ (Char.ofNat_toNat c).symm
  unfold shortEscape? at short
  split_ifs at short with quote backslash backspace feed newline carriage tab
  all_goals obtain rfl := Option.some.inj short
  · rw [quote, readEscape]
  · rw [backslash, readEscape]
  · rw [same 8 backspace, readEscape]
  · rw [same 12 feed, readEscape]
  · rw [newline, readEscape]
  · rw [carriage, readEscape]
  · rw [tab, readEscape]

/-- so do four digits, for the characters that are written with them -/
theorem readEscape_control {c : Char} (control : c.toNat < 0x20) (rest : List Char) :
    readEscape .read ('u' :: '0' :: '0' :: hexDigit (c.toNat / 16) :: hexDigit (c.toNat % 16) :: rest) = some ([c], rest) := by
  have zero : hexValue? '0' = some 0 := by decide
  have high : hexValue? (hexDigit (c.toNat / 16)) = some (c.toNat / 16) := hexValue?_hexDigit (by omega)
  have low : hexValue? (hexDigit (c.toNat % 16)) = some (c.toNat % 16) := hexValue?_hexDigit (by omega)
  have code : 0 * 4096 + 0 * 256 + c.toNat / 16 * 16 + c.toNat % 16 = c.toNat := by omega
  have unit : readUnit ('0' :: '0' :: hexDigit (c.toNat / 16) :: hexDigit (c.toNat % 16) :: rest) =
      some (c.toNat, rest) := by
    simp only [readUnit, zero, high, low, Option.bind_eq_bind, Option.bind_some, code]
    rfl
  have high : isHighSurrogate c.toNat = false := by
    simp only [isHighSurrogate, Bool.and_eq_false_iff, decide_eq_false_iff_not]
    omega
  have low : isLowSurrogate c.toNat = false := by
    simp only [isLowSurrogate, Bool.and_eq_false_iff, decide_eq_false_iff_not]
    omega
  simp [readEscape, unit, high, low, Char.ofNat_toNat]

/-- reading goes on after a character that was written -/
theorem readString_cons (c : Char) (fuel : ℕ) (rest : List Char) :
    readString .read (fuel + 1) (escape c ++ rest) =
      (readString .read fuel rest).map fun p => (c :: p.1, p.2) := by
  unfold escape
  cases short : shortEscape? c with
  | some letter =>
    simp only [List.cons_append, List.nil_append, readString, readEscape_short short, Option.bind_eq_bind, Option.bind_some]
    cases readString .read fuel rest <;> rfl
  | none =>
    dsimp only
    split_ifs with control
    · simp only [List.cons_append, List.nil_append, readString, readEscape_control control,
        Option.bind_eq_bind, Option.bind_some]
      cases readString .read fuel rest <;> rfl
    · have quote : c ≠ '"' := by
        rintro rfl
        simp [shortEscape?] at short
      have backslash : c ≠ '\\' := by
        rintro rfl
        simp [shortEscape?] at short
      rw [List.singleton_append, readString]
      · simp only [if_neg control]
        cases readString .read fuel rest <;> rfl
      · exact quote
      · exact backslash

/-! ## Strings -/

theorem length_le_escape (cs : List Char) : cs.length ≤ (cs.flatMap escape).length := by
  induction cs with
  | nil => exact Nat.zero_le _
  | cons c cs ih =>
    have one : 1 ≤ (escape c).length := by
      unfold escape
      split
      · simp
      · split_ifs <;> simp
    rw [List.flatMap_cons, List.length_append, List.length_cons]
    omega

/-- a string is read to its closing quote, given enough fuel -/
theorem readString_escape (cs rest : List Char) {fuel : ℕ} (enough : cs.length < fuel) :
    readString .read fuel (cs.flatMap escape ++ '"' :: rest) = some (cs, rest) := by
  induction cs generalizing fuel with
  | nil =>
    obtain ⟨fuel, rfl⟩ := Nat.exists_eq_succ_of_ne_zero enough.ne'
    rfl
  | cons c cs ih =>
    obtain ⟨fuel, rfl⟩ := Nat.exists_eq_succ_of_ne_zero (Nat.ne_zero_of_lt enough)
    rw [List.flatMap_cons, List.append_assoc, readString_cons, ih (Nat.lt_of_succ_lt_succ enough)]
    rfl

/-- and so it is with the fuel that the rest of the text comes to -/
theorem readString_written (cs rest : List Char) :
    readString .read ((cs.flatMap escape ++ '"' :: rest).length + 1) (cs.flatMap escape ++ '"' :: rest) =
      some (cs, rest) := by
  refine readString_escape cs rest ?_
  have := length_le_escape cs
  rw [List.length_append]
  omega

/-! ## Objects of texts -/

theorem quote_append (cs rest : List Char) : quote cs ++ rest = '"' :: (cs.flatMap escape ++ '"' :: rest) := by
  simp [quote]

theorem skipSpace_cons {c : Char} (dark : isSpace c = false) (rest : List Char) : skipSpace (c :: rest) = c :: rest := by
  rw [skipSpace, List.dropWhile_cons_of_neg (by simp [dark])]

theorem readValue_quote (fuel depth : ℕ) (cs rest : List Char) :
    readValue .read (fuel + 1) depth (quote cs ++ rest) = some (.text cs, rest) := by
  rw [quote_append, readValue, skipSpace_cons (by decide)]
  simp only [readString_written, Option.bind_eq_bind, Option.bind_some]
  rfl

/-- the members of an object of texts, as they are written between its braces -/
def membersText (members : List (List Char × List Char)) : List Char :=
  ((members.map fun (key, value) => quote key ++ ':' :: quote value).intersperse [',']).flatten

theorem membersText_cons_cons (m m' : List Char × List Char) (rest : List (List Char × List Char)) :
    membersText (m :: m' :: rest) = quote m.1 ++ ':' :: (quote m.2 ++ ',' :: membersText (m' :: rest)) := by
  simp [membersText]

/-- a member is read, and what follows it tells whether there are more -/
theorem readMembers_member (key value : List Char) {follows : Char} (dark : isSpace follows = false) (fuel depth : ℕ)
    (rest : List Char) :
    readMembers .read (fun _ => .read) (fuel + 2) depth (quote key ++ ':' :: (quote value ++ follows :: rest)) =
      match follows with
      | ',' => (readMembers .read (fun _ => .read) (fuel + 1) depth rest).map fun p => ((key, .text value) :: p.1, p.2)
      | '\x7d' => some ([(key, .text value)], rest)
      | _ => none := by
  rw [quote_append, readMembers, skipSpace_cons (by decide)]
  simp only [readString_written, Option.bind_eq_bind, Option.bind_some]
  rw [skipSpace_cons (by decide)]
  simp only [readValue_quote, Option.bind_some]
  rw [skipSpace_cons dark]
  split
  · rename_i more
    obtain ⟨rfl, rfl⟩ := List.cons.inj more
    cases readMembers .read (fun _ => .read) (fuel + 1) depth rest <;> rfl
  · rename_i last
    obtain ⟨rfl, rfl⟩ := List.cons.inj last
    rfl
  · rename_i other other'
    split
    · exact absurd rfl (other rest)
    · exact absurd rfl (other' rest)
    · rfl

/-- the members are read up to the closing brace -/
theorem readMembers_membersText (m : List Char × List Char) (members : List (List Char × List Char)) (depth : ℕ)
    (rest : List Char) {fuel : ℕ} (enough : members.length + 1 < fuel) :
    readMembers .read (fun _ => .read) fuel depth (membersText (m :: members) ++ '\x7d' :: rest) =
      some ((m :: members).map fun m => (m.1, .text m.2), rest) := by
  induction members generalizing m fuel with
  | nil =>
    obtain ⟨fuel, rfl⟩ : ∃ k, fuel = k + 2 := ⟨fuel - 2, by omega⟩
    have written : membersText [m] ++ '\x7d' :: rest = quote m.1 ++ ':' :: (quote m.2 ++ '\x7d' :: rest) := by
      simp [membersText]
    rw [written, readMembers_member _ _ (by decide)]
    rfl
  | cons m' members ih =>
    obtain ⟨fuel, rfl⟩ : ∃ k, fuel = k + 2 := ⟨fuel - 2, by omega⟩
    have written : membersText (m :: m' :: members) ++ '\x7d' :: rest =
        quote m.1 ++ ':' :: (quote m.2 ++ ',' :: (membersText (m' :: members) ++ '\x7d' :: rest)) := by
      simp [membersText_cons_cons]
    have enough' : members.length + 1 < fuel + 1 := Nat.lt_of_succ_lt_succ enough
    rw [written, readMembers_member _ _ (by decide), ih m' enough']
    rfl

theorem membersText_cons (m : List Char × List Char) (members : List (List Char × List Char)) :
    ∃ tail, membersText (m :: members) = '"' :: tail := by
  cases members with
  | nil => exact ⟨m.1.flatMap escape ++ '"' :: ':' :: quote m.2, by simp [membersText, quote]⟩
  | cons m' members => exact ⟨_, (membersText_cons_cons m m' members).trans (quote_append ..)⟩

theorem length_le_membersText (members : List (List Char × List Char)) : members.length ≤ (membersText members).length := by
  induction members with
  | nil => exact Nat.zero_le _
  | cons m members ih =>
    cases members with
    | nil => simp [membersText, quote]
    | cons m' members =>
      rw [membersText_cons_cons]
      simp only [List.length_append, List.length_cons] at ih ⊢
      omega

/-- **An object of texts is read back as it was written.** -/
theorem parse_writeTexts (members : List (List Char × List Char)) :
    parse (writeTexts members) = some (.object (members.map fun m => (m.1, .text m.2))) := by
  have written : writeTexts members = '\x7b' :: (membersText members ++ ['\x7d']) := rfl
  cases members with
  | nil => rfl
  | cons m members =>
    obtain ⟨tail, first⟩ := membersText_cons m members
    have enough : members.length + 1 < (writeTexts (m :: members)).length + 1 := by
      have := length_le_membersText (m :: members)
      simp only [written, List.length_cons, List.length_append] at this ⊢
      omega
    have members' := readMembers_membersText m members (nestingLimit - 1) [] enough
    have blank : skipSpace (membersText (m :: members) ++ ['\x7d']) = membersText (m :: members) ++ ['\x7d'] := by
      rw [first, List.cons_append, skipSpace_cons (by decide)]
    have outermost : readOutermost (fun _ => true) ((writeTexts (m :: members)).length + 1) (writeTexts (m :: members)) =
        some (.object ((m :: members).map fun m => (m.1, .text m.2)), []) := by
      have opened : skipSpace (writeTexts (m :: members)) = '\x7b' :: (membersText (m :: members) ++ ['\x7d']) := by
        rw [written, skipSpace_cons (by decide)]
      rw [readOutermost, opened]
      simp only [blank, if_true, Option.bind_eq_bind]
      rw [first, List.cons_append] at members' ⊢
      exact congrArg (fun found => found.bind fun p => some (object p.1, p.2)) members'
    rw [parse, read, outermost]
    rfl

end TenantGateway.Json
