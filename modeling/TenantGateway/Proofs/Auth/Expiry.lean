/-
For how long a token of an identity endpoint is valid.

What an answer says is told by relations that no reader occurs in: `IsNumeral` for numbers in digits, `Expires` for the values that tell
seconds, `Tells` for the documents that a token and its expiry stand in, `Lasts` for how many seconds are left.
- `Text.isNumeral_iff`: any digits are a numeral, of the number that they are read as;
- `TokenAnswer.seconds?_eq_some_iff`, `ofJson?_eq_some_iff`, `validity?_eq_some_iff`: the readers find what these relations say, and
  nothing else;
- `fetched_token_lifetime`: an answer is refused for one of three reasons, and else gives a token for a day at most.
-/
import TenantGateway.Auth.ManagedIdentity
import TenantGateway.Auth.Static
import TenantGateway.Proofs.Gateway.Extraction

namespace TenantGateway

namespace Text

/-! ## Numbers in digits -/

/-- the digits of a number, with any zeros before them -/
def IsNumeral (cs : List Char) (n : ℕ) : Prop :=
  ∃ zeros, cs = List.replicate zeros '0' ++ Nat.toDigits 10 n

theorem digitsValue_eq (cs : List Char) : Json.digitsValue cs = Nat.ofDigitChars 10 cs 0 := by
  simp only [Json.digitsValue, Nat.ofDigitChars, mul_comm]

theorem digitsValue_concat (cs : List Char) (c : Char) :
    Json.digitsValue (cs ++ [c]) = 10 * Json.digitsValue cs + (c.toNat - '0'.toNat) := by
  rw [Json.digitsValue, List.foldl_concat, mul_comm]
  rfl

/-- a digit is the one digit of its value -/
theorem toDigits_of_isDigit {c : Char} (digit : c.isDigit = true) :
    c.toNat - '0'.toNat < 10 ∧ Nat.toDigits 10 (c.toNat - '0'.toNat) = [c] := by
  have range : 48 ≤ c.toNat ∧ c.toNat ≤ 57 := by
    simpa [Char.isDigit, UInt32.le_iff_toNat_le] using digit
  have zero : '0'.toNat = 48 := rfl
  have small : c.toNat - '0'.toNat < 10 := by omega
  refine ⟨small, ?_⟩
  rw [Nat.toDigits_of_lt_base small, List.singleton_inj]
  apply Char.toNat_inj.1
  rw [Nat.toNat_digitChar_of_lt_ten small]
  omega

theorem isNumeral_of_isDigit {cs : List Char} (some : cs ≠ []) (digits : ∀ c ∈ cs, c.isDigit = true) :
    IsNumeral cs (Json.digitsValue cs) := by
  induction cs using List.reverseRecOn with
  | nil => exact absurd rfl some
  | append_singleton cs c ih =>
    obtain ⟨small, single⟩ := toDigits_of_isDigit (digits c (by simp))
    rw [digitsValue_concat]
    by_cases first : cs = []
    · subst first
      exact ⟨0, by simpa [Json.digitsValue] using single.symm⟩
    obtain ⟨zeros, before⟩ := ih first fun d member => digits d (by simp [member])
    rcases (Json.digitsValue cs).eq_zero_or_pos with zero | pos
    · -- all digits so far are zeros, and so is the one that stands for their number
      refine ⟨zeros + 1, ?_⟩
      rw [zero, mul_zero, zero_add, single, List.replicate_succ', before, zero]
      rfl
    · refine ⟨zeros, ?_⟩
      rw [← Nat.toDigits_append_toDigits (by decide) pos small, single, ← List.append_assoc, ← before]

/-- **Any digits are a numeral**, of the number that they are read as. -/
theorem isNumeral_iff {cs : List Char} {n : ℕ} :
    IsNumeral cs n ↔ cs ≠ [] ∧ (∀ c ∈ cs, c.isDigit = true) ∧ Json.digitsValue cs = n := by
  constructor
  · rintro ⟨zeros, rfl⟩
    refine ⟨by simp [Nat.toDigits_ne_nil], fun c member => ?_, ?_⟩
    · rcases List.mem_append.1 member with zero | digit
      · rw [List.eq_of_mem_replicate zero]
        rfl
      · exact Nat.isDigit_of_mem_toDigits (by decide) (by decide) digit
    · have nothing : Nat.ofDigitChars 10 (List.replicate zeros '0') 0 = 0 := by
        induction zeros with
        | zero => rfl
        | succ zeros ih => exact ih
      rw [digitsValue_eq, Nat.ofDigitChars_append, nothing, Nat.ofDigitChars_toDigits (by decide) (by decide)]
  · rintro ⟨some, digits, rfl⟩
    exact isNumeral_of_isDigit some digits

/-! ## Trimmed texts -/

theorem dropWhile_isBlank_of_head? {cs : List Char} (dark : ∀ c ∈ cs.head?, isBlank c = false) : cs.dropWhile isBlank = cs := by
  cases cs with
  | nil => rfl
  | cons c cs => exact List.dropWhile_cons_of_neg (by simp [dark c rfl])

theorem trimChars_of_blank {cs : List Char} (blank : ∀ c ∈ cs, isBlank c = true) : trimChars cs = [] := by
  rw [trimChars, List.dropWhile_eq_nil_iff.2 blank]
  rfl

/-- a text is another one without the blanks at its ends in one way only -/
theorem TrimsTo.eq_trimChars {cs core : List Char} (trims : TrimsTo cs core) : core = trimChars cs := by
  obtain ⟨⟨front, back, rfl, before, after⟩, first, last⟩ := trims
  by_cases none : core = []
  · subst none
    refine (trimChars_of_blank fun c member => ?_).symm
    rw [List.append_nil] at member
    exact (List.mem_append.1 member).elim (before c) (after c)
  · have first' : ∀ c ∈ (core ++ back).head?, isBlank c = false := by
      rwa [List.head?_append_of_ne_nil _ none]
    have last' : ∀ c ∈ core.reverse.head?, isBlank c = false := by
      rwa [List.head?_reverse]
    have after' : ∀ c ∈ back.reverse, isBlank c = true := fun c member => after c (List.mem_reverse.1 member)
    rw [trimChars, List.append_assoc, List.dropWhile_append_of_pos before, dropWhile_isBlank_of_head? first', List.reverse_append,
      List.dropWhile_append_of_pos after', dropWhile_isBlank_of_head? last', List.reverse_reverse]

theorem trimsTo_iff {cs core : List Char} : TrimsTo cs core ↔ trimChars cs = core :=
  ⟨fun trims => trims.eq_trimChars.symm, fun same => same ▸ trimsTo_trimChars cs⟩

end Text

open Text

/-! ## What an answer says -/

/-- a value that tells a number of seconds below 2^64: a number in digits alone, without a sign, a point or an exponent; or a text of
digits, with blanks around it or not and a plus sign before it or not -/
inductive Json.Expires (seconds : ℕ) : Json → Prop
  | number {literal : List Char} : IsNumeral literal seconds → seconds < 2 ^ 64 → Expires seconds (.number literal)
  | text {value sign digits : List Char} : TrimsTo value (sign ++ digits) → sign = [] ∨ sign = ['+'] → IsNumeral digits seconds →
      seconds < 2 ^ 64 → Expires seconds (.text value)

namespace TokenAnswer

/-- a member that may be missing: it comes once at most, and null is no value -/
inductive Has (members : List (List Char × Json)) (name : List Char) : Option Json → Prop
  | missing : Json.valuesOf members name = [] → Has members name none
  | given {value : Json} : Json.valuesOf members name = [value] → Has members name (present value)

/-- a document that tells a token, which is a text, and its expiry: an object, or an array of the values -/
inductive Tells (a : TokenAnswer) : Json → Prop
  | object {members : List (List Char × Json)} : Json.valuesOf members accessTokenMember = [.text a.accessToken] →
      Has members expiresInMember a.expiresIn → Has members expiresOnMember a.expiresOn → Tells a (.object members)
  | one : a.expiresIn = none → a.expiresOn = none → Tells a (.array [.text a.accessToken])
  | two {expiresIn : Json} : a.expiresIn = present expiresIn → a.expiresOn = none → Tells a (.array [.text a.accessToken, expiresIn])
  | three {expiresIn expiresOn : Json} : a.expiresIn = present expiresIn → a.expiresOn = present expiresOn →
      Tells a (.array [.text a.accessToken, expiresIn, expiresOn])

/-- a member that tells a number of seconds -/
def Usable (member : Option Json) (seconds : ℕ) : Prop :=
  ∃ value, member = some value ∧ value.Expires seconds

/-- how many seconds the token is valid from the Unix time `now`: what is told in seconds counts before what is told as a time, and a time
that is past leaves none -/
inductive Lasts (a : TokenAnswer) (now : ℕ) : ℕ → Prop
  | relative {seconds : ℕ} : Usable a.expiresIn seconds → Lasts a now seconds
  | absolute {time : ℕ} : (∀ seconds, ¬ Usable a.expiresIn seconds) → Usable a.expiresOn time → Lasts a now (time - now)

theorem number?_eq_some_iff {cs : List Char} {n : ℕ} : number? cs = some n ↔ IsNumeral cs n ∧ n < 2 ^ 64 := by
  have bound : Json.digitsValue cs ≤ largest ↔ Json.digitsValue cs < 2 ^ 64 := Nat.lt_succ_iff.symm
  rw [isNumeral_iff, number?, Option.ite_none_right_eq_some]
  simp only [Bool.and_eq_true, Bool.not_eq_true', List.isEmpty_eq_false_iff, List.all_eq_true, decide_eq_true_eq, bound,
    Option.some.injEq]
  constructor
  · rintro ⟨⟨⟨some, digits⟩, few⟩, rfl⟩
    exact ⟨⟨some, digits, rfl⟩, few⟩
  · rintro ⟨⟨some, digits, rfl⟩, few⟩
    exact ⟨⟨⟨some, digits⟩, few⟩, rfl⟩

theorem not_isNumeral_plus (cs : List Char) (n : ℕ) : ¬ IsNumeral ('+' :: cs) n := by
  intro numeral
  have digit := (isNumeral_iff.1 numeral).2.1 '+' List.mem_cons_self
  exact absurd digit (by decide)

/-- the reader of values finds those that tell seconds -/
theorem seconds?_eq_some_iff {value : Json} {n : ℕ} : seconds? value = some n ↔ value.Expires n := by
  constructor
  · intro read
    unfold seconds? at read
    split at read
    · obtain ⟨numeral, few⟩ := number?_eq_some_iff.1 read
      exact .number numeral few
    · split at read
      · rename_i value _ digits trimmed
        have trims : TrimsTo value (['+'] ++ digits) := trimsTo_iff.2 trimmed
        obtain ⟨numeral, few⟩ := number?_eq_some_iff.1 read
        exact .text trims (.inr rfl) numeral few
      · rename_i value _ _
        have trims : TrimsTo value ([] ++ trimChars value) := trimsTo_trimChars value
        obtain ⟨numeral, few⟩ := number?_eq_some_iff.1 read
        exact .text trims (.inl rfl) numeral few
    · cases read
  · rintro (⟨numeral, few⟩ | ⟨trims, sign, numeral, few⟩)
    · exact number?_eq_some_iff.2 ⟨numeral, few⟩
    · have trimmed := trimsTo_iff.1 trims
      rw [seconds?, trimmed]
      rcases sign with rfl | rfl
      · rw [List.nil_append]
        split
        · exact absurd numeral (not_isNumeral_plus _ n)
        · exact number?_eq_some_iff.2 ⟨numeral, few⟩
      · exact number?_eq_some_iff.2 ⟨numeral, few⟩

theorem has_iff {members : List (List Char × Json)} {name : List Char} {value : Option Json} :
    Has members name value ↔ ∃ given, once members name = some given ∧ given.bind present = value := by
  constructor
  · rintro (missing | one)
    · exact ⟨none, by rw [once, missing], rfl⟩
    · exact ⟨some _, by rw [once, one], rfl⟩
  · rintro ⟨given, found, rfl⟩
    unfold once at found
    split at found
    · rename_i missing
      cases found
      exact .missing missing
    · rename_i value one
      cases found
      exact .given one
    · cases found

theorem once_eq_some_some_iff {members : List (List Char × Json)} {name : List Char} {value : Json} :
    once members name = some (some value) ↔ Json.valuesOf members name = [value] := by
  unfold once
  split <;> simp_all

/-- the reader of documents finds those that tell a token and its expiry -/
theorem ofJson?_eq_some_iff {json : Json} {a : TokenAnswer} : ofJson? json = some a ↔ a.Tells json := by
  constructor
  · intro read
    unfold ofJson? at read
    split at read
    · simp only [bind, Option.bind_eq_some_iff] at read
      obtain ⟨token, one, expiresIn, in', expiresOn, on', read⟩ := read
      split at read
      · cases read
        exact .object (once_eq_some_some_iff.1 one) (has_iff.2 ⟨_, in', rfl⟩) (has_iff.2 ⟨_, on', rfl⟩)
      · cases read
    · cases read
      exact .one rfl rfl
    · cases read
      exact .two rfl rfl
    · cases read
      exact .three rfl rfl
    · cases read
  · obtain ⟨accessToken, expiresIn, expiresOn⟩ := a
    rintro (⟨token, in', on'⟩ | ⟨in', on'⟩ | ⟨in', on'⟩ | ⟨in', on'⟩)
    · obtain ⟨_, found, rfl⟩ := has_iff.1 in'
      obtain ⟨_, found', rfl⟩ := has_iff.1 on'
      simp only [ofJson?, once_eq_some_some_iff.2 token, found, found', Option.bind_eq_bind, Option.bind_some]
      rfl
    all_goals
      cases in'
      cases on'
      rfl

/-! ## The validity -/

theorem usable_iff {member : Option Json} {n : ℕ} : Usable member n ↔ member.bind seconds? = some n := by
  simp only [Usable, Option.bind_eq_some_iff, seconds?_eq_some_iff]

theorem not_usable_iff {member : Option Json} : (∀ n, ¬ Usable member n) ↔ member.bind seconds? = none := by
  simp only [usable_iff, Option.eq_none_iff_forall_ne_some, ne_eq]

theorem Usable.lt {member : Option Json} {n : ℕ} (usable : Usable member n) : n < 2 ^ 64 := by
  obtain ⟨value, -, expires⟩ := usable
  cases expires with
  | number _ few => exact few
  | text _ _ _ few => exact few

/-- no number on the way is beyond 64 bits -/
theorem Lasts.lt {a : TokenAnswer} {now seconds : ℕ} (lasts : a.Lasts now seconds) : seconds < 2 ^ 64 := by
  cases lasts with
  | relative usable => exact usable.lt
  | absolute _ usable => exact (Nat.sub_le ..).trans_lt usable.lt

theorem validity?_eq_some_iff {a : TokenAnswer} {now seconds : ℕ} : a.validity? now = some seconds ↔ a.Lasts now seconds := by
  rw [validity?, Option.or_eq_some_iff, Option.map_eq_some_iff]
  constructor
  · rintro (relative | ⟨unusable, time, absolute, rfl⟩)
    · exact .relative (usable_iff.2 relative)
    · exact .absolute (not_usable_iff.2 unusable) (usable_iff.2 absolute)
  · rintro (relative | ⟨unusable, absolute⟩)
    · exact .inl (usable_iff.1 relative)
    · exact .inr ⟨not_usable_iff.1 unusable, _, usable_iff.1 absolute, rfl⟩

theorem validity?_eq_none_iff {a : TokenAnswer} {now : ℕ} :
    a.validity? now = none ↔ (∀ n, ¬ Usable a.expiresIn n) ∧ ∀ n, ¬ Usable a.expiresOn n := by
  rw [validity?, Option.or_eq_none_iff, Option.map_eq_none_iff, not_usable_iff, not_usable_iff]

end TokenAnswer

namespace ManagedIdentity

variable {W : Type} {i : ManagedIdentity} {n : Network W} {w : W} {audience : String} {answer : Response}

/-- the identity endpoint answers the request for a token, redirects followed -/
def Receives (i : ManagedIdentity) (n : Network W) (w : W) (audience : String) (answer : Response) : Prop :=
  ∃ request after, i.request audience = .ok request ∧ Client.exchange n w request = (.ok answer, after)

/-- the body of an answer is a document that tells a token and its expiry -/
def Carries (answer : Response) (a : TokenAnswer) : Prop :=
  ∃ cs json, textOf? answer.body = some cs ∧ Json.read TokenAnswer.matters cs = some json ∧ a.Tells json

theorem carries_iff {a : TokenAnswer} : Carries answer a ↔ (textOf? answer.body).bind TokenAnswer.ofText? = some a := by
  simp only [Carries, Option.bind_eq_some_iff, TokenAnswer.ofText?, TokenAnswer.ofJson?_eq_some_iff]
  constructor
  · rintro ⟨cs, json, text, read, tells⟩
    exact ⟨cs, text, json, read, tells⟩
  · rintro ⟨cs, text, json, read, tells⟩
    exact ⟨cs, json, text, read, tells⟩

theorem fetch_of_receives (received : i.Receives n w audience answer) (now : ℕ) : (i.fetch n w audience now).1 = read answer now := by
  obtain ⟨request, after, made, exchanged⟩ := received
  simp only [fetch, made, exchanged]

/-- the three reasons to refuse an answer -/
inductive Refused (answer : Response) : Prop
  | status : ¬ (200 ≤ answer.status ∧ answer.status ≤ 299) → Refused answer
  | document : (∀ a, ¬ Carries answer a) → Refused answer
  | expiry {a : TokenAnswer} : Carries answer a → (∀ seconds, ¬ TokenAnswer.Usable a.expiresIn seconds) →
      (∀ time, ¬ TokenAnswer.Usable a.expiresOn time) → Refused answer

/-- what an answer that is not refused gives: its token, for as long as it lasts, a day at most -/
structure Grants (answer : Response) (now : ℕ) (issued : IssuedToken) : Prop where
  status : 200 ≤ answer.status ∧ answer.status ≤ 299
  lasts : ∃ a seconds, Carries answer a ∧ a.Lasts now seconds ∧ issued.secret = String.ofList a.accessToken ∧
    issued.lifetime = min (24 * 3600) seconds * 1000000000

/-- an answer is refused in one way, or gives one token -/
theorem read_cases (answer : Response) (now : ℕ) :
    (∃ detail, read answer now = .error (.credentialUnavailable detail) ∧ Refused answer) ∨
      ∃ issued, read answer now = .ok issued ∧ Grants answer now issued := by
  have status : Status.isSuccess answer.status = true ↔ 200 ≤ answer.status ∧ answer.status ≤ 299 := by simp [Status.isSuccess]
  unfold read
  by_cases succeeded : Status.isSuccess answer.status = true
  · rw [if_pos succeeded]
    split
    · rename_i a read
      have carried := carries_iff.2 read
      unfold TokenAnswer.issue
      cases left : a.validity? now with
      | none =>
        obtain ⟨relative, absolute⟩ := TokenAnswer.validity?_eq_none_iff.1 left
        exact .inl ⟨_, rfl, .expiry carried relative absolute⟩
      | some seconds =>
        exact .inr ⟨_, rfl, status.1 succeeded, a, seconds, carried, TokenAnswer.validity?_eq_some_iff.1 left, rfl, rfl⟩
    · rename_i unread
      refine .inl ⟨_, rfl, .document fun a carried => ?_⟩
      rw [carries_iff, unread] at carried
      cases carried
  · rw [if_neg succeeded]
    exact .inl ⟨_, rfl, .status (mt status.2 succeeded)⟩

/-- what is refused gives no token -/
theorem Grants.not_refused {now : ℕ} {issued : IssuedToken} (grants : Grants answer now issued) : ¬ Refused answer := by
  obtain ⟨status, a, seconds, carried, lasts, -, -⟩ := grants
  rintro (failed | uncarried | ⟨carried', relative, absolute⟩)
  · exact failed status
  · exact uncarried a carried
  · obtain rfl := Option.some.inj ((carries_iff.1 carried).symm.trans (carries_iff.1 carried'))
    cases lasts with
    | relative usable => exact relative _ usable
    | absolute _ usable => exact absolute _ usable

/-- an answer gives one token -/
theorem Grants.eq {now : ℕ} {issued other : IssuedToken} (grants : Grants answer now issued) (grants' : Grants answer now other) :
    issued = other := by
  obtain ⟨-, a, seconds, carried, lasts, secret, lifetime⟩ := grants
  obtain ⟨-, a', seconds', carried', lasts', secret', lifetime'⟩ := grants'
  obtain rfl := Option.some.inj ((carries_iff.1 carried).symm.trans (carries_iff.1 carried'))
  rw [← TokenAnswer.validity?_eq_some_iff] at lasts lasts'
  obtain rfl := Option.some.inj (lasts.symm.trans lasts')
  cases issued
  cases other
  simp_all

/-- **The lifetime of a token.** Whatever the identity endpoint answers, and whatever the time is: the fetch fails, in one way, exactly if
the status is no success, the body tells no token, or neither expiry can be used. Else it gives the token, for as long as it lasts and a
day at most, where no number on the way is beyond 64 bits. So from any instant on, the token expires at that instant at the earliest, and a
day later at the latest. -/
theorem fetched_token_lifetime (received : i.Receives n w audience answer) (now : ℕ) :
    ((∃ e, (i.fetch n w audience now).1 = .error e) ↔ Refused answer) ∧
    (∀ e, (i.fetch n w audience now).1 = .error e → ∃ detail, e = .credentialUnavailable detail) ∧
    (∀ issued, (i.fetch n w audience now).1 = .ok issued ↔ Grants answer now issued) ∧
    (∀ a seconds, Carries answer a → a.Lasts now seconds → seconds < 2 ^ 64) ∧
    ∀ issued, (i.fetch n w audience now).1 = .ok issued → ∀ instant,
      instant ≤ (issued.startingAt instant).expiresAt ∧ (issued.startingAt instant).expiresAt ≤ instant + oneDay := by
  rw [fetch_of_receives received]
  refine ⟨?_, ?_, ?_, fun _ _ _ => TokenAnswer.Lasts.lt, ?_⟩
  all_goals rcases read_cases answer now with ⟨detail, told, refused⟩ | ⟨token, told, grants⟩ <;> rw [told]
  · exact ⟨fun _ => refused, fun _ => ⟨_, rfl⟩⟩
  · exact ⟨nofun, fun refused => absurd refused grants.not_refused⟩
  · rintro _ ⟨⟩
    exact ⟨_, rfl⟩
  · nofun
  · exact fun issued => ⟨nofun, fun grants => absurd refused grants.not_refused⟩
  · intro issued
    constructor
    · rintro ⟨⟩
      exact grants
    · exact fun grants' => congrArg _ (grants.eq grants')
  · nofun
  · rintro _ ⟨⟩ instant
    obtain ⟨-, a, seconds, -, -, -, lifetime⟩ := grants
    simp only [IssuedToken.startingAt, lifetime, oneDay]
    omega

/-- an endpoint that answers every request with one text -/
def answering (text : String) : Response :=
  ⟨200, .empty, [.data (bytes text)]⟩

def machine : ManagedIdentity := ⟨.machine IdentityEndpoint.machineUrl, none⟩

/-- **A validity of 2^64 - 1 seconds** is a day. -/
theorem fetched_token_lifetime_largest :
    let text := "\x7b\"access_token\":\"t\",\"expires_in\":\" +18446744073709551615 \",\"expires_on\":0\x7d"
    let network : Network Unit := ⟨fun w _ => (some (answering text), w)⟩
    machine.Receives network () "resource" (answering text) ∧
      (machine.fetch network () "resource" 1700000000).1 = .ok ⟨"t", oneDay⟩ ∧
      Grants (answering text) 1700000000 ⟨"t", oneDay⟩ := by
  intro text network
  have answered : ((machine.request "resource").toOption.map fun request => (Client.exchange network () request).1.toOption) =
      some (some (answering text)) := by
    decide +kernel
  have received : machine.Receives network () "resource" (answering text) := by
    rcases made : machine.request "resource" with e | request
    · simp [made, Except.toOption] at answered
    rcases exchanged : Client.exchange network () request with ⟨e | answer, after⟩
    · simp [made, exchanged, Except.toOption] at answered
    obtain rfl : answer = answering text := by simpa [made, exchanged, Except.toOption] using answered
    exact ⟨request, after, made, exchanged⟩
  have granted : (machine.fetch network () "resource" 1700000000).1 = .ok ⟨"t", oneDay⟩ := by
    rw [fetch_of_receives received]
    have told : (read (answering text) 1700000000).toOption = some ⟨"t", oneDay⟩ := by decide +kernel
    rcases fetched : read (answering text) 1700000000 with e | issued
    · simp [fetched, Except.toOption] at told
    · simpa [fetched, Except.toOption] using told
  obtain ⟨-, -, grants, -, -⟩ := fetched_token_lifetime received 1700000000
  exact ⟨received, granted, (grants _).1 granted⟩

end ManagedIdentity

end TenantGateway
