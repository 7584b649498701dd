/-
What is read off a request: its tenant and the path to forward.

In path mode the two are parts of the path (`TenantSource.SplitsPath`), and a target that is made of a tenant and a path is read as these two
(`TenantSource.extract_joined`), unless there is a fragment to drop. In header mode the path is kept, and the tenant is what one value of a header
holds (`TenantSource.NamedByHeader`). A request that names no tenant has the empty id, and no registry that a gateway can get holds a tenant with
it (`Gateway.get?_empty`): `Gateway.extraction_exact` puts this together.
-/
import Mathlib.Data.List.DropRight
import TenantGateway.Proofs.Gateway.Changes
import TenantGateway.Proofs.Gateway.ForwardedHeaders
import TenantGateway.Proofs.Http.Targets

namespace TenantGateway

/-! ## Trimmed texts -/

namespace Text

/-- a text is another one without the blanks at its ends -/
structure TrimsTo (cs core : List Char) : Prop where
  split : ∃ front back, cs = front ++ core ++ back ∧ (∀ c ∈ front, isBlank c = true) ∧ ∀ c ∈ back, isBlank c = true
  first : ∀ c ∈ core.head?, isBlank c = false
  last : ∀ c ∈ core.getLast?, isBlank c = false

theorem trimsTo_trimChars (cs : List Char) : TrimsTo cs (trimChars cs) := by
  have ends : trimChars cs = (cs.dropWhile isBlank).rdropWhile isBlank := rfl
  rw [ends]
  refine ⟨⟨cs.takeWhile isBlank, (cs.dropWhile isBlank).rtakeWhile isBlank, ?_, ?_, ?_⟩, ?_, ?_⟩
  · rw [List.append_assoc, List.rdropWhile_append_rtakeWhile, List.takeWhile_append_dropWhile]
  · exact fun c => List.mem_takeWhile_imp
  · exact fun c => List.mem_rtakeWhile_imp
  · intro c begins
    obtain ⟨back, parts⟩ := List.rdropWhile_prefix isBlank (cs.dropWhile isBlank)
    have first : (cs.dropWhile isBlank).head? = some c := by
      rw [← parts, List.head?_append, begins]
      rfl
    have dark := List.head?_dropWhile_not isBlank cs
    rwa [first] at dark
  · intro c ends
    obtain ⟨nonempty, rfl⟩ := List.mem_getLast?_eq_getLast ends
    simpa using List.rdropWhile_last_not isBlank _ nonempty

end Text

open Text

/-- the path of a target without a query is the target, up to a fragment -/
theorem Uri.path_of_unasked {s : String} {cs : List Char} {u : Uri} (parsed : parse s = some u) (slash : s.toList = '/' :: cs)
    (unasked : u.query = none) : u.path.toList = before '#' s.toList ∧ '?' ∉ u.path.toList := by
  have read := eq_of_ofPath? (ofPath?_of_parse parsed slash)
  obtain ⟨absent, parts⟩ := cutAt_parts '?' (before '#' ('/' :: cs))
  obtain ⟨target, query, cut⟩ : ∃ target query, cutAt '?' (before '#' ('/' :: cs)) = (target, query) := ⟨_, _, rfl⟩
  rw [cut] at absent parts read
  have none : query = none := by simpa [read] using unasked
  have whole : before '#' ('/' :: cs) = target := by simpa [none] using parts
  have nonempty : target ≠ [] := by
    rw [← whole]
    simp [before]
  have path : u.path.toList = target := by simp [read, nonempty]
  rw [path, slash]
  exact ⟨whole.symm, absent⟩

namespace TenantSource

/-! ## Path mode -/

/-- a path is cut after its first slashes and before the next one -/
theorem splitPath_parts (path : List Char) :
    '/' ∉ (splitPath path).1 ∧ ∃ slashes rest, path = List.replicate slashes '/' ++ (splitPath path).1 ++ rest ∧ Uri.IsRest rest ∧
      (splitPath path).2 = (if rest = [] then ['/'] else rest) ∧ ((splitPath path).1 = [] → rest = []) := by
  have slashes : path.takeWhile (· = '/') = List.replicate (path.takeWhile (· = '/')).length '/' :=
    List.eq_replicate_of_mem fun c member => by simpa using List.mem_takeWhile_imp member
  have begins := List.head?_dropWhile_not (· = '/') path
  obtain ⟨unslashed, parts⟩ := cutAt_parts '/' (path.dropWhile (· = '/'))
  obtain ⟨id, tail, cut⟩ : ∃ id tail, cutAt '/' (path.dropWhile (· = '/')) = (id, tail) := ⟨_, _, rfl⟩
  have split : splitPath path = (id, '/' :: tail.getD []) := by rw [splitPath, cut]
  rw [cut] at unslashed parts
  rw [split]
  refine ⟨unslashed, (path.takeWhile (· = '/')).length, (tail.map ('/' :: ·)).getD [], ?_, ?_, ?_, ?_⟩
  · rw [← slashes, List.append_assoc, ← parts, List.takeWhile_append_dropWhile]
  · cases tail <;> simp [Uri.IsRest]
  · cases tail <;> simp
  · rintro rfl
    -- what comes after the first slashes does not begin with one
    rw [parts] at begins
    cases tail with
    | none => rfl
    | some rest => simp at begins

/-- a path falls into slashes, a tenant's id and a rest, which is forwarded with the query -/
structure SplitsPath (u : Uri) (id forwarded : String) : Prop where
  unslashed : '/' ∉ id.toList
  parts : ∃ (slashes : ℕ) (rest : String), u.path = String.ofList (List.replicate slashes '/') ++ id ++ rest ∧
    (rest = "" ∨ ∃ tail, rest = "/" ++ tail) ∧ forwarded = (if rest = "" then "/" else rest) ++ u.queryPart
  unnamed : id = "" → ∀ c ∈ u.path.toList, c = '/'

theorem splitsPath_extract (u : Uri) (h : Headers) :
    SplitsPath u (TenantSource.pathPrefix.extract u h).1 (TenantSource.pathPrefix.extract u h).2 := by
  obtain ⟨unslashed, slashes, rest, path, isRest, forwarded, unnamed⟩ := splitPath_parts u.path.toList
  refine ⟨?_, ⟨slashes, String.ofList rest, ?_, ?_, ?_⟩, ?_⟩
  · simpa [extract] using unslashed
  · rw [← String.toList_inj]
    simpa [extract] using path
  · cases rest with
    | nil => exact .inl rfl
    | cons c tail =>
      obtain rfl : c = '/' := isRest c rfl
      exact .inr ⟨String.ofList tail, by rw [← String.toList_inj]; simp⟩
  · simp only [extract]
    rw [forwarded]
    cases rest <;> simp
  · intro empty c member
    have none : (splitPath u.path.toList).1 = [] := by simpa [extract] using empty
    rw [path, none, unnamed none, List.append_nil, List.append_nil] at member
    exact List.eq_of_mem_replicate member

/-- a tenant and a path put together are read as the two, unless a fragment among them is dropped -/
theorem extract_joined {id p : String} (named : id ≠ "") (unslashed : '/' ∉ id.toList) (absolute : ∃ tail, p = "/" ++ tail) {u : Uri}
    (parsed : Uri.parse ("/" ++ id ++ p) = some u) (unasked : u.query = none) (h : Headers) :
    TenantSource.pathPrefix.extract u h = (id, p) ↔ '#' ∉ (id ++ p).toList := by
  obtain ⟨tail, rfl⟩ := absolute
  have text : ("/" ++ id ++ ("/" ++ tail)).toList = '/' :: (id.toList ++ '/' :: tail.toList) := by simp
  obtain ⟨path, unmarked⟩ := Uri.path_of_unasked parsed text unasked
  have query : u.queryPart = "" := by rw [Uri.queryPart, unasked]
  constructor
  · intro read
    have whole : '#' ∉ u.path.toList := by
      rw [path]
      exact fun member => by simpa using List.mem_takeWhile_imp member
    obtain ⟨-, ⟨slashes, rest, parts, -, forwarded⟩, -⟩ := splitsPath_extract u h
    rw [read] at parts forwarded
    dsimp only at parts forwarded
    have kept : '#' ∉ id.toList ∧ '#' ∉ rest.toList := by simpa [parts] using whole
    rw [forwarded, query, String.append_empty]
    split_ifs <;> simp [kept.1, kept.2]
  · intro whole
    have kept : before '#' ("/" ++ id ++ ("/" ++ tail)).toList = '/' :: id.toList ++ '/' :: tail.toList := by
      rw [text]
      refine List.takeWhile_eq_self_iff.mpr fun c member => ?_
      have other : c ≠ '#' := by
        rintro rfl
        exact whole (by simpa using member)
      simpa using other
    rw [kept] at path
    have segment : IsSegment id.toList := by
      rw [path] at unmarked
      refine ⟨by simpa using named, unslashed, fun found => unmarked (by simp [found]), fun found => whole (by simp [found])⟩
    simp only [extract, path, query]
    rw [splitPath_segment segment (by simp [Uri.IsRest])]
    simp

/-! ## Header mode -/

/-- an id is what the first value of a header holds: nothing where there is none or it is not visible text, and else its characters without the
blanks at its ends -/
structure NamedByHeader (name : String) (h : Headers) (id : String) : Prop where
  missing : (HeaderName.ofText? name).bind h.first? = none → id = ""
  unreadable : ∀ v, (HeaderName.ofText? name).bind h.first? = some v → (∃ b ∈ v.bytes, b ≠ 9 ∧ ¬(0x20 ≤ b ∧ b ≤ 0x7E)) → id = ""
  trimmed : ∀ v, (HeaderName.ofText? name).bind h.first? = some v → (∀ b ∈ v.bytes, b = 9 ∨ 0x20 ≤ b ∧ b ≤ 0x7E) →
    TrimsTo (v.bytes.map fun b => Char.ofNat b.toNat) id.toList

theorem namedByHeader_headerId (name : String) (h : Headers) : NamedByHeader name h (headerId (HeaderName.ofText? name) h) where
  missing none := by
    rw [headerId, none]
    rfl
  unreadable v first := by
    rintro ⟨b, member, control, outside⟩
    have invisible : v.text? = none := by
      refine if_neg fun all => ?_
      have visible := List.all_eq_true.mp all b member
      simp [HeaderValue.isVisible, control, outside] at visible
    rw [headerId, first, Option.bind_some, invisible]
  trimmed v first visible := by
    have read : v.text? = some (v.bytes.map fun b => Char.ofNat b.toNat) := by
      refine if_pos (List.all_eq_true.mpr fun b member => ?_)
      simpa [HeaderValue.isVisible] using visible b member
    rw [headerId, first, Option.bind_some, read, String.toList_ofList]
    exact trimsTo_trimChars _

end TenantSource

/-! ## Requests that name no tenant -/

/-- the failure of a request that names no tenant -/
def ErrorReply.unnamed (requestId : String) : ErrorReply :=
  { error := .unknownTenant "", tenant := "", requestId := some requestId }

namespace Passage

variable {α W : Type} [Quantity α] {p : Passage α W}

/-- a request without a tenant is told so, before anything else is looked at -/
theorem handled_unnamed (accepted : p.gateway.registry.Accepted) (unnamed : p.request.tenantId = "") :
    p.handled.1 = .error (.unnamed p.requestId) := by
  have none : p.tenant? = none := by
    rw [tenant?, unnamed]
    exact accepted.get?_blank rfl
  have resolved := p.runOn_resolveTenant
  rw [none, unnamed] at resolved
  have passed : (Gate.pass p.outside p.caller p.request.body).runOn p.received = (.error (.unknownTenant ""), p.received) :=
    Gate.runOn_bind_error resolved
  have received : p.gateway.receive p.world p.now p.requestId p.caller p.request = p.received := rfl
  have reply : p.received.context.errorReply (.unknownTenant "") = .unnamed p.requestId :=
    congrArg (ErrorReply.mk (.unknownTenant "") · (some p.requestId) Option.none) unnamed
  rw [handled, Gateway.handle_eq, received, passed]
  exact congrArg Except.error reply

end Passage

namespace Gateway

variable {α W : Type} [Quantity α]

/-- **What is read off a request.** In path mode, every path falls into slashes, an id without a slash and a rest, and the rest is forwarded, or a
slash where there is none, with the query as it is; the id is empty only if there are slashes alone. A target that is made of an id and a path
is read as the two, exactly if nothing of them is a fragment. In header mode the path and the query stay, and the id is what the first value of
the header holds. And however a gateway came to its tenants, a request with the empty id is told that its tenant is unknown: over HTTP, once its
body has been read. -/
theorem extraction_exact {config : Config} {source : Option String} {backends : List Category} {sinks : List Sink} {start : Gateway α}
    (built : build config source backends sinks = .ok start) :
    (∀ (u : Uri) (h : Headers),
      TenantSource.SplitsPath u (TenantSource.pathPrefix.extract u h).1 (TenantSource.pathPrefix.extract u h).2) ∧
    (∀ (id p : String) (u : Uri) (h : Headers), id ≠ "" → '/' ∉ id.toList → (∃ tail, p = "/" ++ tail) →
      Uri.parse ("/" ++ id ++ p) = some u → u.query = none →
      (TenantSource.pathPrefix.extract u h = (id, p) ↔ '#' ∉ (id ++ p).toList)) ∧
    (∀ (name : String) (u : Uri) (h : Headers),
      ((TenantSource.header name).extract u h).2 = u.path ++ u.queryPart ∧
        TenantSource.NamedByHeader name h ((TenantSource.header name).extract u h).1) ∧
    ∀ (o : Outside W) (world : W) (ts : List Turn),
      let s := (Service.mk start world).run o ts
      (∀ p : Passage α W, p.gateway = s.gateway → p.request.tenantId = "" → p.handled.1 = .error (.unnamed p.requestId)) ∧
      ∀ (now : ℕ) (requestId : String) (r : Request) (inbound : Inbound), s.gateway.inbound r = .ok inbound →
        (config.gateway.tenantSource.extract r.uri r.headers).1 = "" →
        (s.gateway.proxy o s.world now requestId r).response = (ErrorReply.unnamed requestId).response := by
  refine ⟨TenantSource.splitsPath_extract, fun id p u h named unslashed absolute parsed unasked =>
    TenantSource.extract_joined named unslashed absolute parsed unasked h, fun name u h =>
    ⟨rfl, TenantSource.namedByHeader_headerId name h⟩, fun o world ts => ?_⟩
  intro s
  have accepted : s.gateway.registry.Accepted := run_accepted built o world ts
  have started : s.gateway.StartedFrom config source backends := run_startedFrom (startedFrom_build built) o world ts
  constructor
  · intro p same unnamed
    exact Passage.handled_unnamed (same ▸ accepted) unnamed
  · intro now requestId r inbound read unnamed
    have tenant : inbound.tenantId = "" := by
      rw [(inbound_eq read).1, started.configured, unnamed]
    have told : (Passage.mk o s.gateway s.world now requestId { gone := s.gateway.closing } inbound).handled.1 =
        .error (.unnamed requestId) :=
      Passage.handled_unnamed accepted tenant
    obtain ⟨-, response⟩ := proxy_of_inbound o s.world now requestId read
    rw [response, told]

/-- a gateway with one tenant, which takes bodies of one byte -/
def cramped : Gateway ℚ :=
  { settings :=
      { config := { version := 1, gateway := { maxBodyBytes := 1 }, tenants := [{ id := "acme" }] }
        routes := .standard
        source := "static"
        backends := [.openai] }
    registry := ⟨⟨[.ofConfig { id := "acme" }], 1⟩, 1⟩
    limiter := .empty
    cache := .empty 300000000000
    diagnostics := .start []
    closing := false }

/-- a request that names no tenant -/
def rootRequest (body : String) : Request :=
  { method := "POST", uri := ⟨"/", none⟩, headers := .empty, body := [.data (Text.bytes body)] }

/-- **A request to the root** is told that its tenant is unknown, and one to a tenant's path is read as it is written. -/
theorem extraction_exact_root :
    build cramped.settings.config (some "static") [.openai] [] = .ok cramped ∧
      (cramped.proxy sampleOutside () 0 "id" (rootRequest "a")).response = (ErrorReply.unnamed "id").response ∧
      TenantSource.pathPrefix.extract ⟨"/acme//openai/chat", none⟩ .empty = ("acme", "//openai/chat") := by
  have built : build cramped.settings.config (some "static") [.openai] [] = .ok cramped := by rfl
  obtain ⟨-, joined, -, unnamed⟩ := extraction_exact (W := Unit) built
  refine ⟨built, ?_, ?_⟩
  · obtain ⟨-, answered⟩ := unnamed sampleOutside () []
    have read : cramped.inbound (rootRequest "a") =
        .ok { tenantId := "", method := "POST", path := "/", headers := .empty, body := Text.bytes "a" } := by
      rfl
    exact answered 0 "id" (rootRequest "a") _ read (by decide)
  · have parsed : Uri.parse ("/" ++ "acme" ++ "//openai/chat") = some ⟨"/acme//openai/chat", none⟩ := by decide +kernel
    exact (joined "acme" "//openai/chat" _ .empty (by decide) (by decide) ⟨"/openai/chat", rfl⟩ parsed rfl).mpr (by decide)

/-- **A fragment, and a body that is too long.** A tenant whose id has a number sign is not read off a path, and a request that names no tenant is
told that its body is too long, if it is. -/
theorem fragment_dropped_and_body_first :
    (¬ ∀ (id p : String) (u : Uri), id ≠ "" → '/' ∉ id.toList → (∃ tail, p = "/" ++ tail) →
      Uri.parse ("/" ++ id ++ p) = some u → u.query = none → TenantSource.pathPrefix.extract u .empty = (id, p)) ∧
    ¬ ∀ r : Request, (TenantSource.pathPrefix.extract r.uri r.headers).1 = "" →
      (cramped.proxy sampleOutside () 0 "id" r).response = (ErrorReply.unnamed "id").response := by
  constructor
  · intro read
    have parsed : Uri.parse ("/" ++ "a#b" ++ "/c") = some ⟨"/a", none⟩ := by decide +kernel
    have wrong := read "a#b" "/c" ⟨"/a", none⟩ (by decide) (by decide) ⟨"c", rfl⟩ parsed rfl
    exact absurd wrong (by decide)
  · intro answered
    have status := congrArg Response.status (answered (rootRequest "ab") (by decide))
    exact absurd status (by decide +kernel)

end Gateway

end TenantGateway
