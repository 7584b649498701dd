/-
The body of a request.

A body comes in chunks and is read to its end or to the first chunk that ends it: one that breaks, or one with which there are more bytes
than the limit (`Chunk.offence?`). `readBody_data` is the step that all else follows from: chunks within the limit are collected, byte for
byte. `bodies_buffered` adds what becomes of the request: it is forwarded with the bytes that came, or refused with nothing touched.
-/
import TenantGateway.Proofs.Gateway.ForwardedHeaders

namespace TenantGateway

/-- why a chunk ends the reading of a body of which `total` bytes have been read, if it does -/
def Chunk.offence? (limit total : ℕ) : Chunk → Option GatewayError
  | .broken => some (.badRequest "request body could not be read")
  | .data piece => if limit < total + piece.length then some (.payloadTooLarge limit) else none

theorem Chunk.offence?_data_iff {limit total : ℕ} {piece : List UInt8} {e : GatewayError} :
    (Chunk.data piece).offence? limit total = some e ↔ limit < total + piece.length ∧ e = .payloadTooLarge limit := by
  simp [offence?, eq_comm]

/-! ## Reading -/

section

variable {limit : ℕ} {read : List UInt8}

/-- chunks within the limit are collected -/
theorem readBody_data (pieces : List (List UInt8)) (rest : List Chunk) (fits : read.length + pieces.flatten.length ≤ limit) :
    readBody limit read (pieces.map .data ++ rest) = readBody limit (read ++ pieces.flatten) rest := by
  induction pieces generalizing read with
  | nil => simp
  | cons piece pieces ih =>
    rw [List.flatten_cons, List.length_append] at fits
    have within : ¬limit < read.length + piece.length := by omega
    have later : (read ++ piece).length + pieces.flatten.length ≤ limit := by
      rw [List.length_append]
      omega
    rw [List.map_cons, List.cons_append, readBody, if_neg within, ih later, List.flatten_cons, List.append_assoc]

/-- a chunk that offends ends the reading -/
theorem readBody_offence {chunk : Chunk} {e : GatewayError} (offends : chunk.offence? limit read.length = some e)
    (rest : List Chunk) : readBody limit read (chunk :: rest) = .error e := by
  cases chunk with
  | broken =>
    obtain rfl := Option.some.inj offends
    rfl
  | data piece =>
    obtain ⟨large, rfl⟩ := Chunk.offence?_data_iff.1 offends
    rw [readBody, if_pos large]

/-- every body is intact and within the limit, or has a first chunk that offends -/
theorem intact_or_offence (limit : ℕ) (chunks : List Chunk) :
    (∃ pieces : List (List UInt8), chunks = pieces.map .data ∧ pieces.flatten.length ≤ limit) ∨
      ∃ (pieces : List (List UInt8)) (chunk : Chunk) (rest : List Chunk) (e : GatewayError),
        chunks = pieces.map .data ++ chunk :: rest ∧ pieces.flatten.length ≤ limit ∧
          chunk.offence? limit pieces.flatten.length = some e := by
  induction chunks using List.reverseRecOn with
  | nil => exact .inl ⟨[], rfl, Nat.zero_le limit⟩
  | append_singleton chunks last ih =>
    rcases ih with ⟨pieces, rfl, fits⟩ | ⟨pieces, chunk, rest, e, rfl, fits, offends⟩
    · cases offends : last.offence? limit pieces.flatten.length with
      | some e => exact .inr ⟨pieces, last, [], e, rfl, fits, offends⟩
      | none =>
        cases last with
        | broken => cases offends
        | data piece =>
          have within : pieces.flatten.length + piece.length ≤ limit := by
            simpa [Chunk.offence?] using offends
          exact .inl ⟨pieces ++ [piece], by simp, by simpa using within⟩
    · exact .inr ⟨pieces, chunk, rest ++ [last], e, by simp, fits, offends⟩

theorem readBody_intact {pieces : List (List UInt8)} (fits : pieces.flatten.length ≤ limit) :
    readBody limit [] (pieces.map .data) = .ok pieces.flatten := by
  have within : ([] : List UInt8).length + pieces.flatten.length ≤ limit := by simpa using fits
  have collected := readBody_data pieces [] within
  rwa [List.append_nil] at collected

theorem readBody_refused {pieces : List (List UInt8)} {chunk : Chunk} {e : GatewayError}
    (fits : pieces.flatten.length ≤ limit) (offends : chunk.offence? limit pieces.flatten.length = some e) (rest : List Chunk) :
    readBody limit [] (pieces.map .data ++ chunk :: rest) = .error e := by
  rw [readBody_data pieces (chunk :: rest) (by simpa using fits)]
  exact readBody_offence offends rest

theorem readBody_eq_ok_iff (limit : ℕ) (chunks : List Chunk) (body : List UInt8) :
    readBody limit [] chunks = .ok body ↔
      ∃ pieces : List (List UInt8), chunks = pieces.map .data ∧ pieces.flatten.length ≤ limit ∧ body = pieces.flatten := by
  constructor
  · intro done
    rcases intact_or_offence limit chunks with ⟨pieces, rfl, fits⟩ | ⟨pieces, chunk, rest, e, rfl, fits, offends⟩
    · rw [readBody_intact fits] at done
      exact ⟨pieces, rfl, fits, (Except.ok.inj done).symm⟩
    · rw [readBody_refused fits offends] at done
      cases done
  · rintro ⟨pieces, rfl, fits, rfl⟩
    exact readBody_intact fits

theorem readBody_eq_error_iff (limit : ℕ) (chunks : List Chunk) (e : GatewayError) :
    readBody limit [] chunks = .error e ↔
      ∃ (pieces : List (List UInt8)) (chunk : Chunk) (rest : List Chunk),
        chunks = pieces.map .data ++ chunk :: rest ∧ pieces.flatten.length ≤ limit ∧
          chunk.offence? limit pieces.flatten.length = some e := by
  constructor
  · intro failed
    rcases intact_or_offence limit chunks with ⟨pieces, rfl, fits⟩ | ⟨pieces, chunk, rest, e', rfl, fits, offends⟩
    · rw [readBody_intact fits] at failed
      cases failed
    · rw [readBody_refused fits offends] at failed
      obtain rfl := Except.error.inj failed
      exact ⟨pieces, chunk, rest, rfl, fits, offends⟩
  · rintro ⟨pieces, chunk, rest, rfl, fits, offends⟩
    exact readBody_refused fits offends rest

/-- an intact body that is too large is refused, wherever it is cut -/
theorem readBody_large {pieces : List (List UInt8)} (large : limit < pieces.flatten.length) :
    readBody limit [] (pieces.map .data) = .error (.payloadTooLarge limit) := by
  rcases intact_or_offence limit (pieces.map .data) with ⟨pieces', same, fits⟩ | ⟨before, chunk, rest, e, same, fits, offends⟩
  · have pieces_eq : pieces = pieces' := List.map_injective_iff.2 (fun _ _ => Chunk.data.inj) same
    rw [pieces_eq] at large
    omega
  · rw [same, readBody_refused fits offends]
    -- none of the chunks is broken
    have member : chunk ∈ pieces.map Chunk.data := by
      rw [same]
      simp
    obtain ⟨piece, -, rfl⟩ := List.mem_map.1 member
    rw [(Chunk.offence?_data_iff.1 offends).2]

/-- what comes of an intact body depends on its bytes, not on how they are cut -/
theorem readBody_recut (limit : ℕ) {pieces pieces' : List (List UInt8)} (same : pieces.flatten = pieces'.flatten) :
    readBody limit [] (pieces.map .data) = readBody limit [] (pieces'.map .data) := by
  by_cases fits : pieces.flatten.length ≤ limit
  · rw [readBody_intact fits, readBody_intact (same ▸ fits), same]
  · have large : limit < pieces.flatten.length := Nat.lt_of_not_le fits
    rw [readBody_large large, readBody_large (same ▸ large)]

end

/-! ## Requests -/

/-- the body that the client sends is the one it was given -/
theorem HttpBackend.request_body {b : HttpBackend} {r : ForwardRequest} {w : WireRequest} (made : b.request r = .ok w) :
    w.body = r.body := by
  unfold request at made
  split at made
  · cases made
  · cases made
    rfl

namespace Gateway

variable {α W : Type}

theorem inbound_body {g : Gateway α} {r : Request} {inbound : Inbound} (read : g.inbound r = .ok inbound) :
    readBody g.settings.config.gateway.maxBodyBytes [] r.body = .ok inbound.body := by
  unfold Gateway.inbound at read
  dsimp only at read
  split at read
  · cases read
  · rename_i body whole
    cases read
    exact whole

theorem inbound_unread {g : Gateway α} {r : Request} {e : GatewayError}
    (failed : readBody g.settings.config.gateway.maxBodyBytes [] r.body = .error e) :
    g.inbound r =
      .error { error := e, tenant := (g.settings.config.gateway.tenantSource.extract r.uri r.headers).1 } := by
  unfold Gateway.inbound
  dsimp only
  rw [failed]

variable [Quantity α] (o : Outside W) (g : Gateway α) (world : W) (now : ℕ) (requestId : String) (r : Request)

/-- what is forwarded for a request has the body that was read -/
theorem forwarded_body {c : Category} {sent : ForwardRequest} (forwarded : (c, sent) ∈ (g.proxy o world now requestId r).forwarded) :
    readBody g.settings.config.gateway.maxBodyBytes [] r.body = .ok sent.body := by
  cases read : g.inbound r with
  | error e => simp [proxy, read] at forwarded
  | ok inbound =>
    obtain ⟨result, f, course, handled⟩ :=
      Passage.handled_course ⟨o, g, world, now, requestId, { gone := g.closing }, inbound⟩
    rw [(proxy_of_inbound o world now requestId read).1, handled, Flight.closed_forwarded] at forwarded
    obtain ⟨t, token, remaining, placed, rfl⟩ := course.placed_of_forwarded forwarded
    exact inbound_body read

/-- **A body is taken whole or not at all.** Take any limit and any chunks. The reading gives the bytes of all chunks together exactly if
none is broken and they are no more than the limit. Otherwise the first chunk that offends decides why it fails: one that is broken, with
the same text whatever broke it, or one that brings the bytes above the limit, whatever comes after it. So what comes of a body that does
not break depends on its bytes and not on how they are cut. A request that is forwarded has the caller's body, byte for byte, and so has
what the client sends; where the reading fails the gateway and the world stay as they are, and nothing is forwarded. -/
theorem bodies_buffered :
    (∀ limit chunks body, readBody limit [] chunks = .ok body ↔
      ∃ pieces : List (List UInt8), chunks = pieces.map .data ∧ pieces.flatten.length ≤ limit ∧ body = pieces.flatten) ∧
    (∀ limit chunks e, readBody limit [] chunks = .error e ↔
      ∃ (pieces : List (List UInt8)) (chunk : Chunk) (rest : List Chunk),
        chunks = pieces.map .data ++ chunk :: rest ∧ pieces.flatten.length ≤ limit ∧
          chunk.offence? limit pieces.flatten.length = some e) ∧
    (∀ limit (pieces pieces' : List (List UInt8)), pieces.flatten = pieces'.flatten →
      readBody limit [] (pieces.map .data) = readBody limit [] (pieces'.map .data)) ∧
    let limit := g.settings.config.gateway.maxBodyBytes
    let served := g.proxy o world now requestId r
    (∀ c sent, (c, sent) ∈ served.forwarded →
      ∃ pieces : List (List UInt8), r.body = pieces.map .data ∧ sent.body = pieces.flatten ∧
        ∀ (b : HttpBackend) (w : WireRequest), b.request sent = .ok w → w.body = pieces.flatten) ∧
    ∀ e, readBody limit [] r.body = .error e →
      served.gateway = g ∧ served.world = world ∧ served.now = now ∧ served.forwarded = [] ∧
        served.response = ErrorReply.response
          { error := e, tenant := (g.settings.config.gateway.tenantSource.extract r.uri r.headers).1 } := by
  refine ⟨readBody_eq_ok_iff, readBody_eq_error_iff, ?_, ?_, ?_⟩
  · intro limit pieces pieces' same
    exact readBody_recut limit same
  · intro c sent forwarded
    obtain ⟨pieces, whole, -, body⟩ := (readBody_eq_ok_iff _ _ _).1 (g.forwarded_body o world now requestId r forwarded)
    refine ⟨pieces, whole, body, ?_⟩
    intro b w made
    rw [HttpBackend.request_body made, body]
  · intro e failed
    simp only [proxy, inbound_unread failed]
    exact ⟨trivial, trivial, trivial, trivial, trivial⟩

/-- as many bytes as the limit allows, in two chunks and an empty one, and one byte more -/
example : readBody 3 [] [.data [1, 2], .data [], .data [3]] = .ok [1, 2, 3] ∧
    readBody 3 [] [.data [1, 2], .data [3, 4], .broken] = .error (.payloadTooLarge 3) := by
  decide

end Gateway

end TenantGateway
