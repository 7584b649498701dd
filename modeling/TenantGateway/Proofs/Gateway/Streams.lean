/-
Bodies on their way to their callers, and which of their bytes are counted.

`Live` is a gateway at work whose callers take the bodies of replies piece by piece, whenever they like, while further requests
are handled. A `Piece` is what one of them was given, together with the request that it answers.
- `Headers.isEventStream_eq`: which replies announce a stream of events;
- `Gateway.bytesOf_relay`: what is counted when a part of a body is passed on;
- `Live.bytesOf_run`: the bytes counted under an id are those of the pieces that were passed on of the replies to its tenant, as
  far as these announce a stream of events and the tenant's policy has them counted.
-/
import TenantGateway.Proofs.Gateway.Recorded

namespace TenantGateway

/-! ## Streams of events -/

namespace HeaderValue

/-- the character that a byte is read as -/
theorem toNat_ofNat (b : UInt8) : (Char.ofNat b.toNat).toNat = b.toNat := by
  have valid : b.toNat.isValidChar := by
    have := b.toNat_lt
    exact .inl (by omega)
  rw [Char.ofNat, dif_pos valid]
  rfl

/-- different bytes are read as different characters -/
theorem ofNat_injective : Function.Injective fun b : UInt8 => Char.ofNat b.toNat := by
  intro b b' same
  have codes := congrArg Char.toNat same
  rw [toNat_ofNat, toNat_ofNat] at codes
  exact UInt8.toNat_inj.1 codes

/-- what is read off a value begins with what is read off others exactly where its bytes do -/
theorem read_prefix_iff (head bytes : List UInt8) :
    head.map (fun b => Char.ofNat b.toNat) <+: bytes.map (fun b => Char.ofNat b.toNat) ↔ head <+: bytes := by
  constructor
  · intro begins
    obtain ⟨own, begins, same⟩ := List.prefix_map_iff.1 begins
    rwa [List.map_injective_iff.2 ofNat_injective same]
  · exact fun begins => begins.map _

end HeaderValue

namespace Headers

/-- the first content type is visible text as a whole, and begins so -/
def declares (h : Headers) (head : String) : Bool :=
  (h.first? .contentType).any fun type => type.bytes.all HeaderValue.isVisible && (Text.bytes head).isPrefixOf type.bytes

theorem isEventStream_eq (h : Headers) : h.isEventStream = h.declares "text/event-stream" := by
  have spelled : eventStream.toList = (Text.bytes "text/event-stream").map fun b => Char.ofNat b.toNat := by
    decide +kernel
  unfold isEventStream declares
  cases h.first? .contentType with
  | none => rfl
  | some type =>
    cases visible : type.bytes.all HeaderValue.isVisible with
    | false => simp only [Option.bind_some, HeaderValue.text?, visible, Bool.false_eq_true, if_false, Option.any_some,
        Bool.false_and]
    | true =>
      rw [Bool.eq_iff_iff]
      simp only [Option.bind_some, HeaderValue.text?, visible, if_true, spelled, Option.any_some, Bool.true_and,
        List.isPrefixOf_iff_prefix, HeaderValue.read_prefix_iff]

end Headers

/-! ## Pieces of bodies -/

/-- the pieces of a body, up to where it breaks -/
def delivered : List Chunk → List (List UInt8)
  | .data bytes :: rest => bytes :: delivered rest
  | .broken :: _ | [] => []

/-- a piece that a caller was given, the reply that it is of, and the request that was answered -/
structure Piece (α W : Type) where
  passage : Passage α W
  reply : Reply
  bytes : List UInt8

namespace Piece

variable {α W : Type}

/-- whether it is a piece of a stream of events, in a reply to the tenant with this id, whose policy has such streams counted -/
def countsFor (id : String) (p : Piece α W) : Bool :=
  p.passage.tenant?.any (fun t => t.id = id && t.policy.streamingMetrics) && p.reply.headers.declares "text/event-stream"

/-- how many bytes such pieces have together -/
def counted (id : String) (ps : List (Piece α W)) : ℕ :=
  ((ps.filter (·.countsFor id)).map (·.bytes.length)).sum

theorem counted_append (id : String) (ps ps' : List (Piece α W)) :
    counted id (ps ++ ps') = counted id ps + counted id ps' := by
  simp only [counted, List.filter_append, List.map_append, List.sum_append]

end Piece

namespace Passage

variable {α W : Type} [Quantity α] {p : Passage α W}

omit [Quantity α] in
theorem id_of_tenant? {t : Tenant} (found : p.tenant? = some t) : t.id = p.request.tenantId := by
  simpa using List.find?_some found

/-- a reply is counted for a tenant as its pieces are -/
theorem countedFor_iff {reply : Reply} (told : p.handled.1 = .ok reply) (id : String) (bytes : List UInt8) :
    reply.countedFor = some id ↔ Piece.countsFor id ⟨p, reply, bytes⟩ = true := by
  rw [p.handled_eq, p.ended_course.told] at told
  cases ended : p.ended.1 with
  | error e =>
    rw [ended] at told
    cases told
  | ok answer =>
    rw [ended] at told
    cases told
    rw [Headers.isEventStream_eq]
    cases found : p.tenant? with
    | none => simp [Piece.countsFor, found]
    | some t =>
      have own := id_of_tenant? found
      simp only [Piece.countsFor, found, Option.any_some, Option.ite_none_right_eq_some, Option.some.injEq, own,
        Bool.and_eq_true, decide_eq_true_eq]
      tauto

/-- the pieces of a reply are counted for a tenant all together or not at all -/
theorem counted_reply {reply : Reply} (told : p.handled.1 = .ok reply) (id : String) (pieces : List (List UInt8)) :
    Piece.counted id (pieces.map fun bytes => ⟨p, reply, bytes⟩) =
      if reply.countedFor = some id then (pieces.map List.length).sum else 0 := by
  have same (bytes : List UInt8) : Piece.countsFor id ⟨p, reply, bytes⟩ = decide (reply.countedFor = some id) := by
    rw [Bool.eq_iff_iff, ← countedFor_iff told, decide_eq_true_eq]
  rw [Piece.counted, List.filter_map]
  simp only [Function.comp_def, same]
  by_cases own : reply.countedFor = some id
  · simp [own, Function.comp_def]
  · simp [own]

/-- the pieces of the reply, if there is one and the method asks for its body -/
def passedOn (p : Passage α W) (method : String) : List (Piece α W) :=
  match p.handled.1 with
  | .ok reply => if method = Gateway.headMethod then [] else (delivered reply.body).map fun bytes => ⟨p, reply, bytes⟩
  | .error _ => []

end Passage

/-! ## The counter of a tenant -/

/-- a body that is passed on adds the bytes of its pieces to the counter of the tenant that it is counted for -/
theorem Metrics.get_relay (m : Metrics) (tenant id : String) (body : List Chunk) :
    (m.relay tenant body).streamBytes.get [("tenant", id)] =
      m.streamBytes.get [("tenant", id)] +
        UInt64.ofNat (if tenant = id then ((delivered body).map List.length).sum else 0) := by
  have nothing : UInt64.ofNat (if tenant = id then 0 else 0) = 0 := by
    rw [ite_self]
    rfl
  induction body generalizing m with
  | nil =>
    rw [relay, delivered, List.map_nil, List.sum_nil, nothing, UInt64.add_zero]
  | cons chunk rest ih =>
    cases chunk with
    | broken =>
      rw [relay, delivered, List.map_nil, List.sum_nil, nothing, UInt64.add_zero]
    | data bytes =>
      rw [relay, ih, Counters.get_add, delivered, List.map_cons, List.sum_cons, key_singleton, key_singleton]
      by_cases own : tenant = id
      · simp only [own, if_true, UInt64.ofNat_add, UInt64.add_assoc]
      · have other : ¬ id = tenant := Ne.symm own
        simp [own, other]

namespace Gateway

variable {α W : Type}

/-- the bytes that have been counted under a tenant's id -/
def bytesOf (g : Gateway α) (id : String) : UInt64 :=
  g.diagnostics.metrics.streamBytes.get [("tenant", id)]

variable [Quantity α]

/-- **What is counted of a body.** A part of the body of a reply is passed on: its pieces are counted, if they are to be, and
under the id of the tenant. -/
theorem bytesOf_relay {p : Passage α W} {reply : Reply} (told : p.handled.1 = .ok reply) (g : Gateway α)
    (part : List Chunk) (id : String) :
    (g.relay { reply with body := part }).bytesOf id =
      g.bytesOf id + UInt64.ofNat (Piece.counted id ((delivered part).map fun bytes => ⟨p, reply, bytes⟩)) := by
  rw [Passage.counted_reply told]
  unfold relay
  cases reply.countedFor with
  | none =>
    simp only [reduceCtorEq, if_false]
    exact (UInt64.add_zero _).symm
  | some tenant =>
    simp only [Option.some.injEq]
    exact g.diagnostics.metrics.get_relay tenant id part

end Gateway

/-! ## Turns of a gateway -/

namespace Service

variable {α W : Type} [Quantity α]

/-- the pieces that callers are given in a turn: over HTTP a body is passed on in the turn of its request -/
def sent (o : Outside W) (s : Service α W) : Turn → List (Piece α W)
  | .request now requestId r => ((s.passage? o (.request now requestId r)).map fun p => p.passedOn r.method).getD []
  | _ => []

theorem bytesOf_proxy (o : Outside W) (s : Service α W) (now : ℕ) (requestId : String) {r : Request}
    (own : OperatorPage.ofPath? r.uri.path = none) (id : String) :
    (s.gateway.proxy o s.world now requestId r).gateway.bytesOf id =
      s.gateway.bytesOf id + UInt64.ofNat (Piece.counted id (s.sent o (.request now requestId r))) := by
  unfold Gateway.proxy sent
  cases read : s.gateway.inbound r with
  | error e =>
    simp only [passage?, own, read]
    exact (UInt64.add_zero _).symm
  | ok inbound =>
    let p : Passage α W := ⟨o, s.gateway, s.world, now, requestId, { gone := s.gateway.closing }, inbound⟩
    have handled : s.gateway.handle o s.world now requestId { gone := s.gateway.closing } inbound = p.handled := rfl
    have kept : (if p.handled.2.cancelled then p.handled.2.gateway.shutDown else p.handled.2.gateway).bytesOf id =
        s.gateway.bytesOf id := by
      have counted := congrArg (Counters.get · [("tenant", id)]) p.handled_traffic.streamBytes
      split_ifs
      · exact counted
      · exact counted
    simp only [passage?, own, read, handled, Option.map_some, Option.getD_some]
    generalize (if p.handled.2.cancelled then p.handled.2.gateway.shutDown else p.handled.2.gateway) = last at kept ⊢
    rw [← kept]
    unfold Passage.passedOn
    cases told : p.handled.1 with
    | error e => exact (UInt64.add_zero _).symm
    | ok reply =>
      dsimp only
      split_ifs
      · exact (UInt64.add_zero _).symm
      · exact Gateway.bytesOf_relay told last reply.body id

theorem bytesOf_step (o : Outside W) (s : Service α W) (t : Turn) (id : String) :
    (s.step o t).gateway.bytesOf id = s.gateway.bytesOf id + UInt64.ofNat (Piece.counted id (s.sent o t)) := by
  have unchanged {after before : UInt64} (same : after = before) :
      after = before + UInt64.ofNat (Piece.counted id ([] : List (Piece α W))) :=
    same.trans (UInt64.add_zero _).symm
  cases t with
  | request now requestId r =>
    cases page : OperatorPage.ofPath? r.uri.path with
    | some found =>
      simp only [sent, passage?, step, Gateway.serve, page]
      refine unchanged ?_
      split_ifs <;> rfl
    | none =>
      rw [← s.bytesOf_proxy o now requestId page id]
      simp only [step, Gateway.serve, page]
      split_ifs <;> rfl
  | inbound now requestId caller r =>
    let p : Passage α W := ⟨o, s.gateway, s.world, now, requestId, caller, r⟩
    exact unchanged (congrArg (Counters.get · [("tenant", id)]) p.handled_traffic.streamBytes)
  | reload next => exact unchanged (congrArg (Counters.get · [("tenant", id)]) (s.gateway.reload_traffic next).streamBytes)
  | drain => exact unchanged rfl
  | shutDown => exact unchanged rfl

end Service

/-! ## Bodies taken piece by piece -/

/-- a reply whose caller takes its body piece by piece -/
structure Stream (α W : Type) [Quantity α] where
  passage : Passage α W
  reply : Reply
  told : passage.handled.1 = .ok reply
  /-- how many pieces it has taken -/
  taken : ℕ

namespace Stream

variable {α W : Type} [Quantity α]

/-- the piece that comes next, if the body goes on and does not break there -/
def next? (s : Stream α W) : Option (List UInt8) :=
  match s.reply.body[s.taken]? with
  | some (.data bytes) => some bytes
  | _ => none

/-- the stream of a request that was handled with success, at its beginning -/
def opened (p : Passage α W) : Option (Stream α W) :=
  match told : p.handled.1 with
  | .ok reply => some ⟨p, reply, told, 0⟩
  | .error _ => none

/-- and when one more piece has been taken -/
def advanced (s : Stream α W) : Stream α W :=
  { s with taken := s.taken + 1 }

end Stream

/-- what happens to a gateway whose replies are streamed -/
inductive Happening where
  | turn (t : Turn)
  /-- the caller of one of the streams, by its number, takes the next piece -/
  | take (number : ℕ)

/-- a gateway at work, and the replies whose callers take their bodies -/
structure Live (α W : Type) [Quantity α] where
  service : Service α W
  streams : List (Stream α W)

namespace Live

variable {α W : Type} [Quantity α]

/-- the next piece of a stream, if there is one -/
def next? (l : Live α W) (number : ℕ) : Option (Stream α W × List UInt8) := do
  let s ← l.streams[number]?
  let bytes ← s.next?
  return (s, bytes)

/-- the stream that a turn begins, if it does; over HTTP a body is passed on in the turn of its request -/
def opened? (o : Outside W) (l : Live α W) : Turn → Option (Stream α W)
  | .inbound now requestId caller r =>
    Stream.opened ⟨o, l.service.gateway, l.service.world, now, requestId, caller, r⟩
  | _ => none

def step (o : Outside W) (l : Live α W) : Happening → Live α W
  | .turn t => ⟨l.service.step o t, l.streams ++ (l.opened? o t).toList⟩
  | .take number =>
    match l.next? number with
    | none => l
    | some (s, bytes) =>
      ⟨{ l.service with gateway := l.service.gateway.relay { s.reply with body := [.data bytes] } },
        l.streams.set number s.advanced⟩

def run (o : Outside W) (l : Live α W) (hs : List Happening) : Live α W :=
  hs.foldl (step o) l

theorem run_cons (o : Outside W) (l : Live α W) (h : Happening) (hs : List Happening) :
    l.run o (h :: hs) = (l.step o h).run o hs := rfl

/-- the pieces that callers are given -/
def sent (o : Outside W) (l : Live α W) : Happening → List (Piece α W)
  | .turn t => l.service.sent o t
  | .take number => ((l.next? number).map fun (s, bytes) => ⟨s.passage, s.reply, bytes⟩).toList

/-- all pieces that are given in a run -/
def pieces (o : Outside W) (l : Live α W) : List Happening → List (Piece α W)
  | [] => []
  | h :: hs => l.sent o h ++ (l.step o h).pieces o hs

theorem bytesOf_step (o : Outside W) (l : Live α W) (h : Happening) (id : String) :
    (l.step o h).service.gateway.bytesOf id =
      l.service.gateway.bytesOf id + UInt64.ofNat (Piece.counted id (l.sent o h)) := by
  cases h with
  | turn t => exact l.service.bytesOf_step o t id
  | take number =>
    simp only [step, sent]
    cases l.next? number with
    | none => exact (UInt64.add_zero _).symm
    | some given => exact Gateway.bytesOf_relay given.1.told l.service.gateway [.data given.2] id

/-- **A run counts the bytes of the pieces that it passes on**, and nothing else. -/
theorem bytesOf_run (o : Outside W) (l : Live α W) (hs : List Happening) (id : String) :
    (l.run o hs).service.gateway.bytesOf id =
      l.service.gateway.bytesOf id + UInt64.ofNat (Piece.counted id (l.pieces o hs)) := by
  induction hs generalizing l with
  | nil => exact (UInt64.add_zero _).symm
  | cons h hs ih =>
    rw [run_cons, ih, bytesOf_step, pieces, Piece.counted_append, UInt64.ofNat_add, UInt64.add_assoc]

end Live

end TenantGateway
