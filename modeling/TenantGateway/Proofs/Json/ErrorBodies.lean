/-
Bodies of failures are read back as they were written.

A body is written as characters and then encoded. `encode_writeTexts` says that the same bytes are written when the texts are encoded first and
then escaped byte by byte, and `readBytes_bytes` that reading undoes the encoding. With that `ErrorReply.body_read_back` says what a client
reads, whatever characters a failure's text and a tenant's id are made of.
-/
import TenantGateway.Proofs.Json.RoundTrip
import TenantGateway.Reply

namespace TenantGateway

open Text

namespace Json

/-! ## Escaped bytes -/

/-- a text in UTF-8 -/
def encode (cs : List Char) : List UInt8 := cs.flatMap String.utf8EncodeChar

/-- one byte of a string, escaped where it has to be; a byte of a longer character stands as it is -/
def escapeByte (b : UInt8) : List UInt8 :=
  if b < 0x80 then encode (escape (Char.ofNat b.toNat)) else [b]

/-- a string between quotes, byte by byte -/
def quoteBytes (bs : List UInt8) : List UInt8 := 0x22 :: (bs.flatMap escapeByte ++ [0x22])

/-- an object whose members are all strings, byte by byte -/
def writeTextsBytes (members : List (List UInt8 × List UInt8)) : List UInt8 :=
  let written := members.map fun (key, value) => quoteBytes key ++ 0x3A :: quoteBytes value
  0x7B :: ((written.intersperse [0x2C]).flatten ++ [0x7D])

/-- the quote, the backslash and the controls are escaped, and nothing else is -/
theorem escape_eq_self_iff {c : Char} : escape c = [c] ↔ c ≠ '"' ∧ c ≠ '\\' ∧ 0x20 ≤ c.toNat := by
  constructor
  · intro raw
    unfold escape shortEscape? at raw
    split_ifs at raw with quote backslash _ _ _ _ _ control <;> simp_all
  · rintro ⟨quote, backslash, dark⟩
    have other (d : Char) (control : d.toNat < 0x20) : ¬c = d := by
      rintro rfl
      omega
    have short : shortEscape? c = none := by
      rw [shortEscape?, if_neg quote, if_neg backslash, if_neg (by omega), if_neg (by omega), if_neg (other '\n' (by decide)),
        if_neg (other '\r' (by decide)), if_neg (other '\t' (by decide))]
    simp [escape, short, not_lt.mpr dark]

/-- every byte of a character beyond ASCII is beyond ASCII -/
theorem le_of_mem_utf8EncodeChar {c : Char} (beyond : 0x80 ≤ c.toNat) {b : UInt8} (member : b ∈ String.utf8EncodeChar c) :
    0x80 ≤ b := by
  have large : ¬ c.val.toNat ≤ 0x7f := by
    have same : c.toNat = c.val.toNat := rfl
    omega
  have high (n : ℕ) (least : 0x80 ≤ n) (byte : n < 0x100) : (0x80 : UInt8) ≤ UInt8.ofNat n := by
    rw [UInt8.le_iff_toNat_le, UInt8.toNat_ofNat_of_lt' byte]
    exact least
  unfold String.utf8EncodeChar at member
  simp only [if_neg large] at member
  split_ifs at member <;> simp only [List.mem_cons, List.not_mem_nil, or_false] at member
  · rcases member with rfl | rfl <;> exact high _ (by omega) (by omega)
  · rcases member with rfl | rfl | rfl <;> exact high _ (by omega) (by omega)
  · rcases member with rfl | rfl | rfl | rfl <;> exact high _ (by omega) (by omega)

theorem encode_escape (c : Char) : encode (escape c) = (String.utf8EncodeChar c).flatMap escapeByte := by
  by_cases ascii : c.toNat < 0x80
  · have all : ∀ n < 0x80, encode (escape (Char.ofNat n)) = (String.utf8EncodeChar (Char.ofNat n)).flatMap escapeByte := by
      decide +kernel
    simpa [Char.ofNat_toNat] using all c.toNat ascii
  · have beyond : 0x80 ≤ c.toNat := not_lt.mp ascii
    have raw : escape c = [c] := by
      refine escape_eq_self_iff.mpr ⟨?_, ?_, by omega⟩ <;>
        · rintro rfl
          exact ascii (by decide)
    have stand : (String.utf8EncodeChar c).flatMap escapeByte = (String.utf8EncodeChar c).flatMap ([·]) :=
      List.flatMap_congr fun b member => if_neg (UInt8.not_lt.mpr (le_of_mem_utf8EncodeChar beyond member))
    rw [raw, stand, List.flatMap_singleton', encode, List.flatMap_singleton]

theorem encode_append (cs cs' : List Char) : encode (cs ++ cs') = encode cs ++ encode cs' :=
  List.flatMap_append

theorem encode_cons (c : Char) (cs : List Char) : encode (c :: cs) = String.utf8EncodeChar c ++ encode cs :=
  List.flatMap_cons

theorem encode_escaped (cs : List Char) : encode (cs.flatMap escape) = (encode cs).flatMap escapeByte := by
  induction cs with
  | nil => rfl
  | cons c cs ih => rw [List.flatMap_cons, encode_append, encode_cons, List.flatMap_append, encode_escape, ih]

theorem encode_quote (cs : List Char) : encode (quote cs) = quoteBytes (encode cs) := by
  rw [quote, encode_cons, encode_append, encode_escaped]
  rfl

/-- parts with commas between them -/
theorem encode_separated (parts : List (List Char)) :
    encode (parts.intersperse [',']).flatten = ((parts.map encode).intersperse [0x2C]).flatten := by
  induction parts with
  | nil => rfl
  | cons part parts ih =>
    cases parts with
    | nil => simp
    | cons part' parts =>
      simp only [List.intersperse_cons_cons, List.flatten_cons, List.map_cons, encode_append] at ih ⊢
      rw [ih]
      rfl

/-- **Encoding and escaping may change places.** -/
theorem encode_writeTexts (members : List (List Char × List Char)) :
    encode (writeTexts members) = writeTextsBytes (members.map fun m => (encode m.1, encode m.2)) := by
  have member (m : List Char × List Char) :
      encode (quote m.1 ++ ':' :: quote m.2) = quoteBytes (encode m.1) ++ 0x3A :: quoteBytes (encode m.2) := by
    rw [encode_append, encode_cons, encode_quote, encode_quote]
    rfl
  rw [writeTexts, encode_cons, encode_append, encode_separated, List.map_map, writeTextsBytes, List.map_map]
  simp only [Function.comp_def, member]
  rfl

/-! ## Reading -/

/-- the value that bytes are read as -/
def readBytes (bs : List UInt8) : Option Json :=
  (String.fromUTF8? (ByteArray.mk bs.toArray)).bind fun text => parse text.toList

theorem fromUTF8?_bytes (s : String) : String.fromUTF8? (ByteArray.mk (bytes s).toArray) = some s := by
  have encoded : ByteArray.mk (bytes s).toArray = s.toByteArray := by
    rw [← String.utf8Encode_toList]
    exact ByteArray.ext List.data_toByteArray.symm
  rw [encoded, String.fromUTF8?, dif_pos s.isValidUTF8]
  rfl

/-- encoding is undone -/
theorem readBytes_bytes (s : String) : readBytes (bytes s) = parse s.toList := by
  rw [readBytes, fromUTF8?_bytes, Option.bind_some]

end Json

/-! ## Bodies -/

namespace ErrorCode

/-- a name tells its code -/
theorem ofName?_name (c : ErrorCode) : ofName? c.name = some c := by
  cases c <;> decide

theorem name_injective : Function.Injective name := by
  intro c c' same
  have read := ofName?_name c
  rw [same, ofName?_name] at read
  exact (Option.some.inj read).symm

end ErrorCode

namespace ErrorBody

/-- the body of a failure reply is read back as an object of three texts -/
theorem parse_json (b : ErrorBody) :
    Json.parse b.json.toList =
      some (.object [("error".toList, .text b.code.name.toList), ("message".toList, .text b.text.toList),
        ("tenant".toList, .text b.tenant.toList)]) := by
  rw [json, String.toList_ofList, Json.parse_writeTexts]
  rfl

/-- the bytes of a body, written without the text -/
theorem bytes_json (b : ErrorBody) :
    bytes b.json = Json.writeTextsBytes [(bytes "error", bytes b.code.name), (bytes "message", bytes b.text),
      (bytes "tenant", bytes b.tenant)] := by
  rw [bytes, json, String.toList_ofList]
  exact Json.encode_writeTexts _

/-- what a client reads of the bytes -/
theorem readBytes_json (b : ErrorBody) :
    Json.readBytes (bytes b.json) =
      some (.object [("error".toList, .text b.code.name.toList), ("message".toList, .text b.text.toList),
        ("tenant".toList, .text b.tenant.toList)]) :=
  (Json.readBytes_bytes b.json).trans b.parse_json

/-- the bytes tell all of a body -/
theorem eq_of_bytes_json {b b' : ErrorBody} (same : bytes b.json = bytes b'.json) : b = b' := by
  have read := b.readBytes_json
  rw [same, b'.readBytes_json] at read
  simp only [Option.some.injEq, Json.object.injEq, List.cons.injEq, Prod.mk.injEq, Json.text.injEq, String.toList_inj, true_and,
    and_true] at read
  obtain ⟨code, text, tenant⟩ := read
  cases b
  cases b'
  cases ErrorCode.name_injective code
  cases text
  cases tenant
  rfl

end ErrorBody

theorem ErrorReply.bodyBytes?_body (r : ErrorReply) :
    bodyBytes? r.response.body = some (bytes (ErrorBody.ofError r.error r.tenant).json) := by
  simp [response, bodyBytes?]

/-- **A failure's body is read back as it was written.** Its bytes are those of the JSON text of the failure and the tenant, and also those that
are written when the texts are taken as bytes from the start. -/
theorem ErrorReply.body_read_back (r : ErrorReply) :
    ∃ body, bodyBytes? r.response.body = some body ∧
      body = bytes (ErrorBody.ofError r.error r.tenant).json ∧
      body = Json.writeTextsBytes [(bytes "error", bytes r.error.code.name), (bytes "message", bytes r.error.publicMessage),
        (bytes "tenant", bytes r.tenant)] ∧
      Json.readBytes body =
        some (.object [("error".toList, .text r.error.code.name.toList), ("message".toList, .text r.error.publicMessage.toList),
          ("tenant".toList, .text r.tenant.toList)]) ∧
      ∀ r' : ErrorReply, bodyBytes? r'.response.body = some body →
        r'.error.code = r.error.code ∧ r'.error.publicMessage = r.error.publicMessage ∧ r'.tenant = r.tenant := by
  refine ⟨bytes (ErrorBody.ofError r.error r.tenant).json, r.bodyBytes?_body, rfl, ErrorBody.bytes_json _, ErrorBody.readBytes_json _, ?_⟩
  intro r' same
  have bodies := ErrorBody.eq_of_bytes_json (Option.some.inj (r'.bodyBytes?_body.symm.trans same))
  exact ⟨congrArg ErrorBody.code bodies, congrArg ErrorBody.text bodies, congrArg ErrorBody.tenant bodies⟩

end TenantGateway
