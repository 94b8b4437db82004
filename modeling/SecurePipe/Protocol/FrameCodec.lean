import SecurePipe.Protocol.Frame

/-!
# SecurePipe.Protocol.FrameCodec

**The frame codec is exact.** `SecurePipeFrame.parse` accepts precisely the byte
strings that start with the encoding of a version-1 frame of at most 512 payload
bytes, and returns that frame.

The proof goes through `WireHeader`, the 35 header bytes as a record: every byte
string of at least 35 bytes is `h.bytes ++ rest` for some `h` (`WireHeader.view`),
each of the parser's slices reads one field of it (`WireHeader.slice_*`), and so
`parse` becomes one equation without slices (`parse_bytes`). Both directions, and
everything the transport needs about headers, follow from that equation.
-/

namespace SecurePipe

open Rust BigEndian

/-! ### The header as a record -/

/-- The fields of the 35 header bytes, with whatever values they carry. -/
structure WireHeader where
  magic : U8Array 2
  version : UInt8
  deviceId : UInt32
  sequenceNr : UInt32
  timestamp : UInt64
  payloadLen : UInt32
  nonce : Nonce
  deriving DecidableEq

namespace WireHeader

/-- The header bytes, in wire order. -/
def bytes (h : WireHeader) : Bytes :=
  h.magic.toList ++ [h.version] ++ (u32ToBytes h.deviceId).toList
    ++ (u32ToBytes h.sequenceNr).toList ++ (u64ToBytes h.timestamp).toList
    ++ (u32ToBytes h.payloadLen).toList ++ h.nonce.toList

@[simp] theorem bytes_length (h : WireHeader) : h.bytes.length = HEADER_SIZE := by
  simp only [bytes, List.length_append, List.length_singleton, toList_length]
  rfl

/-- Two headers with the same bytes are the same header. -/
theorem bytes_injective : Function.Injective bytes := by
  intro h h' heq
  unfold bytes at heq
  obtain ⟨heq, hnonce⟩ := List.append_inj' heq (by simp)
  obtain ⟨heq, hlen⟩ := List.append_inj' heq (by simp)
  obtain ⟨heq, hts⟩ := List.append_inj' heq (by simp)
  obtain ⟨heq, hseq⟩ := List.append_inj' heq (by simp)
  obtain ⟨heq, hdev⟩ := List.append_inj' heq (by simp)
  obtain ⟨hmagic, hver⟩ := List.append_inj' heq (by simp)
  cases h
  cases h'
  simp only [mk.injEq]
  exact ⟨List.Vector.eq _ _ hmagic, by simpa using hver,
    u32ToBytes_injective (List.Vector.eq _ _ hdev),
    u32ToBytes_injective (List.Vector.eq _ _ hseq),
    u64ToBytes_injective (List.Vector.eq _ _ hts),
    u32ToBytes_injective (List.Vector.eq _ _ hlen), List.Vector.eq _ _ hnonce⟩

/-- **Every header-sized byte string is a header.** -/
theorem view {raw : Bytes} (hlen : HEADER_SIZE ≤ raw.length) :
    ∃ (h : WireHeader) (rest : Bytes), raw = h.bytes ++ rest := by
  simp only [HEADER_SIZE] at hlen
  obtain ⟨m, raw, rfl⟩ := exists_front 2 raw (by omega)
  obtain ⟨v, raw, rfl⟩ := exists_front 1 raw (by simp at hlen; omega)
  obtain ⟨d, raw, rfl⟩ := exists_front 4 raw (by simp at hlen; omega)
  obtain ⟨s, raw, rfl⟩ := exists_front 4 raw (by simp at hlen; omega)
  obtain ⟨t, raw, rfl⟩ := exists_front 8 raw (by simp at hlen; omega)
  obtain ⟨p, raw, rfl⟩ := exists_front 4 raw (by simp at hlen; omega)
  obtain ⟨n, raw, rfl⟩ := exists_front 12 raw (by simp at hlen; omega)
  obtain ⟨b, hb⟩ : ∃ b, v.toList = [b] := List.length_eq_one_iff.mp (toList_length v)
  refine ⟨⟨m, b, u32OfBytes d, u32OfBytes s, u64OfBytes t, u32OfBytes p, n⟩, raw, ?_⟩
  simp only [bytes, u32ToBytes_ofBytes, u64ToBytes_ofBytes, hb, List.append_assoc]
  rfl

/-- Exactly a header's worth of bytes is the bytes of a header. -/
theorem view_exact {raw : Bytes} (hlen : raw.length = HEADER_SIZE) :
    ∃ h : WireHeader, raw = h.bytes := by
  obtain ⟨h, rest, rfl⟩ := view hlen.ge
  rw [List.length_append, h.bytes_length] at hlen
  have hrest : rest = [] := List.eq_nil_of_length_eq_zero (by omega)
  exact ⟨h, by rw [hrest, List.append_nil]⟩

theorem take_bytes (h : WireHeader) : h.bytes.take 2 = h.magic.toList := by
  simp only [bytes, List.append_assoc]
  exact List.take_left' (toList_length h.magic)

variable {ε : Type} (h : WireHeader) (rest : Bytes)

theorem slice_magic : (slice (h.bytes ++ rest) 0 2 : Outcome ε Bytes) = .ok h.magic.toList := by
  have hs := slice_append (ε := ε) (i := 0) (j := 2) [] h.magic.toList ((h.bytes ++ rest).drop 2) rfl (by simp)
  simpa [bytes] using hs

theorem index_version : (index (h.bytes ++ rest) 2 : Outcome ε UInt8) = .ok h.version := by
  have hlt : 2 < (h.bytes ++ rest).length := by simp [HEADER_SIZE]; omega
  rw [index_eq hlt]
  simp [bytes]

theorem read_deviceId : (readU32 (h.bytes ++ rest) 3 7 : Outcome ε UInt32) = .ok h.deviceId := by
  have hr := readU32_append (ε := ε) (i := 3) (j := 7) (h.magic.toList ++ [h.version]) h.deviceId
    ((u32ToBytes h.sequenceNr).toList ++ (u64ToBytes h.timestamp).toList
      ++ (u32ToBytes h.payloadLen).toList ++ h.nonce.toList ++ rest) (by simp) rfl
  simpa only [bytes, List.append_assoc] using hr

theorem read_sequenceNr :
    (readU32 (h.bytes ++ rest) 7 11 : Outcome ε UInt32) = .ok h.sequenceNr := by
  have hr := readU32_append (ε := ε) (i := 7) (j := 11)
    (h.magic.toList ++ [h.version] ++ (u32ToBytes h.deviceId).toList) h.sequenceNr
    ((u64ToBytes h.timestamp).toList
      ++ (u32ToBytes h.payloadLen).toList ++ h.nonce.toList ++ rest) (by simp) rfl
  simpa only [bytes, List.append_assoc] using hr

theorem read_timestamp :
    (readU64 (h.bytes ++ rest) 11 19 : Outcome ε UInt64) = .ok h.timestamp := by
  have hr := readU64_append (ε := ε) (i := 11) (j := 19)
    (h.magic.toList ++ [h.version] ++ (u32ToBytes h.deviceId).toList
      ++ (u32ToBytes h.sequenceNr).toList) h.timestamp
    ((u32ToBytes h.payloadLen).toList ++ h.nonce.toList ++ rest) (by simp) rfl
  simpa only [bytes, List.append_assoc] using hr

theorem read_payloadLen :
    (readU32 (h.bytes ++ rest) 19 23 : Outcome ε UInt32) = .ok h.payloadLen := by
  have hr := readU32_append (ε := ε) (i := 19) (j := 23)
    (h.magic.toList ++ [h.version] ++ (u32ToBytes h.deviceId).toList
      ++ (u32ToBytes h.sequenceNr).toList ++ (u64ToBytes h.timestamp).toList) h.payloadLen
    (h.nonce.toList ++ rest) (by simp) rfl
  simpa only [bytes, List.append_assoc] using hr

/-- What the receiving loop looks at in a header it has just read. -/
theorem peek : (slice h.bytes 0 2 : Outcome ε Bytes) = .ok h.magic.toList ∧
    (readU32 h.bytes 19 23 : Outcome ε UInt32) = .ok h.payloadLen := by
  have hmagic := h.slice_magic (ε := ε) []
  have hlen := h.read_payloadLen (ε := ε) []
  rw [List.append_nil] at hmagic hlen
  exact ⟨hmagic, hlen⟩

theorem slice_nonce :
    (slice (h.bytes ++ rest) 23 35 : Outcome ε Bytes) = .ok h.nonce.toList := by
  have hs := slice_append (ε := ε) (i := 23) (j := 35)
    (h.magic.toList ++ [h.version] ++ (u32ToBytes h.deviceId).toList
      ++ (u32ToBytes h.sequenceNr).toList ++ (u64ToBytes h.timestamp).toList
      ++ (u32ToBytes h.payloadLen).toList) h.nonce.toList rest (by simp)
    (by rw [toList_length]; rfl)
  simpa only [bytes, List.append_assoc] using hs

end WireHeader

/-! ### The parser on a header and what follows it -/

/-- The frame that a header and the two variable-length fields make up. -/
def WireHeader.toFrame (h : WireHeader) (payload : Bytes) (tag : AuthTag) : SecurePipeFrame where
  version := h.version
  deviceId := h.deviceId
  sequenceNr := h.sequenceNr
  timestamp := h.timestamp
  nonce := h.nonce
  encryptedPayload := payload
  authTag := tag

/-- The header that the senders write. -/
def WireHeader.v1 (deviceId sequenceNr : UInt32) (timestamp : UInt64) (nonce : Nonce)
    (payloadLen : UInt32) : WireHeader where
  magic := ⟨MAGIC, rfl⟩
  version := PROTOCOL_VERSION
  deviceId := deviceId
  sequenceNr := sequenceNr
  timestamp := timestamp
  payloadLen := payloadLen
  nonce := nonce

/-- The header that `header_as_aad` encodes. -/
def SecurePipeFrame.header (f : SecurePipeFrame) : WireHeader where
  magic := ⟨MAGIC, rfl⟩
  version := f.version
  deviceId := f.deviceId
  sequenceNr := f.sequenceNr
  timestamp := f.timestamp
  payloadLen := UInt32.ofNat f.encryptedPayload.length
  nonce := f.nonce

theorem SecurePipeFrame.headerAsAad_eq (f : SecurePipeFrame) : f.headerAsAad = f.header.bytes :=
  rfl

namespace SecurePipeFrame

theorem parse_short {raw : Bytes} (hlen : raw.length < MIN_FRAME_SIZE) :
    parse raw = .err (.frameTooShort MIN_FRAME_SIZE raw.length) := by
  unfold parse
  rw [if_pos hlen]

/-- **The parser without its slices.** On a header followed by at least a tag, the
checks of `parse` read the header's fields; what is left to slice is the payload
and the tag. -/
theorem parse_bytes (h : WireHeader) {rest : Bytes} (hrest : AUTH_TAG_SIZE ≤ rest.length) :
    parse (h.bytes ++ rest) =
      if h.magic.toList ≠ MAGIC then .err .invalidMagic
      else if h.version ≠ PROTOCOL_VERSION then .err (.unsupportedVersion h.version)
      else if h.payloadLen.toNat > MAX_PAYLOAD_SIZE then
        .err (.payloadTooLarge MAX_PAYLOAD_SIZE h.payloadLen.toNat)
      else if rest.length < h.payloadLen.toNat + AUTH_TAG_SIZE then
        .err (.frameTooShort (HEADER_SIZE + h.payloadLen.toNat + AUTH_TAG_SIZE)
          (HEADER_SIZE + rest.length))
      else do
        let payload ← slice (h.bytes ++ rest) 35 (35 + h.payloadLen.toNat)
        let tag ← copyFromSlice AUTH_TAG_SIZE (← slice (h.bytes ++ rest)
          (35 + h.payloadLen.toNat) (35 + h.payloadLen.toNat + AUTH_TAG_SIZE))
        return h.toFrame payload tag := by
  have hmin : ¬ (h.bytes ++ rest).length < MIN_FRAME_SIZE := by
    rw [List.length_append, h.bytes_length, MIN_FRAME_SIZE]
    omega
  have hnonce : (copyFromSlice NONCE_SIZE h.nonce.toList : Result Nonce) = .ok h.nonce :=
    copyFromSlice_eq (toList_length h.nonce)
  unfold parse
  rw [if_neg hmin, h.slice_magic, Outcome.ok_bind]
  by_cases hmagic : h.magic.toList = MAGIC
  swap
  · rw [if_pos hmagic, if_pos hmagic]
  rw [if_neg (not_not.mpr hmagic), if_neg (not_not.mpr hmagic), h.index_version, Outcome.ok_bind]
  by_cases hver : h.version = PROTOCOL_VERSION
  swap
  · rw [if_pos hver, if_pos hver]
  rw [if_neg (not_not.mpr hver), if_neg (not_not.mpr hver), h.read_deviceId, Outcome.ok_bind,
    h.read_sequenceNr, Outcome.ok_bind, h.read_timestamp, Outcome.ok_bind, h.read_payloadLen,
    Outcome.ok_bind]
  dsimp only
  by_cases hmax : h.payloadLen.toNat > MAX_PAYLOAD_SIZE
  · rw [if_pos hmax, if_pos hmax]
  rw [if_neg hmax, if_neg hmax]
  have hsmall : HEADER_SIZE + h.payloadLen.toNat + AUTH_TAG_SIZE < 2 ^ 64 := by
    simp only [MAX_PAYLOAD_SIZE] at hmax
    simp only [HEADER_SIZE, AUTH_TAG_SIZE]
    omega
  rw [usizeAdd_eq (by omega), Outcome.ok_bind, usizeAdd_eq hsmall, Outcome.ok_bind,
    List.length_append, h.bytes_length]
  by_cases htotal : rest.length < h.payloadLen.toNat + AUTH_TAG_SIZE
  · rw [if_pos (by omega), if_pos htotal]
  rw [if_neg (by omega), if_neg htotal, h.slice_nonce, Outcome.ok_bind, hnonce, Outcome.ok_bind]
  rfl

/-- The parser on a well-formed header whose payload and tag are there. -/
theorem parse_complete {h : WireHeader} {payload : Bytes} (tag : AuthTag) (t : Bytes)
    (hmagic : h.magic.toList = MAGIC) (hver : h.version = PROTOCOL_VERSION)
    (hmax : h.payloadLen.toNat ≤ MAX_PAYLOAD_SIZE) (hlen : payload.length = h.payloadLen.toNat) :
    parse (h.bytes ++ (payload ++ (tag.toList ++ t))) = .ok (h.toFrame payload tag) := by
  have hpayload := slice_append (ε := SecurePipeError) h.bytes payload (tag.toList ++ t)
    (i := 35) (j := 35 + h.payloadLen.toNat) h.bytes_length (by rw [hlen])
  have htag := slice_append (ε := SecurePipeError) (h.bytes ++ payload) tag.toList t
    (i := 35 + h.payloadLen.toNat) (j := 35 + h.payloadLen.toNat + AUTH_TAG_SIZE)
    (by rw [List.length_append, h.bytes_length, hlen]; rfl) (by rw [toList_length])
  rw [List.append_assoc] at htag
  rw [parse_bytes h (by simp only [List.length_append, toList_length]; omega),
    if_neg (not_not.mpr hmagic), if_neg (not_not.mpr hver), if_neg (by omega),
    if_neg (by simp only [List.length_append, toList_length]; omega), hpayload, Outcome.ok_bind,
    htag, Outcome.ok_bind, copyFromSlice_eq (toList_length tag)]
  rfl

/-- **The two ways a parse ends.** It returns an error, or the input is a well-formed
header, the declared payload, a tag, and whatever trails. It never panics. -/
theorem parse_cases (raw : Bytes) :
    (∃ e, parse raw = .err e) ∨
    ∃ (h : WireHeader) (payload : Bytes) (tag : AuthTag) (t : Bytes),
      raw = h.bytes ++ (payload ++ (tag.toList ++ t)) ∧ h.magic.toList = MAGIC ∧
      h.version = PROTOCOL_VERSION ∧ h.payloadLen.toNat ≤ MAX_PAYLOAD_SIZE ∧
      payload.length = h.payloadLen.toNat ∧ parse raw = .ok (h.toFrame payload tag) := by
  by_cases hlen : raw.length < MIN_FRAME_SIZE
  · exact .inl ⟨_, parse_short hlen⟩
  simp only [MIN_FRAME_SIZE] at hlen
  obtain ⟨h, rest, rfl⟩ := WireHeader.view (by omega : HEADER_SIZE ≤ raw.length)
  rw [List.length_append, h.bytes_length] at hlen
  rw [parse_bytes h (by omega)]
  by_cases hmagic : h.magic.toList = MAGIC
  swap
  · rw [if_pos hmagic]
    exact .inl ⟨_, rfl⟩
  by_cases hver : h.version = PROTOCOL_VERSION
  swap
  · rw [if_neg (not_not.mpr hmagic), if_pos hver]
    exact .inl ⟨_, rfl⟩
  by_cases hmax : h.payloadLen.toNat > MAX_PAYLOAD_SIZE
  · rw [if_neg (not_not.mpr hmagic), if_neg (not_not.mpr hver), if_pos hmax]
    exact .inl ⟨_, rfl⟩
  by_cases htotal : rest.length < h.payloadLen.toNat + AUTH_TAG_SIZE
  · rw [if_neg (not_not.mpr hmagic), if_neg (not_not.mpr hver), if_neg hmax, if_pos htotal]
    exact .inl ⟨_, rfl⟩
  -- enough bytes: cut the payload and the tag off what follows the header
  rw [← parse_bytes h (by omega)]
  obtain ⟨p, rest, rfl⟩ := exists_front h.payloadLen.toNat rest (by omega)
  rw [List.length_append, toList_length] at htotal
  obtain ⟨tag, t, rfl⟩ := exists_front AUTH_TAG_SIZE rest (by omega)
  exact .inr ⟨h, p.toList, tag, t, rfl, hmagic, hver, by omega, toList_length p,
    parse_complete tag t hmagic hver (by omega) (toList_length p)⟩

/-! ### Exactness -/

/-- A header that declares the payload it is followed by is the one re-encoded. -/
theorem header_toFrame {h : WireHeader} {payload : Bytes} (tag : AuthTag)
    (hmagic : h.magic.toList = MAGIC) (hlen : payload.length = h.payloadLen.toNat) :
    (h.toFrame payload tag).header = h := by
  have hm : h.magic = ⟨MAGIC, rfl⟩ := List.Vector.eq _ _ hmagic
  have hl : UInt32.ofNat payload.length = h.payloadLen := by rw [hlen, UInt32.ofNat_toNat]
  cases h
  simp only at hm hl
  subst hm hl
  rfl

/-- The bytes of a frame on the wire: header, ciphertext, tag. -/
def wireBytes (f : SecurePipeFrame) : Bytes :=
  f.headerAsAad ++ f.encryptedPayload ++ f.authTag.toList

theorem headerAsAad_length (f : SecurePipeFrame) : f.headerAsAad.length = HEADER_SIZE := by
  rw [headerAsAad_eq, WireHeader.bytes_length]

theorem wireBytes_length (f : SecurePipeFrame) : f.wireBytes.length = f.totalLen := by
  simp only [wireBytes, totalLen, List.length_append, headerAsAad_length, toList_length]

/-- What parses to `f` starts with the bytes of `f`, and `f` is well formed. -/
theorem parse_sound {raw : Bytes} {f : SecurePipeFrame} (hparse : parse raw = .ok f) :
    f.version = PROTOCOL_VERSION ∧ f.encryptedPayload.length ≤ MAX_PAYLOAD_SIZE ∧
      ∃ t, raw = f.wireBytes ++ t := by
  rcases parse_cases raw with ⟨e, herr⟩ | ⟨h, payload, tag, t, rfl, hmagic, hver, hmax, hlen, hok⟩
  · rw [herr] at hparse
    cases hparse
  obtain rfl := Outcome.ok.inj (hok.symm.trans hparse)
  refine ⟨hver, ?_, t, ?_⟩
  · exact hlen.trans_le hmax
  · rw [wireBytes, headerAsAad_eq, header_toFrame tag hmagic hlen]
    simp only [WireHeader.toFrame, List.append_assoc]

/-- The bytes of a well-formed frame parse back to it, whatever trails them. -/
theorem parse_wireBytes {f : SecurePipeFrame} (hver : f.version = PROTOCOL_VERSION)
    (hmax : f.encryptedPayload.length ≤ MAX_PAYLOAD_SIZE) (t : Bytes) :
    parse (f.wireBytes ++ t) = .ok f := by
  have hlen : f.encryptedPayload.length = f.header.payloadLen.toNat := by
    simp only [MAX_PAYLOAD_SIZE] at hmax
    exact (UInt32.toNat_ofNat_of_lt' (hmax.trans_lt (by decide))).symm
  have hok := parse_complete (h := f.header) f.authTag t rfl hver (hlen ▸ hmax) hlen
  rw [wireBytes, List.append_assoc, List.append_assoc, headerAsAad_eq]
  exact hok

/-- A frame reads exactly its own bytes: the rebuilt header is the header
received, and the rest of what is authenticated is what was received too. -/
theorem wireBytes_eq_take {raw : Bytes} {f : SecurePipeFrame} (hparse : parse raw = .ok f) :
    f.headerAsAad = raw.take HEADER_SIZE ∧ f.wireBytes = raw.take f.totalLen := by
  obtain ⟨-, -, t, rfl⟩ := parse_sound hparse
  refine ⟨?_, ?_⟩
  · rw [wireBytes, List.append_assoc, List.append_assoc, ← headerAsAad_length f, List.take_left]
  · rw [← wireBytes_length f, List.take_left]

/-- **The codec is exact in both directions.** -/
theorem parse_exact :
    (∀ (raw : Bytes) (f : SecurePipeFrame), parse raw = .ok f ↔
      f.version = 1 ∧ f.encryptedPayload.length ≤ 512 ∧
        ∃ t, raw = f.headerAsAad ++ f.encryptedPayload ++ f.authTag.toList ++ t) ∧
    (∀ (raw : Bytes) (f : SecurePipeFrame), parse raw = .ok f →
      f.headerAsAad = raw.take 35 ∧
        f.headerAsAad ++ f.encryptedPayload ++ f.authTag.toList = raw.take f.totalLen) ∧
    (∀ (raw raw' : Bytes) (f : SecurePipeFrame), parse raw = .ok f → parse raw' = .ok f →
      raw.take f.totalLen = raw'.take f.totalLen) := by
  refine ⟨fun raw f => ⟨parse_sound, ?_⟩, fun raw f h => wireBytes_eq_take h, ?_⟩
  · rintro ⟨hver, hmax, t, rfl⟩
    exact parse_wireBytes hver hmax t
  · intro raw raw' f h h'
    exact (wireBytes_eq_take h).2.symm.trans (wireBytes_eq_take h').2

end SecurePipeFrame

/-! ### The sensor payload -/

namespace SensorPayload

/-- The six bytes under the CRC. -/
def body (p : SensorPayload) : Bytes :=
  [p.sensorType] ++ (i32ToBytes p.valueRaw).toList ++ [p.unit]

theorem body_length (p : SensorPayload) : p.body.length = 6 := by
  simp [body]

/-- The eight payload bytes: the body and its CRC. -/
def encode (p : SensorPayload) : Bytes := p.body ++ (u16ToBytes (crc16 p.body)).toList

theorem encode_length (p : SensorPayload) : p.encode.length = PAYLOAD_SIZE := by
  rw [encode, List.length_append, body_length, toList_length]
  rfl

theorem parse_short {raw : Bytes} (h : raw.length < PAYLOAD_SIZE) :
    parse raw = .err (.frameTooShort PAYLOAD_SIZE raw.length) := by
  unfold parse
  rw [if_pos h]

/-- The parser on a body and a CRC field: it compares the two. -/
theorem parse_body (p : SensorPayload) (crc : UInt16) (t : Bytes) :
    parse (p.body ++ ((u16ToBytes crc).toList ++ t)) =
      if crc ≠ crc16 p.body then .err .authTagInvalid else .ok p := by
  have hlen : (p.body ++ ((u16ToBytes crc).toList ++ t)).length = 8 + t.length := by
    rw [List.length_append, List.length_append, body_length, toList_length]
    omega
  have htype : (index (p.body ++ ((u16ToBytes crc).toList ++ t)) 0 : Result UInt8) =
      .ok p.sensorType := by
    rw [index_eq (by omega)]
    simp [body]
  have hvalue : (readI32 (p.body ++ ((u16ToBytes crc).toList ++ t)) 1 5 : Result Int32) =
      .ok p.valueRaw := by
    have hr := readI32_append (ε := SecurePipeError) [p.sensorType] p.valueRaw
      ([p.unit] ++ ((u16ToBytes crc).toList ++ t)) (i := 1) (j := 5) rfl rfl
    simpa only [body, List.append_assoc] using hr
  have hunit : (index (p.body ++ ((u16ToBytes crc).toList ++ t)) 5 : Result UInt8) =
      .ok p.unit := by
    rw [index_eq (by omega)]
    simp [body]
  have hcrc : (readU16 (p.body ++ ((u16ToBytes crc).toList ++ t)) 6 8 : Result UInt16) =
      .ok crc :=
    readU16_append p.body crc t p.body_length rfl
  have hbody : (slice (p.body ++ ((u16ToBytes crc).toList ++ t)) 0 6 : Result Bytes) =
      .ok p.body :=
    slice_append [] p.body ((u16ToBytes crc).toList ++ t) rfl (by rw [body_length])
  unfold parse
  rw [if_neg (by rw [hlen, PAYLOAD_SIZE]; omega), htype, Outcome.ok_bind, hvalue, Outcome.ok_bind,
    hunit, Outcome.ok_bind, hcrc, Outcome.ok_bind, hbody, Outcome.ok_bind]
  rfl

/-- A payload parses back from its bytes. -/
theorem parse_encode (p : SensorPayload) : parse p.encode = .ok p := by
  have h := parse_body p (crc16 p.body) []
  rw [if_neg (not_not.mpr rfl), List.append_nil] at h
  exact h

/-- Every byte string long enough is a body, a CRC field, and a tail. -/
theorem view {raw : Bytes} (hlen : PAYLOAD_SIZE ≤ raw.length) :
    ∃ (p : SensorPayload) (crc : UInt16) (t : Bytes),
      raw = p.body ++ ((u16ToBytes crc).toList ++ t) := by
  simp only [PAYLOAD_SIZE] at hlen
  obtain ⟨s, raw, rfl⟩ := exists_front 1 raw (by omega)
  obtain ⟨v, raw, rfl⟩ := exists_front 4 raw (by simp at hlen; omega)
  obtain ⟨u, raw, rfl⟩ := exists_front 1 raw (by simp at hlen; omega)
  obtain ⟨c, raw, rfl⟩ := exists_front 2 raw (by simp at hlen; omega)
  obtain ⟨sb, hs⟩ : ∃ b, s.toList = [b] := List.length_eq_one_iff.mp (toList_length s)
  obtain ⟨ub, hu⟩ : ∃ b, u.toList = [b] := List.length_eq_one_iff.mp (toList_length u)
  refine ⟨⟨sb, i32OfBytes v, ub⟩, u16OfBytes c, raw, ?_⟩
  simp only [body, i32ToBytes_ofBytes, u16ToBytes_ofBytes, hs, hu, List.append_assoc]

/-- The byte string starts with the encoding of a payload. -/
def WellFormed (raw : Bytes) : Prop := ∃ (p : SensorPayload) (t : Bytes), raw = p.encode ++ t

/-- **The two ways a payload parse ends.** It succeeds on the byte strings that start with
an encoding, and returns what is encoded; it never panics. -/
theorem parse_cases (raw : Bytes) :
    (¬ WellFormed raw ∧ ∃ e, parse raw = .err e) ∨
      ∃ (p : SensorPayload) (t : Bytes), raw = p.encode ++ t ∧ parse raw = .ok p := by
  by_cases hlen : raw.length < PAYLOAD_SIZE
  · refine .inl ⟨?_, _, parse_short hlen⟩
    rintro ⟨p, t, rfl⟩
    rw [List.length_append, encode_length] at hlen
    omega
  obtain ⟨p, crc, t, rfl⟩ := view (not_lt.mp hlen)
  have hparse := parse_body p crc t
  by_cases hcrc : crc = crc16 p.body
  · subst hcrc
    rw [if_neg (not_not.mpr rfl)] at hparse
    exact .inr ⟨p, t, (List.append_assoc _ _ _).symm, hparse⟩
  · rw [if_pos hcrc] at hparse
    refine .inl ⟨?_, _, hparse⟩
    rintro ⟨p', t', heq⟩
    have hencode := parse_body p' (crc16 p'.body) t'
    rw [if_neg (not_not.mpr rfl), ← List.append_assoc, ← encode, ← heq, hparse] at hencode
    cases hencode

end SensorPayload

end SecurePipe
