import Mathlib.Data.List.ReduceOption
import SecurePipe.Transport.Deframe

/-!
# SecurePipe.Transport.Intake

What `handle_connection` hands to `process_frame`, whatever bytes arrive.

`calls` lists the byte strings that the loop passes on while it reads a stream, and
`handleConnection_noting` says that listing them changes nothing. They are frames of a cut
of the stream, and on such a frame the parser repeats the loop's own checks and adds only
that of the version: **the two agree on every stream** (`header_checks_agree`).
-/

namespace SecurePipe

open Rust BigEndian

/-! ### The loop with its calls written down -/

section Loop

variable {σ : Type} (emitSecurityEvent : Option UInt32 → String → String →
  Stateful σ SecurePipeError Unit) (processFrame : Bytes → Stateful σ SecurePipeError Unit)

/-- `emit_security_event` next to a list of calls. -/
def besideCalls (deviceId : Option UInt32) (eventType detail : String) :
    Stateful (σ × List Bytes) SecurePipeError Unit :=
  .zoom Prod.fst (fun s st => (st, s.2)) (emitSecurityEvent deviceId eventType detail)

/-- `process_frame`, writing down what it is called with. -/
def noting (raw : Bytes) : Stateful (σ × List Bytes) SecurePipeError Unit := fun s =>
  ((processFrame raw s.1).1, (processFrame raw s.1).2, s.2 ++ [raw])

/-- The loop, writing down what it calls `process_frame` with. -/
def handleConnectionNoting (turns : Nat) (stream : TcpStream) :
    Stateful (σ × List Bytes) SecurePipeError TcpStream :=
  handleConnection (besideCalls emitSecurityEvent) (noting processFrame) turns stream

/-- What the loop passes to `process_frame` in so many turns, in order. -/
def calls (turns : Nat) (stream : TcpStream) (st : σ) : List Bytes :=
  (handleConnectionNoting emitSecurityEvent processFrame turns stream (st, [])).2.2

/-- Reacting to pieces does to the state what it does without the list, and the list grows by
the frames among the pieces, as far as the reactions get. -/
theorem forM_noting (pieces : List (Option Bytes)) (st : σ) (called : List Bytes) :
    ∃ new, new <+: pieces.reduceOption ∧
      (forM pieces (react (besideCalls emitSecurityEvent) (noting processFrame)) :
          Stateful (σ × List Bytes) SecurePipeError Unit) (st, called) =
        (((forM pieces (react emitSecurityEvent processFrame) :
            Stateful σ SecurePipeError Unit) st).1,
          ((forM pieces (react emitSecurityEvent processFrame) :
            Stateful σ SecurePipeError Unit) st).2, called ++ new) := by
  induction pieces generalizing st called with
  | nil => exact ⟨[], List.nil_prefix, by rw [List.append_nil]; rfl⟩
  | cons piece pieces ih =>
      rw [List.forM_cons, List.forM_cons, Stateful.bind_apply, Stateful.bind_apply]
      cases piece with
      | none =>
          rw [List.reduceOption_cons_of_none, react, besideCalls, Stateful.zoom, react]
          rcases emitSecurityEvent none "invalid_magic" "Frame rejected: bad magic bytes" st
            with ⟨_ | _ | _, st'⟩
          · exact ih st' called
          · exact ⟨[], List.nil_prefix, by rw [List.append_nil]⟩
          · exact ⟨[], List.nil_prefix, by rw [List.append_nil]⟩
      | some raw =>
          rw [List.reduceOption_cons_of_some, react, noting, react]
          rcases processFrame raw st with ⟨_ | _ | _, st'⟩
          · obtain ⟨new, hnew, hrest⟩ := ih st' (called ++ [raw])
            refine ⟨raw :: new, List.prefix_cons_inj raw |>.mpr hnew, ?_⟩
            rw [List.append_assoc] at hrest
            exact hrest
          · exact ⟨[raw], ⟨_, rfl⟩, rfl⟩
          · exact ⟨[raw], ⟨_, rfl⟩, rfl⟩

/-- **Writing the calls down changes nothing**, and the calls are the frames that the loop
reads, as far as it gets. -/
theorem handleConnection_noting (turns : Nat) (stream : TcpStream) (st : σ)
    (called : List Bytes) :
    ∃ new, new <+: (deframe turns stream).1.reduceOption ∧
      handleConnectionNoting emitSecurityEvent processFrame turns stream (st, called) =
        ((handleConnection emitSecurityEvent processFrame turns stream st).1,
          (handleConnection emitSecurityEvent processFrame turns stream st).2,
          called ++ new) := by
  unfold handleConnectionNoting
  rw [handleConnection_eq, handleConnection_eq, Stateful.bind_apply, Stateful.bind_apply]
  obtain ⟨new, hnew, heq⟩ := forM_noting emitSecurityEvent processFrame (deframe turns stream).1
    st called
  refine ⟨new, hnew, ?_⟩
  rw [heq]
  generalize (forM (deframe turns stream).1 (react emitSecurityEvent processFrame) :
    Stateful σ SecurePipeError Unit) st = reacted
  rcases reacted with ⟨_ | _ | _, st'⟩
  · cases (deframe turns stream).2 with
    | running stream => rfl
    | payloadTooLarge payloadLen =>
        dsimp only
        rw [finish, finish, Stateful.bind_apply, Stateful.bind_apply, besideCalls, Stateful.zoom]
        dsimp only
        generalize emitSecurityEvent none "payload_too_large" _ st' = sent
        rcases sent with ⟨_ | _ | _, _⟩
        · rfl
        · rfl
        · rfl
    | returning e => rfl
    | panicking p => rfl
  · rfl
  · rfl

theorem calls_of_deframe (turns : Nat) (stream : TcpStream) (st : σ) :
    calls emitSecurityEvent processFrame turns stream st <+:
      (deframe turns stream).1.reduceOption := by
  obtain ⟨new, hnew, heq⟩ :=
    handleConnection_noting emitSecurityEvent processFrame turns stream st []
  rwa [calls, heq, List.nil_append]

/-- The loop passes on wire frames only. -/
theorem calls_isWireFrame (turns : Nat) (stream : TcpStream) (st : σ) :
    ∀ raw ∈ calls emitSecurityEvent processFrame turns stream st, IsWireFrame raw := by
  intro raw hraw
  obtain ⟨front, -, -, hcut, -⟩ := deframe_cut turns stream.bytes stream.ending
  have hmem := (calls_of_deframe emitSecurityEvent processFrame turns stream st).subset hraw
  exact hcut.isWireFrame (List.reduceOption_mem_iff.mp hmem)

end Loop

/-! ### The parser on a wire frame -/

/-- **The parser on what the loop passes on**: of the checks that the two make, only that of
the version is left to fail. -/
theorem parse_isWireFrame {raw : Bytes} (hraw : IsWireFrame raw) :
    ∃ h : WireHeader, (readU32 raw 19 23 : Result UInt32) = .ok h.payloadLen ∧
      (index raw 2 : Result UInt8) = .ok h.version ∧ h.payloadLen.toNat ≤ MAX_PAYLOAD_SIZE ∧
      raw.length = MIN_FRAME_SIZE + h.payloadLen.toNat ∧
      ((h.version = PROTOCOL_VERSION ∧
          ∃ f, SecurePipeFrame.parse raw = .ok f ∧ f.totalLen = raw.length) ∨
        (h.version ≠ PROTOCOL_VERSION ∧
          SecurePipeFrame.parse raw = .err (.unsupportedVersion h.version))) := by
  obtain ⟨h, body, rfl, hmagic, hmax, hbody⟩ := hraw
  have hlen : (h.bytes ++ body).length = MIN_FRAME_SIZE + h.payloadLen.toNat := by
    rw [List.length_append, h.bytes_length, hbody, MIN_FRAME_SIZE]
    omega
  refine ⟨h, h.read_payloadLen body, h.index_version body, hmax, hlen, ?_⟩
  by_cases hver : h.version = PROTOCOL_VERSION
  · obtain ⟨payload, rest, rfl⟩ := exists_front h.payloadLen.toNat body (by omega)
    rw [List.length_append, toList_length] at hbody
    obtain ⟨tag, t, rfl⟩ := exists_front AUTH_TAG_SIZE rest (by omega)
    have hparse := SecurePipeFrame.parse_complete tag t hmagic hver hmax (toList_length payload)
    refine .inl ⟨hver, _, hparse, ?_⟩
    have htotal : (h.toFrame payload.toList tag).totalLen =
        HEADER_SIZE + payload.toList.length + AUTH_TAG_SIZE := rfl
    rw [htotal, hlen, toList_length, MIN_FRAME_SIZE]
    omega
  · refine .inr ⟨hver, ?_⟩
    rw [SecurePipeFrame.parse_bytes h (by omega), if_neg (not_not.mpr hmagic), if_pos hver]

/-! ### The buffer for the rest of a frame -/

/-- `readTurn`, writing down the length of each `rest_buf` that it allocates. -/
def readTurnAllocating (stream : TcpStream) : Stateful (List Nat) SecurePipeError Turn := do
  match stream.readExact HEADER_SIZE with
  | .waiting => return .waiting
  | .failed .unexpectedEof => .throw .connectionClosed
  | .failed e => .throw (.io e)
  | .done headerBuf stream =>
  if (← .lift (slice headerBuf 0 2)) ≠ MAGIC then return .badMagic stream else
  let payloadLen ← .lift (readU32 headerBuf 19 23)
  let payloadLen := payloadLen.toNat
  if payloadLen > MAX_PAYLOAD_SIZE then return .payloadTooLarge payloadLen else
  let remaining ← .lift (usizeAdd payloadLen AUTH_TAG_SIZE)
  .modify (· ++ [remaining])
  match stream.readExact remaining with
  | .waiting => return .waiting
  | .failed e => .throw (.io e)
  | .done restBuf stream => return .frame (headerBuf ++ restBuf) stream

/-- A header has arrived, with the magic bytes, and declares this payload length, which is within
the cap. -/
def HeaderPasses (stream : TcpStream) (payloadLen : Nat) : Prop :=
  ∃ (h : WireHeader) (rest : Bytes), stream.bytes = h.bytes ++ rest ∧ h.magic.toList = MAGIC ∧
    h.payloadLen.toNat = payloadLen ∧ payloadLen ≤ MAX_PAYLOAD_SIZE

/-- The lengths written down in a turn: that of the payload and a tag, if the header passes. -/
structure Allocated (stream : TcpStream) (new : List Nat) : Prop where
  passes {payloadLen : Nat} (h : HeaderPasses stream payloadLen) :
    new = [payloadLen + AUTH_TAG_SIZE]
  fails (h : ∀ payloadLen, ¬ HeaderPasses stream payloadLen) : new = []

theorem headerPasses_iff {h : WireHeader} {rest : Bytes} {ending : StreamEnd} {payloadLen : Nat} :
    HeaderPasses ⟨h.bytes ++ rest, ending⟩ payloadLen ↔
      h.magic.toList = MAGIC ∧ h.payloadLen.toNat = payloadLen ∧ payloadLen ≤ MAX_PAYLOAD_SIZE := by
  constructor
  · intro ⟨h', rest', hbytes, hpasses⟩
    have hlen : h.bytes.length = h'.bytes.length := h.bytes_length.trans h'.bytes_length.symm
    obtain rfl : h = h' := WireHeader.bytes_injective (List.append_inj hbytes hlen).1
    exact hpasses
  · exact fun hpasses => ⟨h, rest, rfl, hpasses⟩

theorem allocated_nil {h : WireHeader} {rest : Bytes} {ending : StreamEnd}
    (hfails : ¬ (h.magic.toList = MAGIC ∧ h.payloadLen.toNat ≤ MAX_PAYLOAD_SIZE)) :
    Allocated ⟨h.bytes ++ rest, ending⟩ [] where
  passes hpasses := by
    obtain ⟨hmagic, hlen, hmax⟩ := headerPasses_iff.mp hpasses
    exact absurd ⟨hmagic, hlen ▸ hmax⟩ hfails
  fails _ := rfl

theorem Allocated.le {stream : TcpStream} {new : List Nat} (h : Allocated stream new) {len : Nat}
    (hlen : len ∈ new) : len ≤ MAX_PAYLOAD_SIZE + AUTH_TAG_SIZE := by
  by_cases hpasses : ∃ payloadLen, HeaderPasses stream payloadLen
  · obtain ⟨payloadLen, hpasses⟩ := hpasses
    rw [h.passes hpasses] at hlen
    rw [List.mem_singleton.mp hlen]
    obtain ⟨_, _, _, _, _, hmax⟩ := hpasses
    exact Nat.add_le_add_right hmax _
  · rw [h.fails fun payloadLen hp => hpasses ⟨payloadLen, hp⟩] at hlen
    exact absurd hlen List.not_mem_nil

/-- Without a whole header, nothing is allocated. -/
theorem allocated_short {stream : TcpStream} (hshort : stream.bytes.length < HEADER_SIZE) :
    Allocated stream [] where
  passes hpasses := by
    obtain ⟨h, rest, hbytes, -⟩ := hpasses
    rw [hbytes, List.length_append, h.bytes_length] at hshort
    omega
  fails _ := rfl

/-- `read_exact` gets its bytes whenever enough have arrived. -/
theorem length_lt_of_not_done {stream : TcpStream} {n : Nat}
    (h : ∀ buf rest, stream.readExact n ≠ .done buf rest) : stream.bytes.length < n := by
  by_contra henough
  exact h _ _ (if_pos (not_lt.mp henough))

/-- **Writing the lengths down** changes nothing. -/
theorem readTurnAllocating_eq (stream : TcpStream) (lens : List Nat) :
    ∃ new, Allocated stream new ∧
      readTurnAllocating stream lens = (readTurn stream, lens ++ new) := by
  obtain ⟨bytes, ending⟩ := stream
  rcases readExact_cases bytes ending HEADER_SIZE with
    ⟨buf, rest, rfl, hbuf, hread⟩ | ⟨e, hread⟩ | ⟨-, hread⟩
  · obtain ⟨h, rfl⟩ := WireHeader.view_exact hbuf
    obtain ⟨hmagic, hlen⟩ := h.peek (ε := SecurePipeError)
    rw [readTurn_header]
    unfold readTurnAllocating
    rw [hread]
    dsimp only
    rw [hmagic, Stateful.bind_ok (Stateful.lift_apply _ _)]
    by_cases hm : h.magic.toList = MAGIC
    swap
    · rw [if_pos hm, if_pos hm]
      exact ⟨[], allocated_nil fun hpasses => hm hpasses.1, by rw [List.append_nil]; rfl⟩
    rw [if_neg (not_not.mpr hm), if_neg (not_not.mpr hm), hlen,
      Stateful.bind_ok (Stateful.lift_apply _ _)]
    by_cases hmax : h.payloadLen.toNat > MAX_PAYLOAD_SIZE
    · rw [if_pos hmax, if_pos hmax]
      exact ⟨[], allocated_nil fun hpasses => hmax.not_ge hpasses.2, by rw [List.append_nil]; rfl⟩
    have hsmall : h.payloadLen.toNat + AUTH_TAG_SIZE < 2 ^ 64 := by
      simp only [MAX_PAYLOAD_SIZE] at hmax
      simp only [AUTH_TAG_SIZE]
      omega
    rw [if_neg hmax, if_neg hmax, usizeAdd_eq hsmall, Stateful.bind_ok (Stateful.lift_apply _ _),
      Stateful.bind_ok (Stateful.modify_apply _ _)]
    refine ⟨[h.payloadLen.toNat + AUTH_TAG_SIZE], ⟨?_, ?_⟩, ?_⟩
    · intro payloadLen hpasses
      rw [(headerPasses_iff.mp hpasses).2.1]
    · intro hfails
      exact absurd (headerPasses_iff.mpr ⟨hm, rfl, not_lt.mp hmax⟩) (hfails _)
    · cases TcpStream.readExact ⟨rest, ending⟩ (h.payloadLen.toNat + AUTH_TAG_SIZE) with
      | waiting => rfl
      | failed e => rfl
      | done restBuf stream => rfl
  · refine ⟨[], allocated_short (length_lt_of_not_done fun _ _ hdone => ?_), ?_⟩
    · cases hread.symm.trans hdone
    unfold readTurnAllocating readTurn
    rw [hread, List.append_nil]
    cases e with
    | unexpectedEof => rfl
    | other message => rfl
  · refine ⟨[], allocated_short (length_lt_of_not_done fun _ _ hdone => ?_), ?_⟩
    · cases hread.symm.trans hdone
    unfold readTurnAllocating readTurn
    rw [hread, List.append_nil]
    rfl

/-- **The loop's header checks and the parser agree.** Whatever stream it reads, and whatever
processing and events do, the loop passes on only byte strings of 51 bytes and the declared
payload, which is of at most 512. If their version byte is 1 they parse, to a frame that
accounts for every byte of them, and otherwise the parser refuses the version: it never
gets to refuse the magic bytes, the length or the declared length. A buffer for the rest of a
frame is allocated when a header has arrived that passes, and is as long as the declared payload
and the tag, so of 528 bytes at most. -/
theorem header_checks_agree :
    (∀ (σ : Type) (emit : Option UInt32 → String → String → Stateful σ SecurePipeError Unit)
        (process : Bytes → Stateful σ SecurePipeError Unit) (turns : Nat) (stream : TcpStream)
        (st : σ), ∀ raw ∈ calls emit process turns stream st,
      ∃ (payloadLen : UInt32) (version : UInt8),
        (readU32 raw 19 23 : Result UInt32) = .ok payloadLen ∧
        (index raw 2 : Result UInt8) = .ok version ∧
        raw.length = 51 + payloadLen.toNat ∧ payloadLen.toNat ≤ 512 ∧
        (version = 1 → ∃ f, SecurePipeFrame.parse raw = .ok f ∧ f.totalLen = raw.length) ∧
        (version ≠ 1 → SecurePipeFrame.parse raw = .err (.unsupportedVersion version)) ∧
        SecurePipeFrame.parse raw ≠ .err .invalidMagic ∧
        (∀ expected got, SecurePipeFrame.parse raw ≠ .err (.frameTooShort expected got)) ∧
        ∀ max got, SecurePipeFrame.parse raw ≠ .err (.payloadTooLarge max got)) ∧
    (∀ (stream : TcpStream) (lens : List Nat),
      ∃ new, (∀ len ∈ new, len ≤ 528) ∧
        (∀ payloadLen, HeaderPasses stream payloadLen → new = [payloadLen + 16]) ∧
        ((∀ payloadLen, ¬ HeaderPasses stream payloadLen) → new = []) ∧
        readTurnAllocating stream lens = (readTurn stream, lens ++ new)) := by
  constructor
  swap
  · intro stream lens
    obtain ⟨new, hnew, hread⟩ := readTurnAllocating_eq stream lens
    exact ⟨new, fun _ => hnew.le, fun _ => hnew.passes, hnew.fails, hread⟩
  intro σ emit process turns stream st raw hraw
  obtain ⟨h, hlen, hver, hmax, htotal, hparse⟩ :=
    parse_isWireFrame (calls_isWireFrame emit process turns stream st raw hraw)
  refine ⟨h.payloadLen, h.version, hlen, hver, htotal, hmax, ?_⟩
  rcases hparse with ⟨hone, f, hok, hf⟩ | ⟨hother, herr⟩
  · rw [hok]
    exact ⟨fun _ => ⟨f, rfl, hf⟩, fun h => absurd hone h, nofun, nofun, nofun⟩
  · rw [herr]
    exact ⟨fun h => absurd h hother, fun _ => rfl, nofun, nofun, nofun⟩

/-- A frame behind a header with bad magic bytes. -/
theorem header_checks_agree_temperature :
    ∃ f, SecurePipeFrame.parse temperatureFrame.wireBytes = .ok f ∧ f.totalLen = 59 := by
  obtain ⟨payloadLen, version, -, hver, -, -, hok, -⟩ :=
    header_checks_agree.1 (List Bytes) (fun _ _ _ => pure ()) recordCall 2
      ⟨List.replicate 35 0 ++ temperatureFrame.wireBytes, .waiting⟩ []
      temperatureFrame.wireBytes (by decide +kernel)
  exact hok (Outcome.ok.inj hver).symm

end SecurePipe
