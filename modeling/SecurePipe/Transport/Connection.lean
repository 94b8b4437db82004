import SecurePipe.Transport.Tcp

/-!
# SecurePipe.Transport.Connection

`handle_connection` (`src/transport/tcp.rs`): the loop that cuts a TCP byte stream
into frames.

`readTurn` is what one turn of the loop reads; `turn` acts on it; `handleConnection`
takes a number of turns. The two functions the loop calls, `process_frame` and
`emit_security_event`, are parameters, so that what is proved here says exactly which
frames are processed, and in which order, whatever processing does.

**Stream framing undoes concatenation** (`framing_undoes_concatenation`): on a
concatenation of frames the loop processes each of them once, in order, and nothing
of an incomplete last one. On every finite stream it returns.
-/

namespace SecurePipe

open Rust BigEndian

/-! ### The stream -/

/-- What comes after the bytes that have arrived on a connection. -/
inductive StreamEnd
  /-- The peer may still send. -/
  | waiting
  /-- The peer has closed the connection. -/
  | eof
  /-- The connection has failed. -/
  | failed (message : String)
  deriving Repr, DecidableEq

/-- `TcpStream`, from the reading side. -/
structure TcpStream where
  bytes : Bytes
  ending : StreamEnd
  deriving Repr, DecidableEq

/-- What `read_exact` comes to. -/
inductive ReadExact
  | done (buf : Bytes) (stream : TcpStream)
  | failed (kind : IoErrorKind)
  /-- Not enough bytes have arrived yet. -/
  | waiting

/-- `read_exact`, into a buffer of `n` bytes. -/
def TcpStream.readExact (stream : TcpStream) (n : Nat) : ReadExact :=
  if n ≤ stream.bytes.length then
    .done (stream.bytes.take n) { stream with bytes := stream.bytes.drop n }
  else
    match stream.ending with
    | .waiting => .waiting
    | .eof => .failed .unexpectedEof
    | .failed message => .failed (.other message)

/-! ### The loop -/

/-- What one turn of the loop finds, unless it returns on a read error. -/
inductive Turn
  | badMagic (stream : TcpStream)
  | payloadTooLarge (payloadLen : Nat)
  | frame (fullFrame : Bytes) (stream : TcpStream)
  | waiting
  deriving Repr, DecidableEq

/-- The reads of one turn: the header, then as many bytes as it declares. -/
def readTurn (stream : TcpStream) : Result Turn := do
  match stream.readExact HEADER_SIZE with
  | .waiting => return .waiting
  | .failed .unexpectedEof => .err .connectionClosed
  | .failed e => .err (.io e)
  | .done headerBuf stream =>
  -- Peek at magic before allocating anything else
  if (← slice headerBuf 0 2) ≠ MAGIC then return .badMagic stream else
  let payloadLen ← readU32 headerBuf 19 23
  let payloadLen := payloadLen.toNat
  if payloadLen > MAX_PAYLOAD_SIZE then return .payloadTooLarge payloadLen else
  -- Read remaining bytes: payload + auth tag
  let remaining ← usizeAdd payloadLen AUTH_TAG_SIZE
  match stream.readExact remaining with
  | .waiting => return .waiting
  | .failed e => .err (.io e)
  | .done restBuf stream => return .frame (headerBuf ++ restBuf) stream

section Loop

variable {σ : Type} (emitSecurityEvent : Option UInt32 → String → String →
  Stateful σ SecurePipeError Unit) (processFrame : Bytes → Stateful σ SecurePipeError Unit)

/-- One turn of the loop. It returns the stream that the next turn reads from. -/
def turn (stream : TcpStream) : Stateful σ SecurePipeError TcpStream := do
  match ← .lift (readTurn stream) with
  | .badMagic stream =>
      emitSecurityEvent none "invalid_magic" "Frame rejected: bad magic bytes"
      return stream
  | .payloadTooLarge payloadLen =>
      emitSecurityEvent none "payload_too_large"
        ("declared payload length " ++ payloadLen.repr ++ " exceeds max " ++ MAX_PAYLOAD_SIZE.repr)
      .throw (.payloadTooLarge MAX_PAYLOAD_SIZE payloadLen)
  | .frame fullFrame stream =>
      processFrame fullFrame
      return stream
  | .waiting => return stream

/-- `handle_connection`, for at most so many turns. It is still running when it ends in
`ok`, with what is left of the stream: the loop itself returns only errors. -/
def handleConnection : Nat → TcpStream → Stateful σ SecurePipeError TcpStream
  | 0, stream => return stream
  | turns + 1, stream => do
      handleConnection turns (← turn emitSecurityEvent processFrame stream)

end Loop

/-! ### What a turn reads -/

theorem readExact_append {buf rest : Bytes} {n : Nat} (ending : StreamEnd) (h : buf.length = n) :
    TcpStream.readExact ⟨buf ++ rest, ending⟩ n = .done buf ⟨rest, ending⟩ := by
  unfold TcpStream.readExact
  rw [if_pos (by rw [List.length_append]; omega)]
  simp only [← h, List.take_left, List.drop_left]

theorem readExact_eof {bytes : Bytes} {n : Nat} (h : bytes.length < n) :
    TcpStream.readExact ⟨bytes, .eof⟩ n = .failed .unexpectedEof := by
  unfold TcpStream.readExact
  rw [if_neg (not_le.mpr h)]

/-- `read_exact` gets its bytes, fails on a finished stream, or waits on an open one. -/
theorem readExact_cases (bytes : Bytes) (ending : StreamEnd) (n : Nat) :
    (∃ buf rest, bytes = buf ++ rest ∧ buf.length = n ∧
      TcpStream.readExact ⟨bytes, ending⟩ n = .done buf ⟨rest, ending⟩) ∨
    (∃ e, TcpStream.readExact ⟨bytes, ending⟩ n = .failed e) ∨
    (ending = .waiting ∧ TcpStream.readExact ⟨bytes, ending⟩ n = .waiting) := by
  by_cases hlen : n ≤ bytes.length
  · obtain ⟨buf, rest, rfl⟩ := exists_front n bytes hlen
    exact .inl ⟨buf.toList, rest, rfl, toList_length buf, readExact_append ending (toList_length buf)⟩
  right
  unfold TcpStream.readExact
  rw [if_neg hlen]
  cases ending with
  | waiting => exact .inr ⟨rfl, rfl⟩
  | eof => exact .inl ⟨_, rfl⟩
  | failed message => exact .inl ⟨_, rfl⟩

/-- A turn on a stream that starts with a whole header. -/
theorem readTurn_header (h : WireHeader) (rest : Bytes) (ending : StreamEnd) :
    readTurn ⟨h.bytes ++ rest, ending⟩ =
      if h.magic.toList ≠ MAGIC then .ok (.badMagic ⟨rest, ending⟩)
      else if h.payloadLen.toNat > MAX_PAYLOAD_SIZE then
        .ok (.payloadTooLarge h.payloadLen.toNat)
      else
        match TcpStream.readExact ⟨rest, ending⟩ (h.payloadLen.toNat + AUTH_TAG_SIZE) with
        | .waiting => .ok .waiting
        | .failed e => .err (.io e)
        | .done restBuf stream => .ok (.frame (h.bytes ++ restBuf) stream) := by
  obtain ⟨hmagic, hlen⟩ := h.peek (ε := SecurePipeError)
  unfold readTurn
  rw [readExact_append ending h.bytes_length]
  dsimp only
  rw [hmagic, Outcome.ok_bind]
  by_cases hm : h.magic.toList ≠ MAGIC
  · rw [if_pos hm, if_pos hm]
    rfl
  rw [if_neg hm, if_neg hm, hlen, Outcome.ok_bind]
  by_cases hmax : h.payloadLen.toNat > MAX_PAYLOAD_SIZE
  · rw [if_pos hmax, if_pos hmax]
    rfl
  have hsmall : h.payloadLen.toNat + AUTH_TAG_SIZE < 2 ^ 64 := by
    simp only [MAX_PAYLOAD_SIZE] at hmax
    simp only [AUTH_TAG_SIZE]
    omega
  rw [if_neg hmax, if_neg hmax, usizeAdd_eq hsmall, Outcome.ok_bind]
  cases TcpStream.readExact ⟨rest, ending⟩ (h.payloadLen.toNat + AUTH_TAG_SIZE) with
  | waiting => rfl
  | failed e => rfl
  | done restBuf stream => rfl

/-- A turn on a closed stream with less than a header left: the connection is over. -/
theorem readTurn_closed {bytes : Bytes} (h : bytes.length < HEADER_SIZE) :
    readTurn ⟨bytes, .eof⟩ = .err .connectionClosed := by
  unfold readTurn
  rw [readExact_eof h]

/-! ### Frames on the stream -/

/-- The bytes of one frame, as far as the framing goes: a header with the right magic and
a declared length within bounds, then as many bytes and a tag's worth more. -/
def IsWireFrame (raw : Bytes) : Prop :=
  ∃ (h : WireHeader) (body : Bytes), raw = h.bytes ++ body ∧ h.magic.toList = MAGIC ∧
    h.payloadLen.toNat ≤ MAX_PAYLOAD_SIZE ∧ body.length = h.payloadLen.toNat + AUTH_TAG_SIZE

/-- A frame within the payload bound, as the codec writes it. -/
theorem isWireFrame_wireBytes {f : SecurePipeFrame}
    (hmax : f.encryptedPayload.length ≤ MAX_PAYLOAD_SIZE) : IsWireFrame f.wireBytes := by
  have hlen : f.header.payloadLen.toNat = f.encryptedPayload.length := by
    simp only [MAX_PAYLOAD_SIZE] at hmax
    exact UInt32.toNat_ofNat_of_lt' (hmax.trans_lt (by decide))
  refine ⟨f.header, f.encryptedPayload ++ f.authTag.toList, ?_, rfl, hlen ▸ hmax, ?_⟩
  · rw [SecurePipeFrame.wireBytes, List.append_assoc, SecurePipeFrame.headerAsAad_eq]
  · rw [List.length_append, toList_length, hlen]

/-- A turn on a stream that starts with a whole frame reads that frame. -/
theorem readTurn_frame {raw : Bytes} (hraw : IsWireFrame raw) (rest : Bytes) (ending : StreamEnd) :
    readTurn ⟨raw ++ rest, ending⟩ = .ok (.frame raw ⟨rest, ending⟩) := by
  obtain ⟨h, body, rfl, hmagic, hmax, hbody⟩ := hraw
  rw [List.append_assoc, readTurn_header, if_neg (not_not.mpr hmagic), if_neg (by omega),
    readExact_append ending hbody]

/-- The error that the loop returns when the stream ends with `rest` unread. -/
def truncated (rest : Bytes) : SecurePipeError :=
  if rest.length < HEADER_SIZE then .connectionClosed else .io .unexpectedEof

/-- A turn on a closed stream that holds only the start of a frame. -/
theorem readTurn_truncated {r s : Bytes} (hframe : IsWireFrame (r ++ s)) (hs : s ≠ []) :
    readTurn ⟨r, .eof⟩ = .err (truncated r) := by
  simp only [truncated]
  by_cases hlen : r.length < HEADER_SIZE
  · rw [if_pos hlen]
    exact readTurn_closed hlen
  rw [if_neg hlen]
  obtain ⟨h, body, heq, hmagic, hmax, hbody⟩ := hframe
  obtain ⟨h', body', rfl⟩ := WireHeader.view (not_lt.mp hlen)
  rw [List.append_assoc] at heq
  obtain ⟨hbytes, hrest⟩ := List.append_inj heq (by rw [h'.bytes_length, h.bytes_length])
  obtain rfl := WireHeader.bytes_injective hbytes
  have hpos : 0 < s.length := List.length_pos_of_ne_nil hs
  rw [← hrest, List.length_append] at hbody
  rw [readTurn_header, if_neg (not_not.mpr hmagic), if_neg (by omega), readExact_eof (by omega)]

/-- **What one turn reads**: it returns on a read error, waits for more of an open stream,
finds a bad header, or takes one whole frame off the stream. -/
theorem readTurn_cases (bytes : Bytes) (ending : StreamEnd) :
    (∃ e, readTurn ⟨bytes, ending⟩ = .err e) ∨
    (ending = .waiting ∧ readTurn ⟨bytes, ending⟩ = .ok .waiting) ∨
    (∃ block rest, bytes = block ++ rest ∧ block.length = HEADER_SIZE ∧ block.take 2 ≠ MAGIC ∧
      readTurn ⟨bytes, ending⟩ = .ok (.badMagic ⟨rest, ending⟩)) ∨
    (∃ payloadLen, readTurn ⟨bytes, ending⟩ = .ok (.payloadTooLarge payloadLen)) ∨
    (∃ raw rest, bytes = raw ++ rest ∧ IsWireFrame raw ∧
      readTurn ⟨bytes, ending⟩ = .ok (.frame raw ⟨rest, ending⟩)) := by
  by_cases hlen : bytes.length < HEADER_SIZE
  · rcases readExact_cases bytes ending HEADER_SIZE with
      ⟨buf, rest, rfl, hbuf, -⟩ | ⟨e, hread⟩ | ⟨hwait, hread⟩
    · rw [List.length_append] at hlen
      omega
    · left
      unfold readTurn
      rw [hread]
      cases e with
      | unexpectedEof => exact ⟨_, rfl⟩
      | other message => exact ⟨_, rfl⟩
    · refine .inr (.inl ⟨hwait, ?_⟩)
      unfold readTurn
      rw [hread]
      rfl
  obtain ⟨h, rest, rfl⟩ := WireHeader.view (not_lt.mp hlen)
  rw [readTurn_header]
  by_cases hmagic : h.magic.toList = MAGIC
  swap
  · rw [if_pos hmagic]
    refine .inr (.inr (.inl ⟨h.bytes, rest, rfl, h.bytes_length, ?_, rfl⟩))
    rwa [h.take_bytes]
  by_cases hmax : h.payloadLen.toNat > MAX_PAYLOAD_SIZE
  · rw [if_neg (not_not.mpr hmagic), if_pos hmax]
    exact .inr (.inr (.inr (.inl ⟨_, rfl⟩)))
  rw [if_neg (not_not.mpr hmagic), if_neg hmax]
  rcases readExact_cases rest ending (h.payloadLen.toNat + AUTH_TAG_SIZE) with
    ⟨body, rest, rfl, hbody, hread⟩ | ⟨e, hread⟩ | ⟨hwait, hread⟩
  · rw [hread]
    exact .inr (.inr (.inr (.inr ⟨h.bytes ++ body, rest, (List.append_assoc _ _ _).symm,
      ⟨h, body, rfl, hmagic, not_lt.mp hmax, hbody⟩, rfl⟩)))
  · rw [hread]
    exact .inl ⟨_, rfl⟩
  · rw [hread]
    exact .inr (.inl ⟨hwait, rfl⟩)

/-! ### The loop on a stream -/

section Loop

variable {σ : Type} {emitSecurityEvent : Option UInt32 → String → String →
  Stateful σ SecurePipeError Unit} {processFrame : Bytes → Stateful σ SecurePipeError Unit}

theorem turn_error {stream : TcpStream} {e : SecurePipeError} (h : readTurn stream = .err e) :
    turn emitSecurityEvent processFrame stream = .throw e := by
  unfold turn
  rw [h]
  rfl

theorem turn_badMagic {stream rest : TcpStream} (h : readTurn stream = .ok (.badMagic rest)) :
    turn emitSecurityEvent processFrame stream =
      emitSecurityEvent none "invalid_magic" "Frame rejected: bad magic bytes" >>= fun _ =>
        pure rest := by
  unfold turn
  rw [h]
  rfl

theorem turn_payloadTooLarge {stream : TcpStream} {payloadLen : Nat}
    (h : readTurn stream = .ok (.payloadTooLarge payloadLen)) :
    turn emitSecurityEvent processFrame stream =
      emitSecurityEvent none "payload_too_large"
        ("declared payload length " ++ payloadLen.repr ++ " exceeds max " ++ MAX_PAYLOAD_SIZE.repr)
        >>= fun _ => .throw (.payloadTooLarge MAX_PAYLOAD_SIZE payloadLen) := by
  unfold turn
  rw [h]
  rfl

theorem turn_frame {stream rest : TcpStream} {raw : Bytes}
    (h : readTurn stream = .ok (.frame raw rest)) :
    turn emitSecurityEvent processFrame stream = processFrame raw >>= fun _ => pure rest := by
  unfold turn
  rw [h]
  rfl

/-- Turns on a stream that starts with whole frames process these frames. -/
theorem handleConnection_frames {frames : List Bytes} (hframes : ∀ raw ∈ frames, IsWireFrame raw)
    (rest : Bytes) (ending : StreamEnd) (turns : Nat) :
    handleConnection emitSecurityEvent processFrame (frames.length + turns)
        ⟨frames.flatten ++ rest, ending⟩ =
      forM frames processFrame >>= fun _ =>
        handleConnection emitSecurityEvent processFrame turns ⟨rest, ending⟩ := by
  induction frames with
  | nil =>
      rw [List.length_nil, Nat.zero_add, List.flatten_nil, List.nil_append]
      rfl
  | cons raw frames ih =>
      have hread := readTurn_frame (hframes raw List.mem_cons_self) (frames.flatten ++ rest) ending
      have ih := ih fun raw' h => hframes raw' (List.mem_cons_of_mem raw h)
      rw [List.length_cons, Nat.add_right_comm, List.flatten_cons, List.append_assoc,
        handleConnection, turn_frame hread, List.forM_cons, bind_assoc, bind_assoc, ← ih]
      rfl

/-- A turn on the start of a frame at the end of the stream returns, and processes nothing. -/
theorem handleConnection_truncated {r s : Bytes} (hframe : IsWireFrame (r ++ s)) (hs : s ≠ [])
    (turns : Nat) :
    handleConnection emitSecurityEvent processFrame (turns + 1) ⟨r, .eof⟩ =
      .throw (truncated r) := by
  rw [handleConnection, turn_error (readTurn_truncated hframe hs)]
  rfl

/-- A turn on a finished stream that does not return leaves a stream that is shorter by at
least a header, and as finished as before. -/
theorem turn_shrinks {bytes : Bytes} {ending : StreamEnd} (hend : ending ≠ .waiting) {st st' : σ}
    {stream : TcpStream}
    (h : turn emitSecurityEvent processFrame ⟨bytes, ending⟩ st = (.ok stream, st')) :
    stream.ending = ending ∧ stream.bytes.length + HEADER_SIZE ≤ bytes.length := by
  rcases readTurn_cases bytes ending with ⟨e, hread⟩ | ⟨hwait, -⟩ |
    ⟨block, rest, rfl, hblock, -, hread⟩ | ⟨payloadLen, hread⟩ |
    ⟨raw, rest, rfl, ⟨hdr, body, rfl, -⟩, hread⟩
  · rw [turn_error hread] at h
    cases h
  · exact absurd hwait hend
  · rw [turn_badMagic hread] at h
    obtain ⟨_, _, -, hpure⟩ := Stateful.bind_eq_ok h
    cases hpure
    exact ⟨rfl, by simp only [List.length_append, hblock]; omega⟩
  · rw [turn_payloadTooLarge hread] at h
    obtain ⟨_, _, -, hthrow⟩ := Stateful.bind_eq_ok h
    cases hthrow
  · rw [turn_frame hread] at h
    obtain ⟨_, _, -, hpure⟩ := Stateful.bind_eq_ok h
    cases hpure
    exact ⟨rfl, by simp only [List.length_append, hdr.bytes_length]; omega⟩

/-- **The loop returns on every finished stream**: each turn that does not return consumes a
header, so there are only so many. -/
theorem handleConnection_returns {stream : TcpStream} (hend : stream.ending ≠ .waiting)
    {turns : Nat} (hturns : stream.bytes.length < turns * HEADER_SIZE) (st : σ) :
    ∀ rest, (handleConnection emitSecurityEvent processFrame turns stream st).1 ≠ .ok rest := by
  induction turns generalizing stream st with
  | zero => omega
  | succ turns ih =>
      intro rest hok
      rw [handleConnection, Stateful.bind_apply] at hok
      cases hturn : turn emitSecurityEvent processFrame stream st with
      | mk result st' =>
          rw [hturn] at hok
          cases result with
          | ok next =>
              obtain ⟨hnext, hshorter⟩ := turn_shrinks hend hturn
              refine ih (hnext ▸ hend) ?_ st' rest hok
              rw [Nat.succ_mul] at hturns
              omega
          | err e => cases hok
          | panic p => cases hok

end Loop

/-- A `process_frame` that writes down what it is called with. -/
def recordCall (raw : Bytes) : Stateful (List Bytes) SecurePipeError Unit :=
  .modify (· ++ [raw])

theorem forM_recordCall (frames calls : List Bytes) :
    (forM frames recordCall : Stateful (List Bytes) SecurePipeError Unit) calls =
      (.ok (), calls ++ frames) := by
  induction frames generalizing calls with
  | nil => rw [List.append_nil]; rfl
  | cons raw frames ih =>
      have hcall : recordCall raw calls = (.ok (), calls ++ [raw]) := rfl
      rw [List.forM_cons, Stateful.bind_ok hcall, ih, List.append_assoc, List.singleton_append]

/-- **Stream framing undoes concatenation.** On a concatenation of frames, followed by a
proper prefix of one more and the end of the stream, the loop is the processing of each of
the frames, once and in order, and then a return of the error that the prefix calls for:
whatever processing does, and with the frames themselves as the calls made. On every
finished stream it returns. -/
theorem framing_undoes_concatenation (frames : List Bytes) (r s : Bytes)
    (hframes : ∀ raw ∈ frames, IsWireFrame raw) (hlast : IsWireFrame (r ++ s)) (hs : s ≠ []) :
    (∀ (σ : Type) (emit : Option UInt32 → String → String → Stateful σ SecurePipeError Unit)
        (process : Bytes → Stateful σ SecurePipeError Unit) (turns : Nat),
      frames.length < turns →
      handleConnection emit process turns ⟨frames.flatten ++ r, .eof⟩ =
        forM frames process >>= fun _ =>
          .throw (if r.length < 35 then .connectionClosed else .io .unexpectedEof)) ∧
    (∀ turns, frames.length < turns →
      handleConnection (fun _ _ _ => pure ()) recordCall turns ⟨frames.flatten ++ r, .eof⟩ [] =
        (.err (if r.length < 35 then .connectionClosed else .io .unexpectedEof), frames)) ∧
    (∀ (σ : Type) (emit : Option UInt32 → String → String → Stateful σ SecurePipeError Unit)
        (process : Bytes → Stateful σ SecurePipeError Unit) (stream : TcpStream),
      stream.ending ≠ .waiting →
      ∃ turns, ∀ st rest, (handleConnection emit process turns stream st).1 ≠ .ok rest) := by
  have hloop : ∀ (σ : Type) (emit : Option UInt32 → String → String →
      Stateful σ SecurePipeError Unit) (process : Bytes → Stateful σ SecurePipeError Unit)
      (turns : Nat), frames.length < turns →
      handleConnection emit process turns ⟨frames.flatten ++ r, .eof⟩ =
        forM frames process >>= fun _ => .throw (truncated r) := by
    intro σ emit process turns hturns
    obtain ⟨more, rfl⟩ : ∃ more, turns = frames.length + (more + 1) :=
      ⟨turns - frames.length - 1, by omega⟩
    rw [handleConnection_frames hframes, handleConnection_truncated hlast hs]
  refine ⟨hloop, ?_, ?_⟩
  · intro turns hturns
    rw [hloop _ _ _ turns hturns, Stateful.bind_ok (forM_recordCall frames [])]
    rfl
  · intro σ emit process stream hend
    refine ⟨stream.bytes.length + 1, fun st => handleConnection_returns hend ?_ st⟩
    simp only [HEADER_SIZE]
    omega

/-- A frame and the first forty bytes of another. -/
theorem framing_undoes_concatenation_temperature :
    handleConnection (fun _ _ _ => pure ()) recordCall 2
      ⟨[temperatureFrame.wireBytes].flatten ++ temperatureFrame.wireBytes.take 40, .eof⟩ [] =
        (.err (.io .unexpectedEof), [temperatureFrame.wireBytes]) := by
  have hframe : IsWireFrame temperatureFrame.wireBytes := isWireFrame_wireBytes (by decide)
  refine (framing_undoes_concatenation [temperatureFrame.wireBytes] _
    (temperatureFrame.wireBytes.drop 40) ?_ ?_ ?_).2.1 2 (by decide)
  · intro raw hraw
    rwa [List.mem_singleton.mp hraw]
  · rwa [List.take_append_drop]
  · decide +kernel

end SecurePipe
