import SecurePipe.Transport.Connection

/-!
# SecurePipe.Transport.Deframe

`handle_connection` as a pure reader and its reactions.

What the loop reads does not depend on what it does about it: `deframe` reads a stream, and
`handleConnection_eq` says that the loop is the reactions to the pieces it reads, in order.
A piece is a whole frame, or a header that the loop skips for its bad magic bytes. **The
pieces are a cut of what was read** (`deframe_cut`, `Cut.deframe`), and a frame can be cut
off in one way only (`Cut.of_frame`): so where the loop stands in a stream says which frames
it will pass on.
-/

namespace SecurePipe

open Rust

/-! ### The reader -/

/-- How the loop stands after some turns. -/
inductive LoopState
  | running (stream : TcpStream)
  /-- It refuses a declared payload length, and returns. -/
  | payloadTooLarge (payloadLen : Nat)
  /-- It returns on a read error. -/
  | returning (e : SecurePipeError)
  | panicking (p : Panic)
  deriving DecidableEq

/-- What so many turns read: the frames, and `none` for each header that is skipped. -/
def deframe : Nat → TcpStream → List (Option Bytes) × LoopState
  | 0, stream => ([], .running stream)
  | turns + 1, stream =>
    match readTurn stream with
    | .ok (.badMagic stream) => (none :: (deframe turns stream).1, (deframe turns stream).2)
    | .ok (.frame fullFrame stream) =>
        (some fullFrame :: (deframe turns stream).1, (deframe turns stream).2)
    | .ok (.payloadTooLarge payloadLen) => ([], .payloadTooLarge payloadLen)
    | .ok .waiting => deframe turns stream
    | .err e => ([], .returning e)
    | .panic p => ([], .panicking p)

section Reactions

variable {σ : Type} (emitSecurityEvent : Option UInt32 → String → String →
  Stateful σ SecurePipeError Unit) (processFrame : Bytes → Stateful σ SecurePipeError Unit)

/-- What the loop does about a piece. -/
def react : Option Bytes → Stateful σ SecurePipeError Unit
  | none => emitSecurityEvent none "invalid_magic" "Frame rejected: bad magic bytes"
  | some fullFrame => processFrame fullFrame

/-- What the loop does last. -/
def finish : LoopState → Stateful σ SecurePipeError TcpStream
  | .running stream => return stream
  | .payloadTooLarge payloadLen => do
      emitSecurityEvent none "payload_too_large"
        ("declared payload length " ++ payloadLen.repr ++ " exceeds max " ++ MAX_PAYLOAD_SIZE.repr)
      .throw (.payloadTooLarge MAX_PAYLOAD_SIZE payloadLen)
  | .returning e => .throw e
  | .panicking p => .lift (.panic p)

/-- **The loop is the reactions to what it reads.** -/
theorem handleConnection_eq (turns : Nat) (stream : TcpStream) :
    handleConnection emitSecurityEvent processFrame turns stream =
      forM (deframe turns stream).1 (react emitSecurityEvent processFrame) >>= fun _ =>
        finish emitSecurityEvent (deframe turns stream).2 := by
  induction turns generalizing stream with
  | zero => rfl
  | succ turns ih =>
      rw [handleConnection, deframe]
      cases hread : readTurn stream with
      | err e => rw [turn_error hread]; rfl
      | panic p => unfold turn; rw [hread]; rfl
      | ok read =>
          cases read with
          | badMagic rest =>
              rw [turn_badMagic hread]
              simp only [bind_assoc, pure_bind, ih, List.forM_cons]
              rfl
          | payloadTooLarge payloadLen =>
              rw [turn_payloadTooLarge hread, bind_assoc]
              rfl
          | frame raw rest =>
              rw [turn_frame hread]
              simp only [bind_assoc, pure_bind, ih, List.forM_cons]
              rfl
          | waiting =>
              unfold turn
              rw [hread]
              exact ih stream

end Reactions

theorem deframe_badMagic {stream rest : TcpStream} (h : readTurn stream = .ok (.badMagic rest))
    (turns : Nat) :
    deframe (turns + 1) stream = (none :: (deframe turns rest).1, (deframe turns rest).2) := by
  rw [deframe, h]

theorem deframe_frame {stream rest : TcpStream} {raw : Bytes}
    (h : readTurn stream = .ok (.frame raw rest)) (turns : Nat) :
    deframe (turns + 1) stream = (some raw :: (deframe turns rest).1, (deframe turns rest).2) := by
  rw [deframe, h]

/-- A loop that waits goes on waiting. -/
theorem deframe_waiting {stream : TcpStream} (h : readTurn stream = .ok .waiting) (turns : Nat) :
    deframe turns stream = ([], .running stream) := by
  induction turns with
  | zero => rfl
  | succ turns ih => rw [deframe, h, ih]

/-! ### Cuts -/

/-- A byte string cut into frames and skipped headers, from the front. -/
inductive Cut : List (Option Bytes) → Bytes → Prop
  | nil : Cut [] []
  | skip {block rest : Bytes} {pieces : List (Option Bytes)} (hlen : block.length = HEADER_SIZE)
      (hmagic : block.take 2 ≠ MAGIC) (hrest : Cut pieces rest) :
      Cut (none :: pieces) (block ++ rest)
  | frame {raw rest : Bytes} {pieces : List (Option Bytes)} (hraw : IsWireFrame raw)
      (hrest : Cut pieces rest) : Cut (some raw :: pieces) (raw ++ rest)

/-- A turn on a header's worth of bytes with bad magic skips them. -/
theorem readTurn_skip {block : Bytes} (hlen : block.length = HEADER_SIZE)
    (hmagic : block.take 2 ≠ MAGIC) (rest : Bytes) (ending : StreamEnd) :
    readTurn ⟨block ++ rest, ending⟩ = .ok (.badMagic ⟨rest, ending⟩) := by
  obtain ⟨h, rfl⟩ := WireHeader.view_exact hlen
  rw [h.take_bytes] at hmagic
  rw [readTurn_header, if_pos hmagic]

theorem IsWireFrame.take {raw : Bytes} (h : IsWireFrame raw) (rest : Bytes) :
    (raw ++ rest).take 2 = MAGIC := by
  obtain ⟨hdr, body, rfl, hmagic, -⟩ := h
  have hlen : 2 ≤ hdr.bytes.length := by
    rw [hdr.bytes_length]
    decide
  rw [List.append_assoc, List.take_append_of_le_length hlen, hdr.take_bytes, hmagic]

/-- No frame is the start of another. -/
theorem IsWireFrame.append_inj {raw raw' rest rest' : Bytes} (h : IsWireFrame raw)
    (h' : IsWireFrame raw') (heq : raw ++ rest = raw' ++ rest') : raw = raw' ∧ rest = rest' := by
  obtain ⟨hdr, body, rfl, -, -, hbody⟩ := h
  obtain ⟨hdr', body', rfl, -, -, hbody'⟩ := h'
  rw [List.append_assoc, List.append_assoc] at heq
  obtain ⟨hbytes, hrest⟩ := List.append_inj heq (by rw [hdr.bytes_length, hdr'.bytes_length])
  obtain rfl := WireHeader.bytes_injective hbytes
  obtain ⟨rfl, rfl⟩ := List.append_inj hrest (by rw [hbody, hbody'])
  exact ⟨rfl, rfl⟩

/-- A frame is a header and a tag at least. -/
theorem IsWireFrame.length_ge {raw : Bytes} (h : IsWireFrame raw) : MIN_FRAME_SIZE ≤ raw.length := by
  obtain ⟨hdr, body, rfl, -, -, hbody⟩ := h
  rw [List.length_append, hdr.bytes_length, hbody, MIN_FRAME_SIZE]
  omega

namespace Cut

variable {pieces pieces' : List (Option Bytes)} {bytes bytes' raw rest : Bytes}

theorem append (h : Cut pieces bytes) (h' : Cut pieces' bytes') :
    Cut (pieces ++ pieces') (bytes ++ bytes') := by
  induction h with
  | nil => exact h'
  | skip hlen hmagic _ ih =>
      rw [List.append_assoc]
      exact .skip hlen hmagic ih
  | frame hraw _ ih =>
      rw [List.append_assoc]
      exact .frame hraw ih

theorem of_frames {frames : List Bytes} (h : ∀ raw ∈ frames, IsWireFrame raw) :
    Cut (frames.map some) frames.flatten := by
  induction frames with
  | nil => exact .nil
  | cons raw frames ih =>
      exact .frame (h raw List.mem_cons_self) (ih fun f hf => h f (List.mem_cons_of_mem raw hf))

theorem isWireFrame (h : Cut pieces bytes) (hmem : some raw ∈ pieces) : IsWireFrame raw := by
  induction h with
  | nil => exact absurd hmem List.not_mem_nil
  | skip _ _ _ ih =>
      rcases List.mem_cons.mp hmem with heq | hlater
      · cases heq
      · exact ih hlater
  | frame hraw _ ih =>
      rcases List.mem_cons.mp hmem with heq | hlater
      · exact Option.some.inj heq ▸ hraw
      · exact ih hlater

/-- What starts with a frame is cut after that frame first. -/
theorem of_frame (h : Cut pieces (raw ++ rest)) (hraw : IsWireFrame raw) :
    ∃ later, pieces = some raw :: later ∧ Cut later rest := by
  generalize hbytes : raw ++ rest = bytes at h
  cases h with
  | nil =>
      have hpos := hraw.length_ge
      rw [(List.append_eq_nil_iff.mp hbytes).1] at hpos
      exact absurd hpos (by decide)
  | @skip block _ _ hlen hmagic hrest =>
      refine absurd ?_ hmagic
      have htake := hraw.take rest
      rw [hbytes, List.take_append_of_le_length (by rw [hlen]; decide)] at htake
      exact htake
  | frame hraw' hrest =>
      obtain ⟨rfl, rfl⟩ := hraw.append_inj hraw' hbytes
      exact ⟨_, rfl, hrest⟩

/-- What is left when the last frame is taken off. -/
theorem of_snoc (h : Cut (pieces ++ [some raw]) bytes) :
    ∃ front, bytes = front ++ raw ∧ Cut pieces front := by
  induction pieces generalizing bytes with
  | nil =>
      cases h with
      | frame _ hrest =>
      cases hrest with
      | nil => exact ⟨[], List.append_nil _, .nil⟩
  | cons piece pieces ih =>
      cases h with
      | skip hlen hmagic hrest =>
          obtain ⟨front, rfl, hfront⟩ := ih hrest
          exact ⟨_ ++ front, (List.append_assoc _ _ _).symm, .skip hlen hmagic hfront⟩
      | frame hraw hrest =>
          obtain ⟨front, rfl, hfront⟩ := ih hrest
          exact ⟨_ ++ front, (List.append_assoc _ _ _).symm, .frame hraw hfront⟩

/-- The start of a frame alone cannot be cut. -/
theorem not_truncated {r s : Bytes} (hframe : IsWireFrame (r ++ s)) (hr : r ≠ []) (hs : s ≠ []) :
    ¬ Cut pieces r := by
  intro h
  cases h with
  | nil => exact hr rfl
  | skip hlen hmagic hrest =>
      refine hmagic ?_
      have htake := hframe.take []
      rwa [List.append_nil, List.append_assoc,
        List.take_append_of_le_length (by rw [hlen]; decide)] at htake
  | @frame raw rest _ hraw hrest =>
      have heq : raw ++ rest ++ s ++ [] = raw ++ (rest ++ s) := by
        rw [List.append_nil, List.append_assoc]
      obtain ⟨-, hnil⟩ := hframe.append_inj hraw heq
      exact hs (List.append_eq_nil_iff.mp hnil.symm).2

end Cut

/-! ### The reader cuts -/

/-- What the loop reads is a cut of it, and the stream that is left follows it. -/
theorem deframe_cut (turns : Nat) (bytes : Bytes) (ending : StreamEnd) :
    ∃ front rest, bytes = front ++ rest ∧ Cut (deframe turns ⟨bytes, ending⟩).1 front ∧
      ∀ stream, (deframe turns ⟨bytes, ending⟩).2 = .running stream → stream = ⟨rest, ending⟩ := by
  induction turns generalizing bytes with
  | zero => exact ⟨[], bytes, rfl, .nil, fun stream h => (LoopState.running.inj h).symm⟩
  | succ turns ih =>
      rw [deframe]
      rcases readTurn_cases bytes ending with ⟨e, hread⟩ | ⟨-, hread⟩ |
        ⟨block, rest, rfl, hlen, hmagic, hread⟩ | ⟨payloadLen, hread⟩ |
        ⟨raw, rest, rfl, hraw, hread⟩
      · rw [hread]
        exact ⟨[], bytes, rfl, .nil, nofun⟩
      · rw [hread]
        exact ih bytes
      · rw [hread]
        obtain ⟨front, left, rfl, hcut, hleft⟩ := ih rest
        exact ⟨block ++ front, left, (List.append_assoc _ _ _).symm, .skip hlen hmagic hcut, hleft⟩
      · rw [hread]
        exact ⟨[], bytes, rfl, .nil, nofun⟩
      · rw [hread]
        obtain ⟨front, left, rfl, hcut, hleft⟩ := ih rest
        exact ⟨raw ++ front, left, (List.append_assoc _ _ _).symm, .frame hraw hcut, hleft⟩

/-- What can be cut, the loop reads so. -/
theorem Cut.deframe {pieces : List (Option Bytes)} {bytes : Bytes} (h : Cut pieces bytes)
    (turns : Nat) (rest : Bytes) (ending : StreamEnd) :
    SecurePipe.deframe (pieces.length + turns) ⟨bytes ++ rest, ending⟩ =
      (pieces ++ (SecurePipe.deframe turns ⟨rest, ending⟩).1,
        (SecurePipe.deframe turns ⟨rest, ending⟩).2) := by
  induction h with
  | nil => rw [List.length_nil, Nat.zero_add]; rfl
  | skip hlen hmagic _ ih =>
      rw [List.length_cons, Nat.add_right_comm, List.append_assoc,
        deframe_badMagic (readTurn_skip hlen hmagic _ _), ih, List.cons_append]
  | frame hraw _ ih =>
      rw [List.length_cons, Nat.add_right_comm, List.append_assoc,
        deframe_frame (readTurn_frame hraw _ _), ih, List.cons_append]

/-- The loop on a stream that starts with a cut: it reacts to the pieces. -/
theorem handleConnection_cut {σ : Type} (emitSecurityEvent : Option UInt32 → String → String →
    Stateful σ SecurePipeError Unit) (processFrame : Bytes → Stateful σ SecurePipeError Unit)
    {pieces : List (Option Bytes)} {bytes : Bytes} (h : Cut pieces bytes) (turns : Nat)
    (rest : Bytes) (ending : StreamEnd) :
    handleConnection emitSecurityEvent processFrame (pieces.length + turns) ⟨bytes ++ rest, ending⟩ =
      forM pieces (react emitSecurityEvent processFrame) >>= fun _ =>
        handleConnection emitSecurityEvent processFrame turns ⟨rest, ending⟩ := by
  rw [handleConnection_eq, handleConnection_eq, h.deframe, List.forM_append, bind_assoc]

/-! ### What is handed over, and where -/

/-- An `emit_security_event` that writes down that a header was skipped. -/
def recordSkip (_ : Option UInt32) (_ _ : String) :
    Stateful (List (Option Bytes)) SecurePipeError Unit :=
  .modify (· ++ [none])

/-- A `process_frame` that writes down the piece it is called with. -/
def recordPiece (raw : Bytes) : Stateful (List (Option Bytes)) SecurePipeError Unit :=
  .modify (· ++ [some raw])

/-- On an open connection, the loop passes `raw` on right after `before`: it has read the
two, its last call was with `raw`, and it has `after` left to read. -/
def HandedOver (before raw after : Bytes) : Prop :=
  ∃ turns pieces, handleConnection recordSkip recordPiece turns
    ⟨before ++ (raw ++ after), .waiting⟩ [] = (.ok ⟨after, .waiting⟩, pieces ++ [some raw])

theorem forM_recordPiece (pieces log : List (Option Bytes)) :
    (forM pieces (react recordSkip recordPiece) :
        Stateful (List (Option Bytes)) SecurePipeError Unit) log = (.ok (), log ++ pieces) := by
  induction pieces generalizing log with
  | nil => rw [List.append_nil]; rfl
  | cons piece pieces ih =>
      have hreact : react recordSkip recordPiece piece log = (.ok (), log ++ [piece]) := by
        cases piece with
        | none => rfl
        | some raw => rfl
      rw [List.forM_cons, Stateful.bind_ok hreact, ih, List.append_assoc, List.singleton_append]

/-- **A frame is handed over where a cut ends**, and nowhere else. -/
theorem handedOver_iff {raw : Bytes} (hraw : IsWireFrame raw) (before after : Bytes) :
    HandedOver before raw after ↔ ∃ pieces, Cut pieces before := by
  constructor
  · intro ⟨turns, pieces, h⟩
    obtain ⟨front, rest, hbytes, hcut, hleft⟩ :=
      deframe_cut turns (before ++ (raw ++ after)) .waiting
    rw [handleConnection_eq, Stateful.bind_ok (forM_recordPiece _ []), List.nil_append] at h
    cases hstate : (deframe turns ⟨before ++ (raw ++ after), .waiting⟩).2 with
    | running stream =>
        rw [hstate] at h
        obtain ⟨hstream, hpieces⟩ := Prod.mk.inj h
        obtain rfl := Outcome.ok.inj hstream
        rw [hpieces] at hcut
        obtain ⟨front, rfl, hbefore⟩ := hcut.of_snoc
        cases hleft _ hstate
        rw [← List.append_assoc] at hbytes
        have heq := List.append_cancel_right (List.append_cancel_right hbytes)
        exact ⟨pieces, heq ▸ hbefore⟩
    | payloadTooLarge payloadLen =>
        rw [hstate] at h
        cases h
    | returning e =>
        rw [hstate] at h
        cases h
    | panicking p =>
        rw [hstate] at h
        cases h
  · intro ⟨pieces, hcut⟩
    have hsnoc := hcut.append (.frame hraw .nil)
    refine ⟨(pieces ++ [some raw]).length, pieces, ?_⟩
    have hloop := handleConnection_cut recordSkip recordPiece hsnoc 0 after .waiting
    rw [List.append_nil, List.append_assoc, Nat.add_zero] at hloop
    rw [hloop, Stateful.bind_ok (forM_recordPiece _ []), List.nil_append]
    rfl

end SecurePipe
