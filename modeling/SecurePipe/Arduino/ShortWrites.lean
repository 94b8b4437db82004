import SecurePipe.Arduino.Esp32Frame
import SecurePipe.Transport.Intake

/-!
# SecurePipe.Arduino.ShortWrites

What the gateway makes of the frames that the ESP32 writes to one connection, if
`tcpClient.write` may take only the first bytes of any of them. The sender reports an
incomplete write and goes on; the connection stays open.

**A frame written whole is handed to `process_frame` exactly if the gateway is between two
turns of its loop when the frame begins** (`handed_over_iff`): if what was written before it
can be cut into frames and skipped headers. That is so while every write took all or nothing,
and it is not so right after the first write that did not.
-/

namespace SecurePipe

open Rust

namespace Esp32

/-- A call of `sendSecurePipeFrame`: what the frame is made of, and how many bytes
`tcpClient.write` takes. -/
structure SendCall where
  deviceId : UInt32
  sequenceNr : UInt32
  timestamp : UInt64
  nonce : Nonce
  encPayload : U8Array PAYLOAD_SIZE
  authTag : AuthTag
  written : Nat
  written_le : written ≤ HEADER_SIZE + PAYLOAD_SIZE + AUTH_TAG_SIZE

namespace SendCall

variable (call : SendCall)

/-- The frame handed to `tcpClient.write`. -/
def frame : Bytes :=
  securePipeFrame
    (buildHeader call.deviceId call.sequenceNr call.timestamp call.nonce (UInt32.ofNat PAYLOAD_SIZE))
    call.encPayload.toList call.authTag.toList

/-- What the gateway receives of it. -/
def delivered : Bytes := call.frame.take call.written

/-- The write took the whole frame. -/
def Complete : Prop := call.written = HEADER_SIZE + PAYLOAD_SIZE + AUTH_TAG_SIZE

/-- The write took the whole frame, or nothing. -/
def AllOrNothing : Prop := call.Complete ∨ call.written = 0

theorem frame_eq : ∃ body, call.frame =
    (WireHeader.v1 call.deviceId call.sequenceNr call.timestamp call.nonce 8).bytes ++ body ∧
      body.length = PAYLOAD_SIZE + AUTH_TAG_SIZE := by
  have hheader := buildHeader_eq call.deviceId call.sequenceNr call.timestamp call.nonce 8
  refine ⟨call.encPayload.toList ++ call.authTag.toList, ?_, ?_⟩
  · simp only [frame, securePipeFrame]
    rw [show UInt32.ofNat PAYLOAD_SIZE = 8 from rfl, hheader, ← WireHeader.bytes_length,
      List.take_length, List.take_of_length_le (toList_length call.encPayload).le,
      List.take_of_length_le (toList_length call.authTag).le, List.append_assoc]
  · rw [List.length_append, toList_length, toList_length]

theorem isWireFrame : IsWireFrame call.frame := by
  obtain ⟨body, heq, hbody⟩ := call.frame_eq
  exact ⟨_, body, heq, rfl, (by decide : (8 : UInt32).toNat ≤ MAX_PAYLOAD_SIZE), hbody⟩

theorem frame_length : call.frame.length = HEADER_SIZE + PAYLOAD_SIZE + AUTH_TAG_SIZE := by
  obtain ⟨body, heq, hbody⟩ := call.frame_eq
  rw [heq, List.length_append, WireHeader.bytes_length, hbody, Nat.add_assoc]

theorem delivered_complete {call : SendCall} (h : call.Complete) : call.delivered = call.frame := by
  simp only [delivered]
  rw [h, ← call.frame_length, List.take_length]

theorem delivered_nothing {call : SendCall} (h : call.written = 0) : call.delivered = [] := by
  simp only [delivered]
  rw [h, List.take_zero]

end SendCall

/-- The bytes that a sequence of calls puts on the connection. -/
def stream (calls : List SendCall) : Bytes := (calls.map SendCall.delivered).flatten

/-- While every write takes all or nothing, the stream is a sequence of frames. -/
theorem cut_allOrNothing {calls : List SendCall} (h : ∀ call ∈ calls, call.AllOrNothing) :
    ∃ pieces, Cut pieces (stream calls) := by
  induction calls with
  | nil => exact ⟨[], .nil⟩
  | cons call calls ih =>
      obtain ⟨pieces, hcut⟩ := ih fun c hc => h c (List.mem_cons_of_mem call hc)
      simp only [stream] at hcut ⊢
      rw [List.map_cons, List.flatten_cons]
      rcases h call List.mem_cons_self with hcomplete | hnothing
      · rw [SendCall.delivered_complete hcomplete]
        exact ⟨_, .frame call.isWireFrame hcut⟩
      · rw [SendCall.delivered_nothing hnothing]
        exact ⟨pieces, hcut⟩

/-- Frames at the front of a cut can be taken off it. -/
theorem cut_after_allOrNothing {calls : List SendCall} (h : ∀ call ∈ calls, call.AllOrNothing)
    {rest : Bytes} {pieces : List (Option Bytes)} (hcut : Cut pieces (stream calls ++ rest)) :
    ∃ later, Cut later rest := by
  induction calls generalizing pieces with
  | nil => exact ⟨pieces, hcut⟩
  | cons call calls ih =>
      have ih : ∀ {later}, Cut later (stream calls ++ rest) → ∃ later, Cut later rest :=
        ih fun c hc => h c (List.mem_cons_of_mem call hc)
      simp only [stream] at hcut ih
      rw [List.map_cons, List.flatten_cons] at hcut
      rcases h call List.mem_cons_self with hcomplete | hnothing
      · rw [SendCall.delivered_complete hcomplete, List.append_assoc] at hcut
        obtain ⟨later, -, hlater⟩ := hcut.of_frame call.isWireFrame
        exact ih hlater
      · rw [SendCall.delivered_nothing hnothing] at hcut
        exact ih hcut

/-- After the first write that took neither all nor nothing, the stream is not a cut. -/
theorem not_cut_short {calls : List SendCall} (h : ∀ call ∈ calls, call.AllOrNothing)
    {call : SendCall} (hshort : ¬ call.AllOrNothing) (pieces : List (Option Bytes)) :
    ¬ Cut pieces (stream (calls ++ [call])) := by
  intro hcut
  have hstream : stream (calls ++ [call]) = stream calls ++ call.delivered := by
    simp [stream]
  rw [hstream] at hcut
  obtain ⟨later, hlater⟩ := cut_after_allOrNothing h hcut
  have hframe := call.isWireFrame
  rw [← List.take_append_drop call.written call.frame] at hframe
  have hlen := call.frame_length
  have hle := call.written_le
  simp only [SendCall.AllOrNothing, SendCall.Complete] at hshort
  refine Cut.not_truncated hframe ?_ ?_ hlater
  · refine List.ne_nil_of_length_pos ?_
    rw [List.length_take]
    omega
  · refine List.ne_nil_of_length_pos ?_
    rw [List.length_drop]
    omega

/-- **Which complete frames are handed over.** In every sequence of writes to a connection
that stays open, a frame that is written whole is handed to `process_frame`, with exactly its
bytes, if and only if what was written before it can be cut into frames and skipped headers.
So it is when every earlier write took all or nothing, and it is not when exactly one earlier
write did not, and nothing was taken since. -/
theorem handed_over_iff (before : List SendCall) (call : SendCall) (after : List SendCall)
    (hcomplete : call.Complete) :
    stream (before ++ call :: after) = stream before ++ (call.frame ++ stream after) ∧
    (HandedOver (stream before) call.frame (stream after) ↔
      ∃ pieces, Cut pieces (stream before)) ∧
    ((∀ c ∈ before, c.AllOrNothing) →
      HandedOver (stream before) call.frame (stream after)) ∧
    (∀ whole short empty, before = whole ++ short :: empty → (∀ c ∈ whole, c.AllOrNothing) →
      ¬ short.AllOrNothing → (∀ c ∈ empty, c.written = 0) →
        ¬ HandedOver (stream before) call.frame (stream after)) := by
  have hiff := handedOver_iff call.isWireFrame (stream before) (stream after)
  refine ⟨?_, hiff, fun h => hiff.mpr (cut_allOrNothing h), ?_⟩
  · simp [stream, SendCall.delivered_complete hcomplete]
  · rintro whole short empty rfl hwhole hshort hempty
    have hnothing : (empty.map SendCall.delivered).flatten = [] := by
      refine List.flatten_eq_nil_iff.mpr fun bytes hbytes => ?_
      obtain ⟨c, hc, rfl⟩ := List.mem_map.mp hbytes
      exact SendCall.delivered_nothing (hempty c hc)
    have hstream : stream (whole ++ short :: empty) = stream (whole ++ [short]) := by
      simp [stream, hnothing]
    rw [hiff, hstream]
    exact fun ⟨pieces, hcut⟩ => not_cut_short hwhole hshort pieces hcut

/-- A call with the frame of device 1 that bears this number. -/
def numbered (sequenceNr : UInt32) (written : Nat)
    (h : written ≤ HEADER_SIZE + PAYLOAD_SIZE + AUTH_TAG_SIZE) : SendCall where
  deviceId := 1
  sequenceNr := sequenceNr
  timestamp := 1700000000
  nonce := List.Vector.replicate NONCE_SIZE 0x01
  encPayload := List.Vector.replicate PAYLOAD_SIZE 0x02
  authTag := List.Vector.replicate AUTH_TAG_SIZE 0x03
  written := written
  written_le := h

/-- Two complete writes in a row. -/
theorem handed_over_iff_complete :
    HandedOver (stream [numbered 1 59 (by decide)]) (numbered 2 59 (by decide)).frame [] := by
  refine (handed_over_iff [numbered 1 59 (by decide)] (numbered 2 59 (by decide)) [] rfl).2.2.1 ?_
  intro c hc
  rw [List.mem_singleton.mp hc]
  exact .inl rfl

/-- The first write leaves out the last byte of its frame. The gateway completes that frame
with the first byte of the second one, and finds a bad header in the rest: the second frame
is not handed over, and its bytes are not passed to `process_frame` from any other place. -/
theorem short_write_loses_next :
    (¬ ∀ (before : List SendCall) (call : SendCall) (after : List SendCall), call.Complete →
      HandedOver (stream before) call.frame (stream after)) ∧
    ¬ ∀ (before : List SendCall) (call : SendCall) (after : List SendCall), call.Complete →
      ∃ turns, call.frame ∈ calls (fun _ _ _ => pure ()) (fun _ => pure ()) turns
        ⟨stream (before ++ call :: after), .waiting⟩ () := by
  let first := numbered 1 58 (by decide)
  let second := numbered 2 59 (by decide)
  constructor
  · intro h
    have hover := h [first] second [] rfl
    obtain ⟨pieces, hcut⟩ := (handedOver_iff second.isWireFrame _ _).mp hover
    refine not_cut_short (fun c hc => absurd hc List.not_mem_nil) ?_ pieces hcut
    simp only [SendCall.AllOrNothing, SendCall.Complete]
    decide
  · intro h
    obtain ⟨turns, hmem⟩ := h [first] second [] rfl
    let mixed := first.delivered ++ second.frame.take 1
    have hframe : readTurn ⟨stream [first, second], .waiting⟩ =
        .ok (.frame mixed ⟨second.frame.drop 1, .waiting⟩) := by decide +kernel
    have hskip : readTurn ⟨second.frame.drop 1, .waiting⟩ =
        .ok (.badMagic ⟨second.frame.drop 36, .waiting⟩) := by decide +kernel
    have hwait : readTurn ⟨second.frame.drop 36, .waiting⟩ = .ok .waiting := by decide +kernel
    have hpieces : (deframe turns ⟨stream [first, second], .waiting⟩).1 <+: [some mixed, none] := by
      cases turns with
      | zero => exact List.nil_prefix
      | succ turns =>
          rw [deframe_frame hframe]
          cases turns with
          | zero => exact ⟨[none], rfl⟩
          | succ turns => rw [deframe_badMagic hskip, deframe_waiting hwait]
    have hcall := (calls_of_deframe _ _ _ _ _).subset hmem
    have hpiece := hpieces.subset (List.reduceOption_mem_iff.mp hcall)
    have hne : second.frame ≠ mixed := by decide +kernel
    rcases List.mem_cons.mp hpiece with heq | hnone
    · exact hne (Option.some.inj heq)
    · cases List.mem_singleton.mp hnone

end Esp32

end SecurePipe
