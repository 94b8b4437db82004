import SecurePipe.Arduino.SensorLink
import SecurePipe.Lib.Trace

/-!
# SecurePipe.Arduino.Board

The ESP32 with its UART: `Sender`, whose `loop` takes its raw frames from the receive buffer.

While the gateway stays connected and encryption works, **every raw frame that is read becomes one
frame for the gateway**, in order, with the next sequence number (`inSession_run`).
-/

namespace SecurePipe

open Rust Blocks Trace

namespace Esp32

structure Board where
  sender : Sender
  uart : Uart

inductive BoardInput
  /-- Bytes come in on the UART. -/
  | receive (bytes : Bytes)
  /-- The sender executes a statement. -/
  | run (world : World)

/-- What `readBytes` puts into the array `rawFrame`. -/
def UartRead.array (read : UartRead) : Option (U8Array RAW_FRAME_SIZE) :=
  if h : read.rawFrame.length = RAW_FRAME_SIZE then some ⟨read.rawFrame, h⟩ else none

variable (mbedtls : MbedTls)

/-- The board, statement by statement. Only `loop`, and only in UART mode, reads the UART. -/
def Board.step (b : Board) : BoardInput → Board × Option (SentFrame × Nat)
  | .receive bytes => ({ b with uart := (receiver.step b.uart (.receive bytes)).1 }, none)
  | .run world =>
      if b.sender.pc = .loop ∧ b.sender.ram.directMode = false then
        let (uart, read) := receiver.step b.uart (.loop world.connected)
        let (sender, wrote) :=
          b.sender.step mbedtls { world with rawFrame := read.bind UartRead.array }
        ({ sender, uart }, wrote)
      else
        let (sender, wrote) := b.sender.step mbedtls world
        ({ b with sender }, wrote)

theorem Board.step_loop {b : Board} {world : World} (hpc : b.sender.pc = .loop)
    (hmode : b.sender.ram.directMode = false) (hconnected : world.connected = true)
    {s' : Sender} {wrote : Option (SentFrame × Nat)}
    (hstep : b.sender.step mbedtls { world with rawFrame := b.uart.poll.2.bind UartRead.array } =
      (s', wrote)) :
    b.step mbedtls (.run world) = (⟨s', b.uart.poll.1⟩, wrote) := by
  have hpoll : receiver.step b.uart (.loop world.connected) = b.uart.poll := by
    rw [hconnected]
    rfl
  simp only [step, hpc, hmode, hpoll, hstep, and_self, if_pos]

theorem Board.step_other {b : Board} {world : World} (hpc : b.sender.pc ≠ .loop) {s' : Sender}
    {wrote : Option (SentFrame × Nat)} (hstep : b.sender.step mbedtls world = (s', wrote)) :
    b.step mbedtls (.run world) = (⟨s', b.uart⟩, wrote) := by
  simp only [step, hpc, hstep, false_and, if_neg, not_false_eq_true]

def boardMachine : Machine Board BoardInput (Option (SentFrame × Nat)) where
  step := Board.step mbedtls

/-- What comes in on the UART. -/
def incoming (inputs : List BoardInput) : Bytes :=
  inputs.flatMap fun input =>
    match input with
    | .receive bytes => bytes
    | .run _ => []

/-- A statement is executed while the gateway is connected: it works, and what is written is taken
whole. -/
def Calm : BoardInput → Prop
  | .receive _ => True
  | .run world => world.connected = true ∧ world.encryptionFails = false ∧
      world.written = HEADER_SIZE + PAYLOAD_SIZE + AUTH_TAG_SIZE

instance : DecidablePred Calm
  | .receive _ => .isTrue trivial
  | .run _ => inferInstanceAs (Decidable (_ ∧ _ ∧ _))

/-! ### A session -/

/-- The frame has these fields, and its bytes are made from them. -/
structure SentFrame.Numbered (deviceId : UInt32) (sequenceNr : Nat) (frame : SentFrame) : Prop where
  deviceId : frame.deviceId = deviceId
  sequenceNr : frame.sequenceNr = UInt32.ofNat sequenceNr
  built : frame.Built mbedtls

/-- What the next statement is, once the frames up to number `n` have been written, with the number
in RAM and the reading that is on its way. -/
inductive Place (deviceId : UInt32) (n : Nat) : UInt32 → Pc → Option SensorPayload → Prop
  | loop : Place deviceId n (UInt32.ofNat n) .loop none
  | increment (p : SensorPayload) :
      Place deviceId n (UInt32.ofNat n) (.incrementSequenceNr p) (some p)
  | save (p : SensorPayload) :
      Place deviceId n (UInt32.ofNat (n + 1)) (.saveSequenceNr p) (some p)
  | nonce (p : SensorPayload) :
      Place deviceId n (UInt32.ofNat (n + 1)) (.generateNonce p) (some p)
  | encrypt (p : SensorPayload) (nonce : Nonce) (timestamp : UInt64) :
      Place deviceId n (UInt32.ofNat (n + 1)) (.encryptPayload p nonce timestamp) (some p)
  | write {frame : SentFrame} (h : frame.Numbered mbedtls deviceId (n + 1)) :
      Place deviceId n (UInt32.ofNat (n + 1)) (.write frame) (some frame.payload)

/-- Where the sender is in a session in UART mode. -/
structure Underway (deviceId : UInt32) (n : Nat) (s : Sender) (pending : Option SensorPayload) :
    Prop where
  device : s.ram.deviceId = deviceId
  mode : s.ram.directMode = false
  place : Place mbedtls deviceId n s.ram.sequenceNr s.pc pending

variable {mbedtls} {deviceId : UInt32} {n : Nat} {s : Sender} {pending : Option SensorPayload}

/-- A session may start whenever `loop` is next. -/
theorem underway_loop (hpc : s.pc = .loop) (hmode : s.ram.directMode = false) :
    Underway mbedtls s.ram.deviceId s.ram.sequenceNr.toNat s none where
  device := rfl
  mode := hmode
  place := by
    have hplace : Place mbedtls s.ram.deviceId s.ram.sequenceNr.toNat
      (UInt32.ofNat s.ram.sequenceNr.toNat) .loop none := .loop
    rwa [UInt32.ofNat_toNat, ← hpc] at hplace

/-- At `loop`, no reading is on its way. -/
theorem Place.pending_eq {sequenceNr : UInt32}
    (h : Place mbedtls deviceId n sequenceNr .loop pending) : pending = none := by
  cases h
  rfl

/-- A block as `loop` reads it: whole, and validated. -/
structure UartRead.Whole (read : UartRead) : Prop where
  length : read.rawFrame.length = RAW_FRAME_SIZE
  valid : read.valid = decide (validateRawFrame read.rawFrame = some true)

/-- **`loop`** starts on the reading in the block that it reads, if there is one. -/
theorem Underway.loop (h : Underway mbedtls deviceId n s pending) (hpc : s.pc = .loop)
    (read : Option UartRead) (hread : ∀ r ∈ read, r.Whole) (world : World)
    (hconnected : world.connected = true) (hraw : world.rawFrame = read.bind UartRead.array) :
    pending = none ∧ ∃ s', s.step mbedtls world = (s', none) ∧
      Underway mbedtls deviceId n s' (read.bind UartRead.reading) := by
  obtain ⟨nvs, ram, pc⟩ := s
  obtain ⟨hdevice, hmode, hplace⟩ := h
  obtain ⟨buffers, ramDevice, directMode, shouldSaveConfig, sequenceNr⟩ := ram
  simp only at hdevice hmode hplace hpc
  subst hdevice hmode hpc
  cases hplace with
  | loop =>
      refine ⟨rfl, _, rfl, rfl, rfl, ?_⟩
      simp only [Esp32.loop, hconnected, hraw]
      cases read with
      | none => exact .loop
      | some read =>
          obtain ⟨hlength, hvalid⟩ := hread read rfl
          simp only [Option.bind_some, UartRead.array, dif_pos hlength, UartRead.reading, hvalid]
          by_cases hframe : validateRawFrame read.rawFrame = some true
          · cases hpayload : readRawFrame read.rawFrame with
            | none => simpa [hframe, hpayload] using Place.loop
            | some p => simpa [hframe, hpayload] using Place.increment p
          · simpa [hframe] using Place.loop

/-- **The other statements** see a reading through, to the frame that is written. -/
theorem Underway.step {aead : Aead AUTH_TAG_SIZE} (hmbedtls : mbedtls.Implements aead)
    (h : Underway mbedtls deviceId n s pending) (hpc : s.pc ≠ .loop) {world : World}
    (hcalm : Calm (.run world)) :
    (∃ s', s.step mbedtls world = (s', none) ∧ Underway mbedtls deviceId n s' pending) ∨
    (∃ s' frame, s.step mbedtls world =
        (s', some (frame, HEADER_SIZE + PAYLOAD_SIZE + AUTH_TAG_SIZE)) ∧
      frame.Numbered mbedtls deviceId (n + 1) ∧ pending = some frame.payload ∧
      Underway mbedtls deviceId (n + 1) s' none) := by
  obtain ⟨nvs, ram, pc⟩ := s
  obtain ⟨hdevice, hmode, hplace⟩ := h
  obtain ⟨buffers, ramDevice, directMode, shouldSaveConfig, sequenceNr⟩ := ram
  simp only at hdevice hmode hplace
  subst hdevice hmode
  cases hplace with
  | loop => exact absurd rfl hpc
  | increment p =>
      refine .inl ⟨_, rfl, rfl, rfl, ?_⟩
      have hnext : UInt32.ofNat n + 1 = UInt32.ofNat (n + 1) := (UInt32.ofNat_add n 1).symm
      simp only [hnext]
      exact .save p
  | save p => exact .inl ⟨_, rfl, rfl, rfl, .nonce p⟩
  | nonce p => exact .inl ⟨_, rfl, rfl, rfl, .encrypt p world.nonce world.time⟩
  | encrypt p nonce timestamp =>
      have hbuilt := buildFrame_eq hmbedtls ramDevice (UInt32.ofNat (n + 1)) p nonce timestamp
      simp only [Sender.step, hbuilt, hcalm.2.1]
      have hframe : SentFrame.Numbered mbedtls ramDevice (n + 1)
        ⟨ramDevice, UInt32.ofNat (n + 1), timestamp, nonce, p, _⟩ := ⟨rfl, rfl, hbuilt⟩
      exact .inl ⟨_, rfl, rfl, rfl, .write hframe⟩
  | write hframe =>
      rw [← hcalm.2.2]
      exact .inr ⟨_, _, rfl, hframe, rfl, rfl, rfl, .loop⟩

theorem whole_readAt {bytes : Bytes} {k : Nat} (hk : RAW_FRAME_SIZE * (k + 1) ≤ bytes.length) :
    (readAt bytes k).Whole where
  length := by
    rw [Nat.mul_succ] at hk
    simp only [readAt, block, List.length_take, List.length_drop]
    omega
  valid := rfl

/-- The invariant: of the blocks that were read, those with a reading have been written, or one of
them is on its way. -/
structure InSession (mbedtls : MbedTls) (deviceId : UInt32) (n : Nat) (b : Board)
    (inputs : List BoardInput) (written : List (SentFrame × Nat)) (reads : List UartRead) (m : Nat)
    (pending : Option SensorPayload) : Prop where
  onGrid : OnGrid (incoming inputs) b.uart reads m
  underway : Underway mbedtls deviceId (n + written.length) b.sender pending
  readings : written.map (fun w => w.1.payload) ++ pending.toList = processed reads
  numbered : ∀ k (hk : k < written.length), written[k].1.Numbered mbedtls deviceId (n + k + 1)
  whole : ∀ w ∈ written, w.2 = HEADER_SIZE + PAYLOAD_SIZE + AUTH_TAG_SIZE

theorem incoming_append (inputs : List BoardInput) (input : BoardInput) :
    incoming (inputs ++ [input]) = incoming inputs ++ incoming [input] := List.flatMap_append

theorem processed_append (reads : List UartRead) (read : UartRead) :
    processed (reads ++ [read]) = processed reads ++ read.reading.toList := by
  rw [processed, List.filterMap_append, ← processed]
  cases hreading : read.reading with
  | none => simp [hreading]
  | some p => simp [hreading]

section Steps

variable {b : Board} {inputs : List BoardInput} {written : List (SentFrame × Nat)}
  {reads : List UartRead} {m : Nat} {aead : Aead AUTH_TAG_SIZE}

/-- `loop` reads the next block, if it is there. -/
theorem InSession.loop (h : InSession mbedtls deviceId n b inputs written reads m pending)
    (hpc : b.sender.pc = .loop) {world : World} (hconnected : world.connected = true) :
    ∃ b' reads' m' pending', b.step mbedtls (.run world) = (b', none) ∧
      InSession mbedtls deviceId n b' (inputs ++ [.run world]) written reads' m' pending' := by
  have hincoming : incoming (inputs ++ [.run world]) = incoming inputs := by
    rw [incoming_append]
    exact List.append_nil _
  by_cases hlen : RAW_FRAME_SIZE ≤ b.uart.buffer.length
  · obtain ⟨hread, hgrid⟩ := h.onGrid.poll hlen
    have hwhole : ∀ r ∈ some (readAt (incoming inputs) m), r.Whole := by
      intro r hr
      obtain rfl := Option.some.inj hr
      exact whole_readAt hgrid.arrived
    obtain ⟨rfl, s', hstep, hunderway⟩ := h.underway.loop hpc _ hwhole
      { world with rawFrame := b.uart.poll.2.bind UartRead.array } hconnected (by rw [hread])
    refine ⟨_, reads ++ [readAt (incoming inputs) m], m + 1, _,
      Board.step_loop mbedtls hpc h.underway.mode hconnected hstep, ?_, hunderway, ?_, h.numbered,
      h.whole⟩
    · rw [hincoming]
      exact hgrid
    · rw [processed_append, ← h.readings]
      simp
  · have hshort := poll_short hlen
    obtain ⟨rfl, s', hstep, hunderway⟩ := h.underway.loop hpc none (by simp)
      { world with rawFrame := b.uart.poll.2.bind UartRead.array } hconnected (by rw [hshort])
    refine ⟨_, reads, m, none, Board.step_loop mbedtls hpc h.underway.mode hconnected hstep, ?_,
      hunderway, h.readings, h.numbered, h.whole⟩
    rw [hincoming, hshort]
    exact h.onGrid

/-- A frame is written. -/
theorem InSession.wrote (h : InSession mbedtls deviceId n b inputs written reads m pending)
    {world : World} {s' : Sender} {frame : SentFrame}
    (hframe : frame.Numbered mbedtls deviceId (n + written.length + 1))
    (hpending : pending = some frame.payload)
    (hunderway : Underway mbedtls deviceId (n + written.length + 1) s' none) :
    InSession mbedtls deviceId n ⟨s', b.uart⟩ (inputs ++ [.run world])
      (written ++ [(frame, HEADER_SIZE + PAYLOAD_SIZE + AUTH_TAG_SIZE)]) reads m none := by
  refine ⟨?_, ?_, ?_, fun k hk => ?_, ?_⟩
  · rw [incoming_append]
    exact (List.append_nil (incoming inputs)).symm ▸ h.onGrid
  · rw [List.length_append, List.length_singleton, ← Nat.add_assoc]
    exact hunderway
  · rw [← h.readings, hpending]
    simp
  · rw [List.length_append, List.length_singleton] at hk
    by_cases hold : k < written.length
    · rw [List.getElem_append_left hold]
      exact h.numbered k hold
    · obtain rfl : k = written.length := by omega
      rw [List.getElem_append_right (Nat.le_refl _)]
      simpa using hframe
  · rw [List.forall_mem_append]
    exact ⟨h.whole, by simp⟩

/-- **One step of the board.** -/
theorem InSession.step (hmbedtls : mbedtls.Implements aead)
    (h : InSession mbedtls deviceId n b inputs written reads m pending) {input : BoardInput}
    (hcalm : Calm input) :
    ∃ reads' m' pending', InSession mbedtls deviceId n (b.step mbedtls input).1 (inputs ++ [input])
      (written ++ (b.step mbedtls input).2.toList) reads' m' pending' := by
  cases input with
  | receive bytes =>
      have hstep : b.step mbedtls (.receive bytes) =
          (⟨b.sender, { b.uart with buffer := b.uart.buffer ++ bytes }⟩, none) := rfl
      rw [hstep, Option.toList_none, List.append_nil]
      refine ⟨reads, m, pending, ?_, h.underway, h.readings, h.numbered, h.whole⟩
      have hbytes : incoming [.receive bytes] = bytes := List.flatMap_singleton _ _
      rw [incoming_append, hbytes]
      exact h.onGrid.receive bytes
  | run world =>
      by_cases hpc : b.sender.pc = .loop
      · obtain ⟨b', reads', m', pending', hstep, hnext⟩ := h.loop hpc hcalm.1
        rw [hstep]
        exact ⟨reads', m', pending', by rwa [Option.toList_none, List.append_nil]⟩
      · rcases h.underway.step hmbedtls hpc hcalm with
          ⟨s', hstep, hunderway⟩ | ⟨s', frame, hstep, hframe, hpending, hunderway⟩
        · rw [Board.step_other mbedtls hpc hstep, Option.toList_none, List.append_nil]
          refine ⟨reads, m, pending, ?_, hunderway, h.readings, h.numbered, h.whole⟩
          rw [incoming_append]
          exact (List.append_nil (incoming inputs)).symm ▸ h.onGrid
        · rw [Board.step_other mbedtls hpc hstep]
          exact ⟨reads, m, none, h.wrote hframe hpending hunderway⟩

/-- **A session.** From `loop` on, with sequence number `n`. -/
theorem inSession_run (hmbedtls : mbedtls.Implements aead)
    (hstart : Underway mbedtls deviceId n s none) (hcalm : ∀ input ∈ inputs, Calm input) :
    ∃ reads m pending, InSession mbedtls deviceId n
      ((boardMachine mbedtls).run ⟨s, .empty⟩ inputs) inputs
      ((boardMachine mbedtls).trace ⟨s, .empty⟩ inputs) reads m pending := by
  refine Machine.induct_inputs _ (C := fun _ input => Calm input)
    (I := fun b inputs written => ∃ reads m pending,
      InSession mbedtls deviceId n b inputs written reads m pending) ?_ ?_
    (Machine.along_of_forall _ hcalm _)
  · intro b inputs written input ⟨reads, m, pending, h⟩ hcalm
    exact h.step hmbedtls hcalm
  · exact ⟨[], 0, none, ⟨Nat.zero_le _, rfl, rfl⟩, hstart, rfl, by simp, by simp⟩

end Steps

/-! ### What a session writes -/

/-- Nothing is left to do: `loop` is next, and it has no block to read. -/
def Board.Drained (b : Board) : Prop :=
  b.sender.pc = .loop ∧ b.uart.buffer.length < RAW_FRAME_SIZE

section Written

variable {b : Board} {inputs : List BoardInput} {written : List (SentFrame × Nat)}
  {reads : List UartRead} {m : Nat} {ps : List SensorPayload}

theorem InSession.processed_eq
    (h : InSession mbedtls deviceId n b inputs written reads m pending)
    (hline : incoming inputs <+: line ps) :
    written.map (fun w => w.1.payload) ++ pending.toList = ps.take m := by
  rw [h.readings, h.onGrid.reads_eq, processed_readAt hline h.onGrid.arrived]

/-- **The frames written** have the readings of the line, in order. -/
theorem InSession.written_prefix
    (h : InSession mbedtls deviceId n b inputs written reads m pending)
    (hline : incoming inputs <+: line ps) : written.map (fun w => w.1.payload) <+: ps :=
  (List.prefix_append _ _).trans (h.processed_eq hline ▸ List.take_prefix m ps)

/-- And all of them, once nothing is left to do. -/
theorem InSession.written_eq
    (h : InSession mbedtls deviceId n b inputs written reads m pending)
    (hline : incoming inputs = line ps) (hdrained : b.Drained) :
    written.map (fun w => w.1.payload) = ps := by
  obtain ⟨hpc, hshort⟩ := hdrained
  have hnone : pending = none := (hpc ▸ h.underway.place : Place _ _ _ _ .loop _).pending_eq
  have hall : ps.length ≤ m := by
    rw [h.onGrid.uart_eq, List.length_drop, hline, line_length] at hshort
    simp only [RAW_FRAME_SIZE] at hshort
    omega
  have hprefix : incoming inputs <+: line ps := by rw [hline]
  have heq := h.processed_eq hprefix
  rwa [hnone, Option.toList_none, List.append_nil, List.take_of_length_le hall] at heq

end Written

end Esp32

end SecurePipe
