import Mathlib.Data.List.ReduceOption
import SecurePipe.Arduino.CrcDetection
import SecurePipe.Arduino.Distance
import SecurePipe.Arduino.Esp32Sender
import SecurePipe.Lib.Blocks
import SecurePipe.Lib.Machine

/-!
# SecurePipe.Arduino.UartReceiver

The receive side of the UART between the sensor node and the ESP32, and what noise on the
line does to it.

The UART branch of `loop` takes ten bytes at a time and throws away a block that does not
validate, **all of it**. So the blocks it reads are those of a fixed grid on the bytes that
have come in (`reads_eq`), whenever they come and whenever `loop` runs. Noise of a length
that is no multiple of ten shifts the frames against this grid, for good.
-/

namespace SecurePipe

open Rust BigEndian Blocks

namespace Esp32

/-- A block that `loop` has read off the UART. -/
structure UartRead where
  /-- How many bytes were read before it. -/
  offset : Nat
  rawFrame : Bytes
  /-- It goes to `processAndSend`. -/
  valid : Bool
  deriving DecidableEq

/-- The receive side of `arduinoSerial`. -/
structure Uart where
  /-- What `available` counts. -/
  buffer : Bytes
  /-- How many bytes were read. The program does not count them. -/
  taken : Nat

/-- The UART branch of `loop`. -/
def Uart.poll (uart : Uart) : Uart × Option UartRead :=
  if RAW_FRAME_SIZE ≤ uart.buffer.length then
    let rawFrame := uart.buffer.take RAW_FRAME_SIZE
    ({ buffer := uart.buffer.drop RAW_FRAME_SIZE, taken := uart.taken + RAW_FRAME_SIZE },
      some { offset := uart.taken, rawFrame, valid := validateRawFrame rawFrame = some true })
  else (uart, none)

/-- What happens at the UART. -/
inductive UartInput
  /-- Bytes come in on the line. -/
  | receive (bytes : Bytes)
  /-- `loop` runs in UART mode, with or without a connection to the gateway. -/
  | loop (connected : Bool)
  deriving DecidableEq

/-- The receiver, answering with the block that it has read. -/
def receiver : Machine Uart UartInput (Option UartRead) where
  step uart input :=
    match input with
    | .receive bytes => ({ uart with buffer := uart.buffer ++ bytes }, none)
    | .loop connected => if !connected then (uart, none) else uart.poll

/-- `loop` sends the reading in the block that the receiver reads, if that is valid. -/
theorem loop_eq_incrementSequenceNr {world : World} {ram : Ram} {uart : Uart}
    (hmode : ram.directMode = false)
    (hraw : world.rawFrame.map List.Vector.toList =
      if RAW_FRAME_SIZE ≤ uart.buffer.length then some (uart.buffer.take RAW_FRAME_SIZE) else none)
    (payload : SensorPayload) :
    loop world ram = .incrementSequenceNr payload ↔
      ∃ read, (receiver.step uart (.loop world.connected)).2 = some read ∧ read.valid = true ∧
        readRawFrame read.rawFrame = some payload := by
  unfold loop receiver Uart.poll
  rw [hmode]
  cases world.connected with
  | false => simp
  | true =>
      by_cases hlen : RAW_FRAME_SIZE ≤ uart.buffer.length
      · rw [if_pos hlen] at hraw
        obtain ⟨rawFrame, hframe, hbytes⟩ := Option.map_eq_some_iff.mp hraw
        simp only [hframe, hbytes, hlen]
        by_cases hvalid : validateRawFrame (uart.buffer.take RAW_FRAME_SIZE) = some true
        · cases hread : readRawFrame (uart.buffer.take RAW_FRAME_SIZE) with
          | none => simp [hvalid, hread]
          | some payload' => simp [hvalid, hread]
        · simp [hvalid]
      · rw [if_neg hlen] at hraw
        rw [Option.map_eq_none_iff.mp hraw]
        simp [hlen]

/-! ### The blocks that are read -/

/-- The bytes that have come in. -/
def received (inputs : List UartInput) : Bytes :=
  inputs.flatMap fun input =>
    match input with
    | .receive bytes => bytes
    | .loop _ => []

/-- The UART as the program starts. -/
def Uart.empty : Uart where
  buffer := []
  taken := 0

/-- The blocks that have been read. -/
def reads (inputs : List UartInput) : List UartRead :=
  ((receiver.history .empty inputs).map Prod.snd).reduceOption

/-- The block with this number, as it is read. -/
def readAt (bytes : Bytes) (k : Nat) : UartRead where
  offset := RAW_FRAME_SIZE * k
  rawFrame := block RAW_FRAME_SIZE k bytes
  valid := validateRawFrame (block RAW_FRAME_SIZE k bytes) = some true

theorem readAt_append {bytes : Bytes} {k : Nat} (h : RAW_FRAME_SIZE * (k + 1) ≤ bytes.length)
    (more : Bytes) : readAt (bytes ++ more) k = readAt bytes k := by
  simp only [readAt]
  rw [block_append h]

/-- The first `m` blocks have been read, and the rest is in the buffer. -/
structure OnGrid (bytes : Bytes) (uart : Uart) (reads : List UartRead) (m : Nat) : Prop where
  arrived : RAW_FRAME_SIZE * m ≤ bytes.length
  uart_eq : uart = ⟨bytes.drop (RAW_FRAME_SIZE * m), RAW_FRAME_SIZE * m⟩
  reads_eq : reads = (List.range m).map (readAt bytes)

theorem OnGrid.receive {bytes : Bytes} {uart : Uart} {reads : List UartRead} {m : Nat}
    (h : OnGrid bytes uart reads m) (more : Bytes) :
    OnGrid (bytes ++ more) { uart with buffer := uart.buffer ++ more } reads m where
  arrived := by
    rw [List.length_append]
    exact h.arrived.trans (Nat.le_add_right _ _)
  uart_eq := by
    rw [h.uart_eq, List.drop_append_of_le_length h.arrived]
  reads_eq := by
    rw [h.reads_eq]
    refine List.map_congr_left fun k hk => ?_
    have hwhole : RAW_FRAME_SIZE * (k + 1) ≤ RAW_FRAME_SIZE * m :=
      Nat.mul_le_mul_left _ (List.mem_range.mp hk)
    exact (readAt_append (hwhole.trans h.arrived) more).symm

/-- A block is in the buffer, and `loop` reads it. -/
theorem OnGrid.poll {bytes : Bytes} {uart : Uart} {reads : List UartRead} {m : Nat}
    (h : OnGrid bytes uart reads m) (hlen : RAW_FRAME_SIZE ≤ uart.buffer.length) :
    uart.poll.2 = some (readAt bytes m) ∧
      OnGrid bytes uart.poll.1 (reads ++ [readAt bytes m]) (m + 1) := by
  have hpoll : uart.poll =
      (⟨bytes.drop (RAW_FRAME_SIZE * (m + 1)), RAW_FRAME_SIZE * (m + 1)⟩,
        some (readAt bytes m)) := by
    rw [Uart.poll, if_pos hlen, h.uart_eq]
    dsimp only
    rw [List.drop_drop, ← Nat.mul_succ]
    rfl
  rw [hpoll]
  refine ⟨rfl, ?_, rfl, ?_⟩
  · rw [h.uart_eq, List.length_drop] at hlen
    have harrived := h.arrived
    rw [Nat.mul_succ]
    omega
  · rw [h.reads_eq, List.range_succ, List.map_append, List.map_singleton]

theorem poll_short {uart : Uart} (h : ¬ RAW_FRAME_SIZE ≤ uart.buffer.length) :
    uart.poll = (uart, none) := by
  rw [Uart.poll, if_neg h]

/-- **What is read is on the grid**, however the bytes come in and whenever `loop` runs. -/
theorem onGrid_run (inputs : List UartInput) :
    ∃ m, OnGrid (received inputs) (receiver.run .empty inputs) (reads inputs) m := by
  have hrun := receiver.induct_history
    (I := fun uart history => ∃ m, OnGrid (received (history.map Prod.fst)) uart
      (history.map Prod.snd).reduceOption m)
    (C := fun _ _ => True) ?_ ⟨0, Nat.zero_le _, rfl, rfl⟩ (receiver.along_true .empty inputs)
  · rwa [Machine.history_inputs] at hrun
  · intro uart history input ⟨m, h⟩ _
    have hreceived : received ((history ++ [(input, (receiver.step uart input).2)]).map Prod.fst) =
        received (history.map Prod.fst) ++ received [input] := by
      rw [List.map_append, received, List.flatMap_append]
      rfl
    rw [hreceived, List.map_append, List.reduceOption_append]
    cases input with
    | receive bytes =>
        refine ⟨m, ?_⟩
        have hbytes : received [.receive bytes] = bytes := List.flatMap_singleton _ _
        rw [hbytes]
        simpa [receiver] using h.receive bytes
    | loop connected =>
        have hbytes : received [.loop connected] = [] := rfl
        rw [hbytes, List.append_nil]
        cases connected with
        | false => exact ⟨m, by simpa [receiver] using h⟩
        | true =>
            by_cases hlen : RAW_FRAME_SIZE ≤ uart.buffer.length
            · obtain ⟨hread, hnext⟩ := h.poll hlen
              refine ⟨m + 1, ?_⟩
              simpa [receiver, hread] using hnext
            · refine ⟨m, ?_⟩
              simpa [receiver, poll_short hlen] using h

/-- Since the last byte came in, `loop` has run often enough, with a connection, to read
every whole block. -/
def Served (inputs : List UartInput) : Prop :=
  ∃ arrivals turns, inputs = arrivals ++ turns ∧ received turns = [] ∧
    (received arrivals).length / RAW_FRAME_SIZE ≤ turns.count (.loop true)

/-- The bytes have come in, and `loop` has had the time to read them. -/
def Delivers (inputs : List UartInput) (bytes : Bytes) : Prop :=
  received inputs = bytes ∧ Served inputs

theorem received_append (inputs inputs' : List UartInput) :
    received (inputs ++ inputs') = received inputs ++ received inputs' :=
  List.flatMap_append

theorem delivers_all (bytes : Bytes) :
    Delivers (.receive bytes :: List.replicate (bytes.length / RAW_FRAME_SIZE) (.loop true))
      bytes := by
  have hquiet : ∀ n, received (List.replicate n (.loop true)) = [] := by
    intro n
    rw [received, List.flatMap_eq_nil_iff]
    intro input hinput
    rw [List.eq_of_mem_replicate hinput]
  have harrivals : received [.receive bytes] = bytes := List.flatMap_singleton _ _
  refine ⟨?_, [.receive bytes], _, rfl, hquiet _, ?_⟩
  · rw [← List.singleton_append, received_append, hquiet, harrivals, List.append_nil]
  · rw [harrivals, List.count_replicate_self]

/-- Every run of `loop` takes a block, until less than a block is left. -/
theorem drain {turns : List UartInput} (hquiet : received turns = []) (uart : Uart) :
    (receiver.run uart turns).buffer.length + RAW_FRAME_SIZE * turns.count (.loop true) ≤
        uart.buffer.length ∨
      (receiver.run uart turns).buffer.length < RAW_FRAME_SIZE := by
  induction turns generalizing uart with
  | nil => exact .inl (Nat.le_refl _)
  | cons input turns ih =>
      rw [← List.singleton_append, received_append, List.append_eq_nil_iff] at hquiet
      obtain ⟨hinput, hturns⟩ := hquiet
      have ih := ih hturns
      rw [Machine.run_cons]
      cases input with
      | receive bytes =>
          have hbytes : bytes = [] := (List.flatMap_singleton _ _).symm.trans hinput
          have hstay : (receiver.step uart (.receive bytes)).1 = uart := by
            simp [receiver, hbytes]
          have hother : UartInput.receive bytes ≠ .loop true := nofun
          rw [hstay, List.count_cons_of_ne hother]
          exact ih uart
      | loop connected =>
          cases connected with
          | false =>
              have hstay : (receiver.step uart (.loop false)).1 = uart := rfl
              rw [hstay, List.count_cons_of_ne (by decide)]
              exact ih uart
          | true =>
              have hpoll : (receiver.step uart (.loop true)).1 = uart.poll.1 := rfl
              rw [hpoll, List.count_cons_self, Nat.mul_succ]
              by_cases hlen : RAW_FRAME_SIZE ≤ uart.buffer.length
              · have hnext : uart.poll.1.buffer.length = uart.buffer.length - RAW_FRAME_SIZE := by
                  rw [Uart.poll, if_pos hlen, List.length_drop]
                have ih := ih uart.poll.1
                omega
              · have ih := ih uart
                rw [poll_short hlen]
                dsimp only
                omega

/-- **Every whole block is read**, in order, once `loop` has had the time. -/
theorem reads_eq {inputs : List UartInput} {bytes : Bytes} (h : Delivers inputs bytes) :
    reads inputs = (List.range (bytes.length / RAW_FRAME_SIZE)).map (readAt bytes) := by
  obtain ⟨rfl, arrivals, turns, rfl, hquiet, hturns⟩ := h
  obtain ⟨m, hm⟩ := onGrid_run (arrivals ++ turns)
  obtain ⟨n, hn⟩ := onGrid_run arrivals
  have hshort : (receiver.run .empty (arrivals ++ turns)).buffer.length < RAW_FRAME_SIZE := by
    rw [Machine.run_append]
    have hleft : (receiver.run .empty arrivals).buffer.length ≤ (received arrivals).length := by
      rw [hn.uart_eq, List.length_drop]
      exact Nat.sub_le _ _
    have hdrain := drain hquiet (receiver.run .empty arrivals)
    have hblocks := Nat.div_add_mod (received arrivals).length RAW_FRAME_SIZE
    have hmod := Nat.mod_lt (received arrivals).length (show 0 < RAW_FRAME_SIZE by decide)
    have hmany := Nat.mul_le_mul_left RAW_FRAME_SIZE hturns
    omega
  have hm' : m = (received (arrivals ++ turns)).length / RAW_FRAME_SIZE := by
    have harrived := hm.arrived
    rw [hm.uart_eq, List.length_drop] at hshort
    refine (Nat.div_eq_of_lt_le ?_ ?_).symm
    · rw [Nat.mul_comm]
      exact harrived
    · rw [Nat.mul_comm, Nat.mul_succ]
      omega
  rw [hm.reads_eq, ← hm']

/-! ### Noise -/

/-- A frame as the sensor node sends it. -/
def IsRawFrame (frame : Bytes) : Prop :=
  ∃ p : SensorPayload, SensorNode.sendFrame p.sensorType p.valueRaw p.unit = some frame

theorem IsRawFrame.length {frame : Bytes} (h : IsRawFrame frame) :
    frame.length = RAW_FRAME_SIZE := by
  obtain ⟨p, hp⟩ := h
  rw [SensorNode.sendFrame_eq, Option.some.injEq] at hp
  rw [← hp]
  simp [p.body_length, RAW_FRAME_SIZE]

theorem IsRawFrame.valid {frame : Bytes} (h : IsRawFrame frame) :
    validateRawFrame frame = some true := by
  obtain ⟨p, hp⟩ := h
  rw [SensorNode.sendFrame_eq, Option.some.injEq] at hp
  rw [← hp]
  exact (raw_frame_eq p _ (u16OfBytes_toBytes _)).1

/-- The frame that was sent as number `i`, after the noise, was read and is valid. -/
def FramePassed (noise : Bytes) (reads : List UartRead) (i : Nat) : Prop :=
  ∃ read ∈ reads, read.valid = true ∧ read.offset = noise.length + RAW_FRAME_SIZE * i

instance (noise : Bytes) (reads : List UartRead) (i : Nat) :
    Decidable (FramePassed noise reads i) :=
  inferInstanceAs (Decidable (∃ read ∈ reads, _))

/-- How many of the first `n` frames after the noise have been passed to `processAndSend`. -/
def framesPassed (noise : Bytes) (n : Nat) (inputs : List UartInput) : Nat :=
  (List.range n).countP fun i => FramePassed noise (reads inputs) i

/-- The sensor node sends the frames right after the noise, and all of it is delivered. -/
structure SentAfter (noise : Bytes) (frames : List Bytes) (inputs : List UartInput) : Prop where
  raw : ∀ frame ∈ frames, IsRawFrame frame
  delivered : Delivers inputs (noise ++ frames.flatten)

theorem SentAfter.length {noise : Bytes} {frames : List Bytes} {inputs : List UartInput}
    (h : SentAfter noise frames inputs) :
    (noise ++ frames.flatten).length = noise.length + RAW_FRAME_SIZE * frames.length := by
  rw [List.length_append, length_flatten fun frame hframe => (h.raw frame hframe).length]

/-- In step with the grid, every frame is read as it was sent. -/
theorem SentAfter.framePassed {noise : Bytes} {frames : List Bytes} {inputs : List UartInput}
    (h : SentAfter noise frames inputs) (haligned : RAW_FRAME_SIZE ∣ noise.length) {i : Nat}
    (hi : i < frames.length) : FramePassed noise (reads inputs) i := by
  obtain ⟨q, hq⟩ := haligned
  have hblock : block RAW_FRAME_SIZE (q + i) (noise ++ frames.flatten) = frames[i] := by
    rw [block_append_right hq]
    exact block_flatten (fun frame hframe => (h.raw frame hframe).length) hi
  have hnumber : (noise ++ frames.flatten).length / RAW_FRAME_SIZE = q + frames.length := by
    rw [h.length, hq, ← Nat.mul_add]
    exact Nat.mul_div_cancel_left _ (by decide)
  refine ⟨readAt (noise ++ frames.flatten) (q + i), ?_, ?_, ?_⟩
  · rw [reads_eq h.delivered, hnumber]
    exact List.mem_map_of_mem (List.mem_range.mpr (by omega))
  · rw [readAt, hblock, decide_eq_true_iff]
    exact (h.raw _ (List.getElem_mem hi)).valid
  · rw [readAt, hq, ← Nat.mul_add]

/-- Out of step with the grid, every block that is read straddles two frames. -/
theorem SentAfter.not_framePassed {noise : Bytes} {frames : List Bytes} {inputs : List UartInput}
    (h : SentAfter noise frames inputs) (hshifted : ¬ RAW_FRAME_SIZE ∣ noise.length) (i : Nat) :
    ¬ FramePassed noise (reads inputs) i := by
  intro ⟨read, hread, _, hoffset⟩
  rw [reads_eq h.delivered] at hread
  obtain ⟨k, -, rfl⟩ := List.mem_map.mp hread
  have hk : RAW_FRAME_SIZE * k = noise.length + RAW_FRAME_SIZE * i := hoffset
  exact hshifted ((Nat.dvd_add_left (Nat.dvd_mul_right _ i)).mp (hk ▸ Nat.dvd_mul_right _ k))

/-- How many of the frames are passed: all of them, or none. -/
theorem SentAfter.framesPassed_eq {noise : Bytes} {frames : List Bytes} {inputs : List UartInput}
    (h : SentAfter noise frames inputs) :
    framesPassed noise frames.length inputs =
      if RAW_FRAME_SIZE ∣ noise.length then frames.length else 0 := by
  simp only [framesPassed]
  by_cases haligned : RAW_FRAME_SIZE ∣ noise.length
  · rw [if_pos haligned, List.countP_eq_length.mpr, List.length_range]
    intro i hi
    exact decide_eq_true (h.framePassed haligned (List.mem_range.mp hi))
  · rw [if_neg haligned, List.countP_eq_zero]
    intro i _
    rw [decide_eq_true_iff]
    exact h.not_framePassed haligned i

/-! ### One distance, again and again -/

/-- A frame that `readAndSend` writes, after some echo. -/
def IsMeasured (frame : Bytes) : Prop :=
  frame ≠ [] ∧ ∃ duration frameCount frameCount',
    SensorNode.readAndSend duration frameCount = some (frameCount', frame)

/-- The frame with a distance, whose value has two bytes. -/
def distanceFrame (high low : UInt8) : Bytes :=
  let body := [0xAA, 0x04, 0x00, 0x00, high, low, 0x04]
  body ++ (u16ToBytes (SecurePipe.crc16 body)).toList ++ [0x55]

theorem IsMeasured.reading {frame : Bytes} (h : IsMeasured frame) :
    ∃ duration p, SensorNode.reading duration = some p ∧
      SensorNode.sendFrame p.sensorType p.valueRaw p.unit = some frame := by
  obtain ⟨hne, duration, frameCount, frameCount', hsend⟩ := h
  rw [SensorNode.readAndSend_eq] at hsend
  cases hreading : SensorNode.reading duration with
  | none =>
      rw [hreading] at hsend
      simp only [Option.some.injEq, Prod.mk.injEq] at hsend
      exact absurd hsend.2.symm hne
  | some p =>
      rw [hreading] at hsend
      obtain ⟨bytes, hbytes, hpair⟩ := Option.map_eq_some_iff.mp hsend
      exact ⟨duration, p, hreading, by rw [hbytes, (Prod.mk.inj hpair).2]⟩

theorem IsMeasured.isRawFrame {frame : Bytes} (h : IsMeasured frame) : IsRawFrame frame := by
  obtain ⟨-, p, -, hsend⟩ := h.reading
  exact ⟨p, hsend⟩

/-- A distance in hundredths of a centimetre fits into two bytes. -/
theorem body_measured {duration : Int32} {p : SensorPayload}
    (h : SensorNode.reading duration = some p) :
    ∃ high low, p.body = [0x04, 0x00, 0x00, high, low, 0x04] := by
  unfold SensorNode.reading at h
  split at h
  · next hinside =>
      obtain ⟨k, hk⟩ := Int.eq_ofNat_of_zero_le (show 0 ≤ duration.toInt by omega)
      have hvalue := SensorNode.value_toInt hk (by omega)
      have hbytes := i32ToBytes_small hvalue (show k * 100 / 58 < 2 ^ 16 by omega)
      obtain rfl := Option.some.inj h
      refine ⟨UInt8.ofNat (k * 100 / 58 / 256), UInt8.ofNat (k * 100 / 58), ?_⟩
      rw [SensorPayload.body, hbytes]
      rfl
  · cases h

theorem IsMeasured.eq_distanceFrame {frame : Bytes} (h : IsMeasured frame) :
    ∃ high low, frame = distanceFrame high low := by
  obtain ⟨duration, p, hreading, hsend⟩ := h.reading
  obtain ⟨high, low, hbody⟩ := body_measured hreading
  rw [SensorNode.sendFrame_eq, hbody, Option.some.injEq] at hsend
  exact ⟨high, low, hsend.symm⟩

/-- What ten bytes that validate have in common. -/
theorem validate_ten {b₀ b₁ b₂ b₃ b₄ b₅ b₆ b₇ b₈ b₉ : UInt8}
    (h : validateRawFrame [b₀, b₁, b₂, b₃, b₄, b₅, b₆, b₇, b₈, b₉] = some true) :
    b₀ = 0xAA ∧ b₉ = 0x55 ∧
      (u16ToBytes (SecurePipe.crc16 [b₀, b₁, b₂, b₃, b₄, b₅, b₆])).toList = [b₇, b₈] := by
  obtain ⟨crc, hcrc⟩ : ∃ crc : U8Array 2, crc.toList = [b₇, b₈] := ⟨⟨[b₇, b₈], rfl⟩, rfl⟩
  have hview := validateRawFrame_eq b₀ b₉ ⟨[b₁, b₂, b₃, b₄, b₅, b₆], rfl⟩ (u16OfBytes crc)
  rw [u16ToBytes_ofBytes, hcrc] at hview
  obtain ⟨hfirst, hlast, hvalue⟩ := of_decide_eq_true (Option.some.inj (hview.symm.trans h))
  refine ⟨hfirst, hlast, ?_⟩
  rw [← hcrc, ← u16ToBytes_ofBytes crc, hvalue]
  rfl

/-- The distance 219.3 holds both markers, but turned it has another CRC. -/
theorem turned_value :
    validateRawFrame ((distanceFrame 0x55 0xAA).drop 5 ++ (distanceFrame 0x55 0xAA).take 5) ≠
      some true := by
  decide +kernel

/-- A CRC that holds both markers does not occur where the turned frame has another CRC. -/
theorem turned_crc : ∀ n < 256,
    let crc := (u16ToBytes (SecurePipe.crc16 [0xAA, 0x55, 0xAA, 0x04, 0x00, 0x00, .ofNat n])).toList
    crc[1]? = some 0x04 →
      (u16ToBytes (SecurePipe.crc16
        [0xAA, 0x04, 0x00, 0x00, .ofNat n, crc.headD 0x00, 0x04])).toList ≠ [0x55, 0xAA] := by
  decide +kernel

/-- **A distance turned does not validate.** -/
theorem distanceFrame_turned (high low : UInt8) {shift : Nat} (hpos : 0 < shift)
    (hlt : shift < RAW_FRAME_SIZE) :
    validateRawFrame ((distanceFrame high low).drop shift ++ (distanceFrame high low).take shift) ≠
      some true := by
  obtain ⟨c₀, c₁, hcrc⟩ : ∃ c₀ c₁, (u16ToBytes (SecurePipe.crc16
      [0xAA, 0x04, 0x00, 0x00, high, low, 0x04])).toList = [c₀, c₁] :=
    List.length_eq_two.mp (toList_length _)
  have hframe : distanceFrame high low =
      [0xAA, 0x04, 0x00, 0x00, high, low, 0x04, c₀, c₁, 0x55] := by
    rw [distanceFrame, hcrc]
    rfl
  intro h
  -- the start marker has to follow the end marker
  simp only [RAW_FRAME_SIZE] at hlt
  interval_cases shift
  · exact absurd (validate_ten (hframe ▸ h)).1 (by decide)
  · exact absurd (validate_ten (hframe ▸ h)).1 (by decide)
  · exact absurd (validate_ten (hframe ▸ h)).1 (by decide)
  · exact absurd (validate_ten (hframe ▸ h)).2.1 (by decide)
  · obtain ⟨rfl, rfl, -⟩ := validate_ten (hframe ▸ h)
    exact turned_value h
  · exact absurd (validate_ten (hframe ▸ h)).1 (by decide)
  · exact absurd (validate_ten (hframe ▸ h)).2.1 (by decide)
  · obtain ⟨rfl, rfl, hturned⟩ := validate_ten (hframe ▸ h)
    have hother := turned_crc high.toNat high.toNat_lt
    rw [UInt8.ofNat_toNat, hturned] at hother
    exact hother rfl hcrc
  · exact absurd (validate_ten (hframe ▸ h)).1 (by decide)

/-- Out of step with the grid, of a distance sent again and again nothing is passed. -/
theorem valid_shifted {noise frame : Bytes} (hframe : IsMeasured frame)
    (hshifted : ¬ RAW_FRAME_SIZE ∣ noise.length) {n k : Nat}
    (hpast : noise.length / RAW_FRAME_SIZE < k)
    (hk : RAW_FRAME_SIZE * (k + 1) ≤ noise.length + RAW_FRAME_SIZE * n) :
    (readAt (noise ++ (List.replicate n frame).flatten) k).valid = false := by
  obtain ⟨high, low, rfl⟩ := hframe.eq_distanceFrame
  have hmod : noise.length % RAW_FRAME_SIZE ≠ 0 := fun h => hshifted (Nat.dvd_of_mod_eq_zero h)
  have hlt := Nat.mod_lt noise.length (show 0 < RAW_FRAME_SIZE by decide)
  have hdiv := Nat.div_add_mod noise.length RAW_FRAME_SIZE
  obtain ⟨j, rfl⟩ := Nat.exists_eq_add_of_lt hpast
  generalize hq : noise.length / RAW_FRAME_SIZE = q at *
  generalize hshift : RAW_FRAME_SIZE - noise.length % RAW_FRAME_SIZE = shift
  have hoffset : RAW_FRAME_SIZE * (q + j + 1) = noise.length + (RAW_FRAME_SIZE * j + shift) := by
    rw [Nat.mul_succ, Nat.mul_add]
    omega
  have hblock : block RAW_FRAME_SIZE (q + j + 1)
      (noise ++ (List.replicate n (distanceFrame high low)).flatten) =
        (distanceFrame high low).drop shift ++ (distanceFrame high low).take shift := by
    rw [block, hoffset, List.drop_length_add_append]
    refine block_shifted (s := RAW_FRAME_SIZE) hframe.isRawFrame.length (by omega) (by omega) ?_
    rw [Nat.mul_succ] at hk
    omega
  rw [readAt, hblock, decide_eq_false_iff_not]
  exact distanceFrame_turned high low (by omega) (by omega)

/-- So only a block that holds some of the noise can still be passed. -/
theorem passes_shifted {noise frame : Bytes} (hframe : IsMeasured frame)
    (hshifted : ¬ RAW_FRAME_SIZE ∣ noise.length) {n : Nat} {inputs : List UartInput}
    (h : SentAfter noise (List.replicate n frame) inputs) :
    (reads inputs).countP UartRead.valid ≤ noise.length / RAW_FRAME_SIZE + 1 := by
  have hlen := h.length
  rw [List.length_replicate] at hlen
  rw [reads_eq h.delivered, List.countP_map, hlen]
  refine countP_range_le fun k hk hpast => valid_shifted hframe hshifted hpast ?_
  calc RAW_FRAME_SIZE * (k + 1)
      ≤ RAW_FRAME_SIZE * ((noise.length + RAW_FRAME_SIZE * n) / RAW_FRAME_SIZE) :=
        Nat.mul_le_mul_left _ hk
    _ ≤ noise.length + RAW_FRAME_SIZE * n := Nat.mul_div_le _ _

/-- A distance of ten centimetres. -/
def tenCentimetres : Bytes := [0xAA, 0x04, 0x00, 0x00, 0x03, 0xE8, 0x04, 0x41, 0xE1, 0x55]

theorem isMeasured_tenCentimetres : IsMeasured tenCentimetres := by
  refine ⟨by decide, 580, 0, 1, ?_⟩
  have hreading : SensorNode.reading 580 = some ⟨SENSOR_DISTANCE, 1000, UNIT_CM⟩ := by decide
  rw [SensorNode.readAndSend_eq, hreading]
  decide +kernel

theorem sentAfter_tenCentimetres (noise : Bytes) (n : Nat) :
    ∃ inputs, SentAfter noise (List.replicate n tenCentimetres) inputs := by
  refine ⟨_, fun frame hframe => ?_, delivers_all _⟩
  rw [List.eq_of_mem_replicate hframe]
  exact isMeasured_tenCentimetres.isRawFrame

/-- **The receiver does not resynchronise.** The frames sent after the noise are passed, all
of them, when the length of the noise is a multiple of ten; then the bound is zero. After
any other noise none of them is ever passed, and there is no bound. If the sensor node then
measures one distance again and again, whichever it is, nothing at all is passed but blocks with
some of the noise. -/
theorem uart_recovers_iff (noise : Bytes) :
    ((∃ K, ∀ frames inputs, SentAfter noise frames inputs →
        frames.length - K ≤ framesPassed noise frames.length inputs) ↔
      RAW_FRAME_SIZE ∣ noise.length) ∧
    (∀ frames inputs, SentAfter noise frames inputs →
      framesPassed noise frames.length inputs =
        if RAW_FRAME_SIZE ∣ noise.length then frames.length else 0) ∧
    (¬ RAW_FRAME_SIZE ∣ noise.length → ∀ frame, IsMeasured frame →
      ∀ n inputs, SentAfter noise (List.replicate n frame) inputs →
        (reads inputs).countP UartRead.valid ≤ noise.length / RAW_FRAME_SIZE + 1) := by
  refine ⟨⟨?_, ?_⟩, fun _ _ => SentAfter.framesPassed_eq, fun hshifted _ hframe _ _ =>
    passes_shifted hframe hshifted⟩
  · intro ⟨K, hK⟩
    by_contra hshifted
    obtain ⟨inputs, h⟩ := sentAfter_tenCentimetres noise (K + 1)
    have hfew := hK _ inputs h
    rw [h.framesPassed_eq, if_neg hshifted, List.length_replicate] at hfew
    omega
  · intro haligned
    refine ⟨0, fun frames inputs h => ?_⟩
    rw [h.framesPassed_eq, if_pos haligned]
    exact Nat.sub_le _ _

/-- After one stray byte there is no bound, even if every block that is passed counts. -/
theorem stray_byte_shifts :
    ¬ ∀ noise : Bytes, ∃ K, ∀ frames inputs, SentAfter noise frames inputs →
      frames.length - K ≤ (reads inputs).countP UartRead.valid := by
  intro h
  obtain ⟨K, hK⟩ := h [0x00]
  obtain ⟨inputs, hsent⟩ := sentAfter_tenCentimetres [0x00] (K + 2)
  have hmany := hK _ inputs hsent
  have hfew := passes_shifted isMeasured_tenCentimetres (by decide) hsent
  rw [List.length_replicate] at hmany
  have hone : [(0x00 : UInt8)].length / RAW_FRAME_SIZE + 1 = 1 := rfl
  omega

/-- Ten bytes of noise, and two frames. -/
theorem uart_recovers_iff_aligned :
    framesPassed (List.replicate 10 0x00) 2
      [.receive (List.replicate 10 0x00 ++ [tenCentimetres, tenCentimetres].flatten),
        .loop true, .loop true, .loop true] = 2 := by
  have hsent : SentAfter (List.replicate 10 0x00) [tenCentimetres, tenCentimetres]
      [.receive (List.replicate 10 0x00 ++ [tenCentimetres, tenCentimetres].flatten),
        .loop true, .loop true, .loop true] := by
    refine ⟨fun frame hframe => ?_, delivers_all _⟩
    rw [List.eq_of_mem_replicate (n := 2) hframe]
    exact isMeasured_tenCentimetres.isRawFrame
  exact ((uart_recovers_iff (List.replicate 10 0x00)).2.1 _ _ hsent).trans (if_pos (by decide))

end Esp32

end SecurePipe
