import SecurePipe.Arduino.SensorLoop
import SecurePipe.Arduino.UartReceiver

/-!
# SecurePipe.Arduino.SensorLink

From the echo to `processAndSend`: the sensor node, the UART, and `loop` of the ESP32.

On an undisturbed line, what the ESP32 hands to `processAndSend` are the readings of the sensor
node, **in order, each once, and with the values that were measured**, at every moment and however
the two programs and the bytes in between take turns (`measurements_arrive`).
-/

namespace SecurePipe

open Rust Blocks Timer

namespace Esp32

/-- What `loop` hands to `processAndSend`. -/
def UartRead.reading (read : UartRead) : Option SensorPayload :=
  if read.valid then readRawFrame read.rawFrame else none

/-- The readings handed to `processAndSend`. -/
def processed (reads : List UartRead) : List SensorPayload := reads.filterMap UartRead.reading

end Esp32

open Esp32 SensorNode

/-- The bytes of the frames with these readings. -/
def line (ps : List SensorPayload) : Bytes := ps.flatMap rawFrame

theorem rawFrame_isRawFrame (p : SensorPayload) : IsRawFrame (rawFrame p) :=
  ⟨p, sendFrame_rawFrame p⟩

theorem readRawFrame_rawFrame (p : SensorPayload) : readRawFrame (rawFrame p) = some p :=
  (raw_frame_eq p _ (BigEndian.u16OfBytes_toBytes _)).2

theorem rawFrames_length (ps : List SensorPayload) :
    ∀ frame ∈ ps.map rawFrame, frame.length = RAW_FRAME_SIZE := by
  intro frame hframe
  obtain ⟨p, -, rfl⟩ := List.mem_map.mp hframe
  exact (rawFrame_isRawFrame p).length

theorem line_length (ps : List SensorPayload) : (line ps).length = RAW_FRAME_SIZE * ps.length := by
  rw [line, List.flatMap_def, length_flatten (rawFrames_length ps), List.length_map]

theorem block_line {ps : List SensorPayload} {k : Nat} (hk : k < ps.length) :
    block RAW_FRAME_SIZE k (line ps) = rawFrame ps[k] := by
  have hindex : k < (ps.map rawFrame).length := by rwa [List.length_map]
  rw [line, List.flatMap_def, block_flatten (rawFrames_length ps) hindex, List.getElem_map]

/-- A block of the line is the frame with a reading, and is taken for that. -/
theorem reading_readAt {ps : List SensorPayload} {received : Bytes} (hline : received <+: line ps)
    {k : Nat} (hk : RAW_FRAME_SIZE * (k + 1) ≤ received.length) :
    ∃ h : k < ps.length, (readAt received k).reading = some ps[k] := by
  have hlen : k < ps.length := by
    have htotal := hk.trans hline.length_le
    rw [line_length] at htotal
    exact Nat.lt_of_mul_lt_mul_left
      (Nat.lt_of_lt_of_le (Nat.mul_lt_mul_of_pos_left (Nat.lt_succ_self k) (by decide)) htotal)
  obtain ⟨more, hmore⟩ := hline
  refine ⟨hlen, ?_⟩
  rw [← readAt_append hk more, hmore]
  simp only [readAt, UartRead.reading, block_line hlen, (rawFrame_isRawFrame ps[k]).valid,
    decide_true, if_pos, readRawFrame_rawFrame]

/-- **The blocks of the line are the readings.** -/
theorem processed_readAt {ps : List SensorPayload} {received : Bytes}
    (hline : received <+: line ps) {m : Nat}
    (hm : RAW_FRAME_SIZE * m ≤ received.length) :
    processed ((List.range m).map (readAt received)) = ps.take m := by
  induction m with
  | zero => rfl
  | succ m ih =>
      obtain ⟨hlen, hreading⟩ := reading_readAt hline hm
      have hm' : RAW_FRAME_SIZE * m ≤ received.length :=
        (Nat.mul_le_mul_left _ (Nat.le_succ m)).trans hm
      have hone : processed [readAt received m] = [ps[m]] := by
        simp only [processed, List.filterMap_cons, hreading, List.filterMap_nil]
      rw [List.range_succ, List.map_append, List.map_singleton, processed, List.filterMap_append,
        ← processed, ← processed, ih hm', hone, List.take_succ_eq_append_getElem hlen]

/-- **Measurements arrive.** The sensor node has made some turns, its bytes come in at the ESP32 as
far as the line has brought them, and `loop` runs there now and then. What has been handed to
`processAndSend` are the first of the node's readings; and all of them, once the bytes are there and
`loop` has had the time. -/
theorem measurements_arrive {turns : List Turn} {node : State} {bytes : Bytes}
    (hnode : loops .initial turns = some (node, bytes)) {inputs : List UartInput}
    (hline : received inputs <+: bytes) :
    processed (reads inputs) <+: readings turns ∧
    (Delivers inputs bytes → processed (reads inputs) = readings turns) := by
  obtain ⟨node', hloops⟩ := loops_eq .initial turns
  obtain ⟨rfl, rfl⟩ : node = node' ∧ bytes = line (readings turns) :=
    Prod.mk.inj (Option.some.inj (hnode.symm.trans hloops))
  obtain ⟨m, hm⟩ := onGrid_run inputs
  refine ⟨?_, fun hdelivers => ?_⟩
  · rw [hm.reads_eq, processed_readAt hline hm.arrived]
    exact List.take_prefix _ _
  · have hall : RAW_FRAME_SIZE * (readings turns).length ≤ (line (readings turns)).length :=
      (line_length _).ge
    rw [reads_eq hdelivers, line_length, Nat.mul_div_cancel_left _ (by decide),
      processed_readAt List.prefix_rfl hall, List.take_length]

/-- The frame of the three turns, which comes in two parts. -/
def twoParts : List UartInput :=
  let bytes := rawFrame ⟨SENSOR_DISTANCE, 1000, UNIT_CM⟩
  [.receive (bytes.take 4), .loop true, .receive (bytes.drop 4), .loop true]

/-- Ten centimetres arrive. -/
theorem measurements_arrive_three :
    processed (reads twoParts) = [⟨SENSOR_DISTANCE, 1000, UNIT_CM⟩] := by
  obtain ⟨node, hnode⟩ := loops_eq .initial threeTurns
  have hreadings : readings threeTurns = [⟨SENSOR_DISTANCE, 1000, UNIT_CM⟩] := by decide
  have hbytes : received twoParts = line (readings threeTurns) := by
    rw [hreadings]
    exact List.take_append_drop 4 _
  rw [← hreadings]
  refine (measurements_arrive hnode (hbytes ▸ List.prefix_rfl)).2 ⟨hbytes, twoParts.take 3,
    [.loop true], rfl, rfl, ?_⟩
  exact (Nat.div_le_div_right (hbytes ▸ line_length (readings threeTurns)).le).trans (by decide)

end SecurePipe
