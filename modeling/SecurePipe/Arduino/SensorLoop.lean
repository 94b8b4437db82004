import SecurePipe.Arduino.Distance
import SecurePipe.Lib.Timer

/-!
# SecurePipe.Arduino.SensorLoop

The sensor node as a program that runs (`arduino/sensor_node/sensor_node.ino`): `loop`, called again
and again, measures every `READ_INTERVAL_MS` and writes what it measures to the UART.

`millis` starts over every seven weeks, and the distance passes through a `float`. Neither shows in
what is written (`measurements_sent`).
-/

namespace SecurePipe

open Rust BigEndian Timer

namespace SensorNode

def READ_INTERVAL_MS : UInt32 := 500

/-- The globals. -/
structure State where
  lastReadTime : UInt32
  frameCount : UInt32

/-- The globals as the program starts. -/
def State.initial : State where
  lastReadTime := 0
  frameCount := 0

/-- A call of `loop`: when it is made, in milliseconds since the node was switched on, and what
`pulseIn` would return. -/
structure Turn where
  time : Nat
  duration : Int32
  deriving DecidableEq

/-- `loop`: the globals afterwards, and the bytes written to the UART. -/
def loop (turn : Turn) (s : State) : Option (State × Bytes) :=
  let now := millis turn.time
  if due READ_INTERVAL_MS now s.lastReadTime then do
    let (frameCount, bytes) ← readAndSend turn.duration s.frameCount
    return ({ lastReadTime := now, frameCount }, bytes)
  else some (s, [])

/-- `loop`, again and again. -/
def loops : State → List Turn → Option (State × Bytes)
  | s, [] => some (s, [])
  | s, turn :: turns => do
    let (s, bytes) ← loop turn s
    let (s, rest) ← loops s turns
    return (s, bytes ++ rest)

/-- The turns that measure. -/
def measuring (turns : List Turn) : List Turn :=
  fired Turn.time READ_INTERVAL_MS State.initial.lastReadTime turns

/-- The readings that these turns give. -/
def readings (turns : List Turn) : List SensorPayload :=
  (measuring turns).filterMap fun turn => reading turn.duration

/-- The frame with a reading. -/
def rawFrame (p : SensorPayload) : Bytes :=
  FRAME_START :: p.body ++ (u16ToBytes (SecurePipe.crc16 (FRAME_START :: p.body))).toList ++
    [FRAME_END]

theorem sendFrame_rawFrame (p : SensorPayload) :
    sendFrame p.sensorType p.valueRaw p.unit = some (rawFrame p) := sendFrame_eq p

/-- A turn that measures writes the frame with the reading, if there is one. -/
theorem loop_due {turn : Turn} {s : State}
    (hdue : due READ_INTERVAL_MS (millis turn.time) s.lastReadTime = true) :
    ∃ frameCount, loop turn s =
      some ({ lastReadTime := millis turn.time, frameCount },
        (reading turn.duration).toList.flatMap rawFrame) := by
  unfold loop
  simp only [hdue, if_pos, readAndSend_eq]
  cases reading turn.duration with
  | none => exact ⟨s.frameCount, rfl⟩
  | some p =>
      refine ⟨s.frameCount + 1, ?_⟩
      simp [sendFrame_rawFrame]

theorem loop_not_due {turn : Turn} {s : State}
    (hdue : due READ_INTERVAL_MS (millis turn.time) s.lastReadTime ≠ true) :
    loop turn s = some (s, []) := if_neg hdue

/-- What is written depends on the turns that measure, and on nothing else. -/
theorem loops_eq (s : State) (turns : List Turn) :
    ∃ s', loops s turns =
      some (s', ((fired Turn.time READ_INTERVAL_MS s.lastReadTime turns).filterMap
        fun turn => reading turn.duration).flatMap rawFrame) := by
  induction turns generalizing s with
  | nil => exact ⟨s, rfl⟩
  | cons turn turns ih =>
      unfold loops fired
      by_cases hdue : due READ_INTERVAL_MS (millis turn.time) s.lastReadTime = true
      · obtain ⟨frameCount, hloop⟩ := loop_due hdue
        obtain ⟨s', hrest⟩ := ih { lastReadTime := millis turn.time, frameCount }
        refine ⟨s', ?_⟩
        rw [hloop, if_pos hdue]
        simp only [Option.bind_eq_bind, Option.bind_some, hrest]
        cases hreading : reading turn.duration with
        | none => simp [hreading]
        | some p => simp [hreading]
      · obtain ⟨s', hrest⟩ := ih s
        refine ⟨s', ?_⟩
        rw [loop_not_due hdue, if_neg hdue]
        simp [hrest]

/-- **What the sensor node sends.** -/
theorem measurements_sent {turns : List Turn} (hordered : Ordered Turn.time 0 turns) :
    (∃ s', loops .initial turns = some (s', (readings turns).flatMap rawFrame)) ∧
    Spaced Turn.time 500 0 (measuring turns) ∧
    (Within Turn.time (2 ^ 32 - 500) 0 turns → ∀ turn ∈ turns,
      ∃ t ∈ 0 :: (measuring turns).map Turn.time, t ≤ turn.time ∧ turn.time < t + 500) := by
  have hspaced : Spaced Turn.time READ_INTERVAL_MS.toNat 0 (measuring turns) :=
    spaced_fired hordered (Nat.le_refl 0)
  refine ⟨loops_eq .initial turns, hspaced, ?_⟩
  intro hwithin turn hturn
  have hideal : measuring turns = firedIdeal Turn.time 500 0 turns :=
    fired_eq hordered hwithin (Nat.le_refl 0) (by decide)
  rw [hideal]
  exact firedIdeal_prompt (by decide) hordered (Nat.le_refl 0) hturn

/-- Ten centimetres away, too early to measure again, and nothing in sight. -/
def threeTurns : List Turn := [⟨1000, 580⟩, ⟨1200, 580⟩, ⟨1500, 0⟩]

/-- One distance is sent, and two of the turns measure. -/
theorem measurements_sent_three :
    (∃ s', loops .initial threeTurns = some (s', rawFrame ⟨SENSOR_DISTANCE, 1000, UNIT_CM⟩)) ∧
    ∀ turn ∈ threeTurns, ∃ t ∈ [0, 1000, 1500], t ≤ turn.time ∧ turn.time < t + 500 := by
  have hreadings : readings threeTurns = [⟨SENSOR_DISTANCE, 1000, UNIT_CM⟩] := by decide
  have hmeasuring : measuring threeTurns = [⟨1000, 580⟩, ⟨1500, 0⟩] := by decide
  obtain ⟨hsent, -, hprompt⟩ := measurements_sent (show Ordered Turn.time 0 threeTurns by decide)
  rw [hreadings, List.flatMap_singleton] at hsent
  rw [hmeasuring] at hprompt
  exact ⟨hsent, hprompt (by decide)⟩

end SensorNode

end SecurePipe
