import Mathlib.Logic.Function.Basic
import SecurePipe.Lib.Trace
import SecurePipe.Transport.Connection
import SecurePipe.Transport.ProcessFrame

/-!
# SecurePipe.Transport.Tasks

The gateway with all of its connections (`run_listener` in `src/transport/tcp.rs`): one
task a connection, each in its own `handle_connection`, on one shared state. Senders, the
network and the tasks take turns in any order.

A task stops between the steps of `process_frame` that touch what tasks share: before it
authenticates the frame, before it takes the lock of the replay guard, and between the
release of the lock and the broadcast. Between two such points nothing another task does
can be seen, so the steps are atomic.

The network is the adversary's: it may put any bytes on any connection, at any time, and
end any connection. What honest senders produced is kept only to say that a frame is
theirs; nothing the gateway does reads it.
-/

namespace SecurePipe

open Rust

/-! ### The state -/

/-- Where the task of a connection is. -/
inductive TaskState
  /-- At the top of the loop of `handle_connection`. -/
  | reading
  /-- Entering `process_frame`. -/
  | received (raw : Bytes)
  /-- Past step 3, waiting for the lock. -/
  | authenticated (frame : SecurePipeFrame) (plaintext : Bytes)
  /-- Past step 4, with the lock released. -/
  | accepted (frame : SecurePipeFrame) (plaintext : Bytes)
  /-- `handle_connection` has returned, or has panicked. -/
  | finished

structure Connection where
  stream : TcpStream
  task : TaskState

/-- A connection as `accept` hands it out. -/
def Connection.opened : Connection where
  stream := { bytes := [], ending := .waiting }
  task := .reading

/-- A frame that an honest sender has built and sealed under the gateway's key. -/
structure Production where
  deviceId : UInt32
  sequenceNr : UInt32
  timestamp : UInt64
  nonce : Nonce
  payload : SensorPayload
  /-- The ciphertext with the tag appended. -/
  ciphertextWithTag : Bytes
  deriving DecidableEq

namespace Production

variable (p : Production)

/-- The header that the sender authenticated. -/
def header : WireHeader :=
  .v1 p.deviceId p.sequenceNr p.timestamp p.nonce (UInt32.ofNat PAYLOAD_SIZE)

/-- The bytes the sender put on the wire. -/
def bytes : Bytes := p.header.bytes ++ p.ciphertextWithTag

end Production

/-- Everything: the gateway's shared state, its connections, and what was produced so far. -/
structure System where
  gateway : GatewayState
  connections : Nat → Connection
  produced : List Production

/-- The gateway has started, with no connections used and nothing produced. -/
def System.start (key : SessionKey) (registry : DeviceRegistry) : System where
  gateway := { key, readingsTx := [], eventsTx := [], replayGuard := .new, deviceRegistry := registry }
  connections := fun _ => .opened
  produced := []

/-! ### The steps -/

/-- Who moves. -/
inductive Action
  /-- An honest sender produces a frame. -/
  | produce (p : Production)
  /-- The network puts bytes on a connection. -/
  | deliver (i : Nat) (bytes : Bytes)
  /-- A connection ends. -/
  | hangUp (i : Nat) (ending : StreamEnd)
  /-- The task of a connection takes a step, with what the clock reads during it. -/
  | run (i : Nat) (now : SystemTime)

/-- What can be seen of a step. -/
inductive Observation
  | produced (p : Production)
  /-- The replay check of a frame has passed. -/
  | checked (i : Nat) (now : SystemTime) (frame : SecurePipeFrame)
  /-- The reading of a frame has been sent. -/
  | published (i : Nat) (frame : SecurePipeFrame) (sensor : SensorPayload)
  deriving DecidableEq

variable (ring : Ring)

/-- One step of a task: what it does to the shared state and to its connection. -/
def stepTask (i : Nat) (now : SystemTime) (gateway : GatewayState) (connection : Connection) :
    GatewayState × Connection × Option Observation :=
  match connection.task with
  | .reading =>
      match readTurn connection.stream with
      | .ok (.frame raw stream) => (gateway, ⟨stream, .received raw⟩, none)
      | .ok (.badMagic stream) =>
          ((emitSecurityEvent none "invalid_magic" "Frame rejected: bad magic bytes" gateway).2,
            ⟨stream, .reading⟩, none)
      | .ok (.payloadTooLarge payloadLen) =>
          ((emitSecurityEvent none "payload_too_large" ("declared payload length "
            ++ payloadLen.repr ++ " exceeds max " ++ MAX_PAYLOAD_SIZE.repr) gateway).2,
            { connection with task := .finished }, none)
      | .ok .waiting => (gateway, connection, none)
      | .err _ => (gateway, { connection with task := .finished }, none)
      | .panic _ => (gateway, { connection with task := .finished }, none)
  | .received raw =>
      match authenticate ring raw gateway with
      | (.ok (some (frame, plaintext)), gateway) =>
          (gateway, { connection with task := .authenticated frame plaintext }, none)
      | (.ok none, gateway) => (gateway, { connection with task := .reading }, none)
      | (_, gateway) => (gateway, { connection with task := .finished }, none)
  | .authenticated frame plaintext =>
      match replayCheck now frame gateway with
      | (.ok true, gateway) =>
          (gateway, { connection with task := .accepted frame plaintext },
            some (.checked i now frame))
      | (.ok false, gateway) => (gateway, { connection with task := .reading }, none)
      | (_, gateway) => (gateway, { connection with task := .finished }, none)
  | .accepted frame plaintext =>
      match publish frame plaintext gateway with
      | (.ok (), gateway) =>
          (gateway, { connection with task := .reading },
            match SensorPayload.parse plaintext with
            | .ok sensor => some (.published i frame sensor)
            | _ => none)
      | (_, gateway) => (gateway, { connection with task := .finished }, none)
  | .finished => (gateway, connection, none)

namespace System

/-- The system with another state of one connection. -/
def setConnection (s : System) (i : Nat) (connection : Connection) : System :=
  { s with connections := Function.update s.connections i connection }

/-- One step of the system. -/
def step (s : System) : Action → System × Option Observation
  | .produce p => ({ s with produced := s.produced ++ [p] }, some (.produced p))
  | .deliver i bytes =>
      let connection := s.connections i
      match connection.stream.ending with
      | .waiting =>
          (s.setConnection i { connection with
            stream := { connection.stream with bytes := connection.stream.bytes ++ bytes } }, none)
      | _ => (s, none)
  | .hangUp i ending =>
      let connection := s.connections i
      match connection.stream.ending with
      | .waiting =>
          (s.setConnection i { connection with stream := { connection.stream with ending } }, none)
      | _ => (s, none)
  | .run i now =>
      let (gateway, connection, observation) := stepTask ring i now s.gateway (s.connections i)
      ({ s with gateway }.setConnection i connection, observation)

theorem setConnection_self (s : System) (i : Nat) : s.setConnection i (s.connections i) = s := by
  rw [setConnection, Function.update_eq_self]

/-- Bytes arrive, or are dropped if the peer has hung up. -/
theorem step_deliver (s : System) (i : Nat) (bytes : Bytes) :
    ∃ connection, s.step ring (.deliver i bytes) = (s.setConnection i connection, none) ∧
      connection.task = (s.connections i).task := by
  simp only [step]
  cases (s.connections i).stream.ending with
  | waiting => exact ⟨_, rfl, rfl⟩
  | eof => exact ⟨s.connections i, by rw [setConnection_self], rfl⟩
  | failed message => exact ⟨s.connections i, by rw [setConnection_self], rfl⟩

/-- A peer hangs up once. -/
theorem step_hangUp (s : System) (i : Nat) (ending : StreamEnd) :
    ∃ connection, s.step ring (.hangUp i ending) = (s.setConnection i connection, none) ∧
      connection.task = (s.connections i).task := by
  simp only [step]
  cases (s.connections i).stream.ending with
  | waiting => exact ⟨_, rfl, rfl⟩
  | eof => exact ⟨s.connections i, by rw [setConnection_self], rfl⟩
  | failed message => exact ⟨s.connections i, by rw [setConnection_self], rfl⟩

end System

/-- The system, taking actions. -/
def systemMachine : Machine System Action (Option Observation) where
  step := System.step ring

/-- What can be seen of a run from the start. -/
def trace (key : SessionKey) (registry : DeviceRegistry) (actions : List Action) :
    List Observation :=
  (systemMachine ring).trace (.start key registry) actions

/-! ### What one step does -/

/-- The authentic frame that a task holds, with its plaintext. -/
def TaskState.held : TaskState → Option (SecurePipeFrame × Bytes)
  | .authenticated frame plaintext => some (frame, plaintext)
  | .accepted frame plaintext => some (frame, plaintext)
  | .reading => none
  | .received _ => none
  | .finished => none

namespace System

/-- The step leaves no mark: nothing was recorded, published or produced. A task may have
dropped the frame it held. -/
structure Quiet (s s' : System) : Prop where
  core : s'.gateway.core = s.gateway.core
  readingsTx : s'.gateway.readingsTx = s.gateway.readingsTx
  produced : s'.produced = s.produced
  task (j : Nat) : (s'.connections j).task = (s.connections j).task ∨
    (s'.connections j).task.held = none

/-- What a step does, as far as frames are concerned. -/
inductive Effect (s : System) : Action → Option Observation → System → Prop
  | quiet {action : Action} {s' : System} (h : s.Quiet s') : Effect s action none s'
  | produced (p : Production) :
      Effect s (.produce p) (some (.produced p)) { s with produced := s.produced ++ [p] }
  | authenticated {i : Nat} {now : SystemTime} {raw plaintext : Bytes} {frame : SecurePipeFrame}
      (htask : (s.connections i).task = .received raw)
      (hauth : Authenticated ring s.gateway.key s.gateway.deviceRegistry raw frame plaintext) :
      Effect s (.run i now) none (s.setConnection i
        { s.connections i with task := .authenticated frame plaintext })
  | checked {i : Nat} {now : SystemTime} {plaintext : Bytes} {frame : SecurePipeFrame}
      (htask : (s.connections i).task = .authenticated frame plaintext)
      (hpasses : GuardPasses now s.gateway.replayGuard frame) :
      Effect s (.run i now) (some (.checked i now frame))
        ({ s with gateway := s.gateway.withGuard (recordFrame s.gateway.replayGuard frame) }
          |>.setConnection i { s.connections i with task := .accepted frame plaintext })
  | published {i : Nat} {now : SystemTime} {plaintext : Bytes} {frame : SecurePipeFrame}
      {sensor : SensorPayload}
      (htask : (s.connections i).task = .accepted frame plaintext)
      (hparse : SensorPayload.parse plaintext = .ok sensor) :
      Effect s (.run i now) (some (.published i frame sensor))
        ({ s with gateway := s.gateway.withReading (reading frame sensor) }
          |>.setConnection i { s.connections i with task := .reading })

variable {ring : Ring}

/-- The task of the connection that was set, and those of the others. -/
theorem task_setConnection (s : System) (i : Nat) (connection : Connection) (j : Nat) :
    ((s.setConnection i connection).connections j).task =
      if j = i then connection.task else (s.connections j).task := by
  by_cases hj : j = i
  · rw [if_pos hj, hj]
    exact congrArg Connection.task (Function.update_self _ _ _)
  · rw [if_neg hj]
    exact congrArg Connection.task (Function.update_of_ne hj _ _)

theorem quiet_setConnection {s : System} {gateway : GatewayState} {i : Nat}
    {connection : Connection} (hcore : gateway.core = s.gateway.core)
    (hreadings : gateway.readingsTx = s.gateway.readingsTx)
    (htask : connection.task = (s.connections i).task ∨ connection.task.held = none) :
    s.Quiet ({ s with gateway }.setConnection i connection) where
  core := hcore
  readingsTx := hreadings
  produced := rfl
  task j := by
    rw [task_setConnection]
    by_cases hj : j = i
    · rw [if_pos hj, hj]
      exact htask
    · rw [if_neg hj]
      exact .inl rfl

theorem step_run (s : System) (i : Nat) (now : SystemTime) :
    s.step ring (.run i now) =
      ({ s with gateway := (stepTask ring i now s.gateway (s.connections i)).1 }.setConnection i
        (stepTask ring i now s.gateway (s.connections i)).2.1,
      (stepTask ring i now s.gateway (s.connections i)).2.2) := rfl

/-- Reading from the stream leaves no mark. -/
theorem stepTask_reading (i : Nat) (now : SystemTime) (gateway : GatewayState)
    {connection : Connection} (htask : connection.task = .reading) :
    (stepTask ring i now gateway connection).1.core = gateway.core ∧
      (stepTask ring i now gateway connection).1.readingsTx = gateway.readingsTx ∧
      (stepTask ring i now gateway connection).2.1.task.held = none ∧
      (stepTask ring i now gateway connection).2.2 = none := by
  unfold stepTask
  rw [htask]
  cases readTurn connection.stream with
  | err e => exact ⟨rfl, rfl, rfl, rfl⟩
  | panic p => exact ⟨rfl, rfl, rfl, rfl⟩
  | ok read =>
      cases read with
      | badMagic stream => exact ⟨rfl, rfl, rfl, rfl⟩
      | payloadTooLarge payloadLen => exact ⟨rfl, rfl, rfl, rfl⟩
      | frame raw stream => exact ⟨rfl, rfl, rfl, rfl⟩
      | waiting => exact ⟨rfl, rfl, congrArg TaskState.held htask, rfl⟩

/-- **What one step does.** -/
theorem step_effect (s : System) (action : Action) :
    s.Effect ring action (s.step ring action).2 (s.step ring action).1 := by
  cases action with
  | produce p => exact .produced p
  | deliver i bytes =>
      obtain ⟨connection, hstep, htask⟩ := s.step_deliver ring i bytes
      rw [hstep]
      exact .quiet (quiet_setConnection rfl rfl (.inl htask))
  | hangUp i ending =>
      obtain ⟨connection, hstep, htask⟩ := s.step_hangUp ring i ending
      rw [hstep]
      exact .quiet (quiet_setConnection rfl rfl (.inl htask))
  | run i now =>
      rw [step_run]
      cases htask : (s.connections i).task with
      | reading =>
          obtain ⟨hcore, hreadings, hheld, hsilent⟩ :=
            stepTask_reading i now s.gateway htask
          rw [hsilent]
          exact .quiet (quiet_setConnection hcore hreadings (.inr hheld))
      | finished =>
          unfold stepTask
          rw [htask]
          exact .quiet (quiet_setConnection rfl rfl (.inl rfl))
      | received raw =>
          unfold stepTask
          rw [htask]
          rcases authenticate_cases ring s.gateway.key s.gateway.deviceRegistry raw with
            ⟨event, -, hauth⟩ | ⟨frame, plaintext, hauthentic, hauth⟩
          · simp only [hauth s.gateway rfl rfl]
            exact .quiet (quiet_setConnection rfl rfl (.inr rfl))
          · simp only [hauth s.gateway rfl rfl]
            exact .authenticated htask hauthentic
      | authenticated frame plaintext =>
          unfold stepTask
          rw [htask]
          rcases replayCheck_cases now s.gateway.replayGuard frame with
            ⟨-, hcheck⟩ | ⟨-, -, event, hcheck⟩ | ⟨hpasses, hcheck⟩
          · simp only [hcheck s.gateway rfl]
            exact .quiet (quiet_setConnection rfl rfl (.inr rfl))
          · simp only [hcheck s.gateway rfl]
            exact .quiet (quiet_setConnection rfl rfl (.inr rfl))
          · simp only [hcheck s.gateway rfl]
            exact .checked htask hpasses
      | accepted frame plaintext =>
          unfold stepTask
          rw [htask]
          rcases SensorPayload.parse_cases plaintext with
            ⟨-, e, hparse⟩ | ⟨sensor, t, -, hparse⟩
          · simp only [publish_malformed hparse, hparse]
            exact .quiet (quiet_setConnection rfl rfl (.inr rfl))
          · simp only [publish_sensor hparse, hparse]
            exact .published htask hparse

end System

end SecurePipe
