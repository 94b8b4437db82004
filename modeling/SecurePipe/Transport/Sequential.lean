import Mathlib.Data.List.AList
import SecurePipe.Lib.Machine
import SecurePipe.Transport.Markup
import SecurePipe.Transport.Tasks

/-!
# SecurePipe.Transport.Sequential

The gateway as if a turn of a connection's loop took no time: `takeTurn` carries out a whole
`turn`, from the reads to the broadcast, in one step.

The tasks take several steps for a turn, and others come in between. Still **a run of the tasks
has the effect of a run of whole turns** (`turns_serialisable`). A turn counts at the step that
settles it: where it finds a bad header, where its frame is refused, or where the check of its
frame passes. At that step it may leave one thing undone, the broadcast of the reading, and
`Serialised` keeps the readings that are still due. `Stands` relates a connection in the middle
of a turn to the same connection before it or after it.

Conversely a turn is a few steps of its task (`turn_steps`), and so the loop of
`handle_connection`, run to any point, is a run of the tasks (`serveConnection_is_run`).
-/

namespace SecurePipe

open Rust

/-! ### Whole turns -/

variable (ring : Ring)

/-- A whole turn of the loop, with what the clock reads during it. -/
def takeTurn (now : SystemTime) (gateway : GatewayState) (connection : Connection) :
    GatewayState × Connection :=
  match connection.task with
  | .finished => (gateway, connection)
  | _ =>
      match turn emitSecurityEvent (processFrame ring now) connection.stream gateway with
      | (.ok stream, gateway) => (gateway, ⟨stream, .reading⟩)
      | (_, gateway) => (gateway, { connection with task := .finished })

/-- One step of the system, where the task of a connection takes whole turns. -/
def System.stepTurn (s : System) : Action → System
  | .run i now =>
      let (gateway, connection) := takeTurn ring now s.gateway (s.connections i)
      { s with gateway }.setConnection i connection
  | action => (s.step ring action).1

/-- The system with one turn at a time. -/
def sequentialMachine : Machine System Action Unit where
  step s action := (s.stepTurn ring action, ())

variable {ring : Ring}

section Turns

variable {now : SystemTime} {gateway gateway' : GatewayState} {stream rest : TcpStream}
  {raw : Bytes} {task : TaskState} {connection : Connection}

theorem takeTurn_error {e : SecurePipeError} (h : readTurn stream = .err e) :
    takeTurn ring now gateway ⟨stream, .reading⟩ = (gateway, ⟨stream, .finished⟩) := by
  simp only [takeTurn, turn_error h, Stateful.throw_apply]

theorem takeTurn_badMagic (h : readTurn stream = .ok (.badMagic rest)) :
    takeTurn ring now gateway ⟨stream, .reading⟩ =
      (gateway.withEvent ⟨none, "invalid_magic", "Frame rejected: bad magic bytes"⟩,
        ⟨rest, .reading⟩) := by
  simp only [takeTurn, turn_badMagic h]
  rfl

theorem takeTurn_payloadTooLarge {payloadLen : Nat}
    (h : readTurn stream = .ok (.payloadTooLarge payloadLen)) :
    takeTurn ring now gateway ⟨stream, .reading⟩ =
      (gateway.withEvent ⟨none, "payload_too_large", "declared payload length "
        ++ payloadLen.repr ++ " exceeds max " ++ MAX_PAYLOAD_SIZE.repr⟩, ⟨stream, .finished⟩) := by
  simp only [takeTurn, turn_payloadTooLarge h]
  rfl

/-- A turn on a whole frame processes it. -/
theorem takeTurn_frame (h : readTurn stream = .ok (.frame raw rest))
    (hprocess : processFrame ring now raw gateway = (.ok (), gateway')) :
    takeTurn ring now gateway ⟨stream, .reading⟩ = (gateway', ⟨rest, .reading⟩) := by
  simp only [takeTurn, turn_frame h, Stateful.bind_ok hprocess, Stateful.pure_apply]

theorem takeTurn_frame_panic {p : Panic} (h : readTurn stream = .ok (.frame raw rest))
    (hprocess : processFrame ring now raw gateway = (.panic p, gateway')) :
    takeTurn ring now gateway ⟨stream, .reading⟩ = (gateway', ⟨stream, .finished⟩) := by
  simp only [takeTurn, turn_frame h, Stateful.bind_panic hprocess]

end Turns

/-! ### One connection -/

/-- The reading that is still to be sent for a frame whose check has passed. -/
def TaskState.due : TaskState → Option SensorReading
  | .accepted frame plaintext =>
      match SensorPayload.parse plaintext with
      | .ok sensor => some (SecurePipe.reading frame sensor)
      | _ => none
  | _ => none

/-- The state once a reading that is due has been sent. -/
def GatewayState.withDue (state : GatewayState) : Option SensorReading → GatewayState
  | some reading => state.withReading reading
  | none => state

/-- Step 5 sends what is due. -/
theorem publish_due (frame : SecurePipeFrame) (plaintext : Bytes) (state : GatewayState) :
    publish frame plaintext state =
      (.ok (), state.withDue (TaskState.accepted frame plaintext).due) := by
  rcases SensorPayload.parse_cases plaintext with ⟨-, e, hparse⟩ | ⟨sensor, t, -, hparse⟩
  · simp only [publish_malformed hparse, TaskState.due, hparse, GatewayState.withDue]
  · simp only [publish_sensor hparse, TaskState.due, hparse, GatewayState.withDue]

variable (ring) in
/-- A connection whose task may be in the middle of a turn, and the same connection where the
turn has not begun, or where it is over. -/
inductive Stands (key : SessionKey) (registry : DeviceRegistry) : Connection → Connection → Prop
  | reading (stream : TcpStream) : Stands key registry ⟨stream, .reading⟩ ⟨stream, .reading⟩
  | received {raw : Bytes} (hraw : IsWireFrame raw) (rest : Bytes) (ending : StreamEnd) :
      Stands key registry ⟨⟨rest, ending⟩, .received raw⟩ ⟨⟨raw ++ rest, ending⟩, .reading⟩
  | authenticated {raw plaintext : Bytes} {frame : SecurePipeFrame} (hraw : IsWireFrame raw)
      (hauth : Authenticated ring key registry raw frame plaintext) (rest : Bytes)
      (ending : StreamEnd) :
      Stands key registry ⟨⟨rest, ending⟩, .authenticated frame plaintext⟩
        ⟨⟨raw ++ rest, ending⟩, .reading⟩
  | accepted (frame : SecurePipeFrame) (plaintext : Bytes) (stream : TcpStream) :
      Stands key registry ⟨stream, .accepted frame plaintext⟩ ⟨stream, .reading⟩
  | finished (stream stream' : TcpStream) :
      Stands key registry ⟨stream, .finished⟩ ⟨stream', .finished⟩

namespace Connection

/-- Bytes arrive, unless the connection has ended. -/
def arrive (bytes : Bytes) (connection : Connection) : Connection :=
  match connection.stream.ending with
  | .waiting => { connection with
      stream := { connection.stream with bytes := connection.stream.bytes ++ bytes } }
  | _ => connection

/-- The connection ends, unless it has ended before. -/
def hangUp (ending : StreamEnd) (connection : Connection) : Connection :=
  match connection.stream.ending with
  | .waiting => { connection with stream := { connection.stream with ending } }
  | _ => connection

end Connection

theorem System.step_arrive (s : System) (i : Nat) (bytes : Bytes) :
    (s.step ring (.deliver i bytes)).1 = s.setConnection i ((s.connections i).arrive bytes) := by
  simp only [step, Connection.arrive]
  cases (s.connections i).stream.ending with
  | waiting => rfl
  | eof => exact (s.setConnection_self i).symm
  | failed message => exact (s.setConnection_self i).symm

theorem System.step_ends (s : System) (i : Nat) (ending : StreamEnd) :
    (s.step ring (.hangUp i ending)).1 = s.setConnection i ((s.connections i).hangUp ending) := by
  simp only [step, Connection.hangUp]
  cases (s.connections i).stream.ending with
  | waiting => rfl
  | eof => exact (s.setConnection_self i).symm
  | failed message => exact (s.setConnection_self i).symm

namespace Stands

variable {key : SessionKey} {registry : DeviceRegistry} {c d : Connection}

/-- What the network does to a connection does not depend on where its task is. -/
theorem of_stream {f : TcpStream → TcpStream} {g : Connection → Connection}
    (hg : ∀ c, g c = { c with stream := f c.stream })
    (hf : ∀ raw rest ending, f ⟨raw ++ rest, ending⟩ =
      ⟨raw ++ (f ⟨rest, ending⟩).bytes, (f ⟨rest, ending⟩).ending⟩)
    (h : Stands ring key registry c d) : Stands ring key registry (g c) (g d) := by
  rw [hg, hg]
  cases h with
  | reading stream => exact .reading _
  | received hraw rest ending =>
      dsimp only
      rw [hf]
      exact .received hraw _ _
  | authenticated hraw hauth rest ending =>
      dsimp only
      rw [hf]
      exact .authenticated hraw hauth _ _
  | accepted frame plaintext stream => exact .accepted frame plaintext _
  | finished stream stream' => exact .finished _ _

theorem arrive (h : Stands ring key registry c d) (bytes : Bytes) :
    Stands ring key registry (c.arrive bytes) (d.arrive bytes) := by
  refine h.of_stream (f := fun stream => match stream.ending with
    | .waiting => { stream with bytes := stream.bytes ++ bytes }
    | _ => stream) ?_ ?_
  · rintro ⟨⟨_, _ | _ | _⟩, _⟩ <;> rfl
  · rintro raw rest (_ | _ | _)
    · exact congrArg (TcpStream.mk · .waiting) (List.append_assoc raw rest bytes)
    · rfl
    · rfl

theorem hangUp (h : Stands ring key registry c d) (ending : StreamEnd) :
    Stands ring key registry (c.hangUp ending) (d.hangUp ending) := by
  refine h.of_stream (f := fun stream => match stream.ending with
    | .waiting => { stream with ending }
    | _ => stream) ?_ ?_
  · rintro ⟨⟨_, _ | _ | _⟩, _⟩ <;> rfl
  · rintro raw rest (_ | _ | _) <;> rfl

end Stands

/-! ### Readings that are due -/

/-- The readings that are due, each by the connection whose task is to send it. -/
abbrev Due := AList fun _ : Nat => SensorReading

namespace Due

variable {due : Due} {i : Nat} {r : SensorReading}

def readings (due : Due) : List SensorReading := due.entries.map fun entry => entry.2

theorem readings_insert (h : due.lookup i = none) (r : SensorReading) :
    Due.readings (due.insert i r) = r :: due.readings := by
  rw [readings, AList.entries_insert_of_notMem (AList.lookup_eq_none.mp h)]
  rfl

theorem readings_erase (h : due.lookup i = some r) :
    due.readings.Perm (r :: Due.readings (due.erase i)) := by
  have hmem : i ∈ due.keys := AList.lookup_isSome.mp (by rw [h]; rfl)
  obtain ⟨r', before, after, -, hentries, hrest⟩ := List.exists_of_kerase hmem
  have hr : ⟨i, r'⟩ ∈ due.entries := by
    rw [hentries]
    exact List.mem_append_right _ List.mem_cons_self
  obtain rfl : r' = r := Option.some.inj ((AList.mem_lookup_iff.mpr hr).symm.trans h)
  have herase : (due.erase i).entries = before ++ after := hrest
  rw [readings, readings, hentries, herase]
  exact List.Perm.map (fun entry : Σ _ : Nat, SensorReading => entry.2) List.perm_middle

end Due

/-! ### The relation -/

/-- The shared state, and the same state where some readings have been sent already. -/
structure Ahead (key : SessionKey) (registry : DeviceRegistry) (due : List SensorReading)
    (gateway gateway' : GatewayState) : Prop where
  core : gateway'.core = gateway.core
  key : gateway.key = key
  registry : gateway.deviceRegistry = registry
  events : gateway'.eventsTx = gateway.eventsTx
  readings : gateway'.readingsTx.Perm (gateway.readingsTx ++ due)

namespace Ahead

variable {key : SessionKey} {registry : DeviceRegistry} {due : List SensorReading}
  {gateway gateway' : GatewayState}

theorem guard (h : Ahead key registry due gateway gateway') :
    gateway'.replayGuard = gateway.replayGuard := congrArg GatewayCore.guard h.core

theorem key' (h : Ahead key registry due gateway gateway') : gateway'.key = key :=
  (congrArg GatewayCore.key h.core).trans h.key

theorem registry' (h : Ahead key registry due gateway gateway') :
    gateway'.deviceRegistry = registry :=
  (congrArg GatewayCore.registry h.core).trans h.registry

theorem withEvent (h : Ahead key registry due gateway gateway') (event : SecurityEvent) :
    Ahead key registry due (gateway.withEvent event) (gateway'.withEvent event) where
  core := h.core
  key := h.key
  registry := h.registry
  events := congrArg (· ++ [event]) h.events
  readings := h.readings

theorem withGuard (h : Ahead key registry due gateway gateway') (guard : ReplayGuard) :
    Ahead key registry due (gateway.withGuard guard) (gateway'.withGuard guard) where
  core := by
    have hkey := congrArg GatewayCore.key h.core
    have hregistry := congrArg GatewayCore.registry h.core
    simp only [GatewayState.core] at hkey hregistry
    simp only [GatewayState.core, GatewayState.withGuard, hkey, hregistry]
  key := h.key
  registry := h.registry
  events := h.events
  readings := h.readings

/-- A reading is sent here, and is due there. -/
theorem send (h : Ahead key registry due gateway gateway') (r : SensorReading) :
    Ahead key registry (r :: due) gateway (gateway'.withReading r) where
  core := h.core
  key := h.key
  registry := h.registry
  events := h.events
  readings := (h.readings.append_right [r]).trans (by
    rw [List.append_assoc]
    exact (List.perm_append_singleton r due).append_left _)

/-- A reading that is due is sent. -/
theorem sent {r : SensorReading} (h : Ahead key registry (r :: due) gateway gateway') :
    Ahead key registry due (gateway.withReading r) gateway' where
  core := h.core
  key := h.key
  registry := h.registry
  events := h.events
  readings := by
    have hperm := h.readings
    rwa [List.append_cons] at hperm

theorem perm {due' : List SensorReading} (h : Ahead key registry due gateway gateway')
    (hperm : due.Perm due') : Ahead key registry due' gateway gateway' where
  core := h.core
  key := h.key
  registry := h.registry
  events := h.events
  readings := h.readings.trans (hperm.append_left _)

end Ahead

variable (ring) in
/-- The system, and the system of whole turns. -/
structure Serialised (key : SessionKey) (registry : DeviceRegistry) (s t : System) : Prop where
  connections (i : Nat) : Stands ring key registry (s.connections i) (t.connections i)
  gateway : ∃ due : Due, (∀ i, due.lookup i = (s.connections i).task.due) ∧
    Ahead key registry due.readings s.gateway t.gateway

namespace Serialised

variable {key : SessionKey} {registry : DeviceRegistry} {s t : System} {i : Nat}
  {c d : Connection} {gateway gateway' : GatewayState}

variable (ring) in
theorem start (key : SessionKey) (registry : DeviceRegistry) :
    Serialised ring key registry (.start key registry) (.start key registry) where
  connections _ := .reading _
  gateway := ⟨∅, fun _ => rfl, ⟨rfl, rfl, rfl, rfl, List.Perm.refl _⟩⟩

theorem connections_set (h : Serialised ring key registry s t)
    (hstands : Stands ring key registry c d) (j : Nat) :
    Stands ring key registry ((s.setConnection i c).connections j)
      ((t.setConnection i d).connections j) := by
  simp only [System.setConnection]
  by_cases hj : j = i
  · rw [hj, Function.update_self, Function.update_self]
    exact hstands
  · rw [Function.update_of_ne hj, Function.update_of_ne hj]
    exact h.connections j

/-- A connection and the shared state move on, and the same reading is due as before. -/
theorem move (h : Serialised ring key registry s t) (hstands : Stands ring key registry c d)
    (hdue : c.task.due = (s.connections i).task.due)
    (hahead : ∀ due, Ahead key registry due s.gateway t.gateway →
      Ahead key registry due gateway gateway') :
    Serialised ring key registry ({ s with gateway }.setConnection i c)
      ({ t with gateway := gateway' }.setConnection i d) where
  connections := h.connections_set hstands
  gateway := by
    obtain ⟨due, hlookup, hdueAhead⟩ := h.gateway
    refine ⟨due, fun j => ?_, hahead _ hdueAhead⟩
    rw [System.task_setConnection]
    by_cases hj : j = i
    · rw [if_pos hj, hdue, hlookup, hj]
    · rw [if_neg hj]
      exact hlookup j

/-- The task goes on, and the turn does not come to anything yet, or has before. -/
theorem stay (h : Serialised ring key registry s t)
    (hstands : Stands ring key registry c (t.connections i))
    (hdue : c.task.due = (s.connections i).task.due) :
    Serialised ring key registry (s.setConnection i c) t := by
  have hmove : Serialised ring key registry ({ s with gateway := s.gateway }.setConnection i c)
      ({ t with gateway := t.gateway }.setConnection i (t.connections i)) :=
    h.move hstands hdue fun _ hahead => hahead
  exact t.setConnection_self i ▸ hmove

/-- A check has passed here, and there the whole turn is over. -/
theorem check (h : Serialised ring key registry s t) (hnone : (s.connections i).task.due = none)
    (guard : ReplayGuard) (frame : SecurePipeFrame) (plaintext : Bytes) (stream : TcpStream) :
    Serialised ring key registry
      ({ s with gateway := s.gateway.withGuard guard }.setConnection i
        ⟨stream, .accepted frame plaintext⟩)
      ({ t with
          gateway := (t.gateway.withGuard guard).withDue (TaskState.accepted frame plaintext).due }
        |>.setConnection i ⟨stream, .reading⟩) := by
  cases hdue : (TaskState.accepted frame plaintext).due with
  | none =>
      exact h.move (.accepted frame plaintext stream) (hdue.trans hnone.symm) fun _ hahead =>
        hahead.withGuard guard
  | some r =>
      refine ⟨h.connections_set (.accepted frame plaintext stream), ?_⟩
      obtain ⟨due, hlookup, hahead⟩ := h.gateway
      refine ⟨due.insert i r, fun j => ?_, ?_⟩
      · rw [System.task_setConnection]
        by_cases hj : j = i
        · rw [if_pos hj, hj, AList.lookup_insert, hdue]
        · rw [if_neg hj, AList.lookup_insert_ne hj]
          exact hlookup j
      · rw [Due.readings_insert ((hlookup i).trans hnone)]
        exact (hahead.withGuard guard).send r

/-- The task sends what is due. -/
theorem sends (h : Serialised ring key registry s t) {stream : TcpStream} {frame : SecurePipeFrame}
    {plaintext : Bytes} (hc : s.connections i = ⟨stream, .accepted frame plaintext⟩) :
    Serialised ring key registry
      ({ s with gateway := s.gateway.withDue (TaskState.accepted frame plaintext).due }
        |>.setConnection i ⟨stream, .reading⟩) t := by
  have hstands := h.connections i
  have hd : t.connections i = ⟨stream, .reading⟩ := by
    rw [hc] at hstands
    generalize t.connections i = d at hstands
    cases hstands
    rfl
  have hstands' : Stands ring key registry ⟨stream, .reading⟩ (t.connections i) := by
    rw [hd]
    exact .reading stream
  cases hdue : (TaskState.accepted frame plaintext).due with
  | none => exact h.stay hstands' (by rw [hc]; exact hdue.symm)
  | some r =>
      refine ⟨fun j => ?_, ?_⟩
      · have hset := h.connections_set (i := i) hstands' j
        rwa [t.setConnection_self] at hset
      obtain ⟨due, hlookup, hahead⟩ := h.gateway
      have hdue' : due.lookup i = some r := by rw [hlookup, hc, hdue]
      refine ⟨due.erase i, fun j => ?_, ?_⟩
      · rw [System.task_setConnection]
        by_cases hj : j = i
        · rw [if_pos hj, hj, AList.lookup_erase]
          rfl
        · rw [if_neg hj, AList.lookup_erase_ne hj]
          exact hlookup j
      · exact (hahead.perm (Due.readings_erase hdue')).sent

/-! ### Each step is a turn, or no turn -/

/-- What a step of a task does, given how one connection and the shared state look. -/
theorem run (h : Serialised ring key registry s t) (i : Nat) (now : SystemTime) :
    Serialised ring key registry (s.step ring (.run i now)).1 t ∨
      Serialised ring key registry (s.step ring (.run i now)).1
        (t.stepTurn ring (.run i now)) := by
  rw [System.step_run]
  simp only [System.stepTurn]
  have hstands := h.connections i
  obtain ⟨due, -, hahead⟩ := h.gateway
  have hkey := hahead.key
  have hregistry := hahead.registry
  have hkey' := hahead.key'
  have hregistry' := hahead.registry'
  have hguard := hahead.guard
  clear hahead
  generalize hc : s.connections i = c at hstands ⊢
  generalize hd : t.connections i = d at hstands ⊢
  cases hstands with
  | finished stream stream' =>
      refine .inl (h.stay ?_ (by rw [hc]; rfl))
      rw [hd]
      exact .finished stream stream'
  | accepted frame plaintext stream =>
      left
      simp only [stepTask, publish_due]
      exact h.sends hc
  | reading stream =>
      obtain ⟨bytes, ending⟩ := stream
      rcases readTurn_cases bytes ending with ⟨e, hread⟩ | ⟨-, hread⟩ |
        ⟨block, rest, -, -, -, hread⟩ | ⟨payloadLen, hread⟩ | ⟨raw, rest, rfl, hraw, hread⟩
      · rw [takeTurn_error hread]
        simp only [stepTask, hread]
        exact .inr (h.move (.finished _ _) (by rw [hc]; rfl) fun _ hahead => hahead)
      · simp only [stepTask, hread]
        refine .inl (h.stay ?_ (by rw [hc]))
        rw [hd]
        exact .reading _
      · rw [takeTurn_badMagic hread]
        simp only [stepTask, hread]
        exact .inr (h.move (.reading _) (by rw [hc]) fun _ hahead => hahead.withEvent _)
      · rw [takeTurn_payloadTooLarge hread]
        simp only [stepTask, hread]
        exact .inr (h.move (.finished _ _) (by rw [hc]; rfl) fun _ hahead => hahead.withEvent _)
      · simp only [stepTask, hread]
        refine .inl (h.stay ?_ (by rw [hc]; rfl))
        rw [hd]
        exact .received hraw rest ending
  | @received raw hraw rest ending =>
      rcases authenticate_cases ring key registry raw with
        ⟨event, -, hauth⟩ | ⟨frame, plaintext, hauthentic, hauth⟩
      · right
        have hprocess : processFrame ring now raw t.gateway = (.ok (), t.gateway.withEvent event) :=
          Stateful.bind_ok (hauth t.gateway hkey' hregistry')
        rw [takeTurn_frame (readTurn_frame hraw rest ending) hprocess]
        simp only [stepTask, hauth s.gateway hkey hregistry]
        exact h.move (.reading _) (by rw [hc]; rfl) fun _ hahead => hahead.withEvent event
      · left
        simp only [stepTask, hauth s.gateway hkey hregistry]
        refine h.stay ?_ (by rw [hc]; rfl)
        rw [hd]
        exact .authenticated hraw hauthentic rest ending
  | @authenticated raw plaintext frame hraw hauthentic rest ending =>
      right
      have hread := readTurn_frame hraw rest ending
      have hauth : processFrame ring now raw t.gateway =
          (do
            if !(← replayCheck now frame) then return () else
            publish frame plaintext : Gateway Unit) t.gateway := by
        rcases authenticate_cases ring key registry raw with
          ⟨event, hnone, -⟩ | ⟨frame', plaintext', hauthentic', hauth⟩
        · exact absurd ⟨frame, plaintext, hauthentic⟩ hnone
        · obtain ⟨rfl, rfl⟩ := hauthentic.unique hauthentic'
          exact Stateful.bind_ok (hauth t.gateway hkey' hregistry')
      rcases replayCheck_cases now s.gateway.replayGuard frame with
        ⟨-, hcheck⟩ | ⟨-, -, event, hcheck⟩ | ⟨-, hcheck⟩
      · rw [takeTurn_frame_panic hread (hauth.trans (Stateful.bind_panic (hcheck _ hguard)))]
        simp only [stepTask, hcheck s.gateway rfl]
        exact h.move (.finished _ _) (by rw [hc]; rfl) fun _ hahead => hahead
      · rw [takeTurn_frame hread (hauth.trans (Stateful.bind_ok (hcheck _ hguard)))]
        simp only [stepTask, hcheck s.gateway rfl]
        exact h.move (.reading _) (by rw [hc]; rfl) fun _ hahead => hahead.withEvent event
      · rw [takeTurn_frame hread ((hauth.trans (Stateful.bind_ok (hcheck _ hguard))).trans
          (publish_due frame plaintext _))]
        simp only [stepTask, hcheck s.gateway rfl]
        exact h.check (by rw [hc]; rfl) _ frame plaintext _

theorem step (h : Serialised ring key registry s t) (action : Action) :
    Serialised ring key registry (s.step ring action).1 t ∨
      Serialised ring key registry (s.step ring action).1 (t.stepTurn ring action) := by
  cases action with
  | produce p => exact .inr ⟨h.connections, h.gateway⟩
  | run i now => exact h.run i now
  | deliver i bytes =>
      right
      simp only [System.stepTurn]
      rw [System.step_arrive, System.step_arrive]
      refine h.move ((h.connections i).arrive bytes) ?_ fun _ hahead => hahead
      unfold Connection.arrive
      split <;> rfl
  | hangUp i ending =>
      right
      simp only [System.stepTurn]
      rw [System.step_ends, System.step_ends]
      refine h.move ((h.connections i).hangUp ending) ?_ fun _ hahead => hahead
      unfold Connection.hangUp
      split <;> rfl

end Serialised

/-- **Every run of the tasks has the effect of a run of whole turns**, each turn in the place of
one step of the run. The guard is the same and so are the security events, in the same order.
What has been published is part of what the turns publish, and all of it, up to its order, once
no task has a reading left to send. A connection whose task is between two turns is as the turns
leave it. -/
theorem turns_serialisable (key : SessionKey) (registry : DeviceRegistry) (actions : List Action) :
    ∃ turns : List Action, turns.Sublist actions ∧
      let s := (systemMachine ring).run (.start key registry) actions
      let t := (sequentialMachine ring).run (.start key registry) turns
      t.gateway.replayGuard = s.gateway.replayGuard ∧
      t.gateway.eventsTx = s.gateway.eventsTx ∧
      s.gateway.readingsTx.Subperm t.gateway.readingsTx ∧
      ((∀ i, (s.connections i).task.due = none) →
        s.gateway.readingsTx.Perm t.gateway.readingsTx) ∧
      ∀ i, ((s.connections i).task = .reading → t.connections i = s.connections i) ∧
        ((s.connections i).task = .finished ↔ (t.connections i).task = .finished) := by
  obtain ⟨turns, hsub, hconnections, due, hlookup, hahead⟩ :=
    (systemMachine ring).run_stutter (sequentialMachine ring)
      (fun _ _ action h => h.step action) (Serialised.start ring key registry) actions
  refine ⟨turns, hsub, hahead.guard, hahead.events, ?_, ?_, fun i => ?_⟩
  · exact (List.sublist_append_left _ _).subperm.trans hahead.readings.symm.subperm
  · intro hsettled
    have hempty : due = ∅ := by
      refine AList.ext (List.eq_nil_iff_forall_not_mem.mpr fun ⟨i, r⟩ hmem => ?_)
      have hsome : due.lookup i = some r := AList.mem_lookup_iff.mpr hmem
      rw [hlookup, hsettled] at hsome
      exact nomatch hsome
    have hperm := hahead.readings
    rw [hempty] at hperm
    exact (hperm.trans (by rw [show Due.readings ∅ = [] from rfl, List.append_nil])).symm
  · have hstands := hconnections i
    generalize ((systemMachine ring).run (.start key registry) actions).connections i = c
      at hstands ⊢
    generalize ((sequentialMachine ring).run (.start key registry) turns).connections i = d
      at hstands ⊢
    cases hstands with
    | reading stream => exact ⟨fun _ => rfl, iff_of_false nofun nofun⟩
    | received hraw rest ending => exact ⟨nofun, iff_of_false nofun nofun⟩
    | authenticated hraw hauth rest ending => exact ⟨nofun, iff_of_false nofun nofun⟩
    | accepted frame plaintext stream => exact ⟨nofun, iff_of_false nofun nofun⟩
    | finished stream stream' => exact ⟨nofun, iff_of_true rfl rfl⟩

/-! ### The loop alone -/

variable (ring) in
/-- A turn of the loop whose clock counts its calls, and a turn at one clock reading. -/
theorem turn_clocked (clock : Nat → SystemTime) (stream : TcpStream) (gateway : GatewayState)
    (calls : Nat) :
    ∃ calls' ≥ calls, turn (fun deviceId eventType detail =>
        onGateway (emitSecurityEvent deviceId eventType detail)) (processFrameAt ring clock) stream
          (gateway, calls) =
      ((turn emitSecurityEvent (processFrame ring (clock calls)) stream gateway).1,
        ((turn emitSecurityEvent (processFrame ring (clock calls)) stream gateway).2, calls')) := by
  obtain ⟨bytes, ending⟩ := stream
  rcases readTurn_cases bytes ending with ⟨e, hread⟩ | ⟨-, hread⟩ |
    ⟨block, rest, -, -, -, hread⟩ | ⟨payloadLen, hread⟩ | ⟨raw, rest, -, -, hread⟩
  · refine ⟨calls, le_rfl, ?_⟩
    rw [turn_error hread, turn_error hread]
    rfl
  · refine ⟨calls, le_rfl, ?_⟩
    unfold turn
    rw [hread]
    rfl
  · refine ⟨calls, le_rfl, ?_⟩
    rw [turn_badMagic hread, turn_badMagic hread]
    rfl
  · refine ⟨calls, le_rfl, ?_⟩
    rw [turn_payloadTooLarge hread, turn_payloadTooLarge hread]
    rfl
  · refine ⟨calls + 1, Nat.le_succ calls, ?_⟩
    rw [turn_frame hread, turn_frame hread]
    have hcall : processFrameAt ring clock raw (gateway, calls) =
        ((processFrame ring (clock calls) raw gateway).1,
          ((processFrame ring (clock calls) raw gateway).2, calls + 1)) := rfl
    rw [Stateful.bind_apply, Stateful.bind_apply, hcall]
    rcases processFrame ring (clock calls) raw gateway with ⟨_ | _ | _, _⟩ <;> rfl

/-- What the loop has come to is what the turns of a connection have come to. -/
structure Serves (i : Nat) (served : Result TcpStream × ClockedGateway) (t : System) : Prop where
  gateway : t.gateway = served.2.1
  running (rest : TcpStream) : served.1 = .ok rest ↔ t.connections i = ⟨rest, .reading⟩
  returned : (∀ rest, served.1 ≠ .ok rest) ↔ (t.connections i).task = .finished

/-- The loop has returned, or has panicked. -/
theorem Serves.of_finished {i : Nat} {served : Result TcpStream × ClockedGateway} {t : System}
    (hgateway : t.gateway = served.2.1) (hfailed : ∀ rest, served.1 ≠ .ok rest)
    (hfinished : (t.connections i).task = .finished) : Serves i served t where
  gateway := hgateway
  running rest := iff_of_false (hfailed rest) fun h => nomatch hfinished.symm.trans
    (congrArg Connection.task h)
  returned := iff_of_true hfailed hfinished

variable (ring) in
/-- However its clock goes on, there are clock readings, in the order of the clock, with which the
turns of one connection leave the gateway as `handle_connection` does, and the connection as
well. -/
theorem serves_turns (clock : Nat → SystemTime) (turns : Nat) (i : Nat) (s : System)
    (calls : Nat) (stream : TcpStream) (hs : s.connections i = ⟨stream, .reading⟩) :
    ∃ ticks : List Nat, ticks.Pairwise (· ≤ ·) ∧ (∀ tick ∈ ticks, calls ≤ tick) ∧
      Serves i (serveConnection ring clock turns stream (s.gateway, calls))
        ((sequentialMachine ring).run s (ticks.map fun tick => .run i (clock tick))) := by
  induction turns generalizing s calls stream with
  | zero =>
      refine ⟨[], .nil, nofun, rfl, fun rest => ?_, ?_⟩
      · rw [List.map_nil, Machine.run_nil, hs]
        exact ⟨fun h => by cases h; rfl, fun h => by cases h; rfl⟩
      · rw [List.map_nil, Machine.run_nil, hs]
        exact ⟨fun h => absurd rfl (h stream), nofun⟩
  | succ turns ih =>
      obtain ⟨calls', hcalls, hturn⟩ := turn_clocked ring clock stream s.gateway calls
      have hserved : serveConnection ring clock (turns + 1) stream (s.gateway, calls) = _ :=
        Stateful.bind_apply _ (serveConnection ring clock turns) (s.gateway, calls)
      have hstep : s.stepTurn ring (.run i (clock calls)) =
          ({ s with gateway := (takeTurn ring (clock calls) s.gateway ⟨stream, .reading⟩).1 }
            |>.setConnection i (takeTurn ring (clock calls) s.gateway ⟨stream, .reading⟩).2) := by
        simp only [System.stepTurn, hs]
      rw [hserved, hturn]
      -- the turn lets the loop go on, or it is the last one
      rcases hresult : turn emitSecurityEvent (processFrame ring (clock calls)) stream s.gateway with
        ⟨rest | e | p, gateway⟩
      · simp only [takeTurn, hresult] at hstep
        obtain ⟨ticks, hordered, hlater, hrest⟩ :=
          ih (s.stepTurn ring (.run i (clock calls))) calls' rest (by
            rw [hstep]
            exact Function.update_self _ _ _)
        have hfrom : ∀ tick ∈ ticks, calls ≤ tick := fun tick htick =>
          hcalls.trans (hlater tick htick)
        refine ⟨calls :: ticks, List.pairwise_cons.mpr ⟨hfrom, hordered⟩,
          List.forall_mem_cons.mpr ⟨le_rfl, hfrom⟩, ?_⟩
        have hgateway : (s.stepTurn ring (.run i (clock calls))).gateway = gateway := by
          rw [hstep]
          rfl
        rw [hgateway] at hrest
        exact hrest
      all_goals
        simp only [takeTurn, hresult] at hstep
        have hfinished : ((s.stepTurn ring (.run i (clock calls))).connections i).task =
            .finished := by
          rw [hstep, System.task_setConnection, if_pos rfl]
        refine ⟨[calls], List.pairwise_singleton _ _, List.forall_mem_singleton.mpr le_rfl, ?_⟩
        exact .of_finished (t := s.stepTurn ring (.run i (clock calls))) (by rw [hstep]; rfl) nofun
          hfinished

/-! ### Each turn is a few steps -/

/-- The tasks have just finished the turns that have been taken: the two systems differ at most in
what is left of the streams of finished connections. -/
structure Caught (s t : System) : Prop where
  gateway : s.gateway = t.gateway
  produced : s.produced = t.produced
  connections (i : Nat) : s.connections i = t.connections i ∧ (s.connections i).task = .reading ∨
    (s.connections i).task = .finished ∧ (t.connections i).task = .finished

namespace Caught

variable {s t : System} {i : Nat} {c d : Connection} {gateway : GatewayState}

theorem set (h : Caught s t)
    (hcd : c = d ∧ c.task = .reading ∨ c.task = .finished ∧ d.task = .finished) :
    Caught ({ s with gateway }.setConnection i c) ({ t with gateway }.setConnection i d) where
  gateway := rfl
  produced := h.produced
  connections j := by
    simp only [System.setConnection]
    by_cases hj : j = i
    · rw [hj, Function.update_self, Function.update_self]
      exact hcd
    · rw [Function.update_of_ne hj, Function.update_of_ne hj]
      exact h.connections j

end Caught

variable (ring) in
/-- A step of a task that nobody interferes with. -/
def stepAlone (i : Nat) (now : SystemTime) (state : GatewayState × Connection) :
    GatewayState × Connection :=
  ((stepTask ring i now state.1 state.2).1, (stepTask ring i now state.1 state.2).2.1)

/-- Steps of one task alone concern the shared state and one connection. -/
theorem run_alone (s : System) (i : Nat) (now : SystemTime) (n : Nat) :
    (systemMachine ring).run s (List.replicate n (.run i now)) =
      ({ s with gateway := ((stepAlone ring i now)^[n] (s.gateway, s.connections i)).1 }
        |>.setConnection i ((stepAlone ring i now)^[n] (s.gateway, s.connections i)).2) := by
  induction n generalizing s with
  | zero => exact (s.setConnection_self i).symm
  | succ n ih =>
      rw [List.replicate_succ, Machine.run_cons, ih]
      rw [show (systemMachine ring).step s (.run i now) = s.step ring (.run i now) from rfl,
        System.step_run]
      simp only [System.setConnection, Function.update_self, Function.update_idem,
        Function.iterate_succ_apply]
      rfl

variable (ring) in
/-- **A turn is one to four steps of its task**, or none if the task has finished. -/
theorem turn_steps (i : Nat) (now : SystemTime) (gateway : GatewayState) {connection : Connection}
    (h : connection.task = .reading ∨ connection.task = .finished) :
    ∃ n ≤ 4, ∃ d, (stepAlone ring i now)^[n] (gateway, connection) =
        ((takeTurn ring now gateway connection).1, d) ∧
      (d = (takeTurn ring now gateway connection).2 ∧ d.task = .reading ∨
        d.task = .finished ∧ (takeTurn ring now gateway connection).2.task = .finished) := by
  obtain ⟨⟨bytes, ending⟩, task⟩ := connection
  rcases h with rfl | rfl
  swap
  · exact ⟨0, by decide, _, rfl, .inr ⟨rfl, rfl⟩⟩
  rcases readTurn_cases bytes ending with ⟨e, hread⟩ | ⟨-, hread⟩ |
    ⟨block, rest, -, -, -, hread⟩ | ⟨payloadLen, hread⟩ | ⟨raw, rest, -, -, hread⟩
  · refine ⟨1, by decide, ⟨⟨bytes, ending⟩, .finished⟩, ?_, .inr ⟨rfl, ?_⟩⟩
    · simp only [Function.iterate_one, stepAlone, stepTask, hread, takeTurn_error hread]
    · rw [takeTurn_error hread]
  · refine ⟨0, by decide, ⟨⟨bytes, ending⟩, .reading⟩, ?_, .inl ⟨?_, rfl⟩⟩
    · simp only [takeTurn, turn, hread]
      rfl
    · simp only [takeTurn, turn, hread]
      rfl
  · refine ⟨1, by decide, ⟨⟨rest, ending⟩, .reading⟩, ?_, .inl ⟨?_, rfl⟩⟩
    · rw [takeTurn_badMagic hread]
      simp only [Function.iterate_one, stepAlone, stepTask, hread]
      rfl
    · rw [takeTurn_badMagic hread]
  · refine ⟨1, by decide, ⟨⟨bytes, ending⟩, .finished⟩, ?_, .inr ⟨rfl, ?_⟩⟩
    · rw [takeTurn_payloadTooLarge hread]
      simp only [Function.iterate_one, stepAlone, stepTask, hread]
      rfl
    · rw [takeTurn_payloadTooLarge hread]
  have hreceived : stepAlone ring i now (gateway, ⟨⟨bytes, ending⟩, .reading⟩) =
      (gateway, ⟨⟨rest, ending⟩, .received raw⟩) := by
    simp only [stepAlone, stepTask, hread]
  rcases authenticate_cases ring gateway.key gateway.deviceRegistry raw with
    ⟨event, -, hauth⟩ | ⟨frame, plaintext, -, hauth⟩
  · have hauth := hauth gateway rfl rfl
    have hprocess : processFrame ring now raw gateway = _ := Stateful.bind_ok hauth
    have hturn := takeTurn_frame hread hprocess
    refine ⟨2, by decide, ⟨⟨rest, ending⟩, .reading⟩, ?_, .inl ⟨?_, rfl⟩⟩
    · rw [hturn, Function.iterate_succ_apply, hreceived]
      simp only [Function.iterate_one, stepAlone, stepTask, hauth]
    · rw [hturn]
  have hauth := hauth gateway rfl rfl
  have hheld : stepAlone ring i now (gateway, ⟨⟨rest, ending⟩, .received raw⟩) =
      (gateway, ⟨⟨rest, ending⟩, .authenticated frame plaintext⟩) := by
    simp only [stepAlone, stepTask, hauth]
  rcases replayCheck_cases now gateway.replayGuard frame with
    ⟨-, hcheck⟩ | ⟨-, -, event, hcheck⟩ | ⟨-, hcheck⟩
  · have hcheck := hcheck gateway rfl
    have hprocess : processFrame ring now raw gateway = _ :=
      (Stateful.bind_ok hauth).trans (Stateful.bind_panic hcheck)
    have hturn := takeTurn_frame_panic hread hprocess
    refine ⟨3, by decide, ⟨⟨rest, ending⟩, .finished⟩, ?_, .inr ⟨rfl, ?_⟩⟩
    · rw [hturn, Function.iterate_succ_apply, hreceived, Function.iterate_succ_apply, hheld]
      simp only [Function.iterate_one, stepAlone, stepTask, hcheck]
    · rw [hturn]
  · have hcheck := hcheck gateway rfl
    have hprocess : processFrame ring now raw gateway = _ :=
      (Stateful.bind_ok hauth).trans (Stateful.bind_ok hcheck)
    have hturn := takeTurn_frame hread hprocess
    refine ⟨3, by decide, ⟨⟨rest, ending⟩, .reading⟩, ?_, .inl ⟨?_, rfl⟩⟩
    · rw [hturn, Function.iterate_succ_apply, hreceived, Function.iterate_succ_apply, hheld]
      simp only [Function.iterate_one, stepAlone, stepTask, hcheck]
    · rw [hturn]
  · have hcheck := hcheck gateway rfl
    have hprocess : processFrame ring now raw gateway = _ :=
      ((Stateful.bind_ok hauth).trans (Stateful.bind_ok hcheck)).trans (publish_due frame plaintext _)
    have hturn := takeTurn_frame hread hprocess
    refine ⟨4, by decide, ⟨⟨rest, ending⟩, .reading⟩, ?_, .inl ⟨?_, rfl⟩⟩
    · rw [hturn, Function.iterate_succ_apply, hreceived, Function.iterate_succ_apply, hheld,
        Function.iterate_succ_apply]
      simp only [Function.iterate_one, stepAlone, stepTask, hcheck, publish_due]
    · rw [hturn]

/-- The steps for a turn: at most four of its task, or the one that the network takes. -/
def Expands : Action → List Action → Prop
  | .run i now, steps => ∃ n ≤ 4, steps = List.replicate n (.run i now)
  | action, steps => steps = [action]

namespace Caught

variable {s t : System}

theorem run (h : Caught s t) (i : Nat) (now : SystemTime) :
    ∃ n ≤ 4, Caught ((systemMachine ring).run s (List.replicate n (.run i now)))
      (t.stepTurn ring (.run i now)) := by
  have hidle : (t.connections i).task = .reading ∨ (t.connections i).task = .finished := by
    rcases h.connections i with ⟨heq, hreading⟩ | ⟨-, hfinished⟩
    · exact .inl (heq ▸ hreading)
    · exact .inr hfinished
  obtain ⟨n, hn, d, hsteps, hd⟩ := turn_steps ring i now t.gateway hidle
  rcases h.connections i with ⟨heq, -⟩ | ⟨hfinished, hfinished'⟩
  · refine ⟨n, hn, ?_⟩
    rw [run_alone, h.gateway, heq, hsteps]
    exact h.set hd
  · refine ⟨0, by decide, ?_⟩
    have hstay : t.stepTurn ring (.run i now) = t := by
      simp only [System.stepTurn, takeTurn, hfinished']
      exact t.setConnection_self i
    rwa [hstay]

/-- What the network does, it does to both. -/
theorem setConnection (h : Caught s t) (i : Nat) {f : Connection → Connection}
    (hf : ∀ c, (f c).task = c.task) :
    Caught (s.setConnection i (f (s.connections i))) (t.setConnection i (f (t.connections i))) := by
  have hcd : f (s.connections i) = f (t.connections i) ∧ (f (s.connections i)).task = .reading ∨
      (f (s.connections i)).task = .finished ∧ (f (t.connections i)).task = .finished := by
    rw [hf, hf]
    exact (h.connections i).imp_left fun ⟨heq, hreading⟩ => ⟨congrArg f heq, hreading⟩
  have hset : Caught ({ s with gateway := t.gateway }.setConnection i (f (s.connections i)))
      ({ t with gateway := t.gateway }.setConnection i (f (t.connections i))) := h.set hcd
  rwa [← h.gateway] at hset

theorem step (h : Caught s t) (action : Action) :
    ∃ steps, Expands action steps ∧
      Caught ((systemMachine ring).run s steps) (t.stepTurn ring action) := by
  cases action with
  | run i now =>
      obtain ⟨n, hn, hrun⟩ := h.run i now
      exact ⟨_, ⟨n, hn, rfl⟩, hrun⟩
  | produce p =>
      exact ⟨[.produce p], rfl, h.gateway, congrArg (· ++ [p]) h.produced, h.connections⟩
  | deliver i bytes =>
      refine ⟨[.deliver i bytes], rfl, ?_⟩
      show Caught (s.step ring (.deliver i bytes)).1 (t.step ring (.deliver i bytes)).1
      rw [System.step_arrive, System.step_arrive]
      refine h.setConnection i (f := Connection.arrive bytes) fun c => ?_
      unfold Connection.arrive
      split <;> rfl
  | hangUp i ending =>
      refine ⟨[.hangUp i ending], rfl, ?_⟩
      show Caught (s.step ring (.hangUp i ending)).1 (t.step ring (.hangUp i ending)).1
      rw [System.step_ends, System.step_ends]
      refine h.setConnection i (f := Connection.hangUp ending) fun c => ?_
      unfold Connection.hangUp
      split <;> rfl

end Caught

variable (ring) in
/-- **Each run of whole turns is a run of the tasks**, each turn being a few steps in a row, so that
the turns say no more than the tasks can do. -/
theorem turns_are_runs {s t : System} (h : Caught s t) (turns : List Action) :
    ∃ groups, List.Forall₂ Expands turns groups ∧
      Caught ((systemMachine ring).run s groups.flatten) ((sequentialMachine ring).run t turns) :=
  (systemMachine ring).run_expand (sequentialMachine ring) (fun _ _ action h => h.step action) h
    turns

/-- The steps for turns of one connection are steps of its task, in the order of the clock if the
turns are. -/
theorem flatten_expands {i : Nat} {clock : Nat → SystemTime} {ticks : List Nat}
    {groups : List (List Action)}
    (h : List.Forall₂ Expands (ticks.map fun tick => .run i (clock tick)) groups)
    (hticks : ticks.Pairwise (· ≤ ·)) :
    ∃ ticks' : List Nat, ticks'.Pairwise (· ≤ ·) ∧ ticks' ⊆ ticks ∧
      groups.flatten = ticks'.map fun tick => .run i (clock tick) := by
  rw [List.forall₂_map_left_iff] at h
  induction h with
  | nil => exact ⟨[], .nil, nofun, rfl⟩
  | @cons tick group ticks groups hgroup hrest ih =>
      obtain ⟨n, -, rfl⟩ := hgroup
      obtain ⟨hfirst, hticks⟩ := List.pairwise_cons.mp hticks
      obtain ⟨ticks', hordered, hsub, hflatten⟩ := ih hticks
      refine ⟨List.replicate n tick ++ ticks', ?_, ?_, ?_⟩
      · refine List.pairwise_append.mpr ⟨List.pairwise_replicate.mpr (.inr le_rfl), hordered, ?_⟩
        intro a ha b hb
        rw [List.eq_of_mem_replicate ha]
        exact hfirst b (hsub hb)
      · refine List.append_subset.mpr ⟨fun a ha => ?_, List.subset_cons_of_subset tick hsub⟩
        rw [List.eq_of_mem_replicate ha]
        exact List.mem_cons_self
      · rw [List.flatten_cons, hflatten, List.map_append, List.map_replicate]

theorem Serves.of_caught {i : Nat} {served : Result TcpStream × ClockedGateway} {s t : System}
    (h : Serves i served t) (hcaught : Caught s t) : Serves i served s where
  gateway := hcaught.gateway.trans h.gateway
  running rest := by
    rw [h.running]
    rcases hcaught.connections i with ⟨heq, -⟩ | ⟨hfinished, hfinished'⟩
    · rw [heq]
    · exact iff_of_false (fun hc => nomatch hfinished'.symm.trans (congrArg Connection.task hc))
        fun hc => nomatch hfinished.symm.trans (congrArg Connection.task hc)
  returned := by
    rw [h.returned]
    rcases hcaught.connections i with ⟨heq, -⟩ | ⟨hfinished, hfinished'⟩
    · rw [heq]
    · exact iff_of_true hfinished' hfinished

/-- **`handle_connection` is a run of the tasks.** Whatever arrives on a connection, however it
ends and whatever the clock reads, let just these bytes and this ending arrive, on this connection
and on no other, and let just its task take steps, at clock readings in the order of the clock. There
is such a run that comes to what the loop comes to after any number of turns: the same state of the
gateway, the same rest of the stream if the loop has not returned, and a finished task if it
has. -/
theorem serveConnection_is_run (key : SessionKey) (registry : DeviceRegistry) (i : Nat)
    (bytes : Bytes) (ending : StreamEnd) (clock : Nat → SystemTime) (turns : Nat) :
    ∃ ticks : List Nat, ticks.Pairwise (· ≤ ·) ∧
      Serves i
        (serveConnection ring clock turns ⟨bytes, ending⟩ ((System.start key registry).gateway, 0))
        ((systemMachine ring).run (.start key registry)
          (.deliver i bytes :: .hangUp i ending :: ticks.map fun tick => .run i (clock tick))) := by
  have hopened : (sequentialMachine ring).run (.start key registry)
      [.deliver i bytes, .hangUp i ending] =
      (System.start key registry).setConnection i ⟨⟨bytes, ending⟩, .reading⟩ := by
    show ((((System.start key registry).step ring (.deliver i bytes)).1).step ring
      (.hangUp i ending)).1 = _
    rw [System.step_arrive, System.step_ends]
    simp only [System.setConnection, Function.update_self, Function.update_idem]
    rfl
  obtain ⟨ticks, hordered, -, hserves⟩ := serves_turns ring clock turns i
    ((System.start key registry).setConnection i ⟨⟨bytes, ending⟩, .reading⟩) 0 ⟨bytes, ending⟩
    (Function.update_self _ _ _)
  change Serves i (serveConnection ring clock turns ⟨bytes, ending⟩
    ((System.start key registry).gateway, 0)) _ at hserves
  rw [← hopened, ← Machine.run_append] at hserves
  obtain ⟨groups, hgroups, hcaught⟩ := turns_are_runs ring
    (s := .start key registry) ⟨rfl, rfl, fun _ => .inl ⟨rfl, rfl⟩⟩
    ([.deliver i bytes, .hangUp i ending] ++ ticks.map fun tick => .run i (clock tick))
  -- the network takes one step for each of the first two, the rest are steps of the task
  rcases hgroups with _ | ⟨hdeliver, _ | ⟨hhangUp, hruns⟩⟩
  obtain ⟨ticks', hordered', -, hflatten⟩ := flatten_expands hruns hordered
  refine ⟨ticks', hordered', ?_⟩
  have hserved := hserves.of_caught hcaught
  rw [List.flatten_cons, List.flatten_cons, hflatten] at hserved
  subst hdeliver hhangUp
  exact hserved

end SecurePipe
