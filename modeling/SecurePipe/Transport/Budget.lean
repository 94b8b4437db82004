import Mathlib.Algebra.BigOperators.Group.Finset.Basic
import SecurePipe.Transport.Deframe
import SecurePipe.Transport.Sequential

/-!
# SecurePipe.Transport.Budget

What the peers can make the gateway do, and keep, over all interleavings of the tasks.

`stepTask_moves` lists what a step of a task does to the shared state and to its connection. From
it follow three bounds, each by a quantity that no step lets grow:

* a task that gets nothing new has read all it can after a number of steps of its own that the
  bytes on its connection bound (`task_settles`);
* **events and readings are paid for in bytes**: a header's worth for each event, and the least
  length of a frame for each reading (`output_bounded`);
* what the gateway remembers is bounded by its whitelist, and what a task holds by the length of
  a frame (`footprint`).
-/

namespace SecurePipe

open Rust

/-! ### What a step of a task does -/

/-- A turn that finds a header that declares too much has found a header. -/
theorem readTurn_payloadTooLarge_length {stream : TcpStream} {payloadLen : Nat}
    (h : readTurn stream = .ok (.payloadTooLarge payloadLen)) :
    HEADER_SIZE ≤ stream.bytes.length := by
  by_contra hshort
  unfold readTurn TcpStream.readExact at h
  rw [if_neg hshort] at h
  cases hending : stream.ending with
  | waiting => rw [hending] at h; cases h
  | eof => rw [hending] at h; cases h
  | failed message => rw [hending] at h; cases h

variable (ring : Ring)

/-- What a step of a task does to the shared state and to its connection. -/
inductive Moves : GatewayState → Connection → GatewayState → Connection → Prop
  | waits {gateway : GatewayState} {stream : TcpStream} (hread : readTurn stream = .ok .waiting) :
      Moves gateway ⟨stream, .reading⟩ gateway ⟨stream, .reading⟩
  | rests (gateway : GatewayState) (stream : TcpStream) :
      Moves gateway ⟨stream, .finished⟩ gateway ⟨stream, .finished⟩
  | ends (gateway : GatewayState) (stream : TcpStream) (task : TaskState) :
      Moves gateway ⟨stream, task⟩ gateway ⟨stream, .finished⟩
  | skips (gateway : GatewayState) {block : Bytes} (hlen : block.length = HEADER_SIZE)
      (rest : Bytes) (ending : StreamEnd) (event : SecurityEvent) :
      Moves gateway ⟨⟨block ++ rest, ending⟩, .reading⟩ (gateway.withEvent event)
        ⟨⟨rest, ending⟩, .reading⟩
  | refusesLength (gateway : GatewayState) {stream : TcpStream}
      (hlen : HEADER_SIZE ≤ stream.bytes.length) (event : SecurityEvent) :
      Moves gateway ⟨stream, .reading⟩ (gateway.withEvent event) ⟨stream, .finished⟩
  | receives (gateway : GatewayState) {raw : Bytes} (hraw : IsWireFrame raw) (rest : Bytes)
      (ending : StreamEnd) :
      Moves gateway ⟨⟨raw ++ rest, ending⟩, .reading⟩ gateway ⟨⟨rest, ending⟩, .received raw⟩
  | refusesFrame (gateway : GatewayState) (stream : TcpStream) (raw : Bytes)
      (event : SecurityEvent) :
      Moves gateway ⟨stream, .received raw⟩ (gateway.withEvent event) ⟨stream, .reading⟩
  | authenticates {gateway : GatewayState} {raw plaintext : Bytes} {frame : SecurePipeFrame}
      (hauth : Authenticated ring gateway.key gateway.deviceRegistry raw frame plaintext)
      (stream : TcpStream) :
      Moves gateway ⟨stream, .received raw⟩ gateway ⟨stream, .authenticated frame plaintext⟩
  | refusesReplay (gateway : GatewayState) (stream : TcpStream) (frame : SecurePipeFrame)
      (plaintext : Bytes) (event : SecurityEvent) :
      Moves gateway ⟨stream, .authenticated frame plaintext⟩ (gateway.withEvent event)
        ⟨stream, .reading⟩
  | checks {gateway : GatewayState} {frame : SecurePipeFrame} {now : SystemTime}
      (hpasses : GuardPasses now gateway.replayGuard frame) (stream : TcpStream)
      (plaintext : Bytes) :
      Moves gateway ⟨stream, .authenticated frame plaintext⟩
        (gateway.withGuard (recordFrame gateway.replayGuard frame))
        ⟨stream, .accepted frame plaintext⟩
  | publishes (gateway : GatewayState) (stream : TcpStream) (frame : SecurePipeFrame)
      (plaintext : Bytes) (reading : SensorReading) :
      Moves gateway ⟨stream, .accepted frame plaintext⟩ (gateway.withReading reading)
        ⟨stream, .reading⟩
  | drops (gateway : GatewayState) (stream : TcpStream) (frame : SecurePipeFrame)
      (plaintext : Bytes) :
      Moves gateway ⟨stream, .accepted frame plaintext⟩ gateway ⟨stream, .reading⟩

variable {ring : Ring}

/-- **What one step of a task does.** -/
theorem stepTask_moves (i : Nat) (now : SystemTime) (gateway : GatewayState)
    (connection : Connection) :
    Moves ring gateway connection (stepTask ring i now gateway connection).1
      (stepTask ring i now gateway connection).2.1 := by
  obtain ⟨⟨bytes, ending⟩, task⟩ := connection
  cases task with
  | finished => exact .rests gateway _
  | reading =>
      simp only [stepTask]
      rcases readTurn_cases bytes ending with ⟨e, hread⟩ | ⟨-, hread⟩ |
        ⟨block, rest, rfl, hblock, -, hread⟩ | ⟨payloadLen, hread⟩ | ⟨raw, rest, rfl, hraw, hread⟩
      · simp only [hread]
        exact .ends gateway _ _
      · simp only [hread]
        exact .waits hread
      · simp only [hread]
        exact .skips gateway hblock rest ending _
      · simp only [hread]
        exact .refusesLength gateway (readTurn_payloadTooLarge_length hread) _
      · simp only [hread]
        exact .receives gateway hraw rest ending
  | received raw =>
      simp only [stepTask]
      rcases authenticate_cases ring gateway.key gateway.deviceRegistry raw with
        ⟨event, -, hauth⟩ | ⟨frame, plaintext, hauthentic, hauth⟩
      · simp only [hauth gateway rfl rfl]
        exact .refusesFrame gateway _ raw event
      · simp only [hauth gateway rfl rfl]
        exact .authenticates hauthentic _
  | authenticated frame plaintext =>
      simp only [stepTask]
      rcases replayCheck_cases now gateway.replayGuard frame with
        ⟨-, hcheck⟩ | ⟨-, -, event, hcheck⟩ | ⟨hpasses, hcheck⟩
      · simp only [hcheck gateway rfl]
        exact .ends gateway _ _
      · simp only [hcheck gateway rfl]
        exact .refusesReplay gateway _ frame plaintext event
      · simp only [hcheck gateway rfl]
        exact .checks hpasses _ plaintext
  | accepted frame plaintext =>
      simp only [stepTask]
      rcases SensorPayload.parse_cases plaintext with ⟨-, e, hparse⟩ | ⟨sensor, t, -, hparse⟩
      · simp only [publish_malformed hparse]
        exact .drops gateway _ frame plaintext
      · simp only [publish_sensor hparse]
        exact .publishes gateway _ frame plaintext _

/-! ### Whose step it is -/

namespace Action

/-- The connection that an action is about. -/
def connection : Action → Option Nat
  | produce _ => none
  | deliver i _ => some i
  | hangUp i _ => some i
  | run i _ => some i

/-- The action is a step of the task of this connection. -/
def runs (i : Nat) : Action → Bool
  | run j _ => j = i
  | _ => false

/-- The network does something to this connection. -/
def feeds (i : Nat) : Action → Bool
  | deliver j _ => j = i
  | hangUp j _ => j = i
  | _ => false

/-- How many bytes the network delivers. -/
def volume : Action → Nat
  | deliver _ bytes => bytes.length
  | _ => 0

theorem exists_run {i : Nat} {action : Action} (h : action.runs i = true) :
    ∃ now, action = .run i now := by
  cases action with
  | run j now => exact ⟨now, by rw [of_decide_eq_true h]⟩
  | produce p => cases h
  | deliver j bytes => cases h
  | hangUp j ending => cases h

/-- An action that is neither a step of a task nor done to its connection is not about it. -/
theorem connection_ne {i : Nat} {action : Action} (hruns : ¬ action.runs i = true)
    (hfeeds : action.feeds i = false) : action.connection ≠ some i := by
  intro heq
  cases action with
  | produce p => cases heq
  | deliver j bytes => exact of_decide_eq_false hfeeds (Option.some.inj heq)
  | hangUp j ending => exact of_decide_eq_false hfeeds (Option.some.inj heq)
  | run j now => exact hruns (decide_eq_true (Option.some.inj heq))

end Action

theorem System.setConnection_of_ne (s : System) {i j : Nat} (connection : Connection) (h : j ≠ i) :
    (s.setConnection i connection).connections j = s.connections j :=
  Function.update_of_ne h _ _

/-- An action about one connection leaves the others as they are. -/
theorem System.connections_step (s : System) {action : Action} {j : Nat}
    (h : action.connection ≠ some j) : (s.step ring action).1.connections j = s.connections j := by
  have hne {i : Nat} (h : some i ≠ some j) : j ≠ i := fun heq => h (congrArg some heq.symm)
  cases action with
  | produce p => rfl
  | deliver i bytes =>
      obtain ⟨connection, hstep, -⟩ := s.step_deliver ring i bytes
      rw [hstep]
      exact s.setConnection_of_ne _ (hne h)
  | hangUp i ending =>
      obtain ⟨connection, hstep, -⟩ := s.step_hangUp ring i ending
      rw [hstep]
      exact s.setConnection_of_ne _ (hne h)
  | run i now =>
      rw [step_run]
      exact System.setConnection_of_ne _ _ (hne h)

variable (ring) in
/-- A step of a task moves the shared state and its connection. -/
theorem System.run_moves (s : System) (i : Nat) (now : SystemTime) :
    Moves ring s.gateway (s.connections i) (s.step ring (.run i now)).1.gateway
      ((s.step ring (.run i now)).1.connections i) := by
  rw [step_run]
  simp only [setConnection, Function.update_self]
  exact stepTask_moves i now s.gateway (s.connections i)

/-! ### A task gets done -/

namespace Connection

/-- The task has nothing to do before the network does something. -/
def Settled (connection : Connection) : Prop :=
  connection.task = .finished ∨
    connection.task = .reading ∧ readTurn connection.stream = .ok .waiting

/-- A bound on the steps that the task takes before it has settled. -/
def pace (connection : Connection) : Nat :=
  match connection.task with
  | .reading => 4 * (connection.stream.bytes.length / HEADER_SIZE) + 1
  | .accepted _ _ => 4 * (connection.stream.bytes.length / HEADER_SIZE) + 2
  | .authenticated _ _ => 4 * (connection.stream.bytes.length / HEADER_SIZE) + 3
  | .received _ => 4 * (connection.stream.bytes.length / HEADER_SIZE) + 4
  | .finished => 0

theorem pace_le (connection : Connection) :
    connection.pace ≤ 4 * (connection.stream.bytes.length / HEADER_SIZE) + 4 := by
  unfold pace
  split <;> omega

theorem settled_of_pace {connection : Connection} (h : connection.pace = 0) :
    connection.Settled := by
  unfold pace at h
  cases htask : connection.task with
  | finished => exact .inl htask
  | _ =>
      rw [htask] at h
      exact nomatch h

end Connection

variable {gateway gateway' : GatewayState} {c d : Connection}

/-- Each step of a task that has not settled counts. -/
theorem Moves.pace_lt (h : Moves ring gateway c gateway' d) : c.Settled ∨ d.pace < c.pace := by
  cases h with
  | waits hread => exact .inl (.inr ⟨rfl, hread⟩)
  | rests stream => exact .inl (.inl rfl)
  | ends stream task =>
      cases task with
      | finished => exact .inl (.inl rfl)
      | _ => exact .inr (Nat.succ_pos _)
  | @skips block hlen rest ending event =>
      right
      simp only [Connection.pace, List.length_append, hlen, HEADER_SIZE]
      omega
  | refusesLength hlen event => exact .inr (Nat.succ_pos _)
  | @receives raw hraw rest ending =>
      have hlen := hraw.length_ge
      right
      simp only [MIN_FRAME_SIZE, HEADER_SIZE] at hlen
      simp only [Connection.pace, List.length_append, HEADER_SIZE]
      omega
  | refusesFrame stream raw event => exact .inr (Nat.add_lt_add_left (by decide) _)
  | authenticates hauth stream => exact .inr (Nat.lt_succ_self _)
  | refusesReplay stream frame plaintext event => exact .inr (Nat.add_lt_add_left (by decide) _)
  | checks hpasses stream plaintext => exact .inr (Nat.lt_succ_self _)
  | publishes stream frame plaintext reading => exact .inr (Nat.lt_succ_self _)
  | drops stream frame plaintext => exact .inr (Nat.lt_succ_self _)

/-- A task that has settled stays where it is. -/
theorem stepTask_settled (i : Nat) (now : SystemTime) (gateway : GatewayState)
    (h : c.Settled) : (stepTask ring i now gateway c).2.1 = c := by
  obtain ⟨stream, task⟩ := c
  rcases h with hfinished | ⟨hreading, hread⟩
  · cases hfinished
    rfl
  · cases hreading
    simp only at hread
    simp only [stepTask, hread]

/-- **A task that gets nothing new gets done.** From any state of the system, and whatever the
other connections and tasks do in between, it has returned, or waits for bytes that its frame
still lacks, once it has taken four steps for each header's worth of bytes on its connection and
four more. -/
theorem task_settles (s : System) (i : Nat) (actions : List Action)
    (hquiet : ∀ action ∈ actions, action.feeds i = false)
    (hsteps : 4 * ((s.connections i).stream.bytes.length / HEADER_SIZE) + 4 ≤
      actions.countP (Action.runs i)) :
    (((systemMachine ring).run s actions).connections i).Settled := by
  have hrun : ∀ (s : System) (actions : List Action),
      (∀ action ∈ actions, action.feeds i = false) →
      ((s.connections i).Settled ∨ (s.connections i).pace ≤ actions.countP (Action.runs i)) →
      (((systemMachine ring).run s actions).connections i).Settled := by
    intro s actions hquiet hpace
    induction actions generalizing s with
    | nil =>
        rcases hpace with hsettled | hpace
        · exact hsettled
        · exact Connection.settled_of_pace (Nat.le_zero.mp hpace)
    | cons action actions ih =>
        obtain ⟨hfeeds, hquiet⟩ := List.forall_mem_cons.mp hquiet
        refine ih (s.step ring action).1 hquiet ?_
        by_cases hruns : action.runs i = true
        · rw [List.countP_cons_of_pos hruns] at hpace
          obtain ⟨now, rfl⟩ := Action.exists_run hruns
          have hmoves := s.run_moves ring i now
          by_cases hsettled : (s.connections i).Settled
          · left
            rw [System.step_run]
            simp only [System.setConnection, Function.update_self,
              stepTask_settled i now s.gateway hsettled]
            exact hsettled
          · have hpace := hpace.resolve_left hsettled
            have hlt := hmoves.pace_lt.resolve_left hsettled
            exact .inr (by omega)
        · rw [List.countP_cons_of_neg hruns] at hpace
          rwa [s.connections_step (Action.connection_ne hruns hfeeds)]
  exact hrun s actions hquiet (.inr ((s.connections i).pace_le.trans hsteps))

/-- The first frame of a device has arrived. -/
def arrived : System :=
  (System.start .devTestKey .open).setConnection 0
    ⟨⟨temperatureFrame.wireBytes, .waiting⟩, .reading⟩

/-- Eight steps are enough for its 59 bytes. -/
theorem task_settles_temperature :
    (((systemMachine twoFrameRing).run arrived
      (List.replicate 8 (.run 0 (.unix 1700000003)))).connections 0).Settled :=
  task_settles arrived 0 (List.replicate 8 (.run 0 (.unix 1700000003)))
    (fun action hmem => by rw [List.eq_of_mem_replicate hmem]; rfl) (by decide +kernel)

/-! ### Output is paid for in bytes -/

/-- What was sent, by what it costs: a header for each event, a frame for each reading. -/
def GatewayState.cost (gateway : GatewayState) : Nat :=
  HEADER_SIZE * gateway.eventsTx.length + MIN_FRAME_SIZE * gateway.readingsTx.length

/-- What the bytes that a connection has left may still pay for: a task that holds a frame has not
spent it. -/
def Connection.unspent (connection : Connection) : Nat :=
  match connection.task with
  | .finished => 0
  | .reading => connection.stream.bytes.length
  | _ => connection.stream.bytes.length + MIN_FRAME_SIZE

theorem cost_withEvent (gateway : GatewayState) (event : SecurityEvent) :
    (gateway.withEvent event).cost = gateway.cost + HEADER_SIZE := by
  simp only [GatewayState.cost, GatewayState.withEvent, List.length_append, List.length_singleton]
  ring

theorem cost_withReading (gateway : GatewayState) (reading : SensorReading) :
    (gateway.withReading reading).cost = gateway.cost + MIN_FRAME_SIZE := by
  simp only [GatewayState.cost, GatewayState.withReading, List.length_append,
    List.length_singleton]
  ring

theorem header_le_frame : HEADER_SIZE ≤ MIN_FRAME_SIZE := by decide

/-- **A step spends what it sends**, and no more than that is won. -/
theorem Moves.spends (h : Moves ring gateway c gateway' d) :
    gateway'.cost + d.unspent ≤ gateway.cost + c.unspent := by
  cases h with
  | waits hread => exact Nat.le_refl _
  | rests stream => exact Nat.le_refl _
  | ends stream task => exact Nat.add_le_add_left (Nat.zero_le _) _
  | skips hlen rest ending event =>
      rw [cost_withEvent]
      simp only [Connection.unspent, List.length_append]
      omega
  | refusesLength hlen event =>
      rw [cost_withEvent]
      simp only [Connection.unspent]
      omega
  | receives hraw rest ending =>
      have hlen := hraw.length_ge
      simp only [Connection.unspent, List.length_append]
      omega
  | refusesFrame stream raw event =>
      have hle := header_le_frame
      rw [cost_withEvent]
      simp only [Connection.unspent]
      omega
  | authenticates hauth stream => exact Nat.le_refl _
  | refusesReplay stream frame plaintext event =>
      have hle := header_le_frame
      rw [cost_withEvent]
      simp only [Connection.unspent]
      omega
  | checks hpasses stream plaintext => exact Nat.le_refl _
  | publishes stream frame plaintext reading =>
      rw [cost_withReading]
      simp only [Connection.unspent]
      omega
  | drops stream frame plaintext =>
      exact Nat.add_le_add_left (Nat.le_add_right _ _) _

/-- What the system has spent and may still spend, counting these connections. -/
def System.budget (s : System) (connections : Finset Nat) : Nat :=
  s.gateway.cost + ∑ i ∈ connections, (s.connections i).unspent

/-- An action changes the budget by what it changes at its connection. -/
theorem System.budget_step (s : System) {action : Action} {i : Nat} {connections : Finset Nat}
    (hmem : i ∈ connections) (haction : action.connection = some i)
    (hlocal : (s.step ring action).1.gateway.cost +
        ((s.step ring action).1.connections i).unspent ≤
      s.gateway.cost + (s.connections i).unspent + action.volume) :
    (s.step ring action).1.budget connections ≤ s.budget connections + action.volume := by
  have hothers : ∀ j ∈ connections.erase i,
      ((s.step ring action).1.connections j).unspent = (s.connections j).unspent := by
    intro j hj
    rw [s.connections_step]
    rw [haction]
    exact fun heq => Finset.ne_of_mem_erase hj (Option.some.inj heq).symm
  unfold budget
  rw [← Finset.add_sum_erase _ _ hmem, ← Finset.add_sum_erase _ _ hmem,
    Finset.sum_congr rfl hothers]
  omega

/-- What the network does to a connection is worth the bytes it delivers. -/
theorem unspent_network {c d : Connection} {volume : Nat} (htask : d.task = c.task)
    (hbytes : d.stream.bytes.length ≤ c.stream.bytes.length + volume) :
    d.unspent ≤ c.unspent + volume := by
  unfold Connection.unspent
  rw [htask]
  split <;> omega

variable (ring) in
/-- **A step of the system raises the budget** by no more than the bytes that arrive in it. -/
theorem System.step_budget (s : System) (action : Action) {connections : Finset Nat}
    (hmem : ∀ i, action.connection = some i → i ∈ connections) :
    (s.step ring action).1.budget connections ≤ s.budget connections + action.volume := by
  cases action with
  | produce p => exact Nat.le_refl _
  | run i now =>
      refine s.budget_step (hmem i rfl) rfl ?_
      exact (s.run_moves ring i now).spends
  | deliver i bytes =>
      refine s.budget_step (hmem i rfl) rfl ?_
      rw [step_arrive]
      simp only [setConnection, Function.update_self, Action.volume, Nat.add_assoc]
      refine Nat.add_le_add_left ?_ _
      unfold Connection.arrive
      split
      · exact unspent_network rfl List.length_append.le
      · exact Nat.le_add_right _ _
  | hangUp i ending =>
      refine s.budget_step (hmem i rfl) rfl ?_
      rw [step_ends]
      simp only [setConnection, Function.update_self, Action.volume, Nat.add_assoc]
      refine Nat.add_le_add_left ?_ _
      unfold Connection.hangUp
      split
      · exact unspent_network rfl (Nat.le_refl _)
      · exact Nat.le_refl _

/-- **Whatever the gateway sends to the dashboard is paid for in bytes.** In every run, the events
cost a header each and the readings a frame each of what was delivered on all connections
together: no peer can have the gateway send more messages than that, on one connection or on
many. -/
theorem output_bounded (key : SessionKey) (registry : DeviceRegistry) (actions : List Action) :
    let s := (systemMachine ring).run (.start key registry) actions
    HEADER_SIZE * s.gateway.eventsTx.length + MIN_FRAME_SIZE * s.gateway.readingsTx.length ≤
      (actions.map Action.volume).sum := by
  have hrun : ∀ (connections : Finset Nat) (s : System) (actions : List Action),
      (∀ action ∈ actions, ∀ i, action.connection = some i → i ∈ connections) →
      ((systemMachine ring).run s actions).budget connections ≤
        s.budget connections + (actions.map Action.volume).sum := by
    intro connections s actions hmem
    induction actions generalizing s with
    | nil => exact Nat.le_refl _
    | cons action actions ih =>
        obtain ⟨haction, hmem⟩ := List.forall_mem_cons.mp hmem
        have hstep := s.step_budget ring action haction
        have hrest := ih (s.step ring action).1 hmem
        rw [List.map_cons, List.sum_cons]
        exact hrest.trans (by omega)
  have hbudget := hrun (actions.filterMap Action.connection).toFinset (.start key registry) actions
    fun action hmem i hi => List.mem_toFinset.mpr (List.mem_filterMap.mpr ⟨action, hmem, hi⟩)
  have hstart : (System.start key registry).budget
      (actions.filterMap Action.connection).toFinset = 0 :=
    (Nat.zero_add _).trans (Finset.sum_eq_zero fun i _ => rfl)
  rw [hstart, Nat.zero_add] at hbudget
  exact (Nat.le_add_right _ _).trans hbudget

/-! ### What is kept -/

/-- What a task holds is of a listed device, and no longer than a frame can be. -/
def TaskState.Modest (registry : DeviceRegistry) : TaskState → Prop
  | .received raw => raw.length ≤ MIN_FRAME_SIZE + MAX_PAYLOAD_SIZE
  | .authenticated frame _ => registry.isAllowed frame.deviceId = true ∧
      frame.encryptedPayload.length ≤ MAX_PAYLOAD_SIZE
  | .accepted frame _ => registry.isAllowed frame.deviceId = true ∧
      frame.encryptedPayload.length ≤ MAX_PAYLOAD_SIZE
  | .reading => True
  | .finished => True

/-- The guard keeps listed devices only, and few nonces of each, none of them twice. -/
def ReplayGuard.Modest (registry : DeviceRegistry) (guard : ReplayGuard) : Prop :=
  ∀ d state, guard.devices.get d = some state → registry.isAllowed d = true ∧
    state.nonceCache.length ≤ NONCE_CACHE_SIZE ∧ state.nonceCache.Nodup

theorem IsWireFrame.length_le {raw : Bytes} (h : IsWireFrame raw) :
    raw.length ≤ MIN_FRAME_SIZE + MAX_PAYLOAD_SIZE := by
  obtain ⟨h, body, rfl, -, hmax, hbody⟩ := h
  rw [List.length_append, h.bytes_length, hbody, MIN_FRAME_SIZE]
  omega

theorem ReplayGuard.Modest.record {registry : DeviceRegistry} {guard : ReplayGuard}
    (h : guard.Modest registry) {frame : SecurePipeFrame}
    (hallowed : registry.isAllowed frame.deviceId = true)
    (hadmits : (guard.stateOf frame.deviceId).Admits frame.sequenceNr frame.nonce) :
    (recordFrame guard frame).Modest registry := by
  have hold : (guard.stateOf frame.deviceId).nonceCache.length ≤ NONCE_CACHE_SIZE ∧
      (guard.stateOf frame.deviceId).nonceCache.Nodup := by
    unfold ReplayGuard.stateOf
    cases hget : guard.devices.get frame.deviceId with
    | none => exact ⟨Nat.zero_le _, List.nodup_nil⟩
    | some state => exact (h _ _ hget).2
  intro d state hget
  rw [recordFrame, ReplayGuard.get_record] at hget
  by_cases hd : d = frame.deviceId
  · rw [if_pos hd] at hget
    cases hget
    refine ⟨hd ▸ hallowed, ?_, ?_⟩
    · exact Window.push_length_le (by decide) hold.1 _
    · exact Window.push_nodup hold.2 hadmits.2
  · rw [if_neg hd] at hget
    exact h d state hget

/-- The invariant of all runs. -/
structure Modest (registry : DeviceRegistry) (gateway : GatewayState) (task : TaskState) :
    Prop where
  whitelist : gateway.deviceRegistry = registry
  guard : gateway.replayGuard.Modest registry
  task : task.Modest registry

/-- **A step keeps little.** -/
theorem Moves.modest {registry : DeviceRegistry} (h : Moves ring gateway c gateway' d)
    (hmodest : Modest registry gateway c.task) : Modest registry gateway' d.task := by
  obtain ⟨hregistry, hguard, htask⟩ := hmodest
  cases h with
  | waits hread => exact ⟨hregistry, hguard, trivial⟩
  | rests stream => exact ⟨hregistry, hguard, trivial⟩
  | ends stream task => exact ⟨hregistry, hguard, trivial⟩
  | skips hlen rest ending event => exact ⟨hregistry, hguard, trivial⟩
  | refusesLength hlen event => exact ⟨hregistry, hguard, trivial⟩
  | receives hraw rest ending => exact ⟨hregistry, hguard, hraw.length_le⟩
  | refusesFrame stream raw event => exact ⟨hregistry, hguard, trivial⟩
  | authenticates hauth stream =>
      exact ⟨hregistry, hguard, hregistry ▸ hauth.2.2,
        (SecurePipeFrame.parse_sound hauth.1).2.1⟩
  | refusesReplay stream frame plaintext event => exact ⟨hregistry, hguard, trivial⟩
  | checks hpasses stream plaintext =>
      exact ⟨hregistry, hguard.record htask.1 hpasses.2, htask⟩
  | publishes stream frame plaintext reading => exact ⟨hregistry, hguard, trivial⟩
  | drops stream frame plaintext => exact ⟨hregistry, hguard, trivial⟩

theorem System.step_modest {registry : DeviceRegistry} (s : System) (action : Action)
    (h : ∀ i, SecurePipe.Modest registry s.gateway (s.connections i).task) (j : Nat) :
    SecurePipe.Modest registry (s.step ring action).1.gateway
      ((s.step ring action).1.connections j).task := by
  cases action with
  | produce p => exact h j
  | deliver i bytes =>
      obtain ⟨connection, hstep, htask⟩ := s.step_deliver ring i bytes
      rw [hstep, task_setConnection, htask]
      by_cases hj : j = i
      · rw [if_pos hj]
        exact h i
      · rw [if_neg hj]
        exact h j
  | hangUp i ending =>
      obtain ⟨connection, hstep, htask⟩ := s.step_hangUp ring i ending
      rw [hstep, task_setConnection, htask]
      by_cases hj : j = i
      · rw [if_pos hj]
        exact h i
      · rw [if_neg hj]
        exact h j
  | run i now =>
      have hmodest := (s.run_moves ring i now).modest (h i)
      by_cases hj : j = i
      · rw [hj]
        exact hmodest
      · refine ⟨hmodest.whitelist, hmodest.guard, ?_⟩
        have hother : (Action.run i now).connection ≠ some j := fun heq =>
          hj (Option.some.inj heq).symm
        rw [s.connections_step hother]
        exact (h j).task

/-- **The gateway keeps little, whatever it is sent.** In every reachable state, the guard has an
entry only for devices on the whitelist, so no more entries than the whitelist has, and each entry
at most sixty-four nonces, all different. A task holds no more than a frame within the payload
bound, and once authenticated only of a listed device. -/
theorem footprint (key : SessionKey) (registry : DeviceRegistry) (actions : List Action) :
    let s := (systemMachine ring).run (.start key registry) actions
    s.gateway.replayGuard.Modest registry ∧
    (∀ ids, registry = .restricted ids →
      s.gateway.replayGuard.devices.keys.card ≤ ids.card) ∧
    ∀ i, (s.connections i).task.Modest registry := by
  have hstart : ∀ i, Modest registry (System.start key registry).gateway
      ((System.start key registry).connections i).task := by
    intro i
    refine ⟨rfl, fun d state hget => ?_, trivial⟩
    rw [show (System.start key registry).gateway.replayGuard.devices.get d = none from
      HashMap.get_new d] at hget
    exact nomatch hget
  have hrun := (systemMachine ring).induct_history
    (I := fun s _ => ∀ i, Modest registry s.gateway (s.connections i).task)
    (C := fun _ _ => True) (fun s _ action h _ => s.step_modest action h) hstart
    ((systemMachine ring).along_true (.start key registry) actions)
  refine ⟨(hrun 0).guard, ?_, fun i => (hrun i).task⟩
  rintro ids rfl
  refine Finset.card_le_card fun d hd => ?_
  obtain ⟨state, hget⟩ := Option.isSome_iff_exists.mp (Finmap.lookup_isSome.mpr
    (Finmap.mem_keys.mp hd))
  exact of_decide_eq_true ((hrun 0).guard d state hget).1

end SecurePipe
