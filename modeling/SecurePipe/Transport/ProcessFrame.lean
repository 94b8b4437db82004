import SecurePipe.Lib.Machine
import SecurePipe.Transport.Tcp

/-!
# SecurePipe.Transport.ProcessFrame

What one call of `process_frame` does to the gateway, and what follows over runs of calls.

`processFrame_cases` lists the four endings: a security event, a panic of the clock,
a payload that does not parse, a published reading. Which one is taken depends on
the key, the whitelist and the replay guard, never on what was sent before, and only
the last two touch the guard. So calls that end in an event can be left out of a run
(`rejected_leave_no_trace`), and a frame is dropped in silence exactly when it gets
past the guard with a payload that does not parse (`accounted_for_iff`). No input makes a
call panic (`no_input_panics`): only the clock can.
-/

namespace SecurePipe

open Rust

namespace GatewayState

variable (state : GatewayState)

/-- The state with one more security event sent. -/
def withEvent (event : SecurityEvent) : GatewayState :=
  { state with eventsTx := state.eventsTx ++ [event] }

/-- The state with one more reading sent. -/
def withReading (reading : SensorReading) : GatewayState :=
  { state with readingsTx := state.readingsTx ++ [reading] }

/-- The state with another replay guard. -/
def withGuard (replayGuard : ReplayGuard) : GatewayState := { state with replayGuard }

end GatewayState

/-- What the handling of a frame depends on: the key, the whitelist and the guard. -/
structure GatewayCore where
  key : SessionKey
  registry : DeviceRegistry
  guard : ReplayGuard

/-- The part of the state that the handling of a frame depends on. -/
def GatewayState.core (state : GatewayState) : GatewayCore where
  key := state.key
  registry := state.deviceRegistry
  guard := state.replayGuard

/-! ### The steps -/

variable (ring : Ring)

/-- The frame in `raw` is well formed, authentic under the key, and of a listed device. -/
def Authenticated (key : SessionKey) (registry : DeviceRegistry) (raw : Bytes)
    (frame : SecurePipeFrame) (plaintext : Bytes) : Prop :=
  SecurePipeFrame.parse raw = .ok frame ∧
    decryptPayload ring key frame.nonce frame.headerAsAad
      (frame.encryptedPayload ++ frame.authTag.toList) = .ok plaintext ∧
    registry.isAllowed frame.deviceId = true

/-- A frame authenticates in one way only. -/
theorem Authenticated.unique {ring : Ring} {key : SessionKey} {registry : DeviceRegistry}
    {raw : Bytes} {frame frame' : SecurePipeFrame} {plaintext plaintext' : Bytes}
    (h : Authenticated ring key registry raw frame plaintext)
    (h' : Authenticated ring key registry raw frame' plaintext') :
    frame = frame' ∧ plaintext = plaintext' := by
  obtain rfl := Outcome.ok.inj (h.1.symm.trans h'.1)
  exact ⟨rfl, Outcome.ok.inj (h.2.1.symm.trans h'.2.1)⟩

section Authenticate

variable {ring : Ring} {raw : Bytes} {frame : SecurePipeFrame} {plaintext : Bytes}
  {e : SecurePipeError} {state : GatewayState}

theorem authenticate_unparsed (hparse : SecurePipeFrame.parse raw = .err e) :
    authenticate ring raw state =
      (.ok none, state.withEvent ⟨none, "parse_error", e.toString⟩) := by
  unfold authenticate
  rw [hparse]
  rfl

theorem authenticate_unauthentic (hparse : SecurePipeFrame.parse raw = .ok frame)
    (hdecrypt : decryptPayload ring state.key frame.nonce frame.headerAsAad
      (frame.encryptedPayload ++ frame.authTag.toList) = .err e) :
    authenticate ring raw state =
      (.ok none, state.withEvent ⟨some frame.deviceId, "auth_tag_invalid",
        "Frame rejected: authentication failed"⟩) := by
  unfold authenticate
  rw [hparse]
  show ((Stateful.matchResult (.lift (decryptPayload ring state.key _ _ _))) >>= _) state = _
  rw [hdecrypt]
  rfl

theorem authenticate_unlisted (hparse : SecurePipeFrame.parse raw = .ok frame)
    (hdecrypt : decryptPayload ring state.key frame.nonce frame.headerAsAad
      (frame.encryptedPayload ++ frame.authTag.toList) = .ok plaintext)
    (hallowed : state.deviceRegistry.isAllowed frame.deviceId = false) :
    authenticate ring raw state =
      (.ok none, state.withEvent ⟨some frame.deviceId, "unknown_device",
        "Frame rejected: device_id not on whitelist"⟩) := by
  unfold authenticate
  rw [hparse]
  show ((Stateful.matchResult (.lift (decryptPayload ring state.key _ _ _))) >>= _) state = _
  rw [hdecrypt]
  show (if !state.deviceRegistry.isAllowed frame.deviceId then _ else _ : Gateway _) state = _
  rw [hallowed]
  rfl

theorem authenticate_listed (hparse : SecurePipeFrame.parse raw = .ok frame)
    (hdecrypt : decryptPayload ring state.key frame.nonce frame.headerAsAad
      (frame.encryptedPayload ++ frame.authTag.toList) = .ok plaintext)
    (hallowed : state.deviceRegistry.isAllowed frame.deviceId = true) :
    authenticate ring raw state = (.ok (some (frame, plaintext)), state) := by
  unfold authenticate
  rw [hparse]
  show ((Stateful.matchResult (.lift (decryptPayload ring state.key _ _ _))) >>= _) state = _
  rw [hdecrypt]
  show (if !state.deviceRegistry.isAllowed frame.deviceId then _ else _ : Gateway _) state = _
  rw [hallowed]
  rfl

end Authenticate

/-- Steps 1 to 3 send one event, or authenticate the frame and send nothing. -/
theorem authenticate_cases (key : SessionKey) (registry : DeviceRegistry) (raw : Bytes) :
    (∃ event, (¬ ∃ frame plaintext, Authenticated ring key registry raw frame plaintext) ∧
      ∀ state : GatewayState, state.key = key → state.deviceRegistry = registry →
        authenticate ring raw state = (.ok none, state.withEvent event)) ∨
    (∃ frame plaintext, Authenticated ring key registry raw frame plaintext ∧
      ∀ state : GatewayState, state.key = key → state.deviceRegistry = registry →
        authenticate ring raw state = (.ok (some (frame, plaintext)), state)) := by
  rcases SecurePipeFrame.parse_cases raw with ⟨e, hparse⟩ | ⟨h, payload, tag, -, -, -, -, -, -, hparse⟩
  · refine .inl ⟨_, ?_, fun _ _ _ => authenticate_unparsed hparse⟩
    rintro ⟨frame, plaintext, hauth⟩
    exact nomatch hparse.symm.trans hauth.1
  generalize h.toFrame payload tag = frame at hparse
  rcases decryptPayload_cases ring key frame.nonce frame.headerAsAad
      (frame.encryptedPayload ++ frame.authTag.toList) with ⟨e, hdecrypt⟩ | ⟨plaintext, hdecrypt⟩
  · refine .inl ⟨_, ?_, fun state hkey _ =>
      authenticate_unauthentic hparse (by rw [hkey]; exact hdecrypt)⟩
    rintro ⟨frame', plaintext, hauth⟩
    obtain rfl := Outcome.ok.inj (hauth.1.symm.trans hparse)
    exact nomatch hdecrypt.symm.trans hauth.2.1
  cases hallowed : registry.isAllowed frame.deviceId with
  | true =>
      refine .inr ⟨frame, plaintext, ⟨hparse, hdecrypt, hallowed⟩, ?_⟩
      rintro state rfl rfl
      exact authenticate_listed hparse hdecrypt hallowed
  | false =>
      refine .inl ⟨_, ?_, fun state hkey hregistry => authenticate_unlisted hparse
        (by rw [hkey]; exact hdecrypt) (by rw [hregistry]; exact hallowed)⟩
      rintro ⟨frame', plaintext', hauth⟩
      obtain rfl := Outcome.ok.inj (hauth.1.symm.trans hparse)
      exact nomatch hallowed.symm.trans hauth.2.2

/-- The replay guard accepts the frame. -/
def GuardPasses (now : SystemTime) (guard : ReplayGuard) (frame : SecurePipeFrame) : Prop :=
  Fresh now frame.timestamp ∧ (guard.stateOf frame.deviceId).Admits frame.sequenceNr frame.nonce

instance (now : SystemTime) (guard : ReplayGuard) (frame : SecurePipeFrame) :
    Decidable (GuardPasses now guard frame) :=
  inferInstanceAs (Decidable (_ ∧ _))

/-- The guard once it has accepted the frame. -/
def recordFrame (guard : ReplayGuard) (frame : SecurePipeFrame) : ReplayGuard :=
  guard.record frame.deviceId frame.sequenceNr frame.nonce

/-- Step 4 panics on a clock before the epoch, sends one event and leaves the guard alone,
or has the guard record the frame. -/
theorem replayCheck_cases (now : SystemTime) (guard : ReplayGuard) (frame : SecurePipeFrame) :
    (now = .beforeEpoch ∧ ∀ state : GatewayState, state.replayGuard = guard →
      replayCheck now frame state = (.panic .unwrapErr, state)) ∨
    (now ≠ .beforeEpoch ∧ ¬ GuardPasses now guard frame ∧
      ∃ event, ∀ state : GatewayState, state.replayGuard = guard →
        replayCheck now frame state = (.ok false, state.withEvent event)) ∨
    (GuardPasses now guard frame ∧ ∀ state : GatewayState, state.replayGuard = guard →
      replayCheck now frame state = (.ok true, state.withGuard (recordFrame guard frame))) := by
  unfold replayCheck
  rcases guard.check_cases now frame.deviceId frame.sequenceNr frame.timestamp frame.nonce with
    ⟨hnow, heq⟩ | ⟨hnow, hrefused, e, heq⟩ | ⟨hfresh, hadmits, heq⟩
  · refine .inl ⟨hnow, ?_⟩
    rintro state rfl
    simp only [bind, Stateful.bind, Stateful.matchResult, Stateful.zoom, heq]
  · refine .inr (.inl ⟨hnow, hrefused, ⟨some frame.deviceId, "replay_detected", e.toString⟩, ?_⟩)
    rintro state rfl
    simp only [bind, Stateful.bind, Stateful.matchResult, Stateful.zoom, heq]
    rfl
  · refine .inr (.inr ⟨⟨hfresh, hadmits⟩, ?_⟩)
    rintro state rfl
    simp only [bind, Stateful.bind, Stateful.matchResult, Stateful.zoom, heq]
    rfl

theorem publish_malformed {frame : SecurePipeFrame} {plaintext : Bytes} {e : SecurePipeError}
    (hparse : SensorPayload.parse plaintext = .err e) (state : GatewayState) :
    publish frame plaintext state = (.ok (), state) := by
  unfold publish
  rw [hparse]
  rfl

theorem publish_sensor {frame : SecurePipeFrame} {plaintext : Bytes} {sensor : SensorPayload}
    (hparse : SensorPayload.parse plaintext = .ok sensor) (state : GatewayState) :
    publish frame plaintext state = (.ok (), state.withReading (reading frame sensor)) := by
  unfold publish
  rw [hparse]
  rfl

/-- Step 5 sends the reading of a payload that parses, and otherwise nothing. -/
theorem publish_cases (frame : SecurePipeFrame) (plaintext : Bytes) :
    (¬ SensorPayload.WellFormed plaintext ∧ ∀ state : GatewayState,
      publish frame plaintext state = (.ok (), state)) ∨
    (∃ (sensor : SensorPayload) (t : Bytes), plaintext = sensor.encode ++ t ∧
      ∀ state : GatewayState,
        publish frame plaintext state = (.ok (), state.withReading (reading frame sensor))) := by
  rcases SensorPayload.parse_cases plaintext with ⟨hmalformed, e, hparse⟩ | ⟨sensor, t, heq, hparse⟩
  · exact .inl ⟨hmalformed, publish_malformed hparse⟩
  · exact .inr ⟨sensor, t, heq, publish_sensor hparse⟩

/-! ### One call -/

/-- How one call of `process_frame` ended and what it sent. -/
structure Sent where
  ending : Result Unit
  readings : List SensorReading
  events : List SecurityEvent

/-- The gateway, taking frames, each with what the clock reads. -/
def gatewayMachine : Machine GatewayState (SystemTime × Bytes) Sent where
  step state call :=
    let (ending, state') := processFrame ring call.1 call.2 state
    (state',
      { ending
        readings := state'.readingsTx.drop state.readingsTx.length
        events := state'.eventsTx.drop state.eventsTx.length })

theorem step_of_processFrame {ring : Ring} {now : SystemTime} {raw : Bytes}
    {state state' : GatewayState} {ending : Result Unit} {readings : List SensorReading}
    {events : List SecurityEvent} (h : processFrame ring now raw state = (ending, state'))
    (hreadings : state'.readingsTx = state.readingsTx ++ readings)
    (hevents : state'.eventsTx = state.eventsTx ++ events) :
    (gatewayMachine ring).step state (now, raw) = (state', ⟨ending, readings, events⟩) := by
  unfold gatewayMachine
  simp only [h, hreadings, hevents, List.drop_left]

/-- The frame gets as far as reading its payload. -/
def Reaches (now : SystemTime) (core : GatewayCore) (raw : Bytes) (frame : SecurePipeFrame)
    (plaintext : Bytes) : Prop :=
  Authenticated ring core.key core.registry raw frame plaintext ∧
    GuardPasses now core.guard frame

/-- **The four endings of a call**: a security event, a panic on a clock before the
epoch, a payload that does not parse, a published reading. -/
theorem step_cases (now : SystemTime) (core : GatewayCore) (raw : Bytes) :
    (∃ event, (now ≠ .beforeEpoch ∨ ¬ ∃ frame plaintext,
        Authenticated ring core.key core.registry raw frame plaintext) ∧
      (¬ ∃ frame plaintext, Reaches ring now core raw frame plaintext) ∧
      ∀ state : GatewayState, state.core = core →
        (gatewayMachine ring).step state (now, raw) =
          (state.withEvent event, ⟨.ok (), [], [event]⟩)) ∨
    (now = .beforeEpoch ∧ (∃ frame plaintext,
        Authenticated ring core.key core.registry raw frame plaintext) ∧
      ∀ state : GatewayState, state.core = core →
        (gatewayMachine ring).step state (now, raw) = (state, ⟨.panic .unwrapErr, [], []⟩)) ∨
    (∃ frame plaintext, Reaches ring now core raw frame plaintext ∧
      ¬ SensorPayload.WellFormed plaintext ∧
      ∀ state : GatewayState, state.core = core →
        (gatewayMachine ring).step state (now, raw) =
          (state.withGuard (recordFrame core.guard frame), ⟨.ok (), [], []⟩)) ∨
    (∃ frame plaintext sensor t, Reaches ring now core raw frame plaintext ∧
      plaintext = SensorPayload.encode sensor ++ t ∧
      ∀ state : GatewayState, state.core = core →
        (gatewayMachine ring).step state (now, raw) =
          ((state.withGuard (recordFrame core.guard frame)).withReading (reading frame sensor),
            ⟨.ok (), [reading frame sensor], []⟩)) := by
  rcases authenticate_cases ring core.key core.registry raw with
    ⟨event, hnone, hauth⟩ | ⟨frame, plaintext, hauthentic, hauth⟩
  · refine .inl ⟨event, .inr hnone, ?_, ?_⟩
    · rintro ⟨frame, plaintext, hreaches⟩
      exact hnone ⟨frame, plaintext, hreaches.1⟩
    · rintro state rfl
      refine step_of_processFrame ?_ (List.append_nil _).symm rfl
      exact Stateful.bind_ok (hauth state rfl rfl)
  rcases replayCheck_cases now core.guard frame with
    ⟨hnow, hcheck⟩ | ⟨hnow, hrefused, event, hcheck⟩ | ⟨hpasses, hcheck⟩
  · refine .inr (.inl ⟨hnow, ⟨frame, plaintext, hauthentic⟩, ?_⟩)
    rintro state rfl
    refine step_of_processFrame ?_ (List.append_nil _).symm (List.append_nil _).symm
    exact (Stateful.bind_ok (hauth state rfl rfl)).trans (Stateful.bind_panic (hcheck state rfl))
  · refine .inl ⟨event, .inl hnow, ?_, ?_⟩
    · rintro ⟨frame', plaintext', hreaches⟩
      obtain ⟨rfl, rfl⟩ := hauthentic.unique hreaches.1
      exact hrefused hreaches.2
    · rintro state rfl
      refine step_of_processFrame ?_ (List.append_nil _).symm rfl
      exact (Stateful.bind_ok (hauth state rfl rfl)).trans (Stateful.bind_ok (hcheck state rfl))
  rcases publish_cases frame plaintext with
    ⟨hmalformed, hpublish⟩ | ⟨sensor, t, heq, hpublish⟩
  · refine .inr (.inr (.inl ⟨frame, plaintext, ⟨hauthentic, hpasses⟩, hmalformed, ?_⟩))
    rintro state rfl
    refine step_of_processFrame ?_ (List.append_nil _).symm (List.append_nil _).symm
    exact ((Stateful.bind_ok (hauth state rfl rfl)).trans
      (Stateful.bind_ok (hcheck state rfl))).trans (hpublish _)
  · refine .inr (.inr (.inr ⟨frame, plaintext, sensor, t, ⟨hauthentic, hpasses⟩, heq, ?_⟩))
    rintro state rfl
    refine step_of_processFrame ?_ rfl (List.append_nil _).symm
    exact ((Stateful.bind_ok (hauth state rfl rfl)).trans
      (Stateful.bind_ok (hcheck state rfl))).trans (hpublish _)

/-! ### Rejected frames -/

/-- The call sent a security event. -/
def Rejected (entry : (SystemTime × Bytes) × Sent) : Prop := entry.2.events ≠ []

/-- What a call sends, and what it does to the core and to the readings, is a function of
these two. -/
theorem step_congr {state state' : GatewayState} (call : SystemTime × Bytes)
    (hcore : (state.core, state.readingsTx) = (state'.core, state'.readingsTx)) :
    ((gatewayMachine ring).step state call).2 = ((gatewayMachine ring).step state' call).2 ∧
      (((gatewayMachine ring).step state call).1.core,
        ((gatewayMachine ring).step state call).1.readingsTx) =
      (((gatewayMachine ring).step state' call).1.core,
        ((gatewayMachine ring).step state' call).1.readingsTx) := by
  obtain ⟨hcore, hreadings⟩ := Prod.mk.inj hcore
  have hkey : state.key = state'.key := congrArg GatewayCore.key hcore
  have hregistry : state.deviceRegistry = state'.deviceRegistry :=
    congrArg GatewayCore.registry hcore
  rcases step_cases ring call.1 state.core call.2 with
    ⟨_, -, -, h⟩ | ⟨-, -, h⟩ | ⟨_, _, -, -, h⟩ | ⟨_, _, _, _, -, -, h⟩
  all_goals
    rw [h state rfl, h state' hcore.symm]
    refine ⟨rfl, ?_⟩
    simp only [GatewayState.core, GatewayState.withEvent, GatewayState.withReading,
      GatewayState.withGuard, hkey, hregistry, hreadings]
  · rw [show state.replayGuard = state'.replayGuard from congrArg GatewayCore.guard hcore]
  · rw [show state.replayGuard = state'.replayGuard from congrArg GatewayCore.guard hcore]

/-- A rejected call changes nothing but the list of events. -/
theorem step_rejected {state : GatewayState} {call : SystemTime × Bytes}
    (h : Rejected (call, ((gatewayMachine ring).step state call).2)) :
    (((gatewayMachine ring).step state call).1.core,
      ((gatewayMachine ring).step state call).1.readingsTx) = (state.core, state.readingsTx) := by
  simp only [Rejected] at h
  rcases step_cases ring call.1 state.core call.2 with
    ⟨_, -, -, heq⟩ | ⟨-, -, heq⟩ | ⟨_, _, -, -, heq⟩ | ⟨_, _, _, _, -, -, heq⟩
  · rw [heq state rfl]
    rfl
  all_goals
    rw [heq state rfl] at h
    exact absurd rfl h

/-- **Rejected frames leave no trace.** Leave any of the calls that sent a security event
out of a run: the remaining calls end and send as before, and the readings and the replay
guard end up the same. In particular a single rejected call does not touch the guard. -/
theorem rejected_leave_no_trace (state : GatewayState) (calls : List (SystemTime × Bytes))
    (kept : List ((SystemTime × Bytes) × Sent))
    (homits : Machine.Omits Rejected ((gatewayMachine ring).history state calls) kept) :
    (gatewayMachine ring).history state (kept.map Prod.fst) = kept ∧
    ((gatewayMachine ring).run state (kept.map Prod.fst)).readingsTx =
      ((gatewayMachine ring).run state calls).readingsTx ∧
    ((gatewayMachine ring).run state (kept.map Prod.fst)).replayGuard =
      ((gatewayMachine ring).run state calls).replayGuard ∧
    ∀ (s : GatewayState) (call : SystemTime × Bytes),
      Rejected (call, ((gatewayMachine ring).step s call).2) →
        ((gatewayMachine ring).step s call).1.replayGuard = s.replayGuard := by
  have hrun := (gatewayMachine ring).run_omits (fun s => (s.core, s.readingsTx))
    (fun _ _ call => step_congr ring call) (fun _ _ => step_rejected ring) rfl homits
  obtain ⟨hhistory, hcore⟩ := hrun
  obtain ⟨hcore, hreadings⟩ := Prod.mk.inj hcore
  refine ⟨hhistory, hreadings, congrArg GatewayCore.guard hcore, ?_⟩
  intro s call h
  exact congrArg GatewayCore.guard (Prod.mk.inj (step_rejected ring h)).1

/-- A call with the temperature frame. -/
def temperatureCall : SystemTime × Bytes := (.unix 1700000003, temperatureFrame.wireBytes)

/-- Leaving out the second of two calls with the same frame. -/
theorem rejected_leave_no_trace_replay :
    let m := gatewayMachine twoFrameRing
    let kept := [(temperatureCall, (m.step freshGateway temperatureCall).2)]
    m.history freshGateway (kept.map Prod.fst) = kept := by
  intro m kept
  have hreplay : Rejected (temperatureCall,
      (m.step (m.step freshGateway temperatureCall).1 temperatureCall).2) := by
    simp only [Rejected]
    decide +kernel
  have homits : Machine.Omits Rejected
      (m.history freshGateway [temperatureCall, temperatureCall]) kept := by
    rw [Machine.history_cons, Machine.history_cons, Machine.history_nil]
    exact .keep (.leave hreplay .nil)
  exact (rejected_leave_no_trace twoFrameRing freshGateway _ kept homits).1

/-! ### Frames dropped in silence -/

/-- The frame authenticates and then nobody hears of it: the clock panics, or the guard
accepts the frame and its payload does not parse. -/
def DroppedSilently (now : SystemTime) (core : GatewayCore) (raw : Bytes) : Prop :=
  ∃ frame plaintext, Authenticated ring core.key core.registry raw frame plaintext ∧
    (now = .beforeEpoch ∨
      (GuardPasses now core.guard frame ∧ ¬ SensorPayload.WellFormed plaintext))

/-- The call sent exactly one reading and no event, or no reading and exactly one event. -/
def AccountedFor (sent : Sent) : Prop :=
  (sent.readings.length = 1 ∧ sent.events.length = 0) ∨
    (sent.readings.length = 0 ∧ sent.events.length = 1)

instance (sent : Sent) : Decidable (AccountedFor sent) :=
  inferInstanceAs (Decidable (_ ∨ _))

/-- **Which frames are accounted for**: all but those dropped in silence. -/
theorem accounted_for_iff (now : SystemTime) (raw : Bytes) (state : GatewayState) :
    AccountedFor ((gatewayMachine ring).step state (now, raw)).2 ↔
      ¬ DroppedSilently ring now state.core raw := by
  rcases step_cases ring now state.core raw with
    ⟨_, hnow, hnone, h⟩ | ⟨hnow, hauth, h⟩ | ⟨frame, plaintext, hreaches, hmalformed, h⟩ |
    ⟨frame, plaintext, sensor, t, hreaches, rfl, h⟩
  · rw [h state rfl]
    refine iff_of_true (.inr ⟨rfl, rfl⟩) ?_
    rintro ⟨frame, plaintext, hauth, hepoch | ⟨hpasses, -⟩⟩
    · exact hnow.elim (fun hne => hne hepoch) (fun hno => hno ⟨frame, plaintext, hauth⟩)
    · exact hnone ⟨frame, plaintext, hauth, hpasses⟩
  · rw [h state rfl]
    obtain ⟨frame, plaintext, hauth⟩ := hauth
    refine iff_of_false (by unfold AccountedFor; simp) (not_not.mpr ?_)
    exact ⟨frame, plaintext, hauth, .inl hnow⟩
  · rw [h state rfl]
    refine iff_of_false (by unfold AccountedFor; simp) (not_not.mpr ?_)
    exact ⟨frame, plaintext, hreaches.1, .inr ⟨hreaches.2, hmalformed⟩⟩
  · rw [h state rfl]
    refine iff_of_true (.inl ⟨rfl, rfl⟩) ?_
    rintro ⟨frame', plaintext', hauth, hepoch | ⟨-, hmalformed⟩⟩
    · rw [hepoch] at hreaches
      exact hreaches.2.1
    · obtain ⟨rfl, rfl⟩ := hreaches.1.unique hauth
      exact hmalformed ⟨sensor, t, rfl⟩

/-- An authentic frame with an empty payload is neither published nor reported. -/
theorem emptyFrame_not_accounted_for :
    ¬ ∀ (now : SystemTime) (raw : Bytes) (state : GatewayState),
      AccountedFor ((gatewayMachine twoFrameRing).step state (now, raw)).2 := by
  intro h
  have hempty := h (.unix 1700000003) emptyFrame.wireBytes freshGateway
  revert hempty
  decide +kernel

/-! ### Panics -/

/-- The call comes back, with a result or an error. -/
def Completes {ε α : Type} (ending : Outcome ε α) : Prop := ∀ p, ending ≠ .panic p

theorem completes_ok {ε α : Type} (a : α) : Completes (.ok a : Outcome ε α) := nofun

theorem completes_err {ε α : Type} (e : ε) : Completes (.err e : Outcome ε α) := nofun

theorem parse_completes (raw : Bytes) : Completes (SecurePipeFrame.parse raw) := by
  rcases SecurePipeFrame.parse_cases raw with ⟨e, h⟩ | ⟨_, _, _, _, _, _, _, _, _, h⟩
  · rw [h]
    exact completes_err e
  · rw [h]
    exact completes_ok _

theorem decryptPayload_completes (key : SessionKey) (nonce : Nonce) (aad payload : Bytes) :
    Completes (decryptPayload ring key nonce aad payload) := by
  rcases decryptPayload_cases ring key nonce aad payload with ⟨e, h⟩ | ⟨plaintext, h⟩
  · rw [h]
    exact completes_err e
  · rw [h]
    exact completes_ok plaintext

theorem sensorPayload_parse_completes (raw : Bytes) : Completes (SensorPayload.parse raw) := by
  rcases SensorPayload.parse_cases raw with ⟨-, e, h⟩ | ⟨sensor, -, -, h⟩
  · rw [h]
    exact completes_err e
  · rw [h]
    exact completes_ok sensor

/-- `check` completes unless the clock is before the epoch, and then it panics before it
touches the guard. -/
theorem check_completes (now : SystemTime) (deviceId sequenceNr : UInt32) (timestamp : UInt64)
    (nonce : Nonce) (guard : ReplayGuard) :
    (now ≠ .beforeEpoch →
      Completes (ReplayGuard.check now deviceId sequenceNr timestamp nonce guard).1) ∧
    (now = .beforeEpoch →
      ReplayGuard.check now deviceId sequenceNr timestamp nonce guard =
        (.panic .unwrapErr, guard)) := by
  rcases guard.check_cases now deviceId sequenceNr timestamp nonce with
    ⟨hnow, h⟩ | ⟨hnow, -, e, h⟩ | ⟨hfresh, -, h⟩
  · exact ⟨fun hne => absurd hnow hne, fun _ => h⟩
  · refine ⟨fun _ => ?_, fun heq => absurd heq hnow⟩
    rw [h]
    exact completes_err e
  · refine ⟨fun _ => ?_, fun heq => ?_⟩
    · rw [h]
      exact completes_ok ()
    · rw [heq] at hfresh
      exact hfresh.elim

/-- A call of `process_frame` completes unless the clock is before the epoch, and then it
leaves the guard as it was. -/
theorem processFrame_completes (now : SystemTime) (raw : Bytes) (state : GatewayState) :
    (now ≠ .beforeEpoch → Completes (processFrame ring now raw state).1) ∧
    (now = .beforeEpoch → (processFrame ring now raw state).2.replayGuard = state.replayGuard) := by
  have hending : (processFrame ring now raw state).1 =
      ((gatewayMachine ring).step state (now, raw)).2.ending := rfl
  have hstate : (processFrame ring now raw state).2 =
      ((gatewayMachine ring).step state (now, raw)).1 := rfl
  rw [hending, hstate]
  rcases step_cases ring now state.core raw with
    ⟨event, -, -, h⟩ | ⟨hnow, -, h⟩ | ⟨frame, _, hreaches, -, h⟩ | ⟨frame, _, _, _, hreaches, -, h⟩
  · rw [h state rfl]
    exact ⟨fun _ => completes_ok (), fun _ => rfl⟩
  · rw [h state rfl]
    exact ⟨fun hne => absurd hnow hne, fun _ => rfl⟩
  all_goals
    rw [h state rfl]
    refine ⟨fun _ => completes_ok (), fun heq => ?_⟩
    rw [heq] at hreaches
    exact hreaches.2.1.elim

/-- **No input can crash the pipeline.** `process_frame` and everything it calls complete on
every byte string and in every state, with the clock at or after the epoch. The header is
re-encoded without loss: the declared length of a parsed frame survives the cast to `u32`.
On a clock before the epoch `check` panics before it changes the guard, and so a call of
`process_frame` leaves the guard as it was. -/
theorem no_input_panics :
    (∀ raw, Completes (SecurePipeFrame.parse raw)) ∧
    (∀ raw frame, SecurePipeFrame.parse raw = .ok frame →
      frame.headerAsAad.length = HEADER_SIZE ∧
        (UInt32.ofNat frame.encryptedPayload.length).toNat = frame.encryptedPayload.length) ∧
    (∀ key nonce aad payload, Completes (decryptPayload ring key nonce aad payload)) ∧
    (∀ now deviceId sequenceNr timestamp nonce guard, now ≠ .beforeEpoch →
      Completes (ReplayGuard.check now deviceId sequenceNr timestamp nonce guard).1) ∧
    (∀ raw, Completes (SensorPayload.parse raw)) ∧
    (∀ now raw state, now ≠ .beforeEpoch → Completes (processFrame ring now raw state).1) ∧
    (∀ deviceId sequenceNr timestamp nonce guard,
      ReplayGuard.check .beforeEpoch deviceId sequenceNr timestamp nonce guard =
        (.panic .unwrapErr, guard)) ∧
    (∀ raw state,
      (processFrame ring .beforeEpoch raw state).2.replayGuard = state.replayGuard) := by
  refine ⟨parse_completes, ?_, decryptPayload_completes ring, ?_, sensorPayload_parse_completes,
    ?_, ?_, ?_⟩
  · intro raw frame hparse
    obtain ⟨-, hmax, -⟩ := SecurePipeFrame.parse_sound hparse
    refine ⟨frame.headerAsAad_length, UInt32.toNat_ofNat_of_lt' (hmax.trans_lt (by decide))⟩
  · intro now deviceId sequenceNr timestamp nonce guard
    exact (check_completes now deviceId sequenceNr timestamp nonce guard).1
  · exact fun now raw state => (processFrame_completes ring now raw state).1
  · intro deviceId sequenceNr timestamp nonce guard
    exact (check_completes .beforeEpoch deviceId sequenceNr timestamp nonce guard).2 rfl
  · exact fun raw state => (processFrame_completes ring .beforeEpoch raw state).2 rfl

end SecurePipe
