import SecurePipe.Arduino.EndToEnd
import SecurePipe.Transport.Agreement
import SecurePipe.Transport.Budget

/-!
# SecurePipe.Transport.Delivery

What honest senders get from the gateway: **their frames are published, all of them, in order,
once each, and nothing is refused** (`honest_delivery`).

The other results on the tasks bound what an adversary can do. Here the network is only slow: it
puts the bytes of the planned frames on their connections, cut up as it likes, and the tasks take
turns as they like. `Plan` says what a sender has to respect: each device keeps to one connection,
counts up, and does not use a nonce again.

`Stage` is the invariant of one connection. It relates the place of the task to what has arrived
and is not published yet, and to the frames that the replay guard has still to admit.
-/

namespace SecurePipe

open Rust Trace

/-! ### Frames that honest senders seal -/

namespace Production

/-- The frame is sealed with the cipher under the key. -/
def IsSealed (aead : Aead AUTH_TAG_SIZE) (key : SessionKey) (p : Production) : Prop :=
  p.ciphertextWithTag = aead.sealed key.bytes.toList p.nonce.toList p.header.bytes p.payload.encode

instance (aead : Aead AUTH_TAG_SIZE) (key : SessionKey) (p : Production) :
    Decidable (p.IsSealed aead key) :=
  inferInstanceAs (Decidable (_ = _))

/-- The frame that the gateway has decrypted is the one that was sealed. -/
structure Carried (p : Production) (frame : SecurePipeFrame) (plaintext : Bytes) : Prop where
  wireBytes : frame.wireBytes = p.bytes
  deviceId : frame.deviceId = p.deviceId
  sequenceNr : frame.sequenceNr = p.sequenceNr
  timestamp : frame.timestamp = p.timestamp
  nonce : frame.nonce = p.nonce
  payload : SensorPayload.parse plaintext = .ok p.payload

variable {aead : Aead AUTH_TAG_SIZE} {key : SessionKey} {p : Production}

theorem IsSealed.isWireFrame (h : p.IsSealed aead key) : IsWireFrame p.bytes := by
  refine ⟨p.header, p.ciphertextWithTag, rfl, rfl,
    (by decide : (UInt32.ofNat PAYLOAD_SIZE).toNat ≤ MAX_PAYLOAD_SIZE), ?_⟩
  rw [h, sealed_length]
  rfl

/-- The gateway authenticates the frame, if its device is listed. -/
theorem IsSealed.authenticated {ring : Ring} (hring : ring.Implements aead)
    (h : p.IsSealed aead key) {registry : DeviceRegistry}
    (hallowed : registry.isAllowed p.deviceId = true) :
    ∃ frame plaintext, Authenticated ring key registry p.bytes frame plaintext ∧
      p.Carried frame plaintext := by
  obtain ⟨frame, plaintext, hparse, -, hdevice, hsequence, htimestamp, hnonce, hdecrypt, hpayload⟩ :=
    gatewayReads_sealed p.deviceId p.sequenceNr p.timestamp p.nonce p.payload hring key
  have hbytes : p.bytes = p.header.bytes ++
      aead.sealed key.bytes.toList p.nonce.toList p.header.bytes p.payload.encode := by
    rw [bytes, h]
  refine ⟨frame, plaintext, ⟨hbytes ▸ hparse, hdecrypt, hdevice ▸ hallowed⟩, ?_⟩
  obtain ⟨-, hmax, t, ht⟩ := SecurePipeFrame.parse_sound hparse
  have heq : frame.wireBytes ++ t = p.bytes ++ [] := by
    rw [List.append_nil, hbytes]
    exact ht.symm
  exact
    { wireBytes := ((isWireFrame_wireBytes hmax).append_inj h.isWireFrame heq).1
      deviceId := hdevice
      sequenceNr := hsequence
      timestamp := htimestamp
      nonce := hnonce
      payload := hpayload }

/-- What is published of the frame is what was sealed. -/
theorem Carried.yields {frame : SecurePipeFrame} {plaintext : Bytes}
    (h : p.Carried frame plaintext) (i : Nat) : p.Yields (.published i frame p.payload) :=
  ⟨h.wireBytes, h.deviceId, h.sequenceNr, h.timestamp, rfl⟩

end Production

/-- A device that sends `p` before `q` counts up, and does not use the nonce again. -/
def Production.Before (p q : Production) : Prop :=
  p.deviceId = q.deviceId → p.sequenceNr < q.sequenceNr ∧ p.nonce ≠ q.nonce

/-- What the senders on each connection send, under the key and the whitelist of the gateway. -/
structure Plan (aead : Aead AUTH_TAG_SIZE) (key : SessionKey) (registry : DeviceRegistry) where
  frames : Nat → List Production
  isSealed (i : Nat) : ∀ p ∈ frames i, p.IsSealed aead key
  allowed (i : Nat) : ∀ p ∈ frames i, registry.isAllowed p.deviceId = true
  counted (i : Nat) : (frames i).Pairwise Production.Before
  /-- A device keeps to its connection. -/
  apart (i j : Nat) : i ≠ j → ∀ p ∈ frames i, ∀ q ∈ frames j, p.deviceId ≠ q.deviceId

/-- The bytes of the frames, one after the other. -/
def wire (frames : List Production) : Bytes := (frames.map Production.bytes).flatten

@[simp] theorem wire_nil : wire [] = [] := rfl

@[simp] theorem wire_cons (p : Production) (frames : List Production) :
    wire (p :: frames) = p.bytes ++ wire frames := by
  simp [wire]

@[simp] theorem wire_append (frames frames' : List Production) :
    wire (frames ++ frames') = wire frames ++ wire frames' := by
  simp [wire]

/-! ### The network -/

/-- What the action puts on the connection. -/
def Action.bytesOn (i : Nat) : Action → Bytes
  | .deliver j bytes => if j = i then bytes else []
  | _ => []

/-- What a run puts on the connection. -/
def delivered (i : Nat) (actions : List Action) : Bytes := actions.flatMap (Action.bytesOn i)

/-- The task waits for the lock with this frame. -/
def TaskState.unchecked : TaskState → Option SecurePipeFrame
  | .authenticated frame _ => some frame
  | _ => none

/-- Bytes arrive while the connection is open, and frames are checked within the time window. -/
def Timely (s : System) : Action → Prop
  | .deliver i _ => (s.connections i).stream.ending = .waiting
  | .run i now => ∀ frame ∈ (s.connections i).task.unchecked, Fresh now frame.timestamp
  | _ => True

instance (s : System) : ∀ action, Decidable (Timely s action)
  | .produce _ => .isTrue trivial
  | .deliver i _ => inferInstanceAs (Decidable ((s.connections i).stream.ending = .waiting))
  | .hangUp _ _ => .isTrue trivial
  | .run i now => inferInstanceAs
      (Decidable (∀ frame ∈ (s.connections i).task.unchecked, Fresh now frame.timestamp))

/-- The reading of a frame on this connection has been sent. -/
def Observation.publishedOn (i : Nat) : Observation → Bool
  | .published j _ _ => j = i
  | _ => false

/-! ### Reading a frame that has not arrived in full -/

/-- A read of more than has arrived waits, or fails once nothing more will. -/
theorem readExact_short {bytes : Bytes} {n : Nat} (h : bytes.length < n) (ending : StreamEnd) :
    (ending = .waiting ∧ TcpStream.readExact ⟨bytes, ending⟩ n = .waiting) ∨
      (ending ≠ .waiting ∧ ∃ e, TcpStream.readExact ⟨bytes, ending⟩ n = .failed e) := by
  unfold TcpStream.readExact
  rw [if_neg (not_le.mpr h)]
  cases ending with
  | waiting => exact .inl ⟨rfl, rfl⟩
  | eof => exact .inr ⟨StreamEnd.noConfusion, _, rfl⟩
  | failed message => exact .inr ⟨StreamEnd.noConfusion, _, rfl⟩

/-- So does a turn on less than a header. -/
theorem readTurn_short {bytes : Bytes} (h : bytes.length < HEADER_SIZE) (ending : StreamEnd) :
    (ending = .waiting ∧ readTurn ⟨bytes, ending⟩ = .ok .waiting) ∨
      (ending ≠ .waiting ∧ ∃ e, readTurn ⟨bytes, ending⟩ = .err e) := by
  unfold readTurn
  rcases readExact_short h ending with ⟨hopen, hread⟩ | ⟨hclosed, e, hread⟩
  · rw [hread]
    exact .inl ⟨hopen, rfl⟩
  · rw [hread]
    cases e with
    | unexpectedEof => exact .inr ⟨hclosed, _, rfl⟩
    | other message => exact .inr ⟨hclosed, _, rfl⟩

/-- And so does a turn on the start of a frame. -/
theorem readTurn_start {r s : Bytes} (hframe : IsWireFrame (r ++ s)) (hs : s ≠ [])
    (ending : StreamEnd) :
    (ending = .waiting ∧ readTurn ⟨r, ending⟩ = .ok .waiting) ∨
      (ending ≠ .waiting ∧ ∃ e, readTurn ⟨r, ending⟩ = .err e) := by
  by_cases hlen : r.length < HEADER_SIZE
  · exact readTurn_short hlen ending
  obtain ⟨h, body, heq, hmagic, hmax, hbody⟩ := hframe
  obtain ⟨h', body', rfl⟩ := WireHeader.view (not_lt.mp hlen)
  rw [List.append_assoc] at heq
  obtain ⟨hbytes, hrest⟩ := List.append_inj heq (by rw [h'.bytes_length, h.bytes_length])
  obtain rfl := WireHeader.bytes_injective hbytes
  have hpos : 0 < s.length := List.length_pos_of_ne_nil hs
  rw [← hrest, List.length_append] at hbody
  rw [readTurn_header, if_neg (not_not.mpr hmagic), if_neg (by omega)]
  have hshort : body'.length < h'.payloadLen.toNat + AUTH_TAG_SIZE := by omega
  rcases readExact_short hshort ending with ⟨hopen, hread⟩ | ⟨hclosed, e, hread⟩
  · rw [hread]
    exact .inl ⟨hopen, rfl⟩
  · rw [hread]
    exact .inr ⟨hclosed, _, rfl⟩

/-- Of the bytes of some frames, either the first frame has arrived, or a part of it. -/
theorem arrived_cases {left : Bytes} {todo : List Production} (h : left <+: wire todo) :
    (∃ p rest bytes, todo = p :: rest ∧ left = p.bytes ++ bytes) ∨
      (todo = [] ∧ left = []) ∨
      ∃ p rest missing, todo = p :: rest ∧ left ++ missing = p.bytes ∧ missing ≠ [] := by
  obtain ⟨more, hmore⟩ := h
  cases todo with
  | nil => exact .inr (.inl ⟨rfl, (List.append_eq_nil_iff.mp hmore).1⟩)
  | cons p rest =>
      rw [wire_cons] at hmore
      rcases List.append_eq_append_iff.mp hmore with ⟨missing, hp, -⟩ | ⟨bytes, hleft, -⟩
      · by_cases hnone : missing = []
        · rw [hnone, List.append_nil] at hp
          exact .inl ⟨p, rest, [], rfl, by rw [hp, List.append_nil]⟩
        · exact .inr (.inr ⟨p, rest, missing, rfl, hp.symm, hnone⟩)
      · exact .inl ⟨p, rest, bytes, rfl, hleft⟩

/-- Less has arrived than the next frame is long. -/
def Short (left : Bytes) (todo : List Production) : Prop :=
  ∀ p ∈ todo.head?, left.length < p.bytes.length

/-- **A turn on the bytes of some frames**: it reads the first of them, or waits for the rest of
it, or returns because there will be none. -/
theorem readTurn_wire {left : Bytes} {todo : List Production}
    (hframes : ∀ p ∈ todo, IsWireFrame p.bytes) (h : left <+: wire todo) (ending : StreamEnd) :
    (∃ p rest bytes, todo = p :: rest ∧ left = p.bytes ++ bytes ∧
      readTurn ⟨left, ending⟩ = .ok (.frame p.bytes ⟨bytes, ending⟩)) ∨
    (Short left todo ∧ readTurn ⟨left, ending⟩ = .ok .waiting) ∨
    (Short left todo ∧ ending ≠ .waiting ∧ ∃ e, readTurn ⟨left, ending⟩ = .err e) := by
  have hshort : Short left todo →
      ((ending = .waiting ∧ readTurn ⟨left, ending⟩ = .ok .waiting) ∨
        (ending ≠ .waiting ∧ ∃ e, readTurn ⟨left, ending⟩ = .err e)) →
      (Short left todo ∧ readTurn ⟨left, ending⟩ = .ok .waiting) ∨
        (Short left todo ∧ ending ≠ .waiting ∧ ∃ e, readTurn ⟨left, ending⟩ = .err e) :=
    fun hshort hread => hread.imp (fun h => ⟨hshort, h.2⟩) fun h => ⟨hshort, h⟩
  rcases arrived_cases h with ⟨p, rest, bytes, rfl, rfl⟩ | ⟨rfl, rfl⟩ |
    ⟨p, rest, missing, rfl, hp, hmissing⟩
  · exact .inl ⟨p, rest, bytes, rfl, rfl, readTurn_frame (hframes p List.mem_cons_self) bytes ending⟩
  · refine .inr (hshort ?_ (readTurn_short (by decide) ending))
    intro q hq
    cases hq
  · refine .inr (hshort ?_ (readTurn_start (hp ▸ hframes p List.mem_cons_self) hmissing ending))
    intro q hq
    obtain rfl := Option.some.inj hq
    have hpos := List.length_pos_of_ne_nil hmissing
    rw [← hp, List.length_append]
    omega

/-! ### One connection -/

/-- What the frame needs of the replay guard. -/
def ReplayGuard.AdmitsFrame (guard : ReplayGuard) (p : Production) : Prop :=
  (guard.stateOf p.deviceId).Admits p.sequenceNr p.nonce

/-- **Where a connection is**, with frames that are not published yet. `rest` are those frames,
`todo` those of them that the guard has still to admit, and `left` is what has arrived of them. -/
inductive Stage : Connection → List Production → List Production → Bytes → Prop
  | reading (bytes : Bytes) (ending : StreamEnd) (todo : List Production) :
      Stage ⟨⟨bytes, ending⟩, .reading⟩ todo todo bytes
  | received (bytes : Bytes) (ending : StreamEnd) (p : Production) (todo : List Production) :
      Stage ⟨⟨bytes, ending⟩, .received p.bytes⟩ (p :: todo) (p :: todo) (p.bytes ++ bytes)
  | authenticated (bytes : Bytes) (ending : StreamEnd) {p : Production} (todo : List Production)
      {frame : SecurePipeFrame} {plaintext : Bytes} (h : p.Carried frame plaintext) :
      Stage ⟨⟨bytes, ending⟩, .authenticated frame plaintext⟩ (p :: todo) (p :: todo)
        (p.bytes ++ bytes)
  | accepted (bytes : Bytes) (ending : StreamEnd) {p : Production} (todo : List Production)
      {frame : SecurePipeFrame} {plaintext : Bytes} (h : p.Carried frame plaintext) :
      Stage ⟨⟨bytes, ending⟩, .accepted frame plaintext⟩ (p :: todo) todo (p.bytes ++ bytes)
  | finished {bytes : Bytes} {ending : StreamEnd} {todo : List Production}
      (hshort : Short bytes todo) (hclosed : ending ≠ .waiting) :
      Stage ⟨⟨bytes, ending⟩, .finished⟩ todo todo bytes

namespace Stage

variable {c : Connection} {rest todo : List Production} {left : Bytes}

/-- The frames that the guard has still to admit are among those not published yet. -/
theorem suffix (h : Stage c rest todo left) : todo <:+ rest := by
  cases h with
  | reading bytes ending todo => exact List.suffix_rfl
  | received bytes ending p todo => exact List.suffix_rfl
  | authenticated bytes ending todo h => exact List.suffix_rfl
  | accepted bytes ending todo h => exact List.suffix_cons _ _
  | finished hshort hclosed => exact List.suffix_rfl

/-- More arrives on an open connection. -/
theorem arrive (h : Stage c rest todo left) (hopen : c.stream.ending = .waiting) (bytes : Bytes) :
    Stage { c with stream := { c.stream with bytes := c.stream.bytes ++ bytes } } rest todo
      (left ++ bytes) := by
  cases h with
  | reading front ending => exact .reading _ ending _
  | received front ending p todo =>
      rw [List.append_assoc]
      exact .received _ ending p todo
  | authenticated front ending todo h =>
      rw [List.append_assoc]
      exact .authenticated _ ending todo h
  | accepted front ending todo h =>
      rw [List.append_assoc]
      exact .accepted _ ending todo h
  | finished hshort hclosed => exact absurd hopen hclosed

/-- The peer hangs up. -/
theorem hangUp (h : Stage c rest todo left) (hopen : c.stream.ending = .waiting)
    (ending : StreamEnd) :
    Stage { c with stream := { c.stream with ending } } rest todo left := by
  cases h with
  | reading bytes => exact .reading _ ending _
  | received bytes _ p todo => exact .received bytes ending p todo
  | authenticated bytes _ todo h => exact .authenticated bytes ending todo h
  | accepted bytes _ todo h => exact .accepted bytes ending todo h
  | finished hshort hclosed => exact absurd hopen hclosed

/-- A task that has nothing to do has published all that has arrived in full. -/
theorem short_of_settled (h : Stage c rest todo left) (hsettled : c.Settled)
    (hframes : ∀ p ∈ rest, IsWireFrame p.bytes) (hleft : left <+: wire rest) : Short left rest := by
  cases h with
  | reading bytes ending todo =>
      obtain hfinished | ⟨-, hwaiting⟩ := hsettled
      · cases hfinished
      rcases readTurn_wire hframes hleft ending with
        ⟨p, rest, bytes, rfl, rfl, hread⟩ | ⟨hshort, -⟩ | ⟨hshort, -⟩
      · cases hread.symm.trans hwaiting
      · exact hshort
      · exact hshort
  | received bytes ending p todo =>
      rcases hsettled with htask | ⟨htask, -⟩
      · cases htask
      · cases htask
  | authenticated bytes ending todo h =>
      rcases hsettled with htask | ⟨htask, -⟩
      · cases htask
      · cases htask
  | accepted bytes ending todo h =>
      rcases hsettled with htask | ⟨htask, -⟩
      · cases htask
      · cases htask
  | finished hshort hclosed => exact hshort

end Stage

variable {ring : Ring} {aead : Aead AUTH_TAG_SIZE}

/-- **One step of a task on frames that it should publish**: nothing to be seen happens, or the
guard admits the next frame, or the task publishes it. -/
theorem Stage.step {c : Connection} {rest todo : List Production} {left : Bytes}
    (h : Stage c rest todo left) (hring : ring.Implements aead) (i : Nat) {now : SystemTime}
    {gateway : GatewayState} (hsealed : ∀ p ∈ rest, p.IsSealed aead gateway.key)
    (hallowed : ∀ p ∈ rest, gateway.deviceRegistry.isAllowed p.deviceId = true)
    (hadmits : ∀ p ∈ todo, gateway.replayGuard.AdmitsFrame p)
    (hfresh : ∀ frame ∈ c.task.unchecked, Fresh now frame.timestamp) (hleft : left <+: wire rest) :
    (∃ d, stepTask ring i now gateway c = (gateway, d, none) ∧ Stage d rest todo left) ∨
    (∃ d p later frame plaintext, todo = p :: later ∧ p.Carried frame plaintext ∧
      stepTask ring i now gateway c = (gateway.withGuard (recordFrame gateway.replayGuard frame), d,
        some (.checked i now frame)) ∧ Stage d rest later left) ∨
    (∃ d p bytes frame, rest = p :: todo ∧ left = p.bytes ++ bytes ∧
      p.Yields (.published i frame p.payload) ∧
      stepTask ring i now gateway c = (gateway.withReading (SecurePipe.reading frame p.payload), d,
        some (.published i frame p.payload)) ∧ Stage d todo todo bytes) := by
  cases h with
  | reading bytes ending todo =>
      left
      rcases readTurn_wire (fun p hp => (hsealed p hp).isWireFrame) hleft ending with
        ⟨p, rest, bytes, rfl, rfl, hread⟩ | ⟨-, hread⟩ | ⟨hshort, hclosed, e, hread⟩
      · refine ⟨_, ?_, .received bytes ending p rest⟩
        simp only [stepTask, hread]
      · refine ⟨_, ?_, .reading _ ending _⟩
        simp only [stepTask, hread]
      · refine ⟨_, ?_, .finished hshort hclosed⟩
        simp only [stepTask, hread]
  | received bytes ending p todo =>
      left
      obtain ⟨frame, plaintext, hauth, hcarried⟩ := (hsealed p List.mem_cons_self).authenticated hring
        (hallowed p List.mem_cons_self)
      refine ⟨_, ?_, .authenticated bytes ending todo hcarried⟩
      simp only [stepTask, authenticate_listed hauth.1 hauth.2.1 hauth.2.2]
  | @authenticated bytes ending p todo frame plaintext hcarried =>
      right; left
      have hpasses : GuardPasses now gateway.replayGuard frame := by
        refine ⟨hfresh frame rfl, ?_⟩
        rw [hcarried.deviceId, hcarried.sequenceNr, hcarried.nonce]
        exact hadmits p List.mem_cons_self
      refine ⟨_, p, todo, frame, plaintext, rfl, hcarried, ?_, .accepted bytes ending todo hcarried⟩
      rcases replayCheck_cases now gateway.replayGuard frame with
        ⟨hnow, -⟩ | ⟨-, hrefused, -⟩ | ⟨-, hcheck⟩
      · have htime := hpasses.1
        rw [hnow] at htime
        exact htime.elim
      · exact absurd hpasses hrefused
      · simp only [stepTask, hcheck gateway rfl]
  | @accepted bytes ending p todo frame plaintext hcarried =>
      right; right
      refine ⟨_, p, bytes, frame, rfl, rfl, hcarried.yields i, ?_, .reading bytes ending todo⟩
      simp only [stepTask, publish_sensor hcarried.payload, hcarried.payload]
  | finished hshort hclosed => exact .inl ⟨_, rfl, .finished hshort hclosed⟩

/-! ### All connections -/

/-- What the guard admits it still admits after another frame: one of another device, or an earlier
one of this device. -/
theorem ReplayGuard.AdmitsFrame.record {guard : ReplayGuard} {p : Production}
    (h : guard.AdmitsFrame p) {deviceId sequenceNr : UInt32} {nonce : Nonce}
    (hlater : deviceId = p.deviceId → sequenceNr < p.sequenceNr ∧ nonce ≠ p.nonce) :
    (guard.record deviceId sequenceNr nonce).AdmitsFrame p := by
  simp only [AdmitsFrame]
  rw [stateOf_record]
  by_cases hdevice : p.deviceId = deviceId
  · obtain ⟨hlt, hne⟩ := hlater hdevice.symm
    rw [if_pos hdevice]
    refine ⟨.inr hlt, fun hmem => ?_⟩
    rcases Window.mem_push hmem with hold | hnew
    · exact h.2 (hdevice ▸ hold)
    · exact hne hnew.symm
  · rw [if_neg hdevice]
    exact h

/-- How far a connection has come with its frames: those that are published are the first ones,
and the others are at some stage. -/
def Progress (frames : List Production) (guard : ReplayGuard) (c : Connection) (arrived : Bytes)
    (sent : List Observation) : Prop :=
  ∃ done rest todo left, frames = done ++ rest ∧ arrived = wire done ++ left ∧
    List.Forall₂ Production.Yields done sent ∧ Stage c rest todo left ∧
    ∀ p ∈ todo, guard.AdmitsFrame p

/-- Another connection may change the guard. -/
theorem Progress.guard {frames : List Production} {guard guard' : ReplayGuard} {c : Connection}
    {arrived : Bytes} {sent : List Observation} (h : Progress frames guard c arrived sent)
    (hguard : ∀ p ∈ frames, guard.AdmitsFrame p → guard'.AdmitsFrame p) :
    Progress frames guard' c arrived sent := by
  obtain ⟨done, rest, todo, left, rfl, harrived, hsent, hstage, hadmits⟩ := h
  refine ⟨done, rest, todo, left, rfl, harrived, hsent, hstage, fun p hp => ?_⟩
  exact hguard p (List.mem_append_right _ (hstage.suffix.subset hp)) (hadmits p hp)

/-- The invariant: everything goes according to the plan. -/
structure OnPlan {key : SessionKey} {registry : DeviceRegistry} (plan : Plan aead key registry)
    (s : System) (actions : List Action) (t : List Observation) : Prop where
  key : s.gateway.key = key
  registry : s.gateway.deviceRegistry = registry
  events : s.gateway.eventsTx = []
  readings : s.gateway.readingsTx = t.filterMap Observation.reading
  progress (i : Nat) : Progress (plan.frames i) s.gateway.replayGuard (s.connections i)
    (delivered i actions) (t.filter (Observation.publishedOn i))

theorem delivered_snoc (i : Nat) (actions : List Action) (action : Action) :
    delivered i (actions ++ [action]) = delivered i actions ++ action.bytesOn i := by
  simp [delivered]

theorem delivered_silent {i : Nat} {action : Action} (h : action.bytesOn i = [])
    (actions : List Action) : delivered i (actions ++ [action]) = delivered i actions := by
  rw [delivered_snoc, h, List.append_nil]

section Steps

variable {key : SessionKey} {registry : DeviceRegistry} {plan : Plan aead key registry}
  {s : System} {actions : List Action} {t : List Observation}

theorem onPlan_start (plan : Plan aead key registry) : OnPlan plan (.start key registry) [] [] where
  key := rfl
  registry := rfl
  events := rfl
  readings := rfl
  progress i := ⟨[], plan.frames i, plan.frames i, [], rfl, rfl, .nil, .reading [] .waiting _,
    fun p _ => ReplayGuard.admits_new p.sequenceNr p.nonce⟩

/-- What the network does is seen on one connection only. -/
theorem OnPlan.network (h : OnPlan plan s actions t) {action : Action} {j : Nat} {c : Connection}
    (hstep : s.step ring action = (s.setConnection j c, none))
    (hothers : ∀ i, i ≠ j → action.bytesOn i = [])
    (hstage : ∀ {rest todo left}, Stage (s.connections j) rest todo left →
      Stage c rest todo (left ++ action.bytesOn j)) :
    OnPlan plan (s.step ring action).1 (actions ++ [action])
      (t ++ (s.step ring action).2.toList) := by
  rw [hstep, Option.toList_none, List.append_nil]
  refine ⟨h.key, h.registry, h.events, h.readings, fun i => ?_⟩
  rw [delivered_snoc]
  by_cases hi : i = j
  · obtain ⟨done, rest, todo, left, hframes, harrived, hsent, hold, hadmits⟩ := h.progress i
    subst hi
    refine ⟨done, rest, todo, left ++ action.bytesOn i, hframes, ?_, hsent, ?_, hadmits⟩
    · rw [harrived, List.append_assoc]
    · simp only [System.setConnection, Function.update_self]
      exact hstage hold
  · rw [hothers i hi, List.append_nil, s.setConnection_of_ne c hi]
    exact h.progress i

/-- A step of a task, if it leaves the key, the whitelist and the events alone. -/
theorem OnPlan.task (h : OnPlan plan s actions t) {j : Nat} {now : SystemTime}
    {gateway : GatewayState} {d : Connection} {o : Option Observation}
    (hstep : stepTask ring j now s.gateway (s.connections j) = (gateway, d, o))
    (hkey : gateway.key = s.gateway.key)
    (hregistry : gateway.deviceRegistry = s.gateway.deviceRegistry)
    (hevents : gateway.eventsTx = s.gateway.eventsTx)
    (hreadings : gateway.readingsTx =
      s.gateway.readingsTx ++ (o.bind Observation.reading).toList)
    (hothers : ∀ i, i ≠ j → (∀ x ∈ o, Observation.publishedOn i x = false) ∧
      ∀ p ∈ plan.frames i, s.gateway.replayGuard.AdmitsFrame p → gateway.replayGuard.AdmitsFrame p)
    (hmine : Progress (plan.frames j) gateway.replayGuard d (delivered j actions)
      ((t ++ o.toList).filter (Observation.publishedOn j))) :
    OnPlan plan (s.step ring (.run j now)).1 (actions ++ [.run j now])
      (t ++ (s.step ring (.run j now)).2.toList) := by
  rw [System.step_run, hstep]
  refine ⟨hkey.trans h.key, hregistry.trans h.registry, hevents.trans h.events, ?_, fun i => ?_⟩
  · rw [filterMap_append_toList, ← h.readings]
    exact hreadings
  · rw [delivered_silent rfl]
    by_cases hi : i = j
    · subst hi
      simp only [System.setConnection, Function.update_self]
      exact hmine
    · obtain ⟨hsilent, hguard⟩ := hothers i hi
      have hsent : (t ++ o.toList).filter (Observation.publishedOn i) =
          t.filter (Observation.publishedOn i) := by
        rw [List.filter_append]
        cases o with
        | none => exact List.append_nil _
        | some x =>
            rw [Option.toList_some, List.filter_cons_of_neg (by rw [hsilent x rfl]; decide)]
            exact List.append_nil _
      rw [hsent, System.setConnection_of_ne _ d hi]
      exact (h.progress i).guard hguard

/-- **One step keeps to the plan.** -/
theorem OnPlan.step (hring : ring.Implements aead) (h : OnPlan plan s actions t) {action : Action}
    (htimely : Timely s action)
    (hwire : ∀ i, delivered i (actions ++ [action]) <+: wire (plan.frames i)) :
    OnPlan plan (s.step ring action).1 (actions ++ [action])
      (t ++ (s.step ring action).2.toList) := by
  cases action with
  | produce p =>
      refine ⟨h.key, h.registry, h.events, ?_, fun i => ?_⟩
      · rw [filterMap_append_toList, ← h.readings]
        exact (List.append_nil _).symm
      · have hsent : (t ++ [Observation.produced p]).filter (Observation.publishedOn i) =
            t.filter (Observation.publishedOn i) := by
          rw [List.filter_append]
          exact List.append_nil _
        rw [delivered_silent rfl]
        exact hsent ▸ h.progress i
  | deliver j bytes =>
      have hopen : (s.connections j).stream.ending = .waiting := htimely
      refine h.network (j := j) (c := { s.connections j with
        stream := { (s.connections j).stream with
          bytes := (s.connections j).stream.bytes ++ bytes } }) ?_ ?_ ?_
      · simp only [System.step, hopen]
      · intro i hi
        exact if_neg (Ne.symm hi)
      · intro rest todo left hstage
        simp only [Action.bytesOn, if_pos]
        exact hstage.arrive hopen bytes
  | hangUp j ending =>
      obtain ⟨c, hstep, hstage⟩ : ∃ c, s.step ring (.hangUp j ending) =
          (s.setConnection j c, none) ∧ ∀ {rest todo left}, Stage (s.connections j) rest todo left →
            Stage c rest todo (left ++ []) := by
        simp only [System.step]
        cases hending : (s.connections j).stream.ending with
        | waiting => exact ⟨_, rfl, fun hstage => (List.append_nil _).symm ▸
            hstage.hangUp hending ending⟩
        | eof => exact ⟨s.connections j, by rw [s.setConnection_self], fun hstage =>
            (List.append_nil _).symm ▸ hstage⟩
        | failed message => exact ⟨s.connections j, by rw [s.setConnection_self], fun hstage =>
            (List.append_nil _).symm ▸ hstage⟩
      exact h.network hstep (fun _ _ => rfl) hstage
  | run j now =>
      obtain ⟨done, rest, todo, left, hframes, harrived, hsent, hstage, hadmits⟩ := h.progress j
      have hmem : ∀ p ∈ rest, p ∈ plan.frames j := fun p hp =>
        hframes ▸ List.mem_append_right done hp
      have hleft : left <+: wire rest := by
        have hprefix := hwire j
        rw [delivered_silent rfl, harrived, hframes, wire_append] at hprefix
        exact (List.prefix_append_right_inj _).mp hprefix
      rcases hstage.step hring j (fun p hp => h.key ▸ plan.isSealed j p (hmem p hp))
        (fun p hp => h.registry ▸ plan.allowed j p (hmem p hp)) hadmits htimely hleft with
        ⟨d, hstep, hnext⟩ | ⟨d, p, later, frame, plaintext, rfl, hcarried, hstep, hnext⟩ |
        ⟨d, p, bytes, frame, rfl, rfl, hyields, hstep, hnext⟩
      · refine h.task hstep rfl rfl rfl (List.append_nil _).symm (fun i _ => ⟨?_, fun _ _ h => h⟩) ?_
        · intro x hx
          cases hx
        · refine ⟨done, rest, todo, left, hframes, harrived, ?_, hnext, hadmits⟩
          rwa [Option.toList_none, List.append_nil]
      · have hp : p ∈ plan.frames j := hmem p (hstage.suffix.subset List.mem_cons_self)
        refine h.task hstep rfl rfl rfl (List.append_nil _).symm (fun i hi => ⟨?_, fun q hq hold => ?_⟩) ?_
        · intro x hx
          cases hx
          rfl
        · refine hold.record fun hdevice => ?_
          rw [hcarried.deviceId] at hdevice
          exact absurd hdevice (plan.apart j i (Ne.symm hi) p hp q hq)
        · refine ⟨done, rest, later, left, hframes, harrived, ?_, hnext, fun q hq => ?_⟩
          · rw [List.filter_append]
            exact (List.append_nil _).symm ▸ hsent
          · refine (hadmits q (List.mem_cons_of_mem p hq)).record fun hdevice => ?_
            have hcounted := plan.counted j
            rw [hframes] at hcounted
            have hpairs := List.rel_of_pairwise_cons
              ((List.pairwise_append.mp hcounted).2.1.sublist hstage.suffix.sublist) hq
            rw [hcarried.deviceId] at hdevice
            rw [hcarried.sequenceNr, hcarried.nonce]
            exact hpairs hdevice
      · refine h.task hstep rfl rfl rfl rfl (fun i hi => ⟨?_, fun _ _ h => h⟩) ?_
        · intro x hx
          cases hx
          exact decide_eq_false (Ne.symm hi)
        · refine ⟨done ++ [p], todo, todo, bytes, ?_, ?_, ?_, hnext, hadmits⟩
          · rw [hframes, List.append_assoc, List.singleton_append]
          · rw [harrived, wire_append, wire_cons, wire_nil, List.append_nil, List.append_assoc]
          · rw [List.filter_append]
            have hlast : [Observation.published j frame p.payload].filter
                (Observation.publishedOn j) = [.published j frame p.payload] :=
              List.filter_cons_of_pos (decide_eq_true rfl)
            exact hlast ▸ List.rel_append hsent (.cons hyields .nil)

end Steps

/-! ### Honest delivery -/

/-- A run over a network that brings the planned bytes keeps to the plan. -/
theorem onPlan_run {key : SessionKey} {registry : DeviceRegistry} (plan : Plan aead key registry)
    (hring : ring.Implements aead) {actions : List Action}
    (htimely : (systemMachine ring).Along Timely (.start key registry) actions)
    (hwire : ∀ i, delivered i actions <+: wire (plan.frames i)) :
    OnPlan plan ((systemMachine ring).run (.start key registry) actions) actions
      (trace ring key registry actions) := by
  -- The invariant holds while what has been delivered is what the plan says.
  refine Machine.induct_inputs _ (C := Timely)
    (I := fun s actions t => (∀ i, delivered i actions <+: wire (plan.frames i)) →
      OnPlan plan s actions t) ?_ (fun _ => onPlan_start plan) htimely hwire
  intro s actions t action h htimely hwire
  have hbefore (i : Nat) : delivered i actions <+: wire (plan.frames i) := by
    refine .trans ?_ (hwire i)
    rw [delivered_snoc]
    exact List.prefix_append _ _
  exact (h hbefore).step hring htimely hwire

/-- **Honest delivery.** The network brings, on each connection, the bytes of the frames planned for
it as far as it has come, cut up in any way, while any peer may hang up at any time; tasks take
turns in any order; clocks are within thirty seconds of the frames they check. Then no security
event is sent. The readings sent are those of the first frames of each connection, in order, each
once; and where a task has nothing left to do, those are all the frames that have arrived in
full. -/
theorem honest_delivery {key : SessionKey} {registry : DeviceRegistry}
    (plan : Plan aead key registry) (hring : ring.Implements aead) (actions : List Action)
    (htimely : (systemMachine ring).Along Timely (.start key registry) actions)
    (hwire : ∀ i, delivered i actions <+: wire (plan.frames i)) :
    ((systemMachine ring).run (.start key registry) actions).gateway.eventsTx = [] ∧
    ((systemMachine ring).run (.start key registry) actions).gateway.readingsTx =
      (trace ring key registry actions).filterMap Observation.reading ∧
    ∀ i, ∃ done rest left, plan.frames i = done ++ rest ∧
      delivered i actions = wire done ++ left ∧
      List.Forall₂ Production.Yields done
        ((trace ring key registry actions).filter (Observation.publishedOn i)) ∧
      ((((systemMachine ring).run (.start key registry) actions).connections i).Settled →
        ∀ p ∈ rest.head?, left.length < p.bytes.length) := by
  have hplan := onPlan_run plan hring htimely hwire
  refine ⟨hplan.events, hplan.readings, fun i => ?_⟩
  obtain ⟨done, rest, todo, left, hframes, harrived, hsent, hstage, -⟩ := hplan.progress i
  refine ⟨done, rest, left, hframes, harrived, hsent, fun hsettled => ?_⟩
  refine hstage.short_of_settled hsettled (fun p hp => ?_) ?_
  · exact (plan.isSealed i p (hframes ▸ List.mem_append_right done hp)).isWireFrame
  · have hprefix := hwire i
    rw [harrived, hframes, wire_append] at hprefix
    exact (List.prefix_append_right_inj _).mp hprefix

/-- One device, and one frame of it. -/
def temperaturePlan : Plan temperatureAead .devTestKey .open where
  frames i := if i = 0 then [temperatureProduction] else []
  isSealed i p hp := by
    by_cases hi : i = 0
    · rw [if_pos hi] at hp
      rw [List.mem_singleton.mp hp]
      decide +kernel
    · rw [if_neg hi] at hp
      cases hp
  allowed i p _ := rfl
  counted i := by
    by_cases hi : i = 0
    · rw [if_pos hi]
      exact List.pairwise_singleton _ _
    · rw [if_neg hi]
      exact .nil
  apart i j hne p hp q hq := by
    by_cases hi : i = 0
    · rw [if_neg (fun hj => hne (hi.trans hj.symm))] at hq
      cases hq
    · rw [if_neg hi] at hp
      cases hp

/-- The frame arrives in two parts, and the task gets its turns in between. -/
def inTwoParts : List Action :=
  let now : SystemTime := .unix 1700000003
  [.run 0 now, .deliver 0 (temperatureProduction.bytes.take 20), .run 0 now,
   .deliver 0 (temperatureProduction.bytes.drop 20), .run 0 now, .run 0 now, .run 0 now, .run 0 now]

/-- No event is sent on the way, and the temperature is published. -/
theorem honest_delivery_temperature :
    ((systemMachine (Ring.ofAead temperatureAead)).run (.start .devTestKey .open)
      inTwoParts).gateway.eventsTx = [] ∧
    ∃ done rest left, [temperatureProduction] = done ++ rest ∧
      temperatureProduction.bytes = wire done ++ left ∧
      List.Forall₂ Production.Yields done
        ((trace (Ring.ofAead temperatureAead) .devTestKey .open inTwoParts).filter
          (Observation.publishedOn 0)) ∧
      ((((systemMachine (Ring.ofAead temperatureAead)).run (.start .devTestKey .open)
          inTwoParts).connections 0).Settled →
        ∀ p ∈ rest.head?, left.length < p.bytes.length) := by
  have hdelivery := honest_delivery temperaturePlan (Ring.ofAead_implements temperatureAead)
    inTwoParts (by decide +kernel) fun i => ?_
  · have hbytes : delivered 0 inTwoParts = temperatureProduction.bytes := by decide +kernel
    exact ⟨hdelivery.1, hbytes ▸ hdelivery.2.2 0⟩
  by_cases hi : i = 0
  · subst hi
    decide +kernel
  · have hnone : delivered i inTwoParts = [] := by
      simp [delivered, inTwoParts, Action.bytesOn, Ne.symm hi]
    rw [hnone]
    exact List.nil_prefix

end SecurePipe
