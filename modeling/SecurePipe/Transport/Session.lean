import SecurePipe.Transport.Delivery
import SecurePipe.Transport.Markup

/-!
# SecurePipe.Transport.Session

A session of the simulator (`src/simulator.rs`) with the gateway, from `build_frame` on the one side
to the broadcast on the other.

`processFrame_sealed` says what `process_frame` makes of any frame that was sealed under its key:
whether it is published is up to the clock and the replay guard alone. From it follows what a
connection makes of a list of such frames (`serve_sealed`), and **of all that the simulator writes,
in either mode, exactly the replayed frame is refused** (`simulator_session`).
-/

namespace SecurePipe

open Rust BigEndian

/-! ### A sealed frame -/

/-- What a dashboard is to show of the frame. -/
def Production.reading (p : Production) : SensorReading where
  deviceId := p.deviceId
  sensorType := p.payload.sensorTypeStr
  value := p.payload.valueF32
  unit := p.payload.unitStr
  sequenceNr := p.sequenceNr
  timestamp := p.timestamp

theorem Production.Carried.reading_eq {p : Production} {frame : SecurePipeFrame} {plaintext : Bytes}
    (h : p.Carried frame plaintext) : SecurePipe.reading frame p.payload = p.reading := by
  simp only [SecurePipe.reading, Production.reading, h.deviceId, h.sequenceNr, h.timestamp]

/-- The gateway once it has published the frame. -/
def GatewayState.published (state : GatewayState) (p : Production) : GatewayState :=
  (state.withGuard (state.replayGuard.record p.deviceId p.sequenceNr p.nonce)).withReading p.reading

/-- A frame that the guard does not pass is reported as a replay. -/
theorem replayCheck_refused {now : SystemTime} {frame : SecurePipeFrame} {state : GatewayState}
    (hnow : now ≠ .beforeEpoch) (h : ¬ GuardPasses now state.replayGuard frame) :
    ∃ detail, replayCheck now frame state =
      (.ok false, state.withEvent ⟨some frame.deviceId, "replay_detected", detail⟩) := by
  unfold replayCheck
  rcases state.replayGuard.check_cases now frame.deviceId frame.sequenceNr frame.timestamp
    frame.nonce with ⟨hbefore, -⟩ | ⟨-, -, e, heq⟩ | ⟨hfresh, hadmits, -⟩
  · exact absurd hbefore hnow
  · refine ⟨e.toString, ?_⟩
    simp only [bind, Stateful.bind, Stateful.matchResult, Stateful.zoom, heq]
    rfl
  · exact absurd ⟨hfresh, hadmits⟩ h

section Sealed

variable {ring : Ring} {aead : Aead AUTH_TAG_SIZE} {p : Production} {state : GatewayState}
  {now : SystemTime}

/-- **What `process_frame` makes of a sealed frame** of a listed device: it publishes it, if it is
within the time window and the guard admits it. -/
theorem processFrame_sealed (hring : ring.Implements aead) (hsealed : p.IsSealed aead state.key)
    (hallowed : state.deviceRegistry.isAllowed p.deviceId = true) (hfresh : Fresh now p.timestamp)
    (hadmits : state.replayGuard.AdmitsFrame p) :
    processFrame ring now p.bytes state = (.ok (), state.published p) := by
  obtain ⟨frame, plaintext, hauth, hcarried⟩ := hsealed.authenticated hring hallowed
  have hpasses : GuardPasses now state.replayGuard frame := by
    refine ⟨hcarried.timestamp ▸ hfresh, ?_⟩
    rw [hcarried.deviceId, hcarried.sequenceNr, hcarried.nonce]
    exact hadmits
  have hrecord : recordFrame state.replayGuard frame =
      state.replayGuard.record p.deviceId p.sequenceNr p.nonce := by
    rw [recordFrame, hcarried.deviceId, hcarried.sequenceNr, hcarried.nonce]
  have hauthenticate := authenticate_listed hauth.1 hauth.2.1 hauth.2.2
  rcases replayCheck_cases now state.replayGuard frame with
    ⟨hnow, -⟩ | ⟨-, hrefused, -⟩ | ⟨-, hcheck⟩
  · rw [hnow] at hfresh
    exact hfresh.elim
  · exact absurd hpasses hrefused
  · rw [processFrame, Stateful.bind_ok hauthenticate]
    show (replayCheck now frame >>= _) state = _
    rw [Stateful.bind_ok (hcheck state rfl)]
    show publish frame plaintext _ = _
    rw [publish_sensor hcarried.payload, hcarried.reading_eq, hrecord]
    rfl

/-- A sealed frame that the guard does not admit is refused, and nothing else happens. -/
theorem processFrame_replayed (hring : ring.Implements aead) (hsealed : p.IsSealed aead state.key)
    (hallowed : state.deviceRegistry.isAllowed p.deviceId = true) (hnow : now ≠ .beforeEpoch)
    (hrefused : ¬ state.replayGuard.AdmitsFrame p) :
    ∃ detail, processFrame ring now p.bytes state =
      (.ok (), state.withEvent ⟨some p.deviceId, "replay_detected", detail⟩) := by
  obtain ⟨frame, plaintext, hauth, hcarried⟩ := hsealed.authenticated hring hallowed
  have hfails : ¬ GuardPasses now state.replayGuard frame := by
    intro hpasses
    have hadmits := hpasses.2
    rw [hcarried.deviceId, hcarried.sequenceNr, hcarried.nonce] at hadmits
    exact hrefused hadmits
  have hauthenticate := authenticate_listed hauth.1 hauth.2.1 hauth.2.2
  obtain ⟨detail, hcheck⟩ := replayCheck_refused hnow hfails
  refine ⟨detail, ?_⟩
  rw [processFrame, Stateful.bind_ok hauthenticate]
  show (replayCheck now frame >>= _) state = _
  rw [Stateful.bind_ok hcheck, hcarried.deviceId]
  rfl

end Sealed

/-! ### Sealed frames, one after the other -/

/-- The gateway once it has published the frames. -/
def GatewayState.publishedAll (state : GatewayState) (frames : List Production) : GatewayState :=
  frames.foldl GatewayState.published state

namespace GatewayState

@[simp] theorem publishedAll_nil (state : GatewayState) : state.publishedAll [] = state := rfl

@[simp] theorem publishedAll_cons (state : GatewayState) (p : Production)
    (frames : List Production) :
    state.publishedAll (p :: frames) = (state.published p).publishedAll frames := rfl

theorem publishedAll_append (state : GatewayState) (frames frames' : List Production) :
    state.publishedAll (frames ++ frames') = (state.publishedAll frames).publishedAll frames' :=
  List.foldl_append

variable (state : GatewayState) (frames : List Production)

theorem publishedAll_key : (state.publishedAll frames).key = state.key := by
  induction frames generalizing state with
  | nil => rfl
  | cons p frames ih => exact ih (state.published p)

theorem publishedAll_deviceRegistry :
    (state.publishedAll frames).deviceRegistry = state.deviceRegistry := by
  induction frames generalizing state with
  | nil => rfl
  | cons p frames ih => exact ih (state.published p)

theorem publishedAll_eventsTx : (state.publishedAll frames).eventsTx = state.eventsTx := by
  induction frames generalizing state with
  | nil => rfl
  | cons p frames ih => exact ih (state.published p)

theorem publishedAll_readingsTx :
    (state.publishedAll frames).readingsTx = state.readingsTx ++ frames.map Production.reading := by
  induction frames generalizing state with
  | nil => exact (List.append_nil _).symm
  | cons p frames ih =>
      rw [publishedAll_cons, ih, List.map_cons, ← List.singleton_append, ← List.append_assoc]
      rfl

end GatewayState

section Serve

variable {ring : Ring} {aead : Aead AUTH_TAG_SIZE} (clock : Nat → SystemTime)
  {state : GatewayState} {frames : List Production}

/-- What the guard admits it still admits after earlier frames. -/
theorem ReplayGuard.AdmitsFrame.publishedAll {q : Production}
    (h : state.replayGuard.AdmitsFrame q) (hbefore : ∀ p ∈ frames, p.Before q) :
    (state.publishedAll frames).replayGuard.AdmitsFrame q := by
  induction frames generalizing state with
  | nil => exact h
  | cons p frames ih =>
      obtain ⟨hp, hbefore⟩ := List.forall_mem_cons.mp hbefore
      exact ih (h.record hp) hbefore

/-- What the guard has seen it does not forget. -/
theorem ReplayGuard.Seen.publishedAll {deviceId sequenceNr : UInt32}
    (h : state.replayGuard.Seen deviceId sequenceNr) (hcounted : frames.Pairwise Production.Before)
    (hadmits : ∀ p ∈ frames, state.replayGuard.AdmitsFrame p) :
    (state.publishedAll frames).replayGuard.Seen deviceId sequenceNr := by
  induction frames generalizing state with
  | nil => exact h
  | cons p frames ih =>
      obtain ⟨hbefore, hcounted⟩ := List.pairwise_cons.mp hcounted
      obtain ⟨hp, hadmits⟩ := List.forall_mem_cons.mp hadmits
      exact ih (h.record hp) hcounted fun q hq =>
        (hadmits q hq).record (hbefore q hq)

/-- So it does not admit the frame again. -/
theorem ReplayGuard.Seen.not_admitsFrame {guard : ReplayGuard} {p : Production}
    (h : guard.Seen p.deviceId p.sequenceNr) : ¬ guard.AdmitsFrame p :=
  fun hadmits => UInt32.lt_irrefl _ (h.lt_of_admits hadmits)

theorem processFrameAt_eq {raw : Bytes} {calls : Nat} {result : Result Unit}
    {state' : GatewayState} (h : processFrame ring (clock calls) raw state = (result, state')) :
    processFrameAt ring clock raw (state, calls) = (result, (state', calls + 1)) := by
  show ((processFrame ring (clock calls) raw state).1,
    ((processFrame ring (clock calls) raw state).2, calls + 1)) = _
  rw [h]

/-- **Frames that come in order are all published.** -/
theorem forM_sealed (hring : ring.Implements aead) (calls : Nat)
    (hsealed : ∀ p ∈ frames, p.IsSealed aead state.key)
    (hallowed : ∀ p ∈ frames, state.deviceRegistry.isAllowed p.deviceId = true)
    (hcounted : frames.Pairwise Production.Before)
    (hadmits : ∀ p ∈ frames, state.replayGuard.AdmitsFrame p)
    (hfresh : ∀ k (hk : k < frames.length), Fresh (clock (calls + k)) frames[k].timestamp) :
    (forM (frames.map Production.bytes) (processFrameAt ring clock) :
        Stateful ClockedGateway SecurePipeError Unit) (state, calls) =
      (.ok (), (state.publishedAll frames, calls + frames.length)) := by
  induction frames generalizing state calls with
  | nil => rfl
  | cons p frames ih =>
      obtain ⟨hbefore, hcounted⟩ := List.pairwise_cons.mp hcounted
      obtain ⟨hp, hadmits⟩ := List.forall_mem_cons.mp hadmits
      obtain ⟨hpsealed, hsealed⟩ := List.forall_mem_cons.mp hsealed
      obtain ⟨hpallowed, hallowed⟩ := List.forall_mem_cons.mp hallowed
      have hprocess : processFrame ring (clock calls) p.bytes state = (.ok (), state.published p) :=
        processFrame_sealed hring hpsealed hpallowed (hfresh 0 (Nat.zero_lt_succ _)) hp
      have hlen : calls + (p :: frames).length = calls + 1 + frames.length := by
        rw [List.length_cons]
        omega
      rw [List.map_cons, List.forM_cons, Stateful.bind_ok (processFrameAt_eq clock hprocess), hlen]
      refine ih (calls + 1) hsealed hallowed hcounted
        (fun q hq => (hadmits q hq).record (hbefore q hq)) fun k hk => ?_
      have hcalls : calls + 1 + k = calls + (k + 1) := by omega
      rw [hcalls]
      exact hfresh (k + 1) (Nat.succ_lt_succ hk)

/-- The guard has seen every frame that was published. -/
theorem seen_publishedAll {p : Production} (hp : p ∈ frames) (hpos : p.sequenceNr ≠ 0)
    (hcounted : frames.Pairwise Production.Before)
    (hadmits : ∀ q ∈ frames, state.replayGuard.AdmitsFrame q) :
    (state.publishedAll frames).replayGuard.Seen p.deviceId p.sequenceNr := by
  obtain ⟨front, later, rfl⟩ := List.append_of_mem hp
  obtain ⟨-, hlater, hapart⟩ := List.pairwise_append.mp hcounted
  obtain ⟨hbefore, hlater⟩ := List.pairwise_cons.mp hlater
  rw [GatewayState.publishedAll_append, GatewayState.publishedAll_cons]
  refine ReplayGuard.Seen.publishedAll (ReplayGuard.seen_record _ _ _ hpos) hlater fun q hq => ?_
  have hfront : ((state.publishedAll front).replayGuard).AdmitsFrame q :=
    (hadmits q (List.mem_append_right _ (List.mem_cons_of_mem p hq))).publishedAll fun r hr =>
      hapart r hr q (List.mem_cons_of_mem p hq)
  exact hfront.record (hbefore q hq)

/-- **A replay in between is refused**, and the frames after it are published as if it had not
come. -/
theorem forM_replayed {later : List Production} (hring : ring.Implements aead) (calls : Nat)
    {p : Production} (hp : p ∈ frames) (hpos : p.sequenceNr ≠ 0)
    (hsealed : ∀ p ∈ frames ++ later, p.IsSealed aead state.key)
    (hallowed : ∀ p ∈ frames ++ later, state.deviceRegistry.isAllowed p.deviceId = true)
    (hcounted : (frames ++ later).Pairwise Production.Before)
    (hadmits : ∀ p ∈ frames ++ later, state.replayGuard.AdmitsFrame p)
    (hfresh : ∀ k (hk : k < frames.length), Fresh (clock (calls + k)) frames[k].timestamp)
    (hnow : clock (calls + frames.length) ≠ .beforeEpoch)
    (hlater : ∀ k (hk : k < later.length),
      Fresh (clock (calls + frames.length + 1 + k)) later[k].timestamp) :
    ∃ detail, (forM ((frames ++ [p] ++ later).map Production.bytes) (processFrameAt ring clock) :
        Stateful ClockedGateway SecurePipeError Unit) (state, calls) =
      (.ok (), (((state.publishedAll frames).withEvent
          ⟨some p.deviceId, "replay_detected", detail⟩).publishedAll later,
        calls + frames.length + 1 + later.length)) := by
  obtain ⟨hfirst, hrest, hapart⟩ := List.pairwise_append.mp hcounted
  obtain ⟨hsealed, hsealed'⟩ := List.forall_mem_append.mp hsealed
  obtain ⟨hallowed, hallowed'⟩ := List.forall_mem_append.mp hallowed
  obtain ⟨hadmits, hadmits'⟩ := List.forall_mem_append.mp hadmits
  have hseen := seen_publishedAll hp hpos hfirst hadmits
  have hkey : p.IsSealed aead (state.publishedAll frames).key := by
    rw [state.publishedAll_key]
    exact hsealed p hp
  have hlisted : (state.publishedAll frames).deviceRegistry.isAllowed p.deviceId = true := by
    rw [state.publishedAll_deviceRegistry]
    exact hallowed p hp
  obtain ⟨detail, hrefused⟩ := processFrame_replayed hring hkey hlisted hnow hseen.not_admitsFrame
  refine ⟨detail, ?_⟩
  rw [List.map_append, List.map_append, List.append_assoc, List.forM_append, Stateful.bind_ok
    (forM_sealed clock hring calls hsealed hallowed hfirst hadmits hfresh), List.map_singleton,
    List.singleton_append, List.forM_cons, Stateful.bind_ok (processFrameAt_eq clock hrefused)]
  refine forM_sealed clock hring _ ?_ ?_ hrest ?_ hlater
  · intro q hq
    simp only [GatewayState.withEvent]
    rw [state.publishedAll_key]
    exact hsealed' q hq
  · intro q hq
    simp only [GatewayState.withEvent]
    rw [state.publishedAll_deviceRegistry]
    exact hallowed' q hq
  · intro q hq
    exact (hadmits' q hq).publishedAll fun r hr => hapart r hr q hq

end Serve

/-! ### What the simulator writes -/

namespace Simulator

/-- The frame of a turn of the simulator, counted from 0. -/
def frame (aead : Aead AUTH_TAG_SIZE) (k : Nat) (timestamp : UInt64) : Production :=
  .sealedWith aead .devTestKey DEVICE_ID (UInt32.ofNat (k + 1)) timestamp
    (nonceOf DEVICE_ID (UInt32.ofNat (k + 1)) timestamp)
    (payload (tempRawOf (UInt32.ofNat (k + 1))))

/-- The frames of the turns, at these times. -/
def frames (aead : Aead AUTH_TAG_SIZE) (timestamps : List UInt64) : List Production :=
  timestamps.mapIdx (frame aead)

/-- The frames with the attack in between: the first one again after the fifth. -/
def withAttack (replayMode : Bool) (frames : List Production) : List Production :=
  if replayMode && 5 ≤ frames.length then frames.take 5 ++ frames.take 1 ++ frames.drop 5
  else frames

theorem withAttack_concat (replayMode : Bool) (frames : List Production) (p : Production) :
    withAttack replayMode (frames ++ [p]) = withAttack replayMode frames ++
      p :: if replayMode && frames.length = 4 then (frames ++ [p]).take 1 else [] := by
  unfold withAttack
  cases replayMode with
  | false => rfl
  | true =>
      simp only [Bool.true_and, decide_eq_true_eq, List.length_append, List.length_singleton]
      rcases Nat.lt_trichotomy frames.length 4 with hlt | heq | hgt
      · rw [if_neg (by omega), if_neg (by omega), if_neg (by omega)]
      · rw [if_pos (by omega), if_neg (by omega), if_pos heq, List.take_of_length_le (by simp [heq]),
          List.drop_eq_nil_of_le (by simp [heq]), List.append_nil, List.append_assoc,
          List.singleton_append]
      · rw [if_pos (by omega), if_pos (by omega), if_neg (by omega),
          List.take_append_of_le_length (by omega), List.take_append_of_le_length (by omega),
          List.drop_append_of_le_length (by omega), List.append_assoc _ (frames.drop 5)]

variable {ring : Ring} {aead : Aead AUTH_TAG_SIZE}

/-- One turn of the loop: it writes its frame, and in the fifth turn perhaps the first one again. -/
theorem turn_eq (hring : ring.Implements aead) (replayMode : Bool) (timestamp : UInt64) {k : Nat}
    (hk : k + 1 < 2 ^ 32) {first : Option Bytes} {raw : Bytes}
    (hfirst : (if k = 0 then some (frame aead k timestamp).bytes else first) = some raw)
    (written : List Bytes) :
    turn ring replayMode (.unix timestamp) ⟨UInt32.ofNat k, first, written⟩ =
      (.ok (), ⟨UInt32.ofNat (k + 1), some raw,
        written ++ (frame aead k timestamp).bytes ::
          if replayMode && k = 4 then [raw] else []⟩) := by
  have hnat : (UInt32.ofNat k).toNat = k := UInt32.toNat_ofNat_of_lt' (Nat.lt_of_succ_lt hk)
  have hnext : (UInt32.ofNat (k + 1)).toNat = k + 1 := UInt32.toNat_ofNat_of_lt' hk
  have hadd : (u32Add (UInt32.ofNat k) 1 : Result UInt32) = .ok (UInt32.ofNat (k + 1)) := by
    rw [u32Add_eq (by rw [hnat]; exact hk), UInt32.ofNat_add]
    rfl
  have hbuild : buildFrame ring .devTestKey DEVICE_ID (UInt32.ofNat (k + 1))
      (tempRawOf (UInt32.ofNat (k + 1))) (.unix timestamp) = .ok (frame aead k timestamp).bytes :=
    simulator_produces DEVICE_ID _ timestamp hring .devTestKey _
  have hone : UInt32.ofNat (k + 1) = 1 ↔ k = 0 := by
    rw [← UInt32.toNat_inj, hnext]
    exact Nat.succ_inj
  have hfive : UInt32.ofNat (k + 1) = 5 ↔ k = 4 := by
    rw [← UInt32.toNat_inj, hnext]
    exact Nat.succ_inj
  unfold turn
  simp only [bind, Stateful.bind, Stateful.get_apply, Stateful.lift_apply, Stateful.modify_apply,
    hadd, hbuild, hone, hfive, writeAll]
  by_cases hzero : k = 0
  · rw [if_pos hzero] at hfirst
    rw [if_pos hzero, ← hfirst]
    simp [Stateful.bind, hzero]
  · rw [if_neg hzero] at hfirst
    rw [if_neg hzero, hfirst]
    cases replayMode && decide (k = 4) with
    | true => simp [Stateful.bind]
    | false => simp [Stateful.bind]

/-- **The loop of the simulator** writes the frames of its turns, with the attack in between. -/
theorem run_turns (hring : ring.Implements aead) (replayMode : Bool) (timestamps : List UInt64)
    (hlen : timestamps.length < 2 ^ 32) :
    (forM (timestamps.map SystemTime.unix) (turn ring replayMode) :
        Stateful Session SecurePipeError Unit) .start =
      (.ok (), { sequenceNr := UInt32.ofNat timestamps.length
                 firstFrame := (frames aead timestamps).head?.map Production.bytes
                 written := (withAttack replayMode (frames aead timestamps)).map
                  Production.bytes }) := by
  induction timestamps using List.reverseRecOn with
  | nil =>
    cases replayMode <;> rfl
  | append_singleton timestamps timestamp ih =>
      rw [List.length_append, List.length_singleton] at hlen
      have hframes : frames aead (timestamps ++ [timestamp]) =
          frames aead timestamps ++ [frame aead timestamps.length timestamp] := List.mapIdx_concat
      -- the first frame is known from the first turn on
      obtain ⟨first, rest, hfirst⟩ : ∃ first rest,
          frames aead timestamps ++ [frame aead timestamps.length timestamp] = first :: rest :=
        List.exists_cons_of_ne_nil (List.append_ne_nil_of_right_ne_nil _ (List.cons_ne_nil _ _))
      have hraw : (if timestamps.length = 0
          then some (frame aead timestamps.length timestamp).bytes
          else (frames aead timestamps).head?.map Production.bytes) = some first.bytes := by
        cases timestamps with
        | nil => exact congrArg (some ∘ Production.bytes) (List.cons.inj hfirst).1
        | cons t ts =>
            simp only [frames, List.mapIdx_cons, List.cons_append] at hfirst
            simp only [frames, List.mapIdx_cons]
            exact congrArg (some ∘ Production.bytes) (List.cons.inj hfirst).1
      have hlength : (frames aead timestamps).length = timestamps.length := List.length_mapIdx
      rw [List.map_append, List.forM_append, Stateful.bind_ok (ih (by omega)), List.map_singleton,
        List.forM_cons, Stateful.bind_ok (turn_eq hring replayMode timestamp hlen hraw _), hframes,
        withAttack_concat, hlength, hfirst, List.map_append, List.map_cons, List.length_append]
      cases replayMode && decide (timestamps.length = 4) with
      | true => rfl
      | false => rfl

/-! ### What the gateway makes of it -/

theorem nonceOf_inj {deviceId sequenceNr sequenceNr' : UInt32} {timestamp timestamp' : UInt64}
    (h : nonceOf deviceId sequenceNr timestamp = nonceOf deviceId sequenceNr' timestamp') :
    sequenceNr = sequenceNr' := by
  have hlist := congrArg List.Vector.toList h
  simp only [nonceOf, List.Vector.toList_mk, List.append_assoc] at hlist
  refine u32ToBytes_injective (List.Vector.toList_injective ?_)
  exact (List.append_inj hlist (by rw [toList_length, toList_length])).1

variable (aead)

theorem length_frames (timestamps : List UInt64) :
    (frames aead timestamps).length = timestamps.length := List.length_mapIdx

theorem getElem_frames (timestamps : List UInt64) {k : Nat} (hk : k < timestamps.length)
    (hframes : k < (frames aead timestamps).length) :
    (frames aead timestamps)[k] = frame aead k timestamps[k] := List.getElem_mapIdx

theorem frames_sealed (timestamps : List UInt64) :
    ∀ p ∈ frames aead timestamps, p.IsSealed aead .devTestKey := by
  intro p hp
  obtain ⟨k, hk, rfl⟩ := List.mem_mapIdx.mp hp
  rfl

theorem frames_deviceId (timestamps : List UInt64) :
    ∀ p ∈ frames aead timestamps, p.deviceId = DEVICE_ID := by
  intro p hp
  obtain ⟨k, hk, rfl⟩ := List.mem_mapIdx.mp hp
  rfl

theorem frames_counter {timestamps : List UInt64} (hlen : timestamps.length < 2 ^ 32) :
    ∀ p ∈ frames aead timestamps, p.sequenceNr ≠ 0 := by
  intro p hp hzero
  obtain ⟨k, hk, rfl⟩ := List.mem_mapIdx.mp hp
  have hnat : (UInt32.ofNat (k + 1)).toNat = k + 1 :=
    UInt32.toNat_ofNat_of_lt' (Nat.lt_of_le_of_lt hk hlen)
  have heq : UInt32.ofNat (k + 1) = 0 := hzero
  rw [heq] at hnat
  cases hnat

/-- The simulator counts up, and its nonces differ. -/
theorem frames_counted {timestamps : List UInt64} (hlen : timestamps.length < 2 ^ 32) :
    (frames aead timestamps).Pairwise Production.Before := by
  rw [List.pairwise_iff_getElem]
  intro j k hframe hframe' hjk _
  have hj : j < timestamps.length := length_frames aead timestamps ▸ hframe
  have hk : k < timestamps.length := length_frames aead timestamps ▸ hframe'
  rw [getElem_frames aead timestamps hj, getElem_frames aead timestamps hk]
  have hlt : UInt32.ofNat (j + 1) < UInt32.ofNat (k + 1) := by
    rw [UInt32.lt_iff_toNat_lt, UInt32.toNat_ofNat_of_lt' (Nat.lt_of_le_of_lt hj hlen),
      UInt32.toNat_ofNat_of_lt' (Nat.lt_of_le_of_lt hk hlen)]
    exact Nat.succ_lt_succ hjk
  refine ⟨hlt, fun hnonce => ?_⟩
  have hsame : UInt32.ofNat (j + 1) = UInt32.ofNat (k + 1) := nonceOf_inj hnonce
  rw [hsame] at hlt
  exact UInt32.lt_irrefl _ hlt

/-- The call of `process_frame` that gets the frame of a turn. -/
def callOf (replayMode : Bool) (k : Nat) : Nat := if replayMode && 5 ≤ k then k + 1 else k

end Simulator

open Simulator

variable {ring : Ring} {aead : Aead AUTH_TAG_SIZE} {clock : Nat → SystemTime}

/-- A connection on which sealed frames come processes them in turn. -/
theorem serveConnection_sealed {sent : List Production} {key : SessionKey}
    (hsealed : ∀ p ∈ sent, p.IsSealed aead key) {s s' : ClockedGateway}
    (hforM : (forM (sent.map Production.bytes) (processFrameAt ring clock) :
      Stateful ClockedGateway SecurePipeError Unit) s = (.ok (), s')) :
    serveConnection ring clock (sent.map Production.bytes).length
      ⟨(sent.map Production.bytes).flatten, .waiting⟩ s = (.ok ⟨[], .waiting⟩, s') := by
  have hframes : ∀ raw ∈ sent.map Production.bytes, IsWireFrame raw := by
    intro raw hraw
    obtain ⟨p, hp, rfl⟩ := List.mem_map.mp hraw
    exact (hsealed p hp).isWireFrame
  have hbytes : (sent.map Production.bytes).flatten =
      (sent.map Production.bytes).flatten ++ [] := (List.append_nil _).symm
  rw [serveConnection, hbytes, ← Nat.add_zero (sent.map Production.bytes).length,
    handleConnection_frames hframes [] .waiting 0, Stateful.bind_ok hforM]
  rfl

/-- **The simulator's session.** However long the simulator runs, in either mode, and whatever its
clock reads: if the gateway's clock is within thirty seconds of it, the gateway publishes the
reading of each turn, in order, once, and it reports no event but one: the frame that is replayed
after the fifth is refused as a replay, at any time. -/
theorem simulator_session (hring : ring.Implements aead) (replayMode : Bool)
    (timestamps : List UInt64) (hlen : timestamps.length < 2 ^ 32) (registry : DeviceRegistry)
    (hallowed : registry.isAllowed DEVICE_ID = true)
    (hfresh : ∀ k (hk : k < timestamps.length), Fresh (clock (callOf replayMode k)) timestamps[k])
    (hclock : clock 5 ≠ .beforeEpoch) :
    ∃ session gateway,
      (forM (timestamps.map SystemTime.unix) (Simulator.turn ring replayMode) :
        Stateful Session SecurePipeError Unit) .start = (.ok (), session) ∧
      serveConnection ring clock session.written.length ⟨session.written.flatten, .waiting⟩
        ((System.start .devTestKey registry).gateway, 0) =
          (.ok ⟨[], .waiting⟩, (gateway, session.written.length)) ∧
      gateway.readingsTx = (frames aead timestamps).map Production.reading ∧
      ∃ detail, gateway.eventsTx = if replayMode && 5 ≤ timestamps.length
        then [⟨some DEVICE_ID, "replay_detected", detail⟩] else [] := by
  have hturns := run_turns hring replayMode timestamps hlen
  have hadmits : ∀ p ∈ frames aead timestamps,
      (System.start .devTestKey registry).gateway.replayGuard.AdmitsFrame p :=
    fun p _ => ReplayGuard.admits_new p.sequenceNr p.nonce
  have hcounted := frames_counted aead hlen
  have hcounter := frames_counter aead hlen
  have hlength := length_frames aead timestamps
  have hsealed := frames_sealed aead timestamps
  have hdevice := frames_deviceId aead timestamps
  have hlisted : ∀ p ∈ frames aead timestamps, registry.isAllowed p.deviceId = true :=
    fun p hp => hdevice p hp ▸ hallowed
  have hfreshFrame : ∀ k (hk : k < (frames aead timestamps).length),
      Fresh (clock (callOf replayMode k)) (frames aead timestamps)[k].timestamp := by
    intro k hk
    have hk' : k < timestamps.length := hlength ▸ hk
    rw [getElem_frames aead timestamps hk']
    exact hfresh k hk'
  generalize frames aead timestamps = frames at *
  generalize hgateway : (System.start .devTestKey registry).gateway = gateway at *
  cases hattack : replayMode && decide (5 ≤ timestamps.length) with
  | false =>
      have hcall : ∀ k < frames.length, callOf replayMode k = 0 + k := by
        intro k hk
        have hshort : (replayMode && decide (5 ≤ k)) = false := by
          cases replayMode with
          | false => rfl
          | true =>
              rw [Bool.true_and, decide_eq_false_iff_not] at hattack ⊢
              omega
        rw [callOf, hshort, Nat.zero_add]
        rfl
      have hforM := forM_sealed clock hring 0
        (fun p hp => hgateway ▸ hsealed p hp) (fun p hp => hgateway ▸ hlisted p hp) hcounted hadmits
        fun k hk => hcall k hk ▸ hfreshFrame k hk
      have hwritten : withAttack replayMode frames = frames := by
        rw [withAttack, hlength, hattack]
        rfl
      rw [hwritten] at hturns
      refine ⟨_, gateway.publishedAll frames, hturns, ?_, ?_, "", ?_⟩
      · rw [List.length_map]
        have hserve := serveConnection_sealed hsealed hforM
        rwa [List.length_map, Nat.zero_add] at hserve
      · rw [GatewayState.publishedAll_readingsTx, ← hgateway]
        rfl
      · rw [GatewayState.publishedAll_eventsTx, ← hgateway]
        rfl
  | true =>
      obtain ⟨rfl, hlong⟩ := Bool.and_eq_true_iff.mp hattack
      have hlong : 5 ≤ frames.length := hlength ▸ of_decide_eq_true hlong
      obtain ⟨front, later, rfl, hfront⟩ : ∃ front later, frames = front ++ later ∧ front.length = 5 :=
        ⟨frames.take 5, frames.drop 5, (List.take_append_drop 5 frames).symm,
          List.length_take_of_le hlong⟩
      obtain ⟨first, rest, rfl⟩ : ∃ first rest, front = first :: rest :=
        List.exists_cons_of_length_pos (by omega)
      have hmem : first ∈ first :: rest ++ later := List.mem_append_left _ List.mem_cons_self
      have hfirst : ∀ k (hk : k < (first :: rest).length),
          Fresh (clock (0 + k)) (first :: rest)[k].timestamp := by
        intro k hk
        have hcall : callOf true k = 0 + k := by
          have hshort : ¬ 5 ≤ k := by omega
          rw [callOf, Bool.true_and, decide_eq_false hshort, Nat.zero_add]
          rfl
        have hframe := hfreshFrame k (by rw [List.length_append]; omega)
        rwa [hcall, List.getElem_append_left hk] at hframe
      have hlater : ∀ k (hk : k < later.length),
          Fresh (clock (0 + (first :: rest).length + 1 + k)) later[k].timestamp := by
        intro k hk
        have hcall : callOf true (5 + k) = 0 + (first :: rest).length + 1 + k := by
          have hlong : 5 ≤ 5 + k := Nat.le_add_right 5 k
          rw [callOf, Bool.true_and, decide_eq_true hlong, if_pos rfl, hfront]
          omega
        have hindex : (first :: rest).length ≤ 5 + k := by omega
        have hframe := hfreshFrame (5 + k) (by rw [List.length_append]; omega)
        rw [hcall, List.getElem_append_right hindex] at hframe
        simpa only [hfront, Nat.add_sub_cancel_left] using hframe
      obtain ⟨detail, hforM⟩ := forM_replayed clock hring 0
        List.mem_cons_self (hcounter first hmem) (fun p hp => hgateway ▸ hsealed p hp)
        (fun p hp => hgateway ▸ hlisted p hp) hcounted hadmits hfirst
        (by rw [hfront]; exact hclock) hlater
      have hwritten : withAttack true (first :: rest ++ later) =
          first :: rest ++ [first] ++ later := by
        rw [withAttack, hlength, hattack, if_pos rfl, List.take_left' hfront, List.drop_left' hfront]
        rfl
      rw [hwritten] at hturns
      refine ⟨_, ((gateway.publishedAll (first :: rest)).withEvent
        ⟨some first.deviceId, "replay_detected", detail⟩).publishedAll later, hturns, ?_, ?_,
        detail, ?_⟩
      · have hsent : ∀ p ∈ first :: rest ++ [first] ++ later, p.IsSealed aead .devTestKey := by
          intro p hp
          refine hsealed p ?_
          simp only [List.mem_append, List.mem_singleton] at hp ⊢
          rcases hp with (hp | rfl) | hp
          · exact .inl hp
          · exact .inl List.mem_cons_self
          · exact .inr hp
        have hcalls : (first :: rest ++ [first] ++ later).length =
            0 + (first :: rest).length + 1 + later.length := by
          rw [List.length_append, List.length_append, List.length_singleton, Nat.zero_add]
        have hserve := serveConnection_sealed hsent hforM
        rw [List.length_map]
        rwa [List.length_map, ← hcalls] at hserve
      · rw [GatewayState.publishedAll_readingsTx, List.map_append]
        show (gateway.publishedAll (first :: rest)).readingsTx ++ _ = _
        rw [GatewayState.publishedAll_readingsTx, ← hgateway]
        rfl
      · rw [GatewayState.publishedAll_eventsTx, if_pos rfl]
        show (gateway.publishedAll (first :: rest)).eventsTx ++ _ = _
        rw [GatewayState.publishedAll_eventsTx, ← hgateway, hdevice first hmem]
        rfl

/-- Eight turns of the simulator in replay mode, which read the same second, at a gateway whose
clock is a little ahead. -/
theorem simulator_session_replay :
    ∃ session gateway,
      (forM ((List.replicate 8 1700000000).map SystemTime.unix)
          (Simulator.turn (Ring.ofAead temperatureAead) true) :
        Stateful Session SecurePipeError Unit) .start = (.ok (), session) ∧
      serveConnection (Ring.ofAead temperatureAead) (fun _ => .unix 1700000003)
        session.written.length ⟨session.written.flatten, .waiting⟩
        ((System.start .devTestKey .open).gateway, 0) =
          (.ok ⟨[], .waiting⟩, (gateway, session.written.length)) ∧
      gateway.readingsTx =
        (frames temperatureAead (List.replicate 8 1700000000)).map Production.reading ∧
      ∃ detail, gateway.eventsTx = [⟨some DEVICE_ID, "replay_detected", detail⟩] :=
  simulator_session (Ring.ofAead_implements temperatureAead) true (List.replicate 8 1700000000)
    (by decide) .open rfl (fun k hk => by rw [List.getElem_replicate]; decide) (by decide)

end SecurePipe
