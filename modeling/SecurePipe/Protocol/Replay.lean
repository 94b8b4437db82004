import SecurePipe.Lib.Window
import SecurePipe.Protocol.Frame

/-!
# SecurePipe.Protocol.Replay

The replay guard (`src/protocol/replay.rs`): `ReplayGuard.check` as the source runs
it, statement by statement over the guard it mutates, and then what one call does
(`check_cases`): it either admits the frame and records it, or leaves the guard
exactly as it found it. Everything later about the guard goes through that lemma.
-/

namespace SecurePipe

open Rust

/-- `SystemTime::now()`: before the epoch, or a whole number of seconds after it. -/
inductive SystemTime
  | beforeEpoch
  | unix (secs : UInt64)
  deriving Repr, DecidableEq

/-- `.duration_since(UNIX_EPOCH).unwrap().as_secs()`. -/
def SystemTime.asSecs : SystemTime → Result UInt64
  | beforeEpoch => .panic .unwrapErr
  | unix secs => .ok secs

/-- `DeviceState`: what the guard remembers of one device. The deque runs from
front (oldest) to back. -/
structure DeviceState where
  lastSequenceNr : UInt32
  nonceCache : List Nonce
  deriving DecidableEq

/-- `DeviceState::new`. -/
def DeviceState.new : DeviceState := { lastSequenceNr := 0, nonceCache := [] }

/-- `ReplayGuard`. -/
structure ReplayGuard where
  devices : HashMap UInt32 DeviceState
  deriving DecidableEq

namespace ReplayGuard

/-- `ReplayGuard::new`. -/
def new : ReplayGuard := { devices := HashMap.new }

/-- `later > earlier && later - earlier > MAX_FRAME_AGE_SECS`: the subtraction runs
only when it cannot underflow. -/
def outsideWindow (later earlier : UInt64) : Result Bool :=
  if later > earlier then do
    return decide ((← u64Sub later earlier) > MAX_FRAME_AGE_SECS)
  else return false

/-- `check_timestamp`, given what the clock reads. -/
def checkTimestamp (now : SystemTime) (timestamp : UInt64) : Result Unit := do
  let now ← now.asSecs
  -- Frame must not be older than MAX_FRAME_AGE_SECS
  if ← outsideWindow now timestamp then .err (.frameStale (← u64Sub now timestamp)) else
  -- Reject frames from the future
  if ← outsideWindow timestamp now then .err (.frameFuture (← u64Sub timestamp now)) else
  return ()

/-- `check_sequence`. A `last_sequence_nr` of zero stands for "no frame yet". -/
def checkSequence (state : DeviceState) (sequenceNr : UInt32) : Result Unit :=
  if state.lastSequenceNr = 0 then .ok ()
  else if sequenceNr ≤ state.lastSequenceNr then .err (.replaySequence sequenceNr)
  else .ok ()

/-- `check_nonce`. -/
def checkNonce (state : DeviceState) (nonce : Nonce) : Result Unit :=
  if nonce ∈ state.nonceCache then .err .replayNonce else .ok ()

/-- `self.devices.entry(device_id).or_insert_with(DeviceState::new)`: the entry is in
the map from here on, whatever happens next. -/
def entry (deviceId : UInt32) : Stateful ReplayGuard SecurePipeError DeviceState := fun guard =>
  let (state, devices) := guard.devices.entryOrInsertWith deviceId fun _ => DeviceState.new
  (.ok state, { guard with devices })

/-- A write through the `&mut DeviceState` of an entry. -/
def writeEntry (deviceId : UInt32) (write : DeviceState → DeviceState) :
    Stateful ReplayGuard SecurePipeError Unit :=
  .modify fun guard =>
    match guard.devices.get deviceId with
    | some state => { guard with devices := guard.devices.insert deviceId (write state) }
    | none => guard

/-- `check`, given what the clock reads. -/
def check (now : SystemTime) (deviceId sequenceNr : UInt32) (timestamp : UInt64)
    (nonce : Nonce) : Stateful ReplayGuard SecurePipeError Unit := do
  .lift (checkTimestamp now timestamp)
  let state ← entry deviceId
  .lift (checkSequence state sequenceNr)
  .lift (checkNonce state nonce)
  -- All checks passed - update state
  writeEntry deviceId fun state => { state with lastSequenceNr := sequenceNr }
  writeEntry deviceId fun state =>
    if state.nonceCache.length ≥ NONCE_CACHE_SIZE then
      { state with nonceCache := state.nonceCache.tail }
    else state
  writeEntry deviceId fun state => { state with nonceCache := state.nonceCache ++ [nonce] }

/-- `remove_device`. -/
def removeDevice (deviceId : UInt32) (guard : ReplayGuard) : ReplayGuard :=
  { devices := guard.devices.remove deviceId }

end ReplayGuard

/-! ### The timestamp window -/

/-- The timestamp lies within `MAX_FRAME_AGE_SECS` of the clock, on either side. -/
def Fresh (now : SystemTime) (timestamp : UInt64) : Prop :=
  match now with
  | .beforeEpoch => False
  | .unix secs =>
      secs.toNat ≤ timestamp.toNat + MAX_FRAME_AGE_SECS.toNat ∧
        timestamp.toNat ≤ secs.toNat + MAX_FRAME_AGE_SECS.toNat

instance (now : SystemTime) (timestamp : UInt64) : Decidable (Fresh now timestamp) :=
  match now with
  | .beforeEpoch => .isFalse not_false
  | .unix _ => inferInstanceAs (Decidable (_ ∧ _))

namespace ReplayGuard

theorem outsideWindow_eq (later earlier : UInt64) :
    outsideWindow later earlier =
      .ok (decide (earlier.toNat + MAX_FRAME_AGE_SECS.toNat < later.toNat)) := by
  simp only [outsideWindow]
  by_cases hlt : later > earlier
  · have hle : earlier ≤ later := UInt64.le_of_lt hlt
    rw [if_pos hlt, u64Sub_eq hle, Outcome.ok_bind, Outcome.pure_eq]
    have hsub : (later - earlier).toNat = later.toNat - earlier.toNat :=
      UInt64.toNat_sub_of_le _ _ hle
    have hlt' : earlier.toNat < later.toNat := UInt64.lt_iff_toNat_lt.mp hlt
    congr 2
    rw [gt_iff_lt, UInt64.lt_iff_toNat_lt, hsub, eq_iff_iff]
    omega
  · rw [if_neg hlt, Outcome.pure_eq]
    rw [gt_iff_lt, UInt64.lt_iff_toNat_lt] at hlt
    congr 1
    exact (decide_eq_false (by omega)).symm

/-- `check_timestamp` passes exactly the timestamps within the window, and
panics exactly when the clock is before the epoch. -/
theorem checkTimestamp_cases (now : SystemTime) (timestamp : UInt64) :
    (now = .beforeEpoch ∧ checkTimestamp now timestamp = .panic .unwrapErr) ∨
    (now ≠ .beforeEpoch ∧ ¬ Fresh now timestamp ∧
      ∃ e, checkTimestamp now timestamp = .err e) ∨
    (Fresh now timestamp ∧ checkTimestamp now timestamp = .ok ()) := by
  cases now with
  | beforeEpoch => exact .inl ⟨rfl, rfl⟩
  | unix secs =>
      right
      unfold checkTimestamp
      rw [SystemTime.asSecs, Outcome.ok_bind, outsideWindow_eq, Outcome.ok_bind]
      by_cases hstale : timestamp.toNat + MAX_FRAME_AGE_SECS.toNat < secs.toNat
      · have hle : timestamp ≤ secs := UInt64.le_iff_toNat_le.mpr (by omega)
        rw [if_pos (decide_eq_true hstale), u64Sub_eq hle, Outcome.ok_bind]
        exact .inl ⟨nofun, fun hfresh => by have := hfresh.1; omega, _, rfl⟩
      rw [if_neg (by simpa using hstale), outsideWindow_eq, Outcome.ok_bind]
      by_cases hfuture : secs.toNat + MAX_FRAME_AGE_SECS.toNat < timestamp.toNat
      · have hle : secs ≤ timestamp := UInt64.le_iff_toNat_le.mpr (by omega)
        rw [if_pos (decide_eq_true hfuture), u64Sub_eq hle, Outcome.ok_bind]
        exact .inl ⟨nofun, fun hfresh => by have := hfresh.2; omega, _, rfl⟩
      · rw [if_neg (by simpa using hfuture)]
        exact .inr ⟨⟨by omega, by omega⟩, rfl⟩

end ReplayGuard

/-! ### What one check does -/

/-- The state of a device once a frame of it has been accepted. -/
def DeviceState.record (state : DeviceState) (sequenceNr : UInt32) (nonce : Nonce) :
    DeviceState where
  lastSequenceNr := sequenceNr
  nonceCache := Window.push NONCE_CACHE_SIZE state.nonceCache nonce

/-- A device in this state accepts a frame with this sequence number and nonce. -/
def DeviceState.Admits (state : DeviceState) (sequenceNr : UInt32) (nonce : Nonce) : Prop :=
  (state.lastSequenceNr = 0 ∨ state.lastSequenceNr < sequenceNr) ∧ nonce ∉ state.nonceCache

instance (state : DeviceState) (sequenceNr : UInt32) (nonce : Nonce) :
    Decidable (state.Admits sequenceNr nonce) :=
  inferInstanceAs (Decidable (_ ∧ _))

namespace ReplayGuard

/-- What the guard holds on a device: a fresh state when it has no entry. -/
def stateOf (guard : ReplayGuard) (deviceId : UInt32) : DeviceState :=
  (guard.devices.get deviceId).getD DeviceState.new

/-- The guard once a frame of the device has been accepted. -/
def record (guard : ReplayGuard) (deviceId sequenceNr : UInt32) (nonce : Nonce) : ReplayGuard where
  devices := guard.devices.insert deviceId ((guard.stateOf deviceId).record sequenceNr nonce)

theorem get_record (guard : ReplayGuard) (deviceId sequenceNr : UInt32) (nonce : Nonce)
    (d : UInt32) :
    (guard.record deviceId sequenceNr nonce).devices.get d =
      if d = deviceId then some ((guard.stateOf deviceId).record sequenceNr nonce)
      else guard.devices.get d :=
  HashMap.get_insert _ _ _ _

/-- A device without an entry accepts any sequence number and nonce. -/
theorem admits_new (sequenceNr : UInt32) (nonce : Nonce) :
    DeviceState.new.Admits sequenceNr nonce :=
  ⟨.inl rfl, List.not_mem_nil⟩

theorem writeEntry_apply {guard : ReplayGuard} {deviceId : UInt32} {state : DeviceState}
    (h : guard.devices.get deviceId = some state) (write : DeviceState → DeviceState) :
    writeEntry deviceId write guard =
      (.ok (), { devices := guard.devices.insert deviceId (write state) }) := by
  rw [writeEntry, Stateful.modify_apply, h]

/-- Writing an entry that was just written. -/
theorem writeEntry_again (devices : HashMap UInt32 DeviceState) (deviceId : UInt32)
    (state : DeviceState) (write : DeviceState → DeviceState) :
    writeEntry deviceId write { devices := devices.insert deviceId state } =
      (.ok (), { devices := devices.insert deviceId (write state) }) := by
  have hget : (ReplayGuard.mk (devices.insert deviceId state)).devices.get deviceId = some state :=
    HashMap.get_insert_self _ _ _
  rw [writeEntry_apply hget, HashMap.insert_insert]

/-- The entry holds what the guard knew of the device; inserting it is seen only if the
device had none, and any later write to it hides that. -/
theorem entry_spec (deviceId : UInt32) (guard : ReplayGuard) :
    ∃ guard', entry deviceId guard = (.ok (guard.stateOf deviceId), guard') ∧
      guard'.devices.get deviceId = some (guard.stateOf deviceId) ∧
      (∀ state, guard'.devices.insert deviceId state = guard.devices.insert deviceId state) ∧
      (guard.devices.get deviceId ≠ none → guard' = guard) := by
  unfold entry HashMap.entryOrInsertWith stateOf
  cases hget : guard.devices.get deviceId with
  | some state => exact ⟨guard, rfl, hget, fun _ => rfl, fun _ => rfl⟩
  | none =>
      refine ⟨{ devices := guard.devices.insert deviceId DeviceState.new }, rfl,
        HashMap.get_insert_self _ _ _, ?_, fun h => absurd rfl h⟩
      intro state
      exact HashMap.insert_insert _ _ _ _

/-- Both checks on the device's state pass exactly when it admits the frame. -/
theorem checks_eq (state : DeviceState) (sequenceNr : UInt32) (nonce : Nonce) :
    (state.Admits sequenceNr nonce ∧
      checkSequence state sequenceNr = .ok () ∧ checkNonce state nonce = .ok ()) ∨
    (¬ state.Admits sequenceNr nonce ∧ ∃ e, checkSequence state sequenceNr = .err e ∨
      (checkSequence state sequenceNr = .ok () ∧ checkNonce state nonce = .err e)) := by
  unfold checkSequence checkNonce DeviceState.Admits
  by_cases hzero : state.lastSequenceNr = 0
  · rw [if_pos hzero]
    by_cases hnonce : nonce ∈ state.nonceCache
    · rw [if_pos hnonce]
      exact .inr ⟨fun h => h.2 hnonce, _, .inr ⟨rfl, rfl⟩⟩
    · rw [if_neg hnonce]
      exact .inl ⟨⟨.inl hzero, hnonce⟩, rfl, rfl⟩
  rw [if_neg hzero]
  by_cases hseq : sequenceNr ≤ state.lastSequenceNr
  · rw [if_pos hseq]
    refine .inr ⟨?_, _, .inl rfl⟩
    rintro ⟨h | h, -⟩
    · exact hzero h
    · exact UInt32.not_le.mpr h hseq
  rw [if_neg hseq]
  by_cases hnonce : nonce ∈ state.nonceCache
  · rw [if_pos hnonce]
    exact .inr ⟨fun h => h.2 hnonce, _, .inr ⟨rfl, rfl⟩⟩
  · rw [if_neg hnonce]
    exact .inl ⟨⟨.inr (UInt32.not_le.mp hseq), hnonce⟩, rfl, rfl⟩

/-- **What one check does**: it panics on a clock before the epoch, returns an error, or
records the frame; and unless it records the frame it leaves the guard as it found it. A
device that refuses has an entry, so the insertion that runs first changed nothing. -/
theorem check_cases (now : SystemTime) (deviceId sequenceNr : UInt32) (timestamp : UInt64)
    (nonce : Nonce) (guard : ReplayGuard) :
    (now = .beforeEpoch ∧
      check now deviceId sequenceNr timestamp nonce guard = (.panic .unwrapErr, guard)) ∨
    (now ≠ .beforeEpoch ∧
      ¬ (Fresh now timestamp ∧ (guard.stateOf deviceId).Admits sequenceNr nonce) ∧
      ∃ e, check now deviceId sequenceNr timestamp nonce guard = (.err e, guard)) ∨
    (Fresh now timestamp ∧ (guard.stateOf deviceId).Admits sequenceNr nonce ∧
      check now deviceId sequenceNr timestamp nonce guard =
        (.ok (), guard.record deviceId sequenceNr nonce)) := by
  unfold check
  rcases checkTimestamp_cases now timestamp with ⟨hnow, hts⟩ | ⟨hnow, hstale, e, hts⟩ | ⟨hfresh, hts⟩
  · exact .inl ⟨hnow, by rw [hts]; rfl⟩
  · exact .inr (.inl ⟨hnow, fun h => hstale h.1, e, by rw [hts]; rfl⟩)
  have hnow : now ≠ .beforeEpoch := by
    rintro rfl
    exact hfresh
  obtain ⟨guard', hentry, hget, hinsert, hkeep⟩ := entry_spec deviceId guard
  rw [hts, Stateful.bind_ok (Stateful.lift_apply _ _), Stateful.bind_ok hentry]
  rcases checks_eq (guard.stateOf deviceId) sequenceNr nonce with
    ⟨hadmits, hseq, hnonce⟩ | ⟨hrefused, e, hrejected⟩
  · refine .inr (.inr ⟨hfresh, hadmits, ?_⟩)
    rw [hseq, Stateful.bind_ok (Stateful.lift_apply _ _), hnonce,
      Stateful.bind_ok (Stateful.lift_apply _ _), Stateful.bind_ok (writeEntry_apply hget _),
      Stateful.bind_ok (writeEntry_again _ _ _ _), writeEntry_again, hinsert]
    unfold record DeviceState.record Window.push
    split <;> rfl
  · right
    left
    -- a device without an entry refuses nothing
    have hsome : guard.devices.get deviceId ≠ none := by
      intro hnone
      refine hrefused ?_
      rw [stateOf, hnone]
      exact admits_new _ _
    rw [hkeep hsome]
    refine ⟨hnow, fun h => hrefused h.2, e, ?_⟩
    rcases hrejected with hseq | ⟨hseq, hnonce⟩
    · rw [hseq]
      rfl
    · rw [hseq, hnonce]
      rfl

/-- A check that does not succeed leaves the guard as it found it. -/
theorem check_unchanged {now : SystemTime} {deviceId sequenceNr : UInt32} {timestamp : UInt64}
    {nonce : Nonce} {guard : ReplayGuard}
    (h : (check now deviceId sequenceNr timestamp nonce guard).1 ≠ .ok ()) :
    (check now deviceId sequenceNr timestamp nonce guard).2 = guard := by
  rcases check_cases now deviceId sequenceNr timestamp nonce guard with
    ⟨-, heq⟩ | ⟨-, -, e, heq⟩ | ⟨-, -, heq⟩
  · rw [heq]
  · rw [heq]
  · rw [heq] at h
    exact absurd rfl h

/-- The guard accepts exactly the fresh frames that the device's state admits, and then
records them. -/
theorem check_ok_iff {now : SystemTime} {deviceId sequenceNr : UInt32} {timestamp : UInt64}
    {nonce : Nonce} {guard guard' : ReplayGuard} :
    check now deviceId sequenceNr timestamp nonce guard = (.ok (), guard') ↔
      Fresh now timestamp ∧ (guard.stateOf deviceId).Admits sequenceNr nonce ∧
        guard' = guard.record deviceId sequenceNr nonce := by
  rcases check_cases now deviceId sequenceNr timestamp nonce guard with
    ⟨hnow, heq⟩ | ⟨-, hrefused, e, heq⟩ | ⟨hfresh, hadmits, heq⟩
  · subst hnow
    rw [heq]
    exact ⟨nofun, fun h => h.1.elim⟩
  · rw [heq]
    exact ⟨nofun, fun h => absurd ⟨h.1, h.2.1⟩ hrefused⟩
  · rw [heq]
    constructor
    · intro h
      cases h
      exact ⟨hfresh, hadmits, rfl⟩
    · rintro ⟨-, -, rfl⟩
      rfl

/-! ### What the guard has seen -/

theorem stateOf_record (guard : ReplayGuard) (deviceId sequenceNr : UInt32) (nonce : Nonce)
    (d : UInt32) :
    (guard.record deviceId sequenceNr nonce).stateOf d =
      if d = deviceId then (guard.stateOf deviceId).record sequenceNr nonce
      else guard.stateOf d := by
  simp only [stateOf]
  rw [get_record]
  by_cases hd : d = deviceId
  · rw [if_pos hd, if_pos hd, Option.getD_some]
    rfl
  · rw [if_neg hd, if_neg hd]

/-- The guard knows of a frame of the device with this sequence number or a higher one. -/
def Seen (guard : ReplayGuard) (deviceId sequenceNr : UInt32) : Prop :=
  (guard.stateOf deviceId).lastSequenceNr ≠ 0 ∧
    sequenceNr ≤ (guard.stateOf deviceId).lastSequenceNr

theorem Seen.lt_of_admits {guard : ReplayGuard} {deviceId seen sequenceNr : UInt32}
    {nonce : Nonce} (h : guard.Seen deviceId seen)
    (hadmits : (guard.stateOf deviceId).Admits sequenceNr nonce) : seen < sequenceNr := by
  rcases hadmits.1 with hzero | hlt
  · exact absurd hzero h.1
  · exact UInt32.lt_of_le_of_lt h.2 hlt

theorem seen_record (guard : ReplayGuard) (deviceId : UInt32) {sequenceNr : UInt32} (nonce : Nonce)
    (hpos : sequenceNr ≠ 0) : (guard.record deviceId sequenceNr nonce).Seen deviceId sequenceNr := by
  simp only [Seen]
  rw [stateOf_record, if_pos rfl]
  exact ⟨hpos, UInt32.le_refl _⟩

/-- What the guard has seen it does not forget when it accepts another frame. -/
theorem Seen.record {guard : ReplayGuard} {d seen deviceId sequenceNr : UInt32} {nonce : Nonce}
    (h : guard.Seen d seen) (hadmits : (guard.stateOf deviceId).Admits sequenceNr nonce) :
    (guard.record deviceId sequenceNr nonce).Seen d seen := by
  by_cases hd : d = deviceId
  · subst hd
    have hlt : seen < sequenceNr := h.lt_of_admits hadmits
    have hpos : sequenceNr ≠ 0 := by
      intro hzero
      rw [hzero] at hlt
      exact UInt32.not_lt_zero hlt
    simp only [Seen]
    rw [stateOf_record, if_pos rfl]
    exact ⟨hpos, UInt32.le_of_lt hlt⟩
  · simp only [Seen]
    rw [stateOf_record, if_neg hd]
    exact h

end ReplayGuard

end SecurePipe
