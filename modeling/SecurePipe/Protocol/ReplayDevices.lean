import SecurePipe.Protocol.ReplayHistory

/-!
# SecurePipe.Protocol.ReplayDevices

The replay guard seen from one device.

**Devices do not influence each other** (`devices_do_not_interfere`): a verdict depends on
what the guard holds on the device of the call and on nothing else
(`ReplayGuard.check_verdict`), and a call changes what it holds on that device only. So
the calls of one device, and its entry, are those of a run without the others.

**When a device can still be accepted** (`acceptable_iff`): always, until the sequence
number `2³² - 1` has been accepted from it. The numbers must increase, and that one has
no successor.
-/

namespace SecurePipe

open Rust

namespace ReplayGuard

/-! ### The verdict of one check -/

/-- What `check` answers about a device in this state. -/
def verdict (now : SystemTime) (state : DeviceState) (sequenceNr : UInt32) (timestamp : UInt64)
    (nonce : Nonce) : Result Unit := do
  checkTimestamp now timestamp
  checkSequence state sequenceNr
  checkNonce state nonce

/-- **The answer depends on the device's own state.** -/
theorem check_verdict (now : SystemTime) (deviceId sequenceNr : UInt32) (timestamp : UInt64)
    (nonce : Nonce) (guard : ReplayGuard) :
    (check now deviceId sequenceNr timestamp nonce guard).1 =
      verdict now (guard.stateOf deviceId) sequenceNr timestamp nonce := by
  unfold check verdict
  cases checkTimestamp now timestamp with
  | err e => rfl
  | panic p => rfl
  | ok _ =>
      obtain ⟨guard', hentry, -⟩ := entry_spec deviceId guard
      rw [Stateful.bind_ok (Stateful.lift_apply _ _), Stateful.bind_ok hentry, Outcome.ok_bind]
      cases checkSequence (guard.stateOf deviceId) sequenceNr with
      | err e => rfl
      | panic p => rfl
      | ok _ =>
          rw [Stateful.bind_ok (Stateful.lift_apply _ _), Outcome.ok_bind]
          cases checkNonce (guard.stateOf deviceId) nonce with
          | err e => rfl
          | panic p => rfl
          | ok _ => rfl

/-- Two guards that hold the same on a device answer a check of it alike, and hold the same
on it afterwards. -/
theorem check_local {guard guard' : ReplayGuard} {deviceId : UInt32}
    (h : guard.devices.get deviceId = guard'.devices.get deviceId) (now : SystemTime)
    (sequenceNr : UInt32) (timestamp : UInt64) (nonce : Nonce) :
    (check now deviceId sequenceNr timestamp nonce guard).1 =
        (check now deviceId sequenceNr timestamp nonce guard').1 ∧
      (check now deviceId sequenceNr timestamp nonce guard).2.devices.get deviceId =
        (check now deviceId sequenceNr timestamp nonce guard').2.devices.get deviceId := by
  have hstate : guard.stateOf deviceId = guard'.stateOf deviceId := by rw [stateOf, h, stateOf]
  have hverdict : (check now deviceId sequenceNr timestamp nonce guard).1 =
      (check now deviceId sequenceNr timestamp nonce guard').1 := by
    rw [check_verdict, check_verdict, hstate]
  refine ⟨hverdict, ?_⟩
  rcases check_cases now deviceId sequenceNr timestamp nonce guard with
    ⟨-, heq⟩ | ⟨-, -, e, heq⟩ | ⟨hfresh, hadmits, heq⟩
  · rw [heq] at hverdict ⊢
    rw [check_unchanged (by simp [← hverdict]), h]
  · rw [heq] at hverdict ⊢
    rw [check_unchanged (by simp [← hverdict]), h]
  · rw [heq, check_ok_iff.mpr ⟨hfresh, hstate ▸ hadmits, rfl⟩, get_record, get_record,
      if_pos rfl, if_pos rfl, hstate]

/-- A check leaves the other devices alone. -/
theorem check_other (guard : ReplayGuard) {deviceId d : UInt32} (hne : d ≠ deviceId)
    (now : SystemTime) (sequenceNr : UInt32) (timestamp : UInt64) (nonce : Nonce) :
    (check now deviceId sequenceNr timestamp nonce guard).2.devices.get d =
      guard.devices.get d := by
  rcases check_cases now deviceId sequenceNr timestamp nonce guard with
    ⟨-, heq⟩ | ⟨-, -, e, heq⟩ | ⟨-, -, heq⟩
  · rw [heq]
  · rw [heq]
  · rw [heq, get_record, if_neg hne]

end ReplayGuard

/-! ### Noninterference -/

/-- The device that a call on the guard is about. -/
def GuardOp.deviceId : GuardOp → UInt32
  | .check call => call.deviceId
  | .removeDevice deviceId => deviceId

/-- The calls that are about `d`. -/
def callsFor (d : UInt32) (ops : List GuardOp) : List GuardOp :=
  ops.filter fun op => decide (op.deviceId = d)

/-- The part of a log that is about `d`. -/
def logFor (d : UInt32) (log : GuardLog) : GuardLog :=
  log.filter fun entry => decide (entry.1.deviceId = d)

theorem step_local {guard guard' : ReplayGuard} {d : UInt32} {op : GuardOp} (hd : op.deviceId = d)
    (h : guard.devices.get d = guard'.devices.get d) :
    (guardMachine.step guard op).2 = (guardMachine.step guard' op).2 ∧
      (guardMachine.step guard op).1.devices.get d =
        (guardMachine.step guard' op).1.devices.get d := by
  subst hd
  cases op with
  | check call =>
      exact ReplayGuard.check_local h call.now call.sequenceNr call.timestamp call.nonce
  | removeDevice deviceId =>
      have hgone (guard : ReplayGuard) : (guard.removeDevice deviceId).devices.get deviceId = none :=
        (HashMap.get_remove _ _ _).trans (if_pos rfl)
      exact ⟨rfl, (hgone guard).trans (hgone guard').symm⟩

theorem step_other (guard : ReplayGuard) {d : UInt32} {op : GuardOp} (hd : op.deviceId ≠ d) :
    (guardMachine.step guard op).1.devices.get d = guard.devices.get d := by
  cases op with
  | check call =>
      exact guard.check_other (Ne.symm hd) call.now call.sequenceNr call.timestamp call.nonce
  | removeDevice deviceId => exact (HashMap.get_remove _ _ _).trans (if_neg (Ne.symm hd))

/-- The calls about one device go as they go alone, from any two guards that hold the same on
that device. -/
theorem run_callsFor {guard guard' : ReplayGuard} (d : UInt32) (ops : List GuardOp)
    (h : guard.devices.get d = guard'.devices.get d) :
    logFor d (guardMachine.history guard ops) = guardMachine.history guard' (callsFor d ops) ∧
      (guardMachine.run guard ops).devices.get d =
        (guardMachine.run guard' (callsFor d ops)).devices.get d :=
  guardMachine.run_filter (fun guard => guard.devices.get d) (fun op => decide (op.deviceId = d))
    (fun _ _ _ hop => step_local (of_decide_eq_true hop))
    (fun guard _ hop => step_other guard (of_decide_eq_false hop)) ops h

/-- **Devices do not influence each other.** In every run of checks and removals, each call
with its own clock, the calls about a device end as they end when they alone are made on a
new guard, and the guard ends up with the same on that device. So two interleavings of the
same calls per device give every call the same verdict and end in the same guard. -/
theorem devices_do_not_interfere :
    (∀ (ops : List GuardOp) (d : UInt32),
      logFor d (guardMachine.history .new ops) = guardMachine.history .new (callsFor d ops) ∧
        (guardMachine.run .new ops).devices.get d =
          (guardMachine.run .new (callsFor d ops)).devices.get d) ∧
    (∀ ops ops' : List GuardOp, (∀ d, callsFor d ops = callsFor d ops') →
      (∀ d, logFor d (guardMachine.history .new ops) =
        logFor d (guardMachine.history .new ops')) ∧
      guardMachine.run .new ops = guardMachine.run .new ops') := by
  refine ⟨fun ops d => run_callsFor d ops rfl, ?_⟩
  intro ops ops' hsame
  refine ⟨fun d => ?_, congrArg ReplayGuard.mk (HashMap.ext fun d => ?_)⟩
  · rw [(run_callsFor d ops rfl).1, hsame d, (run_callsFor d ops' rfl).1]
  · rw [(run_callsFor d ops rfl).2, hsame d, (run_callsFor d ops' rfl).2]

/-! ### Which devices can still be accepted -/

/-- There are more nonces than a cache can hold. -/
theorem exists_fresh_nonce {cache : List Nonce} (h : cache.length ≤ NONCE_CACHE_SIZE) :
    ∃ nonce, nonce ∉ cache := by
  by_contra hfull
  simp only [not_exists, not_not] at hfull
  let nonces : List Nonce :=
    (List.range (NONCE_CACHE_SIZE + 1)).map fun i => List.Vector.replicate NONCE_SIZE (UInt8.ofNat i)
  have hnodup : nonces.Nodup := by decide +kernel
  have hle : nonces.length ≤ cache.length :=
    (hnodup.subperm fun nonce _ => hfull nonce).length_le
  have hlen : nonces.length = NONCE_CACHE_SIZE + 1 := by
    rw [List.length_map, List.length_range]
  omega

/-- The largest sequence number. -/
def maxSequenceNr : UInt32 := 0xFFFFFFFF

/-- Every sequence number but the last has a successor. -/
theorem lt_succ_of_ne_last {sequenceNr : UInt32} (h : sequenceNr ≠ maxSequenceNr) :
    sequenceNr < sequenceNr + 1 := by
  rw [UInt32.lt_iff_toNat_lt, UInt32.toNat_add, UInt32.toNat_one, Nat.mod_eq_of_lt (u32_succ_lt h)]
  exact Nat.lt_succ_self _

/-- A state with room in its cache admits some frame, unless the last number was used. -/
theorem exists_admitted {state : DeviceState}
    (hcache : state.nonceCache.length ≤ NONCE_CACHE_SIZE) :
    (∃ sequenceNr nonce, state.Admits sequenceNr nonce) ↔
      state.lastSequenceNr ≠ maxSequenceNr := by
  constructor
  · rintro ⟨sequenceNr, nonce, hzero | hlt, -⟩ hlast
    · rw [hlast] at hzero
      exact absurd hzero (by decide)
    · rw [hlast] at hlt
      have hbound := sequenceNr.toNat_lt
      have hmax : maxSequenceNr.toNat = 2 ^ 32 - 1 := rfl
      rw [UInt32.lt_iff_toNat_lt] at hlt
      omega
  · intro hlast
    obtain ⟨nonce, hnonce⟩ := exists_fresh_nonce hcache
    exact ⟨state.lastSequenceNr + 1, nonce, .inr (lt_succ_of_ne_last hlast), hnonce⟩

/-- In a run of checks no cache outgrows its bound. -/
theorem nonceCache_length_le (calls : List CheckCall) (d : UInt32) :
    ((guardMachine.run .new (calls.map .check)).stateOf d).nonceCache.length ≤
      NONCE_CACHE_SIZE := by
  rw [(run_summarised (calls.map .check)).nonceCache d, Window.rtake_length]
  exact Nat.min_le_left _ _

/-- The guard accepts some frame of the device. -/
def Acceptable (guard : ReplayGuard) (deviceId : UInt32) (now : UInt64) : Prop :=
  ∃ sequenceNr timestamp nonce,
    (ReplayGuard.check (.unix now) deviceId sequenceNr timestamp nonce guard).1 = .ok ()

/-- A frame stamped with the clock is fresh. -/
theorem fresh_now (now : UInt64) : Fresh (.unix now) now :=
  ⟨Nat.le_add_right _ _, Nat.le_add_right _ _⟩

theorem acceptable_iff_admits (guard : ReplayGuard) (deviceId : UInt32) (now : UInt64) :
    Acceptable guard deviceId now ↔
      ∃ sequenceNr nonce, (guard.stateOf deviceId).Admits sequenceNr nonce := by
  constructor
  · rintro ⟨sequenceNr, timestamp, nonce, hok⟩
    have hcheck : ReplayGuard.check (.unix now) deviceId sequenceNr timestamp nonce guard =
        (.ok (), _) := Prod.ext hok rfl
    exact ⟨sequenceNr, nonce, (ReplayGuard.check_ok_iff.mp hcheck).2.1⟩
  · rintro ⟨sequenceNr, nonce, hadmits⟩
    refine ⟨sequenceNr, now, nonce, ?_⟩
    rw [ReplayGuard.check_ok_iff.mpr ⟨fresh_now now, hadmits, rfl⟩]

/-- **The last sequence number is the only dead end.** After any run of checks, and whatever
the clock reads, some frame of a device is accepted if and only if the last number accepted from
it is not `2³² - 1`. So no accepted frame with a lower number bars its device. -/
theorem acceptable_iff :
    (∀ (calls : List CheckCall) (deviceId : UInt32) (now : UInt64),
      let guard := guardMachine.run .new (calls.map .check)
      Acceptable guard deviceId now ↔
        (guard.devices.get deviceId).map (·.lastSequenceNr) ≠ some 0xFFFFFFFF) ∧
    (∀ (calls : List CheckCall) (call : CheckCall) (now : UInt64),
      (guardMachine.step (guardMachine.run .new (calls.map .check)) (.check call)).2 = .ok () →
      call.sequenceNr ≠ 0xFFFFFFFF →
      Acceptable (guardMachine.run .new ((calls ++ [call]).map .check)) call.deviceId now) := by
  have hiff : ∀ (calls : List CheckCall) (deviceId : UInt32) (now : UInt64),
      Acceptable (guardMachine.run .new (calls.map .check)) deviceId now ↔
        ((guardMachine.run .new (calls.map .check)).stateOf deviceId).lastSequenceNr ≠
          maxSequenceNr := by
    intro calls deviceId now
    rw [acceptable_iff_admits, exists_admitted (nonceCache_length_le calls deviceId)]
  refine ⟨?_, ?_⟩
  · intro calls deviceId now guard
    rw [hiff, ReplayGuard.stateOf]
    cases hget : guard.devices.get deviceId with
    | none => exact iff_of_true (by decide) (by simp)
    | some state =>
        rw [Option.getD_some, Option.map_some, ne_eq, ne_eq, Option.some_inj]
        rfl
  · intro calls call now hok hseq
    rw [hiff, List.map_append, List.map_singleton, Machine.run_append, Machine.run_cons,
      Machine.run_nil]
    rcases step_check (guardMachine.run .new (calls.map .check)) call with
      ⟨-, hstep⟩ | ⟨-, result, hresult, hstep⟩
    · rw [hstep, ReplayGuard.stateOf_record, if_pos rfl]
      exact hseq
    · rw [hstep] at hok
      exact absurd hok hresult

/-- A frame of device 1 with the last sequence number. -/
def lastFrame : CheckCall where
  now := .unix 100
  deviceId := 1
  sequenceNr := 0xFFFFFFFF
  timestamp := 100
  nonce := List.Vector.replicate NONCE_SIZE 0x01

/-- Once that frame has been accepted, no other frame of the device is. -/
theorem last_sequence_nr_bars :
    ¬ ∀ (calls : List CheckCall) (deviceId : UInt32) (now : UInt64),
      Acceptable (guardMachine.run .new (calls.map .check)) deviceId now := by
  intro h
  obtain ⟨sequenceNr, nonce, hadmits⟩ := (acceptable_iff_admits _ _ _).mp (h [lastFrame] 1 100)
  have hcache : (guardMachine.run .new ([lastFrame].map .check)).stateOf 1 =
      ⟨0xFFFFFFFF, [lastFrame.nonce]⟩ := by decide +kernel
  rw [hcache] at hadmits
  exact (exists_admitted (by simp [NONCE_CACHE_SIZE])).mp ⟨_, _, hadmits⟩ rfl

/-- The same device with the number before that. -/
theorem acceptable_iff_before_last :
    Acceptable (guardMachine.run .new ([{ lastFrame with sequenceNr := 0xFFFFFFFE }].map .check))
      1 100 :=
  acceptable_iff.2 [] { lastFrame with sequenceNr := 0xFFFFFFFE } 100 (by decide +kernel)
    (by decide)

end SecurePipe
