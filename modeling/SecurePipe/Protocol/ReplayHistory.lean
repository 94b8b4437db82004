import SecurePipe.Lib.Machine
import SecurePipe.Protocol.Replay

/-!
# SecurePipe.Protocol.ReplayHistory

**The replay guard is a summary of its history.** Over any run of `check` and
`remove_device` calls, what the guard holds on a device is a function of the calls
it accepted for that device since the device was last removed (`run_summarised`):
the last sequence number, and the last `NONCE_CACHE_SIZE` nonces, all distinct.

From there the order of the accepted sequence numbers is read off. They increase
strictly as long as a device whose last accepted number is zero is not sent zero
again: zero doubles as the mark of a device that has sent nothing yet.
-/

namespace SecurePipe

open Rust

/-! ### Runs of the guard -/

/-- The arguments of one call of `check`, with what the clock reads during it. -/
structure CheckCall where
  now : SystemTime
  deviceId : UInt32
  sequenceNr : UInt32
  timestamp : UInt64
  nonce : Nonce
  deriving DecidableEq

/-- A call on the guard. -/
inductive GuardOp
  | check (call : CheckCall)
  | removeDevice (deviceId : UInt32)
  deriving DecidableEq

/-- The guard, taking calls and answering with how they end. -/
def guardMachine : Machine ReplayGuard GuardOp (Result Unit) where
  step guard
    | .check call =>
        let (result, guard') :=
          ReplayGuard.check call.now call.deviceId call.sequenceNr call.timestamp call.nonce guard
        (guard', result)
    | .removeDevice deviceId => (guard.removeDevice deviceId, .ok ())

/-- The guard accepts the call. -/
def CheckCall.Passes (call : CheckCall) (guard : ReplayGuard) : Prop :=
  Fresh call.now call.timestamp ∧
    (guard.stateOf call.deviceId).Admits call.sequenceNr call.nonce

instance (call : CheckCall) (guard : ReplayGuard) : Decidable (call.Passes guard) :=
  inferInstanceAs (Decidable (_ ∧ _))

/-- A check either passes and is recorded, or fails and changes nothing. -/
theorem step_check (guard : ReplayGuard) (call : CheckCall) :
    (call.Passes guard ∧ guardMachine.step guard (.check call) =
      (guard.record call.deviceId call.sequenceNr call.nonce, .ok ())) ∨
    (¬ call.Passes guard ∧ ∃ result, result ≠ .ok () ∧
      guardMachine.step guard (.check call) = (guard, result)) := by
  unfold guardMachine CheckCall.Passes
  rcases guard.check_cases call.now call.deviceId call.sequenceNr call.timestamp call.nonce with
    ⟨hnow, heq⟩ | ⟨-, hrefused, e, heq⟩ | ⟨hfresh, hadmits, heq⟩
  · refine .inr ⟨?_, .panic .unwrapErr, nofun, by simp only [heq]⟩
    rw [hnow]
    exact fun h => h.1
  · exact .inr ⟨hrefused, .err e, nofun, by simp only [heq]⟩
  · exact .inl ⟨⟨hfresh, hadmits⟩, by simp only [heq]⟩

/-- Calls on a guard, each with how it ended. -/
abbrev GuardLog := List (GuardOp × Result Unit)

namespace GuardLog

/-- The call of an entry, if it is a check for `d` that was accepted. -/
def acceptedCall (d : UInt32) : GuardOp × Result Unit → Option CheckCall
  | (.check call, .ok ()) => if call.deviceId = d then some call else none
  | _ => none

theorem acceptedCall_ok (d : UInt32) (call : CheckCall) :
    acceptedCall d (.check call, .ok ()) = if call.deviceId = d then some call else none := rfl

theorem acceptedCall_removal (d d' : UInt32) (result : Result Unit) :
    acceptedCall d (.removeDevice d', result) = none := rfl

theorem acceptedCall_refused (d : UInt32) (call : CheckCall) {result : Result Unit}
    (h : result ≠ .ok ()) : acceptedCall d (.check call, result) = none := by
  cases result with
  | ok _ => exact absurd rfl h
  | err _ => rfl
  | panic _ => rfl

/-- The accepted checks for `d`, in order. -/
def accepted (d : UInt32) (log : GuardLog) : List CheckCall :=
  log.filterMap (acceptedCall d)

/-- The part of the log after the last removal of `d`. -/
def sinceRemoval (d : UInt32) (log : GuardLog) : GuardLog :=
  log.rtakeWhile fun entry => decide (entry.1 ≠ .removeDevice d)

theorem accepted_snoc (d : UInt32) (log : GuardLog) (entry : GuardOp × Result Unit) :
    accepted d (log ++ [entry]) = accepted d log ++ (acceptedCall d entry).toList := by
  simp only [accepted]
  rw [List.filterMap_append]
  cases h : acceptedCall d entry with
  | none => simp [h]
  | some call => simp [h]

theorem sinceRemoval_snoc {d : UInt32} {log : GuardLog} {entry : GuardOp × Result Unit}
    (h : entry.1 ≠ .removeDevice d) :
    sinceRemoval d (log ++ [entry]) = sinceRemoval d log ++ [entry] :=
  List.rtakeWhile_concat_pos _ _ _ (decide_eq_true h)

theorem sinceRemoval_removed (d : UInt32) (log : GuardLog) (result : Result Unit) :
    sinceRemoval d (log ++ [(.removeDevice d, result)]) = [] :=
  List.rtakeWhile_concat_neg _ _ _ (by simp)

/-- A log of checks alone has no removals. -/
theorem sinceRemoval_checks (d : UInt32) (guard : ReplayGuard) (calls : List CheckCall) :
    sinceRemoval d (guardMachine.history guard (calls.map .check)) =
      guardMachine.history guard (calls.map .check) := by
  unfold sinceRemoval
  rw [List.rtakeWhile_eq_self_iff]
  induction calls generalizing guard with
  | nil => exact fun _ h => absurd h List.not_mem_nil
  | cons call calls ih =>
      intro entry hentry
      rcases List.mem_cons.mp hentry with rfl | hlater
      · rfl
      · exact ih _ _ hlater

end GuardLog

open GuardLog

/-! ### The summary -/

/-- What a guard remembers of a device, from the calls it has accepted for it. -/
def summary (calls : List CheckCall) : Option DeviceState :=
  calls.getLast?.map fun last =>
    { lastSequenceNr := last.sequenceNr
      nonceCache := (calls.map (·.nonce)).rtake NONCE_CACHE_SIZE }

/-- The guard holds exactly the summaries of the log, and no nonce twice for a device. -/
def Summarised (guard : ReplayGuard) (log : GuardLog) : Prop :=
  ∀ d, guard.devices.get d = summary (accepted d (sinceRemoval d log)) ∧
    (((accepted d (sinceRemoval d log)).map (·.nonce)).rtake NONCE_CACHE_SIZE).Nodup

theorem summary_eq_none {calls : List CheckCall} : summary calls = none ↔ calls = [] := by
  rw [summary, Option.map_eq_none_iff, List.getLast?_eq_none_iff]

/-- The cache of a device, present or not, is the last nonces accepted from it. -/
theorem Summarised.nonceCache {guard : ReplayGuard} {log : GuardLog} (h : Summarised guard log)
    (d : UInt32) :
    (guard.stateOf d).nonceCache =
      ((accepted d (sinceRemoval d log)).map (·.nonce)).rtake NONCE_CACHE_SIZE := by
  rw [ReplayGuard.stateOf, (h d).1, summary]
  cases hlast : (accepted d (sinceRemoval d log)).getLast? with
  | some last => rfl
  | none =>
      rw [List.getLast?_eq_none_iff.mp hlast]
      rfl

/-- Recording a call extends the summary by that call. -/
theorem summary_snoc {state : DeviceState} {calls : List CheckCall} (call : CheckCall)
    (h : state.nonceCache = (calls.map (·.nonce)).rtake NONCE_CACHE_SIZE) :
    some (state.record call.sequenceNr call.nonce) = summary (calls ++ [call]) := by
  rw [summary, List.getLast?_concat, Option.map_some, DeviceState.record, h,
    Window.push_rtake (by decide), List.map_append, List.map_singleton]

theorem nodup_snoc {state : DeviceState} {calls : List CheckCall} {call : CheckCall}
    (h : state.nonceCache = (calls.map (·.nonce)).rtake NONCE_CACHE_SIZE)
    (hnodup : state.nonceCache.Nodup) (hnew : call.nonce ∉ state.nonceCache) :
    (((calls ++ [call]).map (·.nonce)).rtake NONCE_CACHE_SIZE).Nodup := by
  rw [List.map_append, List.map_singleton, ← Window.push_rtake (by decide), ← h]
  exact Window.push_nodup hnodup hnew

/-- **One call keeps the summary.** -/
theorem step_summarised {guard : ReplayGuard} {log : GuardLog} (op : GuardOp)
    (h : Summarised guard log) :
    Summarised (guardMachine.step guard op).1 (log ++ [(op, (guardMachine.step guard op).2)]) := by
  intro d
  cases op with
  | removeDevice deviceId =>
      by_cases hd : d = deviceId
      · subst hd
        rw [sinceRemoval_removed]
        exact ⟨(HashMap.get_remove _ _ _).trans (if_pos rfl), List.nodup_nil⟩
      · rw [sinceRemoval_snoc (by simpa using Ne.symm hd), accepted_snoc,
          acceptedCall_removal, Option.toList_none, List.append_nil]
        exact ⟨((HashMap.get_remove _ _ _).trans (if_neg hd)).trans (h d).1, (h d).2⟩
  | check call =>
      rw [sinceRemoval_snoc (by simp), accepted_snoc]
      rcases step_check guard call with ⟨hpasses, hstep⟩ | ⟨-, result, hresult, hstep⟩
      · rw [hstep, acceptedCall_ok, ReplayGuard.get_record]
        by_cases hd : call.deviceId = d
        · subst hd
          rw [if_pos rfl, if_pos rfl, Option.toList_some]
          have hcache := h.nonceCache call.deviceId
          exact ⟨summary_snoc call hcache,
            nodup_snoc hcache (hcache ▸ (h call.deviceId).2) hpasses.2.2⟩
        · rw [if_neg hd, if_neg (Ne.symm hd), Option.toList_none, List.append_nil]
          exact h d
      · rw [hstep, acceptedCall_refused d call hresult, Option.toList_none, List.append_nil]
        exact h d

/-- **Every run keeps the summary.** -/
theorem run_summarised (ops : List GuardOp) :
    Summarised (guardMachine.run .new ops) (guardMachine.history .new ops) :=
  guardMachine.induct_history (fun _ _ op h _ => step_summarised op h)
    (fun d => ⟨HashMap.get_new d, List.nodup_nil⟩) (guardMachine.along_true _ ops)

/-- **The guard's state is exactly the summary of its accepted history.** A device has
an entry if and only if a check for it was accepted since it was last removed; the entry
then holds the sequence number of the last of these and the nonces of the last
`NONCE_CACHE_SIZE` of them, all distinct. -/
theorem guard_state_is_summary (ops : List GuardOp) (d : UInt32) :
    let calls := accepted d (sinceRemoval d (guardMachine.history .new ops))
    let entry := (guardMachine.run .new ops).devices.get d
    (entry.isSome ↔ calls ≠ []) ∧
      ∀ state, entry = some state →
        (calls.getLast?.map (·.sequenceNr) = some state.lastSequenceNr) ∧
        state.nonceCache = (calls.map (·.nonce)).rtake NONCE_CACHE_SIZE ∧
        state.nonceCache.length = min NONCE_CACHE_SIZE calls.length ∧
        state.nonceCache.Nodup ∧ state.nonceCache.length ≤ NONCE_CACHE_SIZE := by
  intro calls entry
  obtain ⟨hentry, hnodup⟩ := run_summarised ops d
  refine ⟨?_, ?_⟩
  · rw [Option.isSome_iff_ne_none, not_iff_not, show entry = summary calls from hentry]
    exact summary_eq_none
  · intro state hstate
    have hsummary : summary calls = some state := hentry.symm.trans hstate
    obtain ⟨last, hlast, rfl⟩ := Option.map_eq_some_iff.mp hsummary
    have hlen := Window.rtake_length NONCE_CACHE_SIZE (calls.map (·.nonce))
    rw [List.length_map] at hlen
    exact ⟨by rw [hlast]; rfl, rfl, hlen, hnodup, hlen.trans_le (Nat.min_le_left _ _)⟩

/-! ### The order of the accepted sequence numbers -/

/-- The accepted sequence numbers of every device increase strictly. -/
def Increasing (log : GuardLog) : Prop :=
  ∀ d, (accepted d log).Pairwise fun earlier later => earlier.sequenceNr < later.sequenceNr

/-- No frame is accepted twice. -/
def NeverTwice (log : GuardLog) : Prop :=
  ∀ d, ((accepted d log).map fun call =>
    (call.deviceId, call.sequenceNr, call.timestamp, call.nonce)).Nodup

/-- The call passes sequence number zero to a device whose last accepted number is
already zero, with nothing else to refuse it for. -/
def ZeroAgain (guard : ReplayGuard) (call : CheckCall) : Prop :=
  call.sequenceNr = 0 ∧
    (guard.devices.get call.deviceId).map (·.lastSequenceNr) = some 0 ∧
    call.nonce ∉ (guard.stateOf call.deviceId).nonceCache ∧
    Fresh call.now call.timestamp

theorem Increasing.neverTwice {log : GuardLog} (h : Increasing log) : NeverTwice log := by
  intro d
  refine List.pairwise_map.mpr ((h d).imp ?_)
  intro earlier later hlt heq
  exact UInt32.lt_irrefl _ ((Prod.mk.inj (Prod.mk.inj heq).2).1 ▸ hlt)

/-- A log of checks alone has no removals to look past. -/
theorem summarised_checks (calls : List CheckCall) (d : UInt32) :
    (guardMachine.run .new (calls.map .check)).devices.get d =
      summary (accepted d (guardMachine.history .new (calls.map .check))) := by
  have h := (run_summarised (calls.map .check) d).1
  rwa [sinceRemoval_checks] at h

theorem ZeroAgain.passes {guard : ReplayGuard} {call : CheckCall} (h : ZeroAgain guard call) :
    call.Passes guard := by
  obtain ⟨-, hlast, hnonce, hfresh⟩ := h
  obtain ⟨state, hstate, hzero⟩ := Option.map_eq_some_iff.mp hlast
  refine ⟨hfresh, .inl ?_, hnonce⟩
  rw [ReplayGuard.stateOf, hstate]
  exact hzero

/-- Accepting a call keeps the order when the call is above all accepted before it. -/
theorem increasing_accepted {log : GuardLog} (call : CheckCall) (hinc : Increasing log) :
    Increasing (log ++ [(.check call, .ok ())]) ↔
      ∀ earlier ∈ accepted call.deviceId log, earlier.sequenceNr < call.sequenceNr := by
  constructor
  · intro h earlier hearlier
    have hpair := h call.deviceId
    rw [accepted_snoc, acceptedCall_ok, if_pos rfl, Option.toList_some] at hpair
    exact (List.pairwise_append.mp hpair).2.2 earlier hearlier call (List.mem_singleton_self _)
  · intro h d
    rw [accepted_snoc, acceptedCall_ok]
    by_cases hd : call.deviceId = d
    · subst hd
      rw [if_pos rfl, Option.toList_some]
      refine List.pairwise_append.mpr ⟨hinc _, List.pairwise_singleton _ _, ?_⟩
      intro earlier hearlier later hlater
      obtain rfl := List.mem_singleton.mp hlater
      exact h earlier hearlier
    · rw [if_neg hd, Option.toList_none, List.append_nil]
      exact hinc d

/-- In an increasing list nothing is above the last element. -/
theorem le_last {calls : List CheckCall} {last : CheckCall}
    (hinc : calls.Pairwise fun earlier later => earlier.sequenceNr < later.sequenceNr)
    (hlast : calls.getLast? = some last) :
    ∀ call ∈ calls, call.sequenceNr ≤ last.sequenceNr := by
  obtain ⟨front, rfl⟩ := List.getLast?_eq_some_iff.mp hlast
  intro call hcall
  rcases List.mem_append.mp hcall with hfront | hlast
  · exact UInt32.le_of_lt ((List.pairwise_append.mp hinc).2.2 call hfront last (by simp))
  · rw [List.mem_singleton.mp hlast]
    exact UInt32.le_refl _

/-- **One call keeps the order** unless it sends zero again, and then it breaks it. -/
theorem increasing_snoc {guard : ReplayGuard} {log : GuardLog} (call : CheckCall)
    (hsummary : ∀ d, guard.devices.get d = summary (accepted d log)) (hinc : Increasing log) :
    Increasing (log ++ [(.check call, (guardMachine.step guard (.check call)).2)]) ↔
      ¬ ZeroAgain guard call := by
  rcases step_check guard call with ⟨hpasses, hstep⟩ | ⟨hrefused, result, hresult, hstep⟩
  · rw [hstep, increasing_accepted call hinc]
    have hget := hsummary call.deviceId
    obtain ⟨hfresh, hadmits, hnonce⟩ := hpasses
    cases hlast : (accepted call.deviceId log).getLast? with
    | none =>
        -- the first frame of the device: nothing to be above, and no entry to hold a zero
        rw [summary, hlast, Option.map_none] at hget
        rw [List.getLast?_eq_none_iff.mp hlast]
        refine iff_of_true (fun _ h => absurd h List.not_mem_nil) ?_
        intro hzero
        have hentry := hzero.2.1
        rw [hget] at hentry
        cases hentry
    | some last =>
        rw [summary, hlast, Option.map_some] at hget
        rw [ReplayGuard.stateOf, hget] at hadmits
        constructor
        · intro habove hzero
          have hentry := hzero.2.1
          rw [hget] at hentry
          have hlt := habove last (List.mem_of_getLast? hlast)
          have hlastZero : last.sequenceNr = 0 := Option.some.inj hentry
          rw [hzero.1, hlastZero] at hlt
          exact UInt32.lt_irrefl _ hlt
        · intro hzero earlier hearlier
          have hle := le_last (hinc call.deviceId) hlast earlier hearlier
          rcases hadmits with hlastZero | hlt
          · have hne : call.sequenceNr ≠ 0 := fun h =>
              hzero ⟨h, by rw [hget]; exact congrArg some hlastZero, hnonce, hfresh⟩
            exact UInt32.lt_of_le_of_lt (hlastZero ▸ hle) (UInt32.pos_iff_ne_zero.mpr hne)
          · exact UInt32.lt_of_le_of_lt hle hlt
  · rw [hstep]
    refine iff_of_true ?_ fun hzero => hrefused hzero.passes
    intro d
    rw [accepted_snoc, acceptedCall_refused d call hresult, Option.toList_none, List.append_nil]
    exact hinc d

/-- An order that holds of a run held before its last call. -/
theorem Increasing.of_snoc {log : GuardLog} {entry : GuardOp × Result Unit}
    (h : Increasing (log ++ [entry])) : Increasing log := by
  intro d
  have hpair := h d
  rw [accepted_snoc] at hpair
  exact (List.pairwise_append.mp hpair).1

/-- **Sequence numbers strictly increase per device exactly as long as zero is not sent
again.** Over every run of checks on a new guard, the accepted sequence numbers of each
device increase strictly, and no frame is accepted twice, if and only if no call of the run
passes zero to a device whose last accepted number is zero. -/
theorem increasing_iff (calls : List CheckCall) :
    (Increasing (guardMachine.history .new (calls.map .check)) ∧
      NeverTwice (guardMachine.history .new (calls.map .check))) ↔
    guardMachine.Along (fun guard op => ∀ call, op = .check call → ¬ ZeroAgain guard call)
      .new (calls.map .check) := by
  rw [and_iff_left_of_imp Increasing.neverTwice]
  induction calls using List.reverseRecOn with
  | nil => exact iff_of_true (fun _ => List.Pairwise.nil) trivial
  | append_singleton calls call ih =>
      rw [List.map_append, List.map_singleton, Machine.history_append, Machine.along_append, ← ih]
      constructor
      · intro h
        refine ⟨h.of_snoc, ?_, trivial⟩
        rintro _ ⟨⟩
        exact (increasing_snoc call (summarised_checks calls) h.of_snoc).mp h
      · rintro ⟨hinc, hlast, -⟩
        exact (increasing_snoc call (summarised_checks calls) hinc).mpr (hlast call rfl)

/-- A frame with sequence number zero and a nonce made of one byte. -/
def zeroFrame (byte : UInt8) : CheckCall where
  now := .unix 100
  deviceId := 1
  sequenceNr := 0
  timestamp := 100
  nonce := List.Vector.replicate NONCE_SIZE byte

/-- A device that sends zero twice has both accepted. Once 64 more zeros have gone by, the
first frame has left the nonce cache and is accepted again, byte for byte. -/
theorem zero_accepted_again :
    (¬ ∀ calls : List CheckCall, Increasing (guardMachine.history .new (calls.map .check))) ∧
    ¬ ∀ calls : List CheckCall, NeverTwice (guardMachine.history .new (calls.map .check)) := by
  constructor
  · intro h
    have hpair := h [zeroFrame 0, zeroFrame 1] 1
    revert hpair
    decide +kernel
  · intro h
    have hnodup := h ((List.range 66).map fun i => zeroFrame (UInt8.ofNat (i % 65))) 1
    revert hnodup
    decide +kernel

end SecurePipe
