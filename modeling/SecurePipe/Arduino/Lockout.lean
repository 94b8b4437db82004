import SecurePipe.Arduino.EndToEnd
import SecurePipe.Arduino.Esp32Sender
import SecurePipe.Lib.Trace

/-!
# SecurePipe.Arduino.Lockout

One ESP32 sender and the replay guard of a gateway that stays up, with the frames in flight
between them. **When is the device locked out?** The guard wants sequence numbers that
increase. The sender keeps its counter in flash and counts up there before it sends, so
whatever becomes of its power and its connections, no number is used twice
(`never_locked_out`). But a config reset clears the counter together with the configuration:
after that, everything the device sends is a replay (`reset_locks_out`).
-/

namespace SecurePipe

open Rust

namespace Esp32

/-! ### The sender, the frames in flight, and the guard -/

/-- The number of frames that the statement begins. -/
def Pc.begins : Pc → Nat
  | .incrementSequenceNr _ => 1
  | _ => 0

structure Uplink where
  sender : Sender
  /-- How many frames have been begun: calls of `processAndSend` and `processAndSendDirect`,
  whatever has become of them. -/
  begun : Nat
  /-- The frames written so far, oldest first. -/
  sent : List SentFrame
  /-- Those that will be delivered, oldest first. -/
  inFlight : List SentFrame
  replayGuard : ReplayGuard

/-- A new device, and a gateway that has just started. -/
def Uplink.start : Uplink where
  sender := .boot .empty
  begun := 0
  sent := []
  inFlight := []
  replayGuard := .new

inductive UplinkAction
  /-- The sender executes a statement. -/
  | run (world : World)
  /-- The power of the sender goes and comes back. -/
  | powerLoss
  /-- The oldest frame in flight reaches the replay guard. -/
  | deliver (now : SystemTime)
  /-- The oldest frame in flight is lost. -/
  | lose

variable (mbedtls : MbedTls)

namespace Uplink

/-- One step, and the verdict on the frame that it delivers. -/
def step (s : Uplink) : UplinkAction → Uplink × Option (SentFrame × Result Unit)
  | .run world =>
      let (sender, wrote) := s.sender.step mbedtls world
      let begun := s.begun + s.sender.pc.begins
      match wrote with
      | none => ({ s with sender, begun }, none)
      | some (frame, written) =>
          let arriving :=
            if written = HEADER_SIZE + PAYLOAD_SIZE + AUTH_TAG_SIZE then [frame] else []
          ({ s with
              sender
              begun
              sent := s.sent ++ [frame]
              inFlight := s.inFlight ++ arriving }, none)
  | .powerLoss => ({ s with sender := .boot s.sender.nvs }, none)
  | .deliver now =>
      match s.inFlight with
      | [] => (s, none)
      | frame :: inFlight =>
          let (verdict, replayGuard) := ReplayGuard.check now frame.deviceId frame.sequenceNr
            frame.timestamp frame.nonce s.replayGuard
          ({ s with inFlight, replayGuard }, some (frame, verdict))
  | .lose => ({ s with inFlight := s.inFlight.tail }, none)

end Uplink

def uplinkMachine : Machine Uplink UplinkAction (Option (SentFrame × Result Unit)) where
  step := Uplink.step mbedtls

/-- The frame that is delivered bears a timestamp within the window. -/
def Timely (s : Uplink) : UplinkAction → Prop
  | .deliver now => ∀ frame ∈ s.inFlight.head?, Fresh now frame.timestamp
  | _ => True

/-- A config reset comes while the gateway has accepted no frame, and none is in flight. -/
def ResetUnused (s : Uplink) : UplinkAction → Prop
  | .run _ => s.sender.pc = .clearPreferences → s.replayGuard = .new ∧ s.inFlight = []
  | _ => True

instance (s : Uplink) : DecidablePred (Timely s)
  | .run _ => .isTrue trivial
  | .powerLoss => .isTrue trivial
  | .deliver now =>
      inferInstanceAs (Decidable (∀ frame ∈ s.inFlight.head?, Fresh now frame.timestamp))
  | .lose => .isTrue trivial

instance (s : Uplink) : DecidablePred (ResetUnused s)
  | .run _ => inferInstanceAs (Decidable (_ → _ ∧ _))
  | .powerLoss => .isTrue trivial
  | .deliver _ => .isTrue trivial
  | .lose => .isTrue trivial

/-! ### The invariant -/

/-- The numbers that are in flight, and those that the gateway knows, are below `n`. -/
structure Uplink.Below (s : Uplink) (n : Nat) : Prop where
  inFlight {frame : SentFrame} (h : frame ∈ s.inFlight) : frame.sequenceNr.toNat < n
  guard (d : UInt32) : (s.replayGuard.stateOf d).lastSequenceNr.toNat < n

/-- The invariant of all runs in which resets come before any frame. -/
structure Uplink.Sound (s : Uplink) : Prop where
  consistent : s.sender.Consistent
  saved_le : s.sender.saved.toNat ≤ s.begun
  counting_le (h : s.sender.pc.phase = .counting) : s.sender.saved.toNat + 1 ≤ s.begun
  below : s.Below (s.sender.saved.toNat + 1)
  counted (h : s.sender.pc.phase = .counted) : s.Below s.sender.saved.toNat
  increasing : s.inFlight.Pairwise fun f g => f.sequenceNr.toNat < g.sequenceNr.toNat
  ahead {frame : SentFrame} (h : frame ∈ s.inFlight) (d : UInt32) :
    (s.replayGuard.stateOf d).lastSequenceNr.toNat < frame.sequenceNr.toNat
  nonces : ∃ accepted : List Nonce,
    (accepted ++ s.inFlight.map SentFrame.nonce).Sublist (s.sent.map SentFrame.nonce) ∧
    ∀ d, ∀ nonce ∈ (s.replayGuard.stateOf d).nonceCache, nonce ∈ accepted

theorem stateOf_new (d : UInt32) : ReplayGuard.new.stateOf d = DeviceState.new := rfl

theorem Uplink.Below.mono {s : Uplink} {m n : Nat} (h : s.Below m) (hmn : m ≤ n) : s.Below n where
  inFlight hmem := Nat.lt_of_lt_of_le (h.inFlight hmem) hmn
  guard d := Nat.lt_of_lt_of_le (h.guard d) hmn

theorem Uplink.below_unused {s : Uplink} {n : Nat} (hguard : s.replayGuard = .new)
    (hempty : s.inFlight = []) (hn : 0 < n) : s.Below n where
  inFlight hmem := by
    rw [hempty] at hmem
    exact absurd hmem List.not_mem_nil
  guard d := by
    rw [hguard, stateOf_new]
    exact hn

theorem sound_start : Uplink.start.Sound where
  consistent := Sender.consistent_starting rfl
  saved_le := Nat.le_refl 0
  counting_le h := nomatch h
  below := Uplink.below_unused rfl rfl (Nat.zero_lt_succ _)
  counted h := nomatch h
  increasing := List.Pairwise.nil
  ahead h := absurd h List.not_mem_nil
  nonces := ⟨[], List.Sublist.slnil, fun _ _ h => absurd h List.not_mem_nil⟩

variable {mbedtls : MbedTls} {s : Uplink}

/-- A statement that writes no frame. -/
theorem Uplink.Sound.sender (h : s.Sound) {sender : Sender} {begun : Nat}
    (heffect : s.sender.Effect mbedtls none sender) (hbegun : s.begun + s.sender.pc.begins ≤ begun)
    (hfew : begun < 2 ^ 32 - 1)
    (hreset : s.sender.pc = .clearPreferences → s.replayGuard = .new ∧ s.inFlight = []) :
    Uplink.Sound { s with sender, begun } := by
  have hbegun' : s.begun ≤ begun := Nat.le_of_add_right_le hbegun
  have hconsistent : sender.Consistent := by
    refine h.consistent.effect heffect ?_
    intro payload hpc
    rw [hpc] at hbegun
    rw [h.consistent.ready (congrArg Pc.phase hpc)]
    have hsaved := h.saved_le
    simp only [Pc.begins] at hbegun
    omega
  -- the statements that leave the number in flash alone
  have hkeep : sender.saved = s.sender.saved →
      (sender.pc.phase = .counting → s.sender.saved.toNat + 1 ≤ begun) →
      (sender.pc.phase = .counted → s.sender.pc.phase = .counted) →
      Uplink.Sound { s with sender, begun } := by
    intro hsaved hcounting hcounted
    refine ⟨hconsistent, ?_, ?_, ?_, ?_, h.increasing, h.ahead, h.nonces⟩
    · rw [hsaved]
      exact Nat.le_trans h.saved_le hbegun'
    · rw [hsaved]
      exact hcounting
    · rw [hsaved]
      exact ⟨h.below.inFlight, h.below.guard⟩
    · intro hphase
      rw [hsaved]
      exact ⟨(h.counted (hcounted hphase)).inFlight, (h.counted (hcounted hphase)).guard⟩
  cases heffect with
  | setup hphase hsaved =>
      exact hkeep hsaved (fun h => nomatch hphase.symm.trans h) (fun h => nomatch hphase.symm.trans h)
  | loaded hphase hsaved hseq =>
      exact hkeep hsaved (fun h => nomatch hphase.symm.trans h) (fun h => nomatch hphase.symm.trans h)
  | idle hphase hphase' hsaved hseq =>
      exact hkeep hsaved (fun h => nomatch hphase'.symm.trans h)
        (fun h => nomatch hphase'.symm.trans h)
  | incremented hpc hphase hsaved hseq =>
      refine hkeep hsaved (fun _ => ?_) (fun h => nomatch hphase.symm.trans h)
      rw [hpc] at hbegun
      exact Nat.le_trans (Nat.succ_le_succ h.saved_le) hbegun
  | making hphase hphase' hsaved hseq hframe =>
      exact hkeep hsaved (fun h => nomatch hphase'.symm.trans h) (fun _ => hphase)
  | cleared hpc hphase hsaved =>
      obtain ⟨hguard, hempty⟩ := hreset hpc
      refine ⟨hconsistent, ?_, (fun h => nomatch hphase.symm.trans h), ?_,
        (fun h => nomatch hphase.symm.trans h), h.increasing, h.ahead, h.nonces⟩
      · rw [hsaved]
        exact Nat.zero_le begun
      · exact Uplink.below_unused hguard hempty (Nat.zero_lt_succ _)
  | saved hpc hpc' hsaved hseq =>
      have hnext : sender.saved.toNat = s.sender.saved.toNat + 1 := by
        rw [hsaved]
        exact h.consistent.counting (congrArg Pc.phase hpc)
      have hbelow : Uplink.Below { s with sender, begun } sender.saved.toNat := by
        rw [hnext]
        exact ⟨h.below.inFlight, h.below.guard⟩
      refine ⟨hconsistent, ?_, ?_, hbelow.mono (Nat.le_succ _), fun _ => hbelow, h.increasing,
        h.ahead, h.nonces⟩
      · rw [hnext]
        exact Nat.le_trans (h.counting_le (congrArg Pc.phase hpc)) hbegun'
      · rw [hpc']
        exact nofun

/-- The statement that writes a frame, which arrives or does not. -/
theorem Uplink.Sound.wrote (h : s.Sound) {sender : Sender} {begun written : Nat}
    {frame : SentFrame} {arriving : List SentFrame}
    (heffect : s.sender.Effect mbedtls (some (frame, written)) sender) (hbegun : s.begun ≤ begun)
    (harriving : arriving = [frame] ∨ arriving = []) :
    Uplink.Sound
      { s with
        sender
        begun
        sent := s.sent ++ [frame]
        inFlight := s.inFlight ++ arriving } := by
  cases heffect with
  | wrote _ hpc hphase hsaved hseq =>
  have hcounted : s.sender.pc.phase = .counted := congrArg Pc.phase hpc
  have hnumber : frame.sequenceNr = s.sender.saved :=
    (h.consistent.writing hpc).trans (h.consistent.counted hcounted)
  have hnew : ∀ {g : SentFrame}, g ∈ arriving → g = frame := by
    intro g hg
    rcases harriving with rfl | rfl
    · exact List.mem_singleton.mp hg
    · exact absurd hg List.not_mem_nil
  refine ⟨Sender.consistent_ready hphase ?_, ?_, (fun h => nomatch hphase.symm.trans h), ?_,
    (fun h => nomatch hphase.symm.trans h), ?_, ?_, ?_⟩
  · rw [hseq, hsaved]
    exact h.consistent.counted hcounted
  · rw [hsaved]
    exact Nat.le_trans h.saved_le hbegun
  · rw [hsaved]
    refine ⟨fun hmem => ?_, h.below.guard⟩
    rcases List.mem_append.mp hmem with hmem | hmem
    · exact h.below.inFlight hmem
    · rw [hnew hmem, hnumber]
      exact Nat.lt_succ_self _
  · refine List.pairwise_append.mpr ⟨h.increasing, ?_, ?_⟩
    · rcases harriving with rfl | rfl
      · exact List.pairwise_singleton _ _
      · exact List.Pairwise.nil
    · intro f hf g hg
      rw [hnew hg, hnumber]
      exact (h.counted hcounted).inFlight hf
  · intro g hmem d
    rcases List.mem_append.mp hmem with hmem | hmem
    · exact h.ahead hmem d
    · rw [hnew hmem, hnumber]
      exact (h.counted hcounted).guard d
  · obtain ⟨accepted, hsub, hcache⟩ := h.nonces
    refine ⟨accepted, ?_, hcache⟩
    have harrive : (arriving.map SentFrame.nonce).Sublist [frame.nonce] := by
      rcases harriving with rfl | rfl
      · exact List.Sublist.refl _
      · exact List.nil_sublist _
    rw [List.map_append, List.map_append, ← List.append_assoc]
    exact hsub.append harrive

/-- The oldest frame in flight is lost. -/
theorem Uplink.Sound.lose (h : s.Sound) :
    Uplink.Sound { s with inFlight := s.inFlight.tail } where
  consistent := h.consistent
  saved_le := h.saved_le
  counting_le := h.counting_le
  below := ⟨fun hmem => h.below.inFlight (List.mem_of_mem_tail hmem), h.below.guard⟩
  counted hphase :=
    ⟨fun hmem => (h.counted hphase).inFlight (List.mem_of_mem_tail hmem), (h.counted hphase).guard⟩
  increasing := h.increasing.tail
  ahead hmem := h.ahead (List.mem_of_mem_tail hmem)
  nonces := by
    obtain ⟨accepted, hsub, hcache⟩ := h.nonces
    refine ⟨accepted, List.Sublist.trans ?_ hsub, hcache⟩
    exact (List.Sublist.refl accepted).append ((List.tail_sublist _).map _)

/-- The oldest frame in flight is delivered: it passes, and is recorded. -/
theorem Uplink.Sound.deliver (h : s.Sound) {now : SystemTime} {frame : SentFrame}
    {inFlight : List SentFrame} (hflight : s.inFlight = frame :: inFlight)
    (hfresh : Fresh now frame.timestamp) (hnonces : (s.sent.map SentFrame.nonce).Nodup) :
    ReplayGuard.check now frame.deviceId frame.sequenceNr frame.timestamp frame.nonce
        s.replayGuard =
      (.ok (), s.replayGuard.record frame.deviceId frame.sequenceNr frame.nonce) ∧
    Uplink.Sound
      { s with
        inFlight
        replayGuard := s.replayGuard.record frame.deviceId frame.sequenceNr frame.nonce } := by
  obtain ⟨accepted, hsub, hcache⟩ := h.nonces
  have hmem : frame ∈ s.inFlight := by
    rw [hflight]
    exact List.mem_cons_self
  have htail : ∀ {g : SentFrame}, g ∈ inFlight → g ∈ s.inFlight := by
    intro g hg
    rw [hflight]
    exact List.mem_cons_of_mem _ hg
  have hsorted := h.increasing
  rw [hflight] at hsorted hsub
  have hdistinct := (hnonces.sublist hsub)
  constructor
  · refine ReplayGuard.check_ok_iff.mpr ⟨hfresh, ⟨.inr ?_, ?_⟩, rfl⟩
    · exact UInt32.lt_iff_toNat_lt.mpr (h.ahead hmem frame.deviceId)
    · intro hold
      have hdisjoint := List.disjoint_of_nodup_append hdistinct
      exact hdisjoint (hcache _ _ hold) List.mem_cons_self
  -- what the guard knows of a device now
  have hlast : ∀ d, ∀ n, (s.replayGuard.stateOf d).lastSequenceNr.toNat < n →
      frame.sequenceNr.toNat < n →
      ((s.replayGuard.record frame.deviceId frame.sequenceNr frame.nonce).stateOf
        d).lastSequenceNr.toNat < n := by
    intro d n hd hframe
    rw [ReplayGuard.stateOf_record]
    by_cases hdevice : d = frame.deviceId
    · rw [if_pos hdevice]
      exact hframe
    · rw [if_neg hdevice]
      exact hd
  refine ⟨h.consistent, h.saved_le, h.counting_le, ⟨fun hg => h.below.inFlight (htail hg), ?_⟩,
    fun hphase => ⟨fun hg => (h.counted hphase).inFlight (htail hg), ?_⟩,
    (List.pairwise_cons.mp hsorted).2, ?_, ?_⟩
  · exact fun d => hlast d _ (h.below.guard d) (h.below.inFlight hmem)
  · exact fun d => hlast d _ ((h.counted hphase).guard d) ((h.counted hphase).inFlight hmem)
  · exact fun hg d => hlast d _ (h.ahead (htail hg) d) ((List.pairwise_cons.mp hsorted).1 _ hg)
  · refine ⟨accepted ++ [frame.nonce], ?_, ?_⟩
    · rw [List.append_assoc]
      exact hsub
    · intro d nonce hnonce
      rw [ReplayGuard.stateOf_record] at hnonce
      by_cases hdevice : d = frame.deviceId
      · rw [if_pos hdevice] at hnonce
        rcases Window.mem_push hnonce with hold | hnew
        · exact List.mem_append_left _ (hcache _ _ hold)
        · exact List.mem_append_right _ (List.mem_singleton.mpr hnew)
      · rw [if_neg hdevice] at hnonce
        exact List.mem_append_left _ (hcache d nonce hnonce)

/-! ### Runs -/

section Steps

variable {world : World} {now : SystemTime} {sender : Sender} {frame : SentFrame} {written : Nat}
  {inFlight : List SentFrame}

theorem Uplink.step_silent (h : s.sender.step mbedtls world = (sender, none)) :
    s.step mbedtls (.run world) =
      ({ s with sender, begun := s.begun + s.sender.pc.begins }, none) := by
  simp only [step, h]

theorem Uplink.step_wrote (h : s.sender.step mbedtls world = (sender, some (frame, written))) :
    s.step mbedtls (.run world) =
      ({ s with
          sender
          begun := s.begun + s.sender.pc.begins
          sent := s.sent ++ [frame]
          inFlight := s.inFlight ++
            if written = HEADER_SIZE + PAYLOAD_SIZE + AUTH_TAG_SIZE then [frame] else [] },
        none) := by
  simp only [step, h]

theorem Uplink.step_deliver (h : s.inFlight = frame :: inFlight) :
    s.step mbedtls (.deliver now) =
      ({ s with
          inFlight
          replayGuard := (ReplayGuard.check now frame.deviceId frame.sequenceNr frame.timestamp
            frame.nonce s.replayGuard).2 },
        some (frame, (ReplayGuard.check now frame.deviceId frame.sequenceNr frame.timestamp
          frame.nonce s.replayGuard).1)) := by
  simp only [step, h]

theorem Uplink.step_deliver_none (h : s.inFlight = []) :
    s.step mbedtls (.deliver now) = (s, none) := by
  simp only [step, h]

end Steps

/-- The record of what was sent only grows. -/
theorem Uplink.step_grows (mbedtls : MbedTls) (s : Uplink) (action : UplinkAction) :
    s.begun ≤ (s.step mbedtls action).1.begun ∧
      (s.sent.map SentFrame.nonce).Sublist ((s.step mbedtls action).1.sent.map SentFrame.nonce) := by
  cases action with
  | powerLoss => exact ⟨Nat.le_refl _, List.Sublist.refl _⟩
  | lose => exact ⟨Nat.le_refl _, List.Sublist.refl _⟩
  | deliver now =>
      cases hflight : s.inFlight with
      | nil =>
          rw [step_deliver_none hflight]
          exact ⟨Nat.le_refl _, List.Sublist.refl _⟩
      | cons frame inFlight =>
          rw [step_deliver hflight]
          exact ⟨Nat.le_refl _, List.Sublist.refl _⟩
  | run world =>
      rcases hstep : s.sender.step mbedtls world with ⟨sender, _ | ⟨frame, written⟩⟩
      · rw [step_silent hstep]
        exact ⟨Nat.le_add_right _ _, List.Sublist.refl _⟩
      · rw [step_wrote hstep]
        exact ⟨Nat.le_add_right _ _, (List.sublist_append_left _ _).map _⟩

/-- A step keeps the invariant, and a frame that it delivers passes. -/
theorem Uplink.Sound.step (h : s.Sound) (action : UplinkAction) (htimely : Timely s action)
    (hreset : ResetUnused s action) (hfew : (s.step mbedtls action).1.begun < 2 ^ 32 - 1)
    (hnonces : ((s.step mbedtls action).1.sent.map SentFrame.nonce).Nodup) :
    (s.step mbedtls action).1.Sound ∧ ∀ x ∈ (s.step mbedtls action).2, x.2 = .ok () := by
  cases action with
  | lose => exact ⟨h.lose, nofun⟩
  | powerLoss =>
      have hboot : (Sender.boot s.sender.nvs).pc.phase = .starting := rfl
      refine ⟨⟨Sender.consistent_starting hboot, h.saved_le, nofun, ?_, nofun, h.increasing,
        h.ahead, h.nonces⟩, nofun⟩
      exact ⟨h.below.inFlight, h.below.guard⟩
  | deliver now =>
      cases hflight : s.inFlight with
      | nil =>
          rw [step_deliver_none hflight]
          exact ⟨h, nofun⟩
      | cons frame inFlight =>
          rw [step_deliver hflight] at hnonces ⊢
          have hfresh : Fresh now frame.timestamp := by
            refine htimely frame ?_
            rw [hflight]
            rfl
          obtain ⟨hcheck, hsound⟩ := h.deliver hflight hfresh hnonces
          rw [hcheck]
          refine ⟨hsound, ?_⟩
          intro x hx
          cases hx
          rfl
  | run world =>
      have heffect := s.sender.step_effect mbedtls world
      rcases hstep : s.sender.step mbedtls world with ⟨sender, _ | ⟨frame, written⟩⟩
      · rw [hstep] at heffect
        rw [step_silent hstep] at hfew ⊢
        exact ⟨h.sender heffect (Nat.le_refl _) hfew hreset, nofun⟩
      · rw [hstep] at heffect
        rw [step_wrote hstep]
        refine ⟨h.wrote heffect (Nat.le_add_right _ _) ?_, nofun⟩
        by_cases hwritten : written = HEADER_SIZE + PAYLOAD_SIZE + AUTH_TAG_SIZE
        · exact .inl (if_pos hwritten)
        · exact .inr (if_neg hwritten)

/-- **When a device is not locked out.** Whatever becomes of the sender's power and its
connections, if its config is reset only while the gateway knows of no frame, every frame
that is delivered passes the replay check. The bound is on the frames that are begun: one whose
encryption fails, or that the power takes, has used up a number as well. -/
theorem never_locked_out (actions : List UplinkAction)
    (hfew : ((uplinkMachine mbedtls).run .start actions).begun < 2 ^ 32 - 1)
    (hnonces : (((uplinkMachine mbedtls).run .start actions).sent.map SentFrame.nonce).Nodup)
    (htimely : (uplinkMachine mbedtls).Along Timely .start actions)
    (hreset : (uplinkMachine mbedtls).Along ResetUnused .start actions) :
    ∀ x ∈ (uplinkMachine mbedtls).trace .start actions, x.2 = .ok () := by
  have hrun := Machine.induct_trace (uplinkMachine mbedtls)
    (I := fun s t => s.begun < 2 ^ 32 - 1 → (s.sent.map SentFrame.nonce).Nodup →
      s.Sound ∧ ∀ x ∈ t, x.2 = .ok ())
    (fun s t action hI hC hfew' hnonces' => ?_) (fun _ _ => ⟨sound_start, nofun⟩)
    (Machine.along_and _ htimely hreset)
  · exact (hrun hfew hnonces).2
  obtain ⟨hbegun, hsent⟩ := s.step_grows mbedtls action
  obtain ⟨hsound, hpassed⟩ := hI (Nat.lt_of_le_of_lt hbegun hfew') (hnonces'.sublist hsent)
  obtain ⟨hsound', hpassed'⟩ := hsound.step action hC.1 hC.2 hfew' hnonces'
  refine ⟨hsound', ?_⟩
  intro x hx
  rcases List.mem_append.mp hx with hx | hx
  · exact hpassed x hx
  · exact hpassed' x (Option.mem_toList.mp hx)

/-! ### What the frames say

The guard is asked about the fields of a `SentFrame`. They are the fields that the gateway
reads from its bytes. -/

/-- Every frame that was written, and the one about to be, was built. -/
structure Uplink.AllBuilt (mbedtls : MbedTls) (s : Uplink) : Prop where
  writing {frame : SentFrame} (h : s.sender.pc = .write frame) : frame.Built mbedtls
  sent {frame : SentFrame} (h : frame ∈ s.sent) : frame.Built mbedtls

theorem Uplink.AllBuilt.step (h : s.AllBuilt mbedtls) (action : UplinkAction) :
    (s.step mbedtls action).1.AllBuilt mbedtls := by
  cases action with
  | lose => exact ⟨h.writing, h.sent⟩
  | powerLoss => exact ⟨nofun, h.sent⟩
  | deliver now =>
      cases hflight : s.inFlight with
      | nil =>
          rw [step_deliver_none hflight]
          exact h
      | cons frame inFlight =>
          rw [step_deliver hflight]
          exact ⟨h.writing, h.sent⟩
  | run world =>
      have heffect := s.sender.step_effect mbedtls world
      rcases hstep : s.sender.step mbedtls world with ⟨sender, _ | ⟨frame, written⟩⟩
      · rw [hstep] at heffect
        rw [step_silent hstep]
        exact ⟨heffect.built, h.sent⟩
      · rw [hstep] at heffect
        rw [step_wrote hstep]
        refine ⟨heffect.built, ?_⟩
        intro g hg
        cases heffect with
        | wrote _ hpc hphase hsaved hseq =>
        rcases List.mem_append.mp hg with hg | hg
        · exact h.sent hg
        · rw [List.mem_singleton.mp hg]
          exact h.writing hpc

theorem run_allBuilt (actions : List UplinkAction) :
    ((uplinkMachine mbedtls).run .start actions).AllBuilt mbedtls := by
  have hstart : Uplink.start.AllBuilt mbedtls := by
    refine ⟨nofun, ?_⟩
    intro frame hframe
    exact absurd hframe List.not_mem_nil
  exact Machine.induct_history (uplinkMachine mbedtls) (I := fun s _ => s.AllBuilt mbedtls)
    (fun s _ action h _ => h.step action) hstart (Machine.along_true _ Uplink.start actions)

/-- What the sender writes, the gateway reads. -/
theorem sent_read {ring : Ring} {aead : Aead AUTH_TAG_SIZE} (hring : ring.Implements aead)
    (hmbedtls : mbedtls.Implements aead) (actions : List UplinkAction) {frame : SentFrame}
    (hsent : frame ∈ ((uplinkMachine mbedtls).run .start actions).sent) :
    GatewayReads ring .devTestKey frame.bytes frame.deviceId frame.sequenceNr frame.timestamp
      frame.nonce frame.payload := by
  have hbuilt := (run_allBuilt actions).sent hsent
  simp only [SentFrame.Built] at hbuilt
  rw [buildFrame_eq hmbedtls] at hbuilt
  rw [← Option.some.inj hbuilt]
  exact gatewayReads_sealed _ _ _ _ _ hring .devTestKey

/-! ### A reset -/

/-- The device id that the configuration yields is this one. -/
def SameDevice (deviceId : UInt32) (s : Uplink) : UplinkAction → Prop
  | .run world => s.sender.pc = .setupWiFiAndConfig →
      ∀ ram ∈ setupWiFiAndConfig s.sender.nvs world.autoConnect s.sender.ram,
        ram.deviceId = deviceId
  | _ => True

instance (deviceId : UInt32) (s : Uplink) : DecidablePred (SameDevice deviceId s)
  | .run world => inferInstanceAs (Decidable (_ → ∀ ram ∈ setupWiFiAndConfig s.sender.nvs
      world.autoConnect s.sender.ram, ram.deviceId = deviceId))
  | .powerLoss => .isTrue trivial
  | .deliver _ => .isTrue trivial
  | .lose => .isTrue trivial

/-- The portal's form, for device 1 in direct mode. -/
def directForm (key : String) : Bytes :=
  if key = sensorMode.key then C.ascii "direct" else Ram.initial.buffers key

/-- A world in which the form is submitted, an object is detected, and everything works. -/
def workingWorld (nonceByte : UInt8) : World where
  resetHeld := false
  autoConnect := .submitted directForm
  connected := true
  objectDetected := some true
  rawFrame := none
  nonce := List.Vector.replicate NONCE_SIZE nonceByte
  time := 1700000000
  encryptionFails := false
  written := HEADER_SIZE + PAYLOAD_SIZE + AUTH_TAG_SIZE

/-- A start with the portal, and one frame sent and delivered. -/
def setUpAndSend (nonceByte : UInt8) : List UplinkAction :=
  List.replicate 17 (.run (workingWorld nonceByte)) ++ [.deliver (.unix 1700000003)]

/-- The power is switched off and on, and the button held. -/
def configReset : List UplinkAction :=
  .powerLoss :: List.replicate 3 (.run { workingWorld 0x00 with resetHeld := true })

/-- mbedTLS with a cipher that hides nothing. -/
def clearTls : MbedTls := .ofAead (.clear (List.Vector.replicate AUTH_TAG_SIZE 0x00))

/-- A reset before the first frame does no harm. -/
theorem never_locked_out_reset_first :
    ((uplinkMachine clearTls).trace .start (configReset ++ setUpAndSend 0x01)).all
      (fun x => x.2 = .ok ()) = true := by
  have hpassed : ∀ x ∈ (uplinkMachine clearTls).trace .start (configReset ++ setUpAndSend 0x01),
      x.2 = .ok () :=
    never_locked_out (configReset ++ setUpAndSend 0x01) (by decide +kernel) (by decide +kernel)
      (by decide +kernel) (by decide +kernel)
  exact List.all_eq_true.mpr fun x hx => decide_eq_true (hpassed x hx)

/-- After a frame was accepted, a reset makes the next one a replay, though the same device
id is entered again. -/
theorem reset_locks_out :
    ¬ ∀ actions : List UplinkAction,
      ((uplinkMachine clearTls).run .start actions).begun < 2 ^ 32 - 1 →
      (((uplinkMachine clearTls).run .start actions).sent.map SentFrame.nonce).Nodup →
      (uplinkMachine clearTls).Along Timely .start actions →
      (uplinkMachine clearTls).Along (SameDevice 1) .start actions →
      ∀ x ∈ (uplinkMachine clearTls).trace .start actions, x.2 = .ok () := by
  intro h
  have hpassed := h (setUpAndSend 0x01 ++ configReset ++ setUpAndSend 0x02) (by decide +kernel)
    (by decide +kernel) (by decide +kernel) (by decide +kernel)
  revert hpassed
  decide +kernel

end Esp32

end SecurePipe
