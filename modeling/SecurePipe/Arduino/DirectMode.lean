import Mathlib.Order.Interval.Finset.Nat
import SecurePipe.Arduino.CrashSafety
import SecurePipe.Lib.Timer

/-!
# SecurePipe.Arduino.DirectMode

The ESP32 in direct mode, with its clock: `loop` reads the pin of the proximity sensor every
`DIRECT_READ_INTERVAL_MS`, on a `millis` that starts over after seven weeks, and at every restart.

Each frame takes a sequence number of 32 bits, and `crash_safe` holds as long as these do not wrap.
They cannot before 68 years have passed: **two frames a second is the most that a device sends in
its life, whatever becomes of its power, its configuration and its connections**
(`direct_mode_lifetime`).
-/

namespace SecurePipe

open Rust Timer

namespace Esp32

def DIRECT_READ_INTERVAL_MS : UInt32 := 500

structure DirectBoard where
  sender : Sender
  lastDirectRead : UInt32
  /-- When the program started, in milliseconds from the first start on. It does not know. -/
  started : Nat
  /-- The time of the last statement, which it does not know either. -/
  now : Nat

/-- The program starts. -/
def DirectBoard.boot (time : Nat) (nvs : Nvs) : DirectBoard where
  sender := .boot nvs
  lastDirectRead := 0
  started := time
  now := time

inductive DirectInput
  /-- The sender executes a statement, at this time and with this level on `DIRECT_DO_PIN`. -/
  | run (time : Nat) (detected : Bool) (world : World)
  /-- The power goes, and comes back at this time. -/
  | powerLoss (time : Nat)

variable (mbedtls : MbedTls)

/-- The board, statement by statement. `loop` looks at the clock in direct mode, while it is
connected. -/
def DirectBoard.step (b : DirectBoard) : DirectInput → DirectBoard × Option (SentFrame × Nat)
  | .powerLoss time => (.boot time b.sender.nvs, none)
  | .run time detected world =>
      if b.sender.pc = .restart then (.boot time b.sender.nvs, none)
      else if b.sender.pc = .loop ∧ world.connected = true ∧ b.sender.ram.directMode = true then
        let now := millis (time - b.started)
        if due DIRECT_READ_INTERVAL_MS now b.lastDirectRead then
          let (sender, wrote) :=
            b.sender.step mbedtls { world with objectDetected := some detected }
          ({ b with sender, lastDirectRead := now, now := time }, wrote)
        else
          let (sender, wrote) := b.sender.step mbedtls { world with objectDetected := none }
          ({ b with sender, now := time }, wrote)
      else
        let (sender, wrote) := b.sender.step mbedtls world
        ({ b with sender, now := time }, wrote)

def directMachine : Machine DirectBoard DirectInput (Option (SentFrame × Nat)) where
  step := DirectBoard.step mbedtls

/-- 2³² times half a second, less one: 68 years. -/
def LIFETIME_MS : Nat := 500 * (2 ^ 32 - 1)

/-- Time passes, the device is in direct mode when it comes to `loop`, and its config is not
reset. -/
def InDirectMode (b : DirectBoard) : DirectInput → Prop
  | .powerLoss time => b.now ≤ time
  | .run time _ _ => b.now ≤ time ∧ time < LIFETIME_MS ∧
      (b.sender.pc = .loop → b.sender.ram.directMode = true) ∧ b.sender.pc ≠ .clearPreferences

instance (b : DirectBoard) : DecidablePred (InDirectMode b)
  | .powerLoss _ => inferInstanceAs (Decidable (_ ≤ _))
  | .run _ _ _ => inferInstanceAs (Decidable (_ ∧ _ ∧ (_ → _) ∧ _))

/-! ### The numbers that are used -/

/-- The statement belongs to a frame whose number is not saved yet. -/
def Pc.unsaved : Pc → Nat
  | .incrementSequenceNr _ => 1
  | .saveSequenceNr _ => 1
  | _ => 0

/-- How many sequence numbers have been used. -/
def Sender.used (s : Sender) : Nat := s.saved.toNat + s.pc.unsaved

variable {mbedtls} {s : Sender}

theorem Sender.used_le {s s' : Sender} (hsaved : s'.saved = s.saved)
    (hpc : s'.pc.unsaved ≤ s.pc.unsaved) : s'.used ≤ s.used := by
  rw [used, used, hsaved]
  exact Nat.add_le_add_left hpc _

/-- **Only `loop` begins to use a number.** -/
theorem Sender.used_step (h : s.Consistent) (hpc : s.pc ≠ .loop) (world : World) :
    (s.step mbedtls world).1.used ≤ s.used := by
  unfold step
  cases hat : s.pc with
  | maybeFactoryReset =>
      refine used_le rfl ?_
      cases world.resetHeld with
      | true => exact Nat.zero_le _
      | false => exact Nat.zero_le _
  | clearPreferences =>
      have hcleared : Sender.saved { s with nvs := s.nvs.clear "securepipe", pc := .restart } = 0 :=
        load_clear s.nvs
      simp only [used, hcleared]
      exact Nat.zero_le _
  | setupWiFiAndConfig =>
      simp only
      cases setupWiFiAndConfig s.nvs world.autoConnect s.ram with
      | none => exact used_le rfl (Nat.zero_le _)
      | some ram =>
          refine used_le rfl ?_
          simp only
          cases ram.shouldSaveConfig with
          | true => exact Nat.zero_le _
          | false => exact Nat.zero_le _
  | saveConfig i =>
      simp only
      cases hfield : fields[i]? with
      | none => exact used_le rfl (Nat.zero_le _)
      | some field =>
          exact used_le (load_put _ (fields_key (List.mem_of_getElem? hfield))) (Nat.zero_le _)
  | loop => exact absurd hat hpc
  | incrementSequenceNr payload =>
      refine used_le rfl ?_
      rw [hat]
      exact Nat.le_refl 1
  | saveSequenceNr payload =>
      have hsaved : Sender.saved { s with
          nvs := saveSequenceNr s.ram.sequenceNr s.nvs, pc := .generateNonce payload } =
            s.ram.sequenceNr := load_save s.ram.sequenceNr s.nvs
      simp only [used, hsaved, h.counting (congrArg Pc.phase hat), hat, Pc.unsaved]
      exact Nat.le_refl _
  | encryptPayload payload nonce timestamp =>
      simp only
      cases buildFrame mbedtls s.ram.deviceId s.ram.sequenceNr payload.sensorType
          payload.valueRaw payload.unit nonce timestamp with
      | none => exact used_le rfl (Nat.zero_le _)
      | some bytes =>
          refine used_le rfl ?_
          cases world.encryptionFails with
          | true => exact Nat.zero_le _
          | false => exact Nat.zero_le _
  | _ => exact used_le rfl (Nat.zero_le _)

/-- `loop` uses one number at most. -/
theorem Sender.used_loop (hpc : s.pc = .loop) (world : World) :
    (s.step mbedtls world).1.used ≤ s.used + (Esp32.loop world s.ram).unsaved := by
  have hstep : s.step mbedtls world = ({ s with pc := Esp32.loop world s.ram }, none) := by
    rw [step, hpc]
  rw [hstep]
  simp only [used, hpc]
  exact Nat.add_le_add_right (Nat.le_add_right _ _) _

theorem unsaved_loop_le (world : World) (ram : Ram) : (loop world ram).unsaved ≤ 1 := by
  cases loop world ram with
  | incrementSequenceNr payload => exact Nat.le_refl 1
  | saveSequenceNr payload => exact Nat.le_refl 1
  | _ => exact Nat.zero_le 1

/-- It uses none while the connection is down, nor in direct mode before it is time to read. -/
theorem unsaved_loop_idle {world : World} {ram : Ram}
    (h : world.connected = true → ram.directMode = true ∧ world.objectDetected = none) :
    (loop world ram).unsaved = 0 := by
  unfold loop
  cases hconnected : world.connected with
  | false => rfl
  | true =>
      obtain ⟨hmode, hnone⟩ := h hconnected
      simp [hmode, hnone, Pc.unsaved]

/-! ### The clock -/

/-- A statement restarts the program, or it is executed when it is time to read the pin, or it is
executed and does not read the pin. -/
theorem DirectBoard.step_cases (b : DirectBoard) (time : Nat) (detected : Bool) (world : World) :
    b.step mbedtls (.run time detected world) = (.boot time b.sender.nvs, none) ∨
    ∃ world',
      (b.sender.pc = .loop ∧
        due DIRECT_READ_INTERVAL_MS (millis (time - b.started)) b.lastDirectRead = true ∧
        b.step mbedtls (.run time detected world) =
          ({ b with
              sender := (b.sender.step mbedtls world').1
              lastDirectRead := millis (time - b.started)
              now := time }, (b.sender.step mbedtls world').2)) ∨
      ((b.sender.pc = .loop → world'.connected = true → b.sender.ram.directMode = true →
          world'.objectDetected = none) ∧
        b.step mbedtls (.run time detected world) =
          ({ b with sender := (b.sender.step mbedtls world').1, now := time },
            (b.sender.step mbedtls world').2)) := by
  unfold step
  dsimp only
  by_cases hrestart : b.sender.pc = .restart
  · rw [if_pos hrestart]
    exact .inl rfl
  · rw [if_neg hrestart]
    right
    by_cases hread : b.sender.pc = .loop ∧ world.connected = true ∧ b.sender.ram.directMode = true
    · rw [if_pos hread]
      split
      · next hdue => exact ⟨_, .inl ⟨hread.1, hdue, rfl⟩⟩
      · exact ⟨{ world with objectDetected := none }, .inr ⟨fun _ _ _ => rfl, rfl⟩⟩
    · rw [if_neg hread]
      exact ⟨world, .inr ⟨fun hloop hup hmode => absurd ⟨hloop, hup, hmode⟩ hread, rfl⟩⟩

/-- The invariant: each number that was used has taken half a second. -/
structure DirectBoard.Paced (b : DirectBoard) : Prop where
  /-- The time of the last reading, or of the start. -/
  last : ∃ last, b.started ≤ last ∧ last ≤ b.now ∧
    b.lastDirectRead = millis (last - b.started) ∧ b.sender.used * 500 ≤ last

theorem DirectBoard.paced_boot {time : Nat} {nvs : Nvs}
    (h : (loadSequenceNr nvs).toNat * 500 ≤ time) : (DirectBoard.boot time nvs).Paced where
  last := by
    refine ⟨time, Nat.le_refl _, Nat.le_refl _, ?_, h⟩
    show 0 = millis (time - time)
    rw [Nat.sub_self]
    rfl

variable {b : DirectBoard}

theorem DirectBoard.Paced.used_le (h : b.Paced) : b.sender.used * 500 ≤ b.now := by
  obtain ⟨last, -, hlast, -, hused⟩ := h.last
  exact hused.trans hlast

/-- The program starts again. -/
theorem DirectBoard.Paced.boot (h : b.Paced) {time : Nat} (htime : b.now ≤ time) :
    (DirectBoard.boot time b.sender.nvs).Paced := by
  refine paced_boot ?_
  have hsaved : b.sender.saved.toNat ≤ b.sender.used := Nat.le_add_right _ _
  exact ((Nat.mul_le_mul_right 500 hsaved).trans h.used_le).trans htime

/-- A statement that begins no frame. -/
theorem DirectBoard.Paced.keep (h : b.Paced) {time : Nat} (htime : b.now ≤ time) {sender : Sender}
    (hused : sender.used ≤ b.sender.used) :
    DirectBoard.Paced { b with sender, now := time } := by
  obtain ⟨last, hstarted, hlast, hread, hle⟩ := h.last
  exact ⟨last, hstarted, hlast.trans htime, hread, (Nat.mul_le_mul_right 500 hused).trans hle⟩

/-- A reading, half a second after the last one. -/
theorem DirectBoard.Paced.read (h : b.Paced) {time : Nat} (htime : b.now ≤ time) {sender : Sender}
    (hdue : due DIRECT_READ_INTERVAL_MS (millis (time - b.started)) b.lastDirectRead = true)
    (hused : sender.used ≤ b.sender.used + 1) :
    DirectBoard.Paced
      { b with sender, lastDirectRead := millis (time - b.started), now := time } := by
  obtain ⟨last, hstarted, hlast, hread, hle⟩ := h.last
  rw [hread] at hdue
  have hspaced : last - b.started + 500 ≤ time - b.started := le_of_due (by omega) hdue
  have helapsed : last + 500 ≤ time := by omega
  refine ⟨time, (hstarted.trans hlast).trans htime, Nat.le_refl _, rfl, ?_⟩
  calc sender.used * 500 ≤ (b.sender.used + 1) * 500 := Nat.mul_le_mul_right 500 hused
    _ = b.sender.used * 500 + 500 := Nat.succ_mul _ _
    _ ≤ last + 500 := Nat.add_le_add_right hle 500
    _ ≤ time := helapsed

/-- **One statement takes half a second for each number that it uses.** -/
theorem DirectBoard.Paced.step (h : b.Paced) (hconsistent : b.sender.Consistent)
    {input : DirectInput} (hmode : InDirectMode b input) : (b.step mbedtls input).1.Paced := by
  cases input with
  | powerLoss time => exact h.boot hmode
  | run time detected world =>
      obtain ⟨htime, -, hdirect, -⟩ := hmode
      rcases b.step_cases time detected world with
        hstep | ⟨world', ⟨hloop, hdue, hstep⟩ | ⟨hidle, hstep⟩⟩
      · rw [hstep]
        exact h.boot htime
      · rw [hstep]
        refine h.read htime hdue ((Sender.used_loop hloop _).trans ?_)
        exact Nat.add_le_add_left (unsaved_loop_le _ _) _
      · rw [hstep]
        refine h.keep htime ?_
        by_cases hloop : b.sender.pc = .loop
        · have hunsaved : (loop world' b.sender.ram).unsaved = 0 :=
            unsaved_loop_idle fun hup => ⟨hdirect hloop, hidle hloop hup (hdirect hloop)⟩
          exact (Sender.used_loop hloop world').trans (by rw [hunsaved, Nat.add_zero])
        · exact Sender.used_step hconsistent hloop _

/-! ### The life of a device -/

/-- The numbers do not wrap: that would take longer than the device has been there. -/
theorem DirectBoard.Paced.belowMax (h : b.Paced) (hconsistent : b.sender.Consistent)
    (hlife : b.now < LIFETIME_MS) (hbegins : b.sender.pc.begins = 1) :
    b.sender.ram.sequenceNr ≠ 0xFFFFFFFF := by
  cases hpc : b.sender.pc with
  | incrementSequenceNr payload =>
      intro hmax
      have hready := hconsistent.ready (congrArg Pc.phase hpc)
      have hsaved : b.sender.saved.toNat = 2 ^ 32 - 1 := by
        rw [← hready, hmax]
        decide
      have hused : b.sender.used = 2 ^ 32 := by
        rw [Sender.used, hpc, hsaved]
        exact Nat.sub_add_cancel Nat.one_le_two_pow
      have hlate := h.used_le.trans_lt hlife
      rw [hused] at hlate
      exact absurd hlate (by decide)
  | _ =>
      rw [hpc] at hbegins
      exact nomatch hbegins

/-- **One step keeps the board paced, and its sender safe.** -/
theorem DirectBoard.step_safe {writes : List (SentFrame × Nat)} (h : b.Paced)
    (hsafe : b.sender.Safe mbedtls writes) {input : DirectInput} (hmode : InDirectMode b input) :
    (b.step mbedtls input).1.Paced ∧
      (b.step mbedtls input).1.sender.Safe mbedtls
        (writes ++ (b.step mbedtls input).2.toList) := by
  refine ⟨h.step hsafe.consistent hmode, ?_⟩
  have hpowerLoss := hsafe.powerLoss
  cases input with
  | powerLoss time => simpa [DirectBoard.step, DirectBoard.boot] using hpowerLoss
  | run time detected world =>
      obtain ⟨htime, hlife, -, hreset⟩ := hmode
      have hrun (world' : World) := hsafe.step (.run world') hreset
        (h.belowMax hsafe.consistent (htime.trans_lt hlife))
      rcases b.step_cases time detected world with hstep | ⟨world', ⟨-, -, hstep⟩ | ⟨-, hstep⟩⟩
      · rw [hstep]
        simpa [DirectBoard.boot] using hpowerLoss
      · rw [hstep]
        exact hrun world'
      · rw [hstep]
        exact hrun world'

/-- Numbers that increase, from 1 to `n`, are `n` at most. -/
theorem length_le_of_increasing {writes : List (SentFrame × Nat)} {n : Nat}
    (hincreasing : writes.Pairwise fun w w' => w.1.sequenceNr < w'.1.sequenceNr)
    (hrange : ∀ w ∈ writes, w.1.sequenceNr.toNat ∈ Finset.Icc 1 n) : writes.length ≤ n := by
  have hnodup : (writes.map (·.1.sequenceNr.toNat)).Nodup :=
    List.pairwise_map.mpr (hincreasing.imp fun h => (UInt32.lt_iff_toNat_lt.mp h).ne)
  have hsubset : (writes.map (·.1.sequenceNr.toNat)).toFinset ⊆ Finset.Icc 1 n := by
    intro number hnumber
    obtain ⟨w, hw, rfl⟩ := List.mem_map.mp (List.mem_toFinset.mp hnumber)
    exact hrange w hw
  have hcard := Finset.card_le_card hsubset
  rwa [List.toFinset_card_of_nodup hnodup, List.length_map, Nat.card_Icc,
    Nat.add_sub_cancel] at hcard

/-- **A device in direct mode never runs out of sequence numbers.** Take a new device that stays in
direct mode, and whose config is not reset, for 68 years at most. Whatever becomes of its power,
its configuration, its connections and its clock, the frames that it writes have numbers that
increase strictly, from 1 on, and there are no more than two of them for each second. -/
theorem direct_mode_lifetime {nvs : Nvs} (hnew : loadSequenceNr nvs = 0)
    (inputs : List DirectInput)
    (hmode : (directMachine mbedtls).Along InDirectMode (.boot 0 nvs) inputs) :
    let writes := (directMachine mbedtls).trace (.boot 0 nvs) inputs
    let b := (directMachine mbedtls).run (.boot 0 nvs) inputs
    writes.Pairwise (fun earlier later => earlier.1.sequenceNr < later.1.sequenceNr) ∧
      (∀ w ∈ writes, 1 ≤ w.1.sequenceNr ∧ w.1.sequenceNr.toNat * 500 ≤ b.now) ∧
      writes.length * 500 ≤ b.now := by
  intro writes b
  obtain ⟨hpaced, hsafe⟩ : b.Paced ∧ b.sender.Safe mbedtls writes :=
    (directMachine mbedtls).induct_trace
      (I := fun b writes => b.Paced ∧ b.sender.Safe mbedtls writes)
      (fun b writes input h hmode => DirectBoard.step_safe h.1 h.2 hmode)
      ⟨DirectBoard.paced_boot (by simp [hnew]), safe_boot mbedtls nvs⟩ hmode
  have hsaved : b.sender.saved.toNat * 500 ≤ b.now :=
    (Nat.mul_le_mul_right 500 (Nat.le_add_right _ _)).trans hpaced.used_le
  have hle : ∀ w ∈ writes, w.1.sequenceNr.toNat ≤ b.sender.saved.toNat :=
    fun w hw => UInt32.le_iff_toNat_le.mp (hsafe.le_saved hw)
  have hone : ∀ w ∈ writes, 1 ≤ w.1.sequenceNr.toNat :=
    fun w hw => UInt32.le_iff_toNat_le.mp (hsafe.positive hw)
  refine ⟨hsafe.increasing, fun w hw => ⟨hsafe.positive hw, ?_⟩, ?_⟩
  · exact (Nat.mul_le_mul_right 500 (hle w hw)).trans hsaved
  · have hlength := length_le_of_increasing hsafe.increasing
      (fun w hw => Finset.mem_Icc.mpr ⟨hone w hw, hle w hw⟩)
    exact (Nat.mul_le_mul_right 500 hlength).trans hsaved

/-- A statement takes 50 ms. The device is set up, and sends a frame; it looks at the clock four
times before it begins the second. The power goes when the number of that is saved. -/
def slowLife : List DirectInput :=
  (List.range 24).map (fun i => .run (50 * i) true (workingWorld 0x01)) ++ [.powerLoss 1200] ++
    (List.range 17).map (fun i => .run (1250 + 50 * i) true (workingWorld 0x02))

theorem direct_mode_lifetime_slow :
    let writes := (directMachine clearTls).trace (.boot 0 .empty) slowLife
    writes.map (·.1.sequenceNr) = [1, 3] ∧
      (∀ w ∈ writes, w.1.sequenceNr.toNat * 500 ≤ 2050) ∧ writes.length * 500 ≤ 2050 := by
  intro writes
  obtain ⟨-, hnumbers, hlength⟩ :=
    @direct_mode_lifetime clearTls .empty rfl slowLife (by decide +kernel)
  have hnow : ((directMachine clearTls).run (.boot 0 .empty) slowLife).now = 2050 := by
    decide +kernel
  rw [hnow] at hnumbers hlength
  exact ⟨by decide +kernel, fun w hw => (hnumbers w hw).2, hlength⟩

end Esp32

end SecurePipe
