import SecurePipe.Arduino.Lockout

/-!
# SecurePipe.Arduino.CrashSafety

**The sender's sequence number is crash safe** (`crash_safe`). The sender counts up in RAM,
saves the number in flash, and then makes and writes the frame that bears it. So the number
in flash is at least that of every frame written so far, and above all of them from the
moment it is saved until its own frame is written: wherever the power goes, the next number
is one that no frame has.
-/

namespace SecurePipe

open Rust BigEndian

namespace Esp32

/-! ### A life of the sender -/

/-- What happens to the sender. -/
inductive SenderAction
  /-- It executes a statement. -/
  | run (world : World)
  /-- Its power goes and comes back. -/
  | powerLoss

variable (mbedtls : MbedTls)

/-- The sender, statement by statement, with what it hands to `tcpClient.write`. -/
def senderMachine : Machine Sender SenderAction (Option (SentFrame × Nat)) where
  step s
    | .run world => s.step mbedtls world
    | .powerLoss => (.boot s.nvs, none)

/-- The statement is not the one that clears the preferences. -/
def NoReset (s : Sender) : SenderAction → Prop
  | .run _ => s.pc ≠ .clearPreferences
  | .powerLoss => True

/-- The counter is not counted up from its last value. -/
def BelowMax (s : Sender) : SenderAction → Prop
  | .run _ => s.pc.begins = 1 → s.ram.sequenceNr ≠ 0xFFFFFFFF
  | .powerLoss => True

instance (s : Sender) : DecidablePred (NoReset s)
  | .run _ => inferInstanceAs (Decidable (_ ≠ _))
  | .powerLoss => .isTrue trivial

instance (s : Sender) : DecidablePred (BelowMax s)
  | .run _ => inferInstanceAs (Decidable (_ → _ ≠ _))
  | .powerLoss => .isTrue trivial

/-! ### The invariant -/

/-- The sender against the frames it has written. -/
structure Sender.Safe (mbedtls : MbedTls) (s : Sender) (writes : List (SentFrame × Nat)) :
    Prop where
  consistent : s.Consistent
  writing {frame : SentFrame} (h : s.pc = .write frame) : frame.Built mbedtls
  built {w : SentFrame × Nat} (h : w ∈ writes) : w.1.Built mbedtls
  increasing : writes.Pairwise fun w w' => w.1.sequenceNr < w'.1.sequenceNr
  positive {w : SentFrame × Nat} (h : w ∈ writes) : 1 ≤ w.1.sequenceNr
  le_saved {w : SentFrame × Nat} (h : w ∈ writes) : w.1.sequenceNr ≤ s.saved
  /-- The number that is saved and not yet used is above all numbers used. -/
  unused (h : s.pc.phase = .counted) :
    1 ≤ s.saved ∧ ∀ w ∈ writes, w.1.sequenceNr < s.saved

theorem safe_boot (mbedtls : MbedTls) (nvs : Nvs) : (Sender.boot nvs).Safe mbedtls [] where
  consistent := Sender.consistent_starting rfl
  writing h := nomatch h
  built h := absurd h List.not_mem_nil
  increasing := List.Pairwise.nil
  positive h := absurd h List.not_mem_nil
  le_saved h := absurd h List.not_mem_nil
  unused h := nomatch h

variable {mbedtls : MbedTls} {s s' : Sender} {writes : List (SentFrame × Nat)}

/-- The power goes and comes back: what is in flash stays. -/
theorem Sender.Safe.powerLoss (h : s.Safe mbedtls writes) :
    (Sender.boot s.nvs).Safe mbedtls writes where
  consistent := Sender.consistent_starting rfl
  writing h := nomatch h
  built := h.built
  increasing := h.increasing
  positive := h.positive
  le_saved := h.le_saved
  unused h := nomatch h

/-- A statement that writes nothing, and is not a reset. -/
theorem Sender.Safe.silent (h : s.Safe mbedtls writes) (heffect : s.Effect mbedtls none s')
    (hreset : s.pc ≠ .clearPreferences) (hconsistent : s'.Consistent) : s'.Safe mbedtls writes := by
  -- the statements that leave the number in flash alone
  have hkeep : s'.saved = s.saved → (s'.pc.phase = .counted → s.pc.phase = .counted) →
      s'.Safe mbedtls writes := by
    intro hsaved hcounted
    refine ⟨hconsistent, heffect.built, h.built, h.increasing, h.positive, ?_, ?_⟩
    · rw [hsaved]
      exact h.le_saved
    · intro hphase
      rw [hsaved]
      exact h.unused (hcounted hphase)
  cases heffect with
  | setup hphase hsaved => exact hkeep hsaved (fun h => nomatch hphase.symm.trans h)
  | cleared hpc hphase hsaved => exact absurd hpc hreset
  | loaded hphase hsaved hseq => exact hkeep hsaved (fun h => nomatch hphase.symm.trans h)
  | idle hphase hphase' hsaved hseq => exact hkeep hsaved (fun h => nomatch hphase'.symm.trans h)
  | incremented hpc hphase hsaved hseq => exact hkeep hsaved (fun h => nomatch hphase.symm.trans h)
  | making hphase hphase' hsaved hseq hframe => exact hkeep hsaved (fun _ => hphase)
  | saved hpc hpc' hsaved hseq =>
      have hnext : s'.saved.toNat = s.saved.toNat + 1 := by
        rw [hsaved]
        exact h.consistent.counting (congrArg Pc.phase hpc)
      have habove : ∀ w ∈ writes, w.1.sequenceNr < s'.saved := by
        intro w hw
        have hle := UInt32.le_iff_toNat_le.mp (h.le_saved hw)
        rw [UInt32.lt_iff_toNat_lt, hnext]
        exact Nat.lt_succ_of_le hle
      refine ⟨hconsistent, (fun h => nomatch hpc'.symm.trans h), h.built, h.increasing, h.positive,
        fun hw => UInt32.le_of_lt (habove _ hw), fun _ => ⟨?_, habove⟩⟩
      rw [UInt32.le_iff_toNat_le, hnext]
      exact Nat.le_add_left 1 _

/-- The statement that writes a frame. -/
theorem Sender.Safe.wrote (h : s.Safe mbedtls writes) {w : SentFrame × Nat}
    (heffect : s.Effect mbedtls (some w) s') (hconsistent : s'.Consistent) :
    s'.Safe mbedtls (writes ++ [w]) := by
  cases heffect with
  | @wrote _ frame written hpc hphase hsaved hseq =>
  have hcounted : s.pc.phase = .counted := congrArg Pc.phase hpc
  have hnumber : frame.sequenceNr = s.saved :=
    (h.consistent.writing hpc).trans (h.consistent.counted hcounted)
  obtain ⟨hpositive, hunused⟩ := h.unused hcounted
  refine ⟨hconsistent, (fun h => ?_), ?_, ?_, ?_, ?_, (fun h => nomatch hphase.symm.trans h)⟩
  · rw [h] at hphase
    exact nomatch hphase
  · intro w hw
    rcases List.mem_append.mp hw with hw | hw
    · exact h.built hw
    · rw [List.mem_singleton.mp hw]
      exact h.writing hpc
  · refine List.pairwise_append.mpr ⟨h.increasing, List.pairwise_singleton _ _, ?_⟩
    intro w hw w' hw'
    rw [List.mem_singleton.mp hw']
    exact hnumber.symm ▸ hunused w hw
  · intro w hw
    rcases List.mem_append.mp hw with hw | hw
    · exact h.positive hw
    · rw [List.mem_singleton.mp hw]
      exact hnumber.symm ▸ hpositive
  · intro w hw
    rw [hsaved]
    rcases List.mem_append.mp hw with hw | hw
    · exact h.le_saved hw
    · rw [List.mem_singleton.mp hw]
      exact hnumber.symm ▸ UInt32.le_refl _

/-- **One step keeps the sender safe.** -/
theorem Sender.Safe.step (h : s.Safe mbedtls writes) (action : SenderAction)
    (hreset : NoReset s action) (hmax : BelowMax s action) :
    ((senderMachine mbedtls).step s action).1.Safe mbedtls
      (writes ++ ((senderMachine mbedtls).step s action).2.toList) := by
  cases action with
  | powerLoss =>
      have hboot := h.powerLoss
      rwa [← List.append_nil writes] at hboot
  | run world =>
      have heffect := s.step_effect mbedtls world
      have hconsistent := h.consistent.effect heffect (by
        intro payload hpc
        have hlt := u32_succ_lt (hmax (by rw [hpc]; rfl))
        omega)
      rcases hstep : s.step mbedtls world with ⟨s', _ | w⟩
      · rw [hstep] at heffect hconsistent
        have hsafe := h.silent heffect hreset hconsistent
        rw [← List.append_nil writes] at hsafe
        simpa only [senderMachine, hstep, Option.toList_none] using hsafe
      · rw [hstep] at heffect hconsistent
        simpa only [senderMachine, hstep, Option.toList_some] using h.wrote heffect hconsistent

/-- The number that went into a frame is the one that its bytes bear. -/
theorem SentFrame.Built.read_sequenceNr {frame : SentFrame} (h : frame.Built mbedtls) :
    (readU32 frame.bytes 7 11 : Result UInt32) = .ok frame.sequenceNr := by
  obtain ⟨rest, hbytes⟩ := buildFrame_header h
  rw [hbytes]
  exact WireHeader.read_sequenceNr _ rest

/-- **The sequence number is crash safe.** From any contents of the flash, and wherever the
power goes, as long as the config is not reset and the counter not counted up from its last
value: the frames handed to `tcpClient.write` bear numbers that increase strictly, from 1
on. -/
theorem crash_safe (nvs : Nvs) (actions : List SenderAction)
    (hreset : (senderMachine mbedtls).Along NoReset (.boot nvs) actions)
    (hmax : (senderMachine mbedtls).Along BelowMax (.boot nvs) actions) :
    let writes := (senderMachine mbedtls).trace (.boot nvs) actions
    writes.Pairwise (fun earlier later => earlier.1.sequenceNr < later.1.sequenceNr) ∧
      ∀ w ∈ writes, 1 ≤ w.1.sequenceNr ∧
        (readU32 w.1.bytes 7 11 : Result UInt32) = .ok w.1.sequenceNr := by
  intro writes
  have hsafe : ((senderMachine mbedtls).run (.boot nvs) actions).Safe mbedtls writes :=
    (senderMachine mbedtls).induct_trace (I := fun s t => s.Safe mbedtls t)
      (fun _ _ action h hC => h.step action hC.1 hC.2) (safe_boot mbedtls nvs)
      (Machine.along_and _ hreset hmax)
  exact ⟨hsafe.increasing, fun w hw => ⟨hsafe.positive hw, (hsafe.built hw).read_sequenceNr⟩⟩

/-- The device is set up and sends a frame. The power goes when the number of the second is
saved, and the device is set up once more. -/
def interruptedLife : List SenderAction :=
  List.replicate 20 (.run (workingWorld 0x01)) ++ [.powerLoss] ++
    List.replicate 17 (.run (workingWorld 0x02))

theorem crash_safe_interrupted :
    let writes := (senderMachine clearTls).trace (.boot .empty) interruptedLife
    writes.map (·.1.sequenceNr) = [1, 3] ∧
      writes.Pairwise (fun earlier later => earlier.1.sequenceNr < later.1.sequenceNr) :=
  ⟨by decide +kernel,
    (crash_safe .empty interruptedLife (by decide +kernel) (by decide +kernel)).1⟩

end Esp32

end SecurePipe
