import SecurePipe.Arduino.CrashSafety

/-!
# SecurePipe.Arduino.NonceReuse

Whether the ESP32 ever encrypts two frames with one nonce.

`generateNonce` hands the array that it was given to `mbedtls_ctr_drbg_random` and drops what
that returns, and `setup` drops what `mbedtls_ctr_drbg_seed` returns. **A frame is sent with
whatever is in the array**: after a call that fails, with what was on the stack
(`failed_draw_reuses`). As long as the calls succeed, the nonces of the frames are drawn ones,
each used once at most (`nonces_used_once`).
-/

namespace SecurePipe

open Rust

namespace Esp32

/-! ### The generator -/

/-- What the world answers, with the generator's part taken apart. -/
structure DrbgWorld extends World where
  /-- What `mbedtls_ctr_drbg_seed` returns: zero, unless it fails. -/
  seedStatus : Int32
  /-- What `mbedtls_ctr_drbg_random` returns: zero, unless it fails. -/
  randomStatus : Int32
  /-- What it fills its buffer with, unless it fails. -/
  random : Nonce
  /-- What the local array `nonce` holds before. -/
  uninitialised : Nonce

/-- `mbedtls_ctr_drbg_random`: what it returns, and the buffer afterwards. -/
def DrbgWorld.ctrDrbgRandom (world : DrbgWorld) (output : Nonce) : Int32 × Nonce :=
  (world.randomStatus, if world.randomStatus = 0 then world.random else output)

/-- `generateNonce`: what `out` holds afterwards. What the call returns is not looked at. -/
def generateNonce (world : DrbgWorld) (out : Nonce) : Nonce := (world.ctrDrbgRandom out).2

/-- The world as the statements of the sender see it, once the array is filled or not. -/
def DrbgWorld.filled (world : DrbgWorld) : World :=
  { world.toWorld with nonce := generateNonce world world.uninitialised }

/-! ### The sender with its generator -/

structure DrbgSender where
  /-- `setup` has yet to call `mbedtls_ctr_drbg_seed`, ahead of all other statements. -/
  seeding : Bool
  sender : Sender

/-- The program starts. -/
def DrbgSender.boot (nvs : Nvs) : DrbgSender where
  seeding := true
  sender := .boot nvs

inductive DrbgAction
  /-- The sender executes a statement. -/
  | run (world : DrbgWorld)
  /-- Its power goes and comes back. -/
  | powerLoss

/-- The statement fills the array `nonce`. -/
def Pc.draws : Pc → Bool
  | .generateNonce _ => true
  | _ => false

/-- What the array `nonce` holds, from there on until its frame is written. -/
def Pc.nonce : Pc → Option Nonce
  | .encryptPayload _ nonce _ => some nonce
  | .write frame => some frame.nonce
  | _ => none

/-- What can be seen of a statement. -/
inductive DrbgEvent
  /-- `mbedtls_ctr_drbg_seed` has returned. -/
  | seeded (status : Int32)
  /-- `mbedtls_ctr_drbg_random` has returned, with this in the buffer. -/
  | drew (status : Int32) (buffer : Nonce)
  /-- A frame was handed to `tcpClient.write`, which took so many bytes. -/
  | wrote (frame : SentFrame) (written : Nat)
  deriving DecidableEq

variable (mbedtls : MbedTls)

/-- The sender, statement by statement, with what the generator and the connection are asked
to do. -/
def drbgMachine : Machine DrbgSender DrbgAction (Option DrbgEvent) where
  step s
    | .run world =>
        if s.seeding then
          -- what it returns is not looked at
          ({ s with seeding := false }, some (.seeded world.seedStatus))
        else
          let (sender, written) := s.sender.step mbedtls world.filled
          ({ seeding := s.sender.pc = .restart, sender },
            if s.sender.pc.draws then
              let (status, buffer) := world.ctrDrbgRandom world.uninitialised
              some (.drew status buffer)
            else written.map fun w => .wrote w.1 w.2)
    | .powerLoss => (.boot s.sender.nvs, none)

def DrbgEvent.drawn : DrbgEvent → Option Nonce
  | .seeded _ => none
  | .drew status buffer => if status = 0 then some buffer else none
  | .wrote _ _ => none

def DrbgEvent.frame : DrbgEvent → Option SentFrame
  | .seeded _ => none
  | .drew _ _ => none
  | .wrote frame _ => some frame

/-- The nonces that were drawn, by the calls that succeeded. -/
def drawnNonces (t : List DrbgEvent) : List Nonce := t.filterMap DrbgEvent.drawn

/-- The frames that were handed to `tcpClient.write`. -/
def writtenFrames (t : List DrbgEvent) : List SentFrame := t.filterMap DrbgEvent.frame

theorem drbg_seeding {s : DrbgSender} (h : s.seeding = true) (world : DrbgWorld) :
    (drbgMachine mbedtls).step s (.run world) =
      ({ s with seeding := false }, some (.seeded world.seedStatus)) := if_pos h

theorem drbg_running {s : DrbgSender} (h : s.seeding = false) (world : DrbgWorld) :
    (drbgMachine mbedtls).step s (.run world) =
      ({ seeding := s.sender.pc = .restart, sender := (s.sender.step mbedtls world.filled).1 },
        if s.sender.pc.draws then some (.drew world.randomStatus world.filled.nonce)
        else (s.sender.step mbedtls world.filled).2.map fun w => .wrote w.1 w.2) :=
  if_neg (by rw [h]; exact Bool.false_ne_true)

theorem drawnNonces_append (t : List DrbgEvent) (o : Option DrbgEvent) :
    drawnNonces (t ++ o.toList) = drawnNonces t ++ (o.bind DrbgEvent.drawn).toList :=
  Trace.filterMap_append_toList _ t o

theorem writtenFrames_append (t : List DrbgEvent) (o : Option DrbgEvent) :
    writtenFrames (t ++ o.toList) = writtenFrames t ++ (o.bind DrbgEvent.frame).toList :=
  Trace.filterMap_append_toList _ t o

/-- The statement is not `generateNonce`, or its call succeeds. -/
def RandomSucceeds (s : DrbgSender) : DrbgAction → Prop
  | .run world => s.sender.pc.draws = true → world.randomStatus = 0
  | .powerLoss => True

instance (s : DrbgSender) : DecidablePred (RandomSucceeds s)
  | .run _ => inferInstanceAs (Decidable (_ → _))
  | .powerLoss => .isTrue trivial

/-! ### What a statement does with nonces -/

variable {mbedtls}

theorem Pc.nonce_eq_none {pc : Pc} (h : pc.phase = .ready) : pc.nonce = none := by
  cases pc with
  | encryptPayload payload nonce timestamp => exact nomatch h
  | write frame => exact nomatch h
  | _ => rfl

/-- A statement fills the array, or writes the frame, or it keeps the nonce or drops it. -/
theorem Sender.step_nonce (mbedtls : MbedTls) (world : World) (s : Sender) :
    (s.pc.draws = true ∧ s.pc.nonce = none ∧
      (s.step mbedtls world).1.pc.nonce = some world.nonce ∧ (s.step mbedtls world).2 = none) ∨
    (∃ frame, s.pc = .write frame ∧ (s.step mbedtls world).1.pc.nonce = none ∧
      (s.step mbedtls world).2 = some (frame, world.written)) ∨
    (s.pc.draws = false ∧ (s.step mbedtls world).2 = none ∧
      ((s.step mbedtls world).1.pc.nonce = none ∨
        (s.step mbedtls world).1.pc.nonce = s.pc.nonce)) := by
  unfold Sender.step
  cases hpc : s.pc with
  | generateNonce payload => exact .inl ⟨rfl, rfl, rfl, rfl⟩
  | write frame => exact .inr (.inl ⟨frame, rfl, rfl, rfl⟩)
  | encryptPayload payload nonce timestamp =>
      simp only
      cases buildFrame mbedtls s.ram.deviceId s.ram.sequenceNr payload.sensorType
          payload.valueRaw payload.unit nonce timestamp with
      | none => exact .inr (.inr ⟨rfl, rfl, .inl rfl⟩)
      | some bytes =>
          cases world.encryptionFails with
          | true => exact .inr (.inr ⟨rfl, rfl, .inl rfl⟩)
          | false => exact .inr (.inr ⟨rfl, rfl, .inr rfl⟩)
  | maybeFactoryReset =>
      cases world.resetHeld with
      | true => exact .inr (.inr ⟨rfl, rfl, .inl rfl⟩)
      | false => exact .inr (.inr ⟨rfl, rfl, .inl rfl⟩)
  | setupWiFiAndConfig =>
      simp only
      cases setupWiFiAndConfig s.nvs world.autoConnect s.ram with
      | none => exact .inr (.inr ⟨rfl, rfl, .inl rfl⟩)
      | some ram =>
          dsimp only
          cases ram.shouldSaveConfig with
          | true => exact .inr (.inr ⟨rfl, rfl, .inl rfl⟩)
          | false => exact .inr (.inr ⟨rfl, rfl, .inl rfl⟩)
  | saveConfig i =>
      simp only
      cases fields[i]? with
      | none => exact .inr (.inr ⟨rfl, rfl, .inl rfl⟩)
      | some field => exact .inr (.inr ⟨rfl, rfl, .inl rfl⟩)
  | loop => exact .inr (.inr ⟨rfl, rfl, .inl (Pc.nonce_eq_none (loop_phase world s.ram))⟩)
  | _ => exact .inr (.inr ⟨rfl, rfl, .inl rfl⟩)

/-! ### The nonces of the frames -/

/-- The sender against what it has done: the nonces of the frames it has written, and then
the one in the array, were drawn, in this order. -/
structure DrbgSender.Drawn (mbedtls : MbedTls) (s : DrbgSender) (t : List DrbgEvent) : Prop where
  nonces : ((writtenFrames t).map SentFrame.nonce ++ s.sender.pc.nonce.toList).Sublist
    (drawnNonces t)
  writing {frame : SentFrame} (h : s.sender.pc = .write frame) : frame.Built mbedtls
  built {frame : SentFrame} (h : frame ∈ writtenFrames t) : frame.Built mbedtls

theorem drawn_boot (mbedtls : MbedTls) (nvs : Nvs) :
    (DrbgSender.boot nvs).Drawn mbedtls [] where
  nonces := List.Sublist.refl _
  writing h := nomatch h
  built h := absurd h List.not_mem_nil

/-- After a step that draws nothing and writes nothing. -/
theorem DrbgSender.Drawn.silent {s s' : DrbgSender} {t : List DrbgEvent} (h : s.Drawn mbedtls t)
    {o : Option DrbgEvent} (hdrawn : o.bind DrbgEvent.drawn = none)
    (hframe : o.bind DrbgEvent.frame = none)
    (hnonce : s'.sender.pc.nonce = none ∨ s'.sender.pc.nonce = s.sender.pc.nonce)
    (hwriting : ∀ {frame}, s'.sender.pc = .write frame → frame.Built mbedtls) :
    s'.Drawn mbedtls (t ++ o.toList) := by
  have hframes : writtenFrames (t ++ o.toList) = writtenFrames t := by
    rw [writtenFrames_append, hframe, Option.toList_none, List.append_nil]
  refine ⟨?_, hwriting, fun hmem => h.built (hframes ▸ hmem)⟩
  rw [drawnNonces_append, hdrawn, Option.toList_none, List.append_nil, hframes]
  rcases hnonce with hnonce | hnonce
  · rw [hnonce, Option.toList_none, List.append_nil]
    exact (List.sublist_append_left _ _).trans h.nonces
  · rw [hnonce]
    exact h.nonces

/-- After `generateNonce`, if its call succeeds. -/
theorem DrbgSender.Drawn.drew {s s' : DrbgSender} {t : List DrbgEvent} (h : s.Drawn mbedtls t)
    {nonce : Nonce} (hnone : s.sender.pc.nonce = none) (hnonce : s'.sender.pc.nonce = some nonce)
    (hwriting : ∀ {frame}, s'.sender.pc = .write frame → frame.Built mbedtls) :
    s'.Drawn mbedtls (t ++ (some (DrbgEvent.drew 0 nonce)).toList) := by
  have hframes : writtenFrames (t ++ (some (DrbgEvent.drew 0 nonce)).toList) = writtenFrames t := by
    rw [writtenFrames_append]
    exact List.append_nil _
  refine ⟨?_, hwriting, fun hmem => h.built (hframes ▸ hmem)⟩
  have hnonces := h.nonces
  rw [hnone, Option.toList_none, List.append_nil] at hnonces
  rw [drawnNonces_append, hframes, hnonce]
  exact hnonces.append (List.Sublist.refl _)

/-- After a frame is written. -/
theorem DrbgSender.Drawn.wrote {s s' : DrbgSender} {t : List DrbgEvent} (h : s.Drawn mbedtls t)
    {frame : SentFrame} (written : Nat) (hpc : s.sender.pc = .write frame)
    (hnonce : s'.sender.pc.nonce = none) :
    s'.Drawn mbedtls (t ++ (some (DrbgEvent.wrote frame written)).toList) := by
  have hframes : writtenFrames (t ++ (some (DrbgEvent.wrote frame written)).toList) =
      writtenFrames t ++ [frame] := writtenFrames_append t _
  refine ⟨?_, ?_, ?_⟩
  · have hnonces := h.nonces
    rw [hpc] at hnonces
    rw [drawnNonces_append, hframes, hnonce, Option.toList_none, List.append_nil, List.map_append]
    exact hnonces.trans (List.sublist_append_left _ _)
  · intro frame' hpc'
    rw [hpc'] at hnonce
    exact nomatch hnonce
  · intro frame' hmem
    rw [hframes] at hmem
    rcases List.mem_append.mp hmem with hmem | hmem
    · exact h.built hmem
    · rw [List.mem_singleton.mp hmem]
      exact h.writing hpc

/-- **One step keeps the nonces of the frames among those drawn**, if the call of a
`generateNonce` succeeds. -/
theorem DrbgSender.Drawn.step {s : DrbgSender} {t : List DrbgEvent} (h : s.Drawn mbedtls t)
    (action : DrbgAction) (hrandom : RandomSucceeds s action) :
    ((drbgMachine mbedtls).step s action).1.Drawn mbedtls
      (t ++ ((drbgMachine mbedtls).step s action).2.toList) := by
  cases action with
  | powerLoss => exact h.silent rfl rfl (.inl rfl) nofun
  | run world =>
      cases hseeding : s.seeding with
      | true =>
          rw [drbg_seeding mbedtls hseeding]
          exact h.silent rfl rfl (.inr rfl) h.writing
      | false =>
          rw [drbg_running mbedtls hseeding]
          have heffect := s.sender.step_effect mbedtls world.filled
          rcases s.sender.step_nonce mbedtls world.filled with
            ⟨hdraws, hnone, hnonce, -⟩ | ⟨frame, hpc, hnonce, hout⟩ | ⟨hdraws, hout, hnonce⟩
          · have hstatus : world.randomStatus = 0 := hrandom hdraws
            have hfilled : world.filled.nonce = world.random := if_pos hstatus
            rw [if_pos hdraws, hstatus, hfilled]
            exact h.drew hnone (hnonce.trans (congrArg some hfilled)) heffect.built
          · rw [if_neg (by rw [hpc]; exact Bool.false_ne_true), hout]
            exact h.wrote _ hpc hnonce
          · rw [if_neg (by rw [hdraws]; exact Bool.false_ne_true), hout]
            exact h.silent rfl rfl hnonce heffect.built

/-- **Drawn nonces are used once at most.** In every run, wherever the power goes, in which
each `generateNonce` has its call succeed: if the nonces drawn are all different, then so are
those that the frames handed to `tcpClient.write` were encrypted with. -/
theorem nonces_used_once (nvs : Nvs) (actions : List DrbgAction)
    (hrandom : (drbgMachine mbedtls).Along RandomSucceeds (.boot nvs) actions) :
    let events := (drbgMachine mbedtls).trace (.boot nvs) actions
    ((drawnNonces events).Nodup → ((writtenFrames events).map SentFrame.nonce).Nodup) ∧
      ∀ frame ∈ writtenFrames events, frame.Built mbedtls := by
  intro events
  have hdrawn : ((drbgMachine mbedtls).run (.boot nvs) actions).Drawn mbedtls events :=
    (drbgMachine mbedtls).induct_trace (I := fun s t => s.Drawn mbedtls t)
      (fun _ _ action h hC => h.step action hC) (drawn_boot mbedtls nvs) hrandom
  refine ⟨fun hnodup => ?_, fun _ => hdrawn.built⟩
  exact ((List.sublist_append_left _ _).trans hdrawn.nonces).nodup hnodup

/-- A world in which everything works. -/
def drawingWorld (nonceByte : UInt8) : DrbgWorld where
  toWorld := workingWorld 0x00
  seedStatus := 0
  randomStatus := 0
  random := List.Vector.replicate NONCE_SIZE nonceByte
  uninitialised := List.Vector.replicate NONCE_SIZE 0x00

/-- `MBEDTLS_ERR_CTR_DRBG_ENTROPY_SOURCE_FAILED`: the entropy source has failed, and on the
stack is still what was there when the frame before was sent. -/
def failingWorld (nonceByte : UInt8) : DrbgWorld :=
  { drawingWorld 0x00 with
    randomStatus := -0x34
    uninitialised := List.Vector.replicate NONCE_SIZE nonceByte }

/-- The device is set up, and sends a frame. -/
def firstFrame : List DrbgAction := List.replicate 18 (.run (drawingWorld 0x01))

theorem nonces_used_once_two_frames :
    let events := (drbgMachine clearTls).trace (.boot .empty)
      (firstFrame ++ List.replicate 6 (.run (drawingWorld 0x02)))
    (writtenFrames events).length = 2 ∧
      ((writtenFrames events).map SentFrame.nonce).Nodup := by
  intro events
  have h := @nonces_used_once clearTls .empty
    (firstFrame ++ List.replicate 6 (.run (drawingWorld 0x02))) (by decide +kernel)
  exact ⟨by decide +kernel, h.1 (by decide +kernel)⟩

/-- The second call fails, and the second frame goes out with the nonce of the first. -/
theorem failed_draw_reuses :
    ¬ ∀ (mbedtls : MbedTls) (nvs : Nvs) (actions : List DrbgAction),
      let events := (drbgMachine mbedtls).trace (.boot nvs) actions
      (drawnNonces events).Nodup → ((writtenFrames events).map SentFrame.nonce).Nodup := by
  intro h
  have hreused := h clearTls .empty (firstFrame ++ List.replicate 6 (.run (failingWorld 0x01)))
    (by decide +kernel)
  revert hreused
  decide +kernel

end Esp32

end SecurePipe
