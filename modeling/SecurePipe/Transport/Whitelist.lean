import SecurePipe.Protocol.Registry
import SecurePipe.Transport.ProcessFrame

/-!
# SecurePipe.Transport.Whitelist

What the whitelist keeps out, from the environment variable to the published readings.

A call of `process_frame` acts for the device named in its frame only, and only when the
registry lets that device in (`step_confined`). So a run acts for **configured** devices,
as long as the variable is not misread for the devices of its authentic frames.
-/

namespace SecurePipe

open Rust

variable (ring : Ring)

/-- The call brings an authentic frame of the device, and the registry lets it in. -/
def Admitted (key : SessionKey) (registry : DeviceRegistry) (raw : Bytes) (deviceId : UInt32) :
    Prop :=
  ∃ frame plaintext, Authenticated ring key registry raw frame plaintext ∧
    frame.deviceId = deviceId

variable {ring} in
theorem Reaches.admitted {now : SystemTime} {core : GatewayCore} {raw : Bytes}
    {frame : SecurePipeFrame} {plaintext : Bytes}
    (h : Reaches ring now core raw frame plaintext) :
    Admitted ring core.key core.registry raw frame.deviceId :=
  ⟨frame, plaintext, h.1, rfl⟩

/-- The guard learns about the device of the frame that it records. -/
theorem get_recordFrame_of_ne {guard : ReplayGuard} {frame : SecurePipeFrame} {d : UInt32}
    (h : d ≠ frame.deviceId) : (recordFrame guard frame).devices.get d = guard.devices.get d := by
  rw [recordFrame, ReplayGuard.get_record, if_neg h]

/-- **One call acts for admitted devices only.** It leaves the key and the registry as they are,
publishes readings of the admitted device, and touches no other device's replay state. -/
theorem step_confined (state : GatewayState) (call : SystemTime × Bytes) :
    ((gatewayMachine ring).step state call).1.key = state.key ∧
    ((gatewayMachine ring).step state call).1.deviceRegistry = state.deviceRegistry ∧
    (∀ reading ∈ ((gatewayMachine ring).step state call).2.readings,
      Admitted ring state.key state.deviceRegistry call.2 reading.deviceId) ∧
    ∀ d, ¬ Admitted ring state.key state.deviceRegistry call.2 d →
      ((gatewayMachine ring).step state call).1.replayGuard.devices.get d =
        state.replayGuard.devices.get d := by
  rcases step_cases ring call.1 state.core call.2 with
    ⟨event, -, -, h⟩ | ⟨-, -, h⟩ | ⟨frame, plaintext, hreaches, -, h⟩ |
    ⟨frame, plaintext, sensor, t, hreaches, -, h⟩
  · rw [h state rfl]
    exact ⟨rfl, rfl, nofun, fun _ _ => rfl⟩
  · rw [h state rfl]
    exact ⟨rfl, rfl, nofun, fun _ _ => rfl⟩
  · rw [h state rfl]
    refine ⟨rfl, rfl, nofun, fun d hd => ?_⟩
    exact get_recordFrame_of_ne fun heq => hd (heq ▸ hreaches.admitted)
  · rw [h state rfl]
    refine ⟨rfl, rfl, ?_, fun d hd => ?_⟩
    · intro r hr
      rw [List.mem_singleton.mp hr]
      exact hreaches.admitted
    · exact get_recordFrame_of_ne fun heq => hd (heq ▸ hreaches.admitted)

/-- The frame in the call, if there is one that gets as far as `is_allowed`, is of a device that
the variable is not misread for. -/
def ReadRight (env : Environment) (key : SessionKey) (call : SystemTime × Bytes) : Prop :=
  ∀ frame plaintext, SecurePipeFrame.parse call.2 = .ok frame →
    decryptPayload ring key frame.nonce frame.headerAsAad
      (frame.encryptedPayload ++ frame.authTag.toList) = .ok plaintext →
    ¬ Misread env frame.deviceId

/-- The run publishes readings of configured devices only, and gives no other device any
replay state. -/
def ConfinedTo (env : Environment) (start final : GatewayState)
    (history : List ((SystemTime × Bytes) × Sent)) : Prop :=
  (∀ entry ∈ history, ∀ reading ∈ entry.2.readings, Configured env reading.deviceId) ∧
    ∀ d, ¬ Configured env d →
      final.replayGuard.devices.get d = start.replayGuard.devices.get d

variable {ring} in
theorem Admitted.configured {env : Environment} {key : SessionKey} {call : SystemTime × Bytes}
    {d : UInt32} (h : Admitted ring key (.fromEnv env) call.2 d)
    (hread : ReadRight ring env key call) : Configured env d := by
  obtain ⟨frame, plaintext, ⟨hparse, hdecrypt, hallowed⟩, rfl⟩ := h
  exact ((isAllowed_iff env _).mp hallowed).resolve_right (hread frame plaintext hparse hdecrypt)

/-- A call for whose frame the variable is not misread keeps the run confined. -/
theorem ConfinedTo.step {env : Environment} {start state : GatewayState}
    {history : List ((SystemTime × Bytes) × Sent)} (h : ConfinedTo env start state history)
    (hregistry : state.deviceRegistry = .fromEnv env) {call : SystemTime × Bytes}
    (hread : ReadRight ring env state.key call) :
    ConfinedTo env start ((gatewayMachine ring).step state call).1
      (history ++ [(call, ((gatewayMachine ring).step state call).2)]) := by
  obtain ⟨-, -, hreadings, hdevices⟩ := step_confined ring state call
  rw [hregistry] at hreadings hdevices
  refine ⟨?_, ?_⟩
  · intro entry hentry r hr
    rcases List.mem_append.mp hentry with hold | hnew
    · exact h.1 entry hold r hr
    · rw [List.mem_singleton.mp hnew] at hr
      exact (hreadings r hr).configured hread
  · intro d hd
    exact (hdevices d fun hadmitted => hd (hadmitted.configured hread)).trans (h.2 d hd)

theorem isAllowed_exact_iff (env : Environment) (d : UInt32) :
    ((DeviceRegistry.fromEnv env).isAllowed d = true ↔ Configured env d) ↔ ¬ Misread env d := by
  rw [isAllowed_iff]
  constructor
  · intro h hmisread
    exact hmisread.not_configured (h.mp (.inr hmisread))
  · intro hread
    exact or_iff_left hread

/-- **The whitelist, exactly.** `from_env` lets in the configured devices and no others,
except where the variable is misread. In every run in which no frame that authenticates is of a
device that it is misread for, readings are published and replay state is made for configured
devices only. -/
theorem whitelist_exact :
    (∀ env d, ((DeviceRegistry.fromEnv env).isAllowed d = true ↔ Configured env d) ↔
      ¬ Misread env d) ∧
    ∀ (env : Environment) (state : GatewayState) (calls : List (SystemTime × Bytes)),
      state.deviceRegistry = .fromEnv env →
        (∀ call ∈ calls, ReadRight ring env state.key call) →
        ConfinedTo env state ((gatewayMachine ring).run state calls)
          ((gatewayMachine ring).history state calls) := by
  refine ⟨isAllowed_exact_iff, ?_⟩
  intro env state calls hregistry hcalls
  have hrun := (gatewayMachine ring).induct_history
    (I := fun s history => (s.key = state.key ∧ s.deviceRegistry = .fromEnv env) ∧
      ConfinedTo env state s history)
    (C := fun _ call => ReadRight ring env state.key call)
    (fun s _ call ⟨⟨hkey, hregistry⟩, hconfined⟩ hread => by
      obtain ⟨hkey', hregistry', -⟩ := step_confined ring s call
      exact ⟨⟨hkey'.trans hkey, hregistry'.trans hregistry⟩,
        hconfined.step ring hregistry (hkey ▸ hread)⟩)
    ⟨⟨rfl, hregistry⟩, nofun, fun _ _ => rfl⟩ (Machine.along_of_forall _ hcalls state)
  exact hrun.2

/-- The environment in which the whitelist has this value and nothing else is set. -/
def Environment.ofValue (value : OsString) : Environment :=
  fun key => if key = ALLOWED_DEVICES_ENV_VAR then some value else none

/-- A whitelist of one device. -/
def listedEnv : Environment := .ofValue ("0x00000001".toList.map OsUnit.char)

/-- A run with a frame of the listed device. -/
theorem whitelist_exact_listed :
    let gateway := { freshGateway with deviceRegistry := .fromEnv listedEnv }
    ConfinedTo listedEnv gateway ((gatewayMachine twoFrameRing).run gateway [temperatureCall])
      ((gatewayMachine twoFrameRing).history gateway [temperatureCall]) := by
  intro gateway
  have hlisted : Configured listedEnv 1 := by
    refine .inr ⟨"0x00000001".toList, by decide +kernel, .inl ⟨"00000001".toList, .inl rfl, ?_⟩⟩
    decide +kernel
  have hread : ∀ call ∈ [temperatureCall],
      ReadRight twoFrameRing listedEnv gateway.key call := by
    intro call hcall frame plaintext hparse _ hmisread
    rw [List.mem_singleton.mp hcall] at hparse
    have hframe : SecurePipeFrame.parse temperatureCall.2 = .ok temperatureFrame := by
      decide +kernel
    obtain rfl := Outcome.ok.inj (hparse.symm.trans hframe)
    exact hmisread.not_configured hlisted
  exact (whitelist_exact twoFrameRing).2 listedEnv gateway [temperatureCall] rfl hread

/-- A value with a byte that is not UTF-8 lets every device in, and `+7` lets in device 7. -/
theorem whitelist_misread :
    ¬ ((DeviceRegistry.fromEnv (.ofValue [.char '1', .illFormed 0xFF])).isAllowed 2 = true ↔
      Configured (.ofValue [.char '1', .illFormed 0xFF]) 2) ∧
    ¬ ((DeviceRegistry.fromEnv (.ofValue [.char '+', .char '7'])).isAllowed 7 = true ↔
      Configured (.ofValue [.char '+', .char '7']) 7) := by
  refine ⟨?_, ?_⟩
  · refine fun h => (isAllowed_exact_iff _ _).mp h ⟨_, rfl, ?_, ?_, .inl ⟨0xFF, by decide +kernel⟩⟩
    · exact fun hblank => absurd (hblank (.char '1') (by decide +kernel)) (by decide +kernel)
    · intro ⟨s, hs, _⟩
      have hvalue : s.map OsUnit.char = [.char '1', .illFormed 0xFF] := List.mem_singleton.mp hs
      obtain ⟨c, -, hc⟩ := List.mem_map.mp (hvalue ▸ List.mem_cons_of_mem _ List.mem_cons_self)
      cases hc
  · have hsigned : PlusSigned 7 ['+', '7'] := .inr ⟨['7'], rfl, by decide +kernel⟩
    refine fun h => (isAllowed_exact_iff _ _).mp h
      ⟨_, rfl, ?_, ?_, .inr ⟨['+', '7'], by decide +kernel, hsigned⟩⟩
    · exact fun hblank => absurd (hblank (.char '+') (by decide +kernel)) (by decide +kernel)
    · intro ⟨s, hs, hlisted⟩
      have hvalue : s.map OsUnit.char = ['+', '7'].map OsUnit.char := List.mem_singleton.mp hs
      rw [char_injective.list_map hvalue] at hlisted
      rcases hlisted with ⟨hex, hprefixed, -⟩ | hnumeral
      · exact hprefixed.elim nofun nofun
      · exact absurd hnumeral (by decide +kernel)

end SecurePipe
