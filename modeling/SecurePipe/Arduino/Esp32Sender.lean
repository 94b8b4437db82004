import SecurePipe.Arduino.Esp32Frame

/-!
# SecurePipe.Arduino.Esp32Sender

The ESP32 sender as a program that runs (`arduino/esp32_sender/esp32_sender.ino`): `setup`,
`loop` and the two functions that send, one statement at a time, with the globals in RAM
and the `Preferences` in flash. The power may go between any two statements; what is in
flash stays.

What the firmware asks of the world (the button, the portal, the network, the random number
generator, the clock), a step takes as an argument.
-/

namespace SecurePipe

open Rust

namespace Esp32

/-! ### Flash -/

inductive NvsValue
  | uint (value : UInt32)
  | string (value : Bytes)

/-- Non-volatile storage: values by namespace and key. The functions below stand for a call
between `prefs.begin` on the namespace and `prefs.end`. -/
structure Nvs where
  entries : String → String → Option NvsValue

namespace Nvs

def empty : Nvs where
  entries _ _ := none

variable (nvs : Nvs) (ns key : String)

/-- `prefs.getUInt`. -/
def getUInt (defaultValue : UInt32) : UInt32 :=
  match nvs.entries ns key with
  | some (.uint value) => value
  | _ => defaultValue

/-- `prefs.getString`. -/
def getString (defaultValue : Bytes) : Bytes :=
  match nvs.entries ns key with
  | some (.string value) => value
  | _ => defaultValue

def put (value : NvsValue) : Nvs where
  entries n k := if n = ns ∧ k = key then some value else nvs.entries n k

/-- `prefs.putUInt`. -/
def putUInt (value : UInt32) : Nvs := nvs.put ns key (.uint value)

/-- `prefs.putString`. -/
def putString (value : Bytes) : Nvs := nvs.put ns key (.string value)

/-- `prefs.clear`: every key of the namespace. -/
def clear : Nvs where
  entries n k := if n = ns then none else nvs.entries n k

end Nvs

def NVS_NAMESPACE : String := "securepipe"
def NVS_SEQ_KEY : String := "seq_nr"

/-- `saveSequenceNr`. -/
def saveSequenceNr (seq : UInt32) (nvs : Nvs) : Nvs := nvs.putUInt NVS_NAMESPACE NVS_SEQ_KEY seq

/-- `loadSequenceNr`. -/
def loadSequenceNr (nvs : Nvs) : UInt32 := nvs.getUInt NVS_NAMESPACE NVS_SEQ_KEY 0

/-! ### The configuration -/

/-- A field of the portal: the key it is saved under, and the buffer that holds it. -/
structure Field where
  key : String
  size : Nat
  initial : Bytes

def gwHost : Field := { key := "gw_host", size := 41, initial := C.ascii "192.168.1.100" }
def gwPort : Field := { key := "gw_port", size := 6, initial := C.ascii "7777" }
def devId : Field := { key := "dev_id", size := 9, initial := C.ascii "00000001" }
def sensorMode : Field := { key := "sensor_mode", size := 8, initial := C.ascii "uart" }
def trigPin : Field := { key := "trig_pin", size := 5, initial := C.ascii "5" }
def echoPin : Field := { key := "echo_pin", size := 5, initial := C.ascii "18" }

/-- In the order in which they are saved. -/
def fields : List Field := [gwHost, gwPort, devId, sensorMode, trigPin, echoPin]

/-- The globals that the statements below read. -/
structure Ram where
  /-- `gatewayHostBuf` to `echoPinBuf`, by key. -/
  buffers : String → Bytes
  deviceId : UInt32
  directMode : Bool
  shouldSaveConfig : Bool
  sequenceNr : UInt32

/-- The globals as the program starts. -/
def Ram.initial : Ram where
  buffers key := ((fields.find? (·.key = key)).map Field.initial).getD []
  deviceId := 0x00000001
  directMode := false
  shouldSaveConfig := false
  sequenceNr := 0

/-- How `wifiManager.autoConnect` ends. -/
inductive AutoConnect
  /-- It connects with saved credentials, without a portal. -/
  | connected
  /-- The form of the portal is submitted, with these values. -/
  | submitted (form : String → Bytes)
  /-- Nobody uses the portal. -/
  | timedOut

/-- Strings copied into their buffers, and cut to fit. -/
def copyToBuffers (values : String → Bytes) : String → Bytes := fun key =>
  match fields.find? (·.key = key) with
  | some field => (values key).take (field.size - 1)
  | none => []

/-- `setupWiFiAndConfig`, before it saves: the globals afterwards, unless it restarts. -/
def setupWiFiAndConfig (nvs : Nvs) (autoConnect : AutoConnect) (ram : Ram) : Option Ram :=
  -- Load previously saved custom values as the portal's pre-filled defaults
  let saved := copyToBuffers fun key => nvs.getString "securepipe" key (ram.buffers key)
  let configured (buffers : String → Bytes) (shouldSaveConfig : Bool) : Ram :=
    { ram with
      buffers
      shouldSaveConfig
      deviceId := C.strtoul (buffers devId.key) 16
      directMode := buffers sensorMode.key = C.ascii "direct" }
  match autoConnect with
  | .timedOut => none
  | .connected => some (configured (copyToBuffers saved) ram.shouldSaveConfig)
  | .submitted form => some (configured (copyToBuffers form) true)

/-! ### The program -/

/-- A frame handed to `tcpClient.write`, and what went into it. -/
structure SentFrame where
  deviceId : UInt32
  sequenceNr : UInt32
  timestamp : UInt64
  nonce : Nonce
  payload : SensorPayload
  bytes : Bytes
  deriving DecidableEq

/-- The statement that runs next. -/
inductive Pc
  | maybeFactoryReset
  /-- In `maybeFactoryReset`, once the button was held long enough. -/
  | clearPreferences
  /-- `ESP.restart`. -/
  | restart
  | setupWiFiAndConfig
  /-- In `setupWiFiAndConfig`, saving the fields from the given one on. -/
  | saveConfig (i : Nat)
  | loadSequenceNr
  | connectGateway
  | loop
  /-- In `processAndSend` and `processAndSendDirect`, with what is to be sent. -/
  | incrementSequenceNr (payload : SensorPayload)
  | saveSequenceNr (payload : SensorPayload)
  | generateNonce (payload : SensorPayload)
  | encryptPayload (payload : SensorPayload) (nonce : Nonce) (timestamp : UInt64)
  /-- In `sendSecurePipeFrame`. -/
  | write (frame : SentFrame)
  deriving DecidableEq

/-- What the world answers to the statement that runs. -/
structure World where
  /-- The button is held for `CONFIG_RESET_HOLD_MS`. -/
  resetHeld : Bool
  autoConnect : AutoConnect
  /-- `tcpClient.connected`. -/
  connected : Bool
  /-- The pin, when it is time to read it again. -/
  objectDetected : Option Bool
  /-- What the UART has, when that is enough for a raw frame. -/
  rawFrame : Option (U8Array RAW_FRAME_SIZE)
  /-- What the buffer holds after `mbedtls_ctr_drbg_random`, whether or not it succeeded. -/
  nonce : Nonce
  /-- `time`. -/
  time : UInt64
  /-- An error of mbedTLS that does not depend on its arguments. -/
  encryptionFails : Bool
  /-- How many bytes `tcpClient.write` takes. -/
  written : Nat

/-- `loop`, up to the function it calls. -/
def loop (world : World) (ram : Ram) : Pc :=
  -- Reconnect if connection dropped
  if !world.connected then .connectGateway
  else if ram.directMode then
    match world.objectDetected with
    | some detected =>
        .incrementSequenceNr
          { sensorType := SENSOR_PROXIMITY, valueRaw := if detected then 1 else 0, unit := 0x00 }
    | none => .loop
  else
    match world.rawFrame with
    | some rawFrame =>
        if validateRawFrame rawFrame.toList = some true then
          match readRawFrame rawFrame.toList with
          | some payload => .incrementSequenceNr payload
          | none => .loop
        else .loop
    | none => .loop

/-- The ESP32. -/
structure Sender where
  nvs : Nvs
  ram : Ram
  pc : Pc

namespace Sender

/-- The program starts: `setup`, with the globals at their initial values. -/
def boot (nvs : Nvs) : Sender where
  nvs := nvs
  ram := .initial
  pc := .maybeFactoryReset

variable (mbedtls : MbedTls)

/-- One statement, and what it hands to `tcpClient.write`, with the number of bytes that
this takes. -/
def step (world : World) (s : Sender) : Sender × Option (SentFrame × Nat) :=
  match s.pc with
  | .maybeFactoryReset =>
      ({ s with pc := if world.resetHeld then .clearPreferences else .setupWiFiAndConfig }, none)
  | .clearPreferences => ({ s with nvs := s.nvs.clear "securepipe", pc := .restart }, none)
  | .restart => (boot s.nvs, none)
  | .setupWiFiAndConfig =>
      match setupWiFiAndConfig s.nvs world.autoConnect s.ram with
      | none => ({ s with pc := .restart }, none)
      | some ram =>
          ({ s with ram, pc := if ram.shouldSaveConfig then .saveConfig 0 else .loadSequenceNr },
            none)
  | .saveConfig i =>
      match fields[i]? with
      | some field =>
          ({ s with
              nvs := s.nvs.putString "securepipe" field.key (s.ram.buffers field.key)
              pc := .saveConfig (i + 1) }, none)
      | none => ({ s with pc := .loadSequenceNr }, none)
  | .loadSequenceNr =>
      ({ s with
          ram := { s.ram with sequenceNr := loadSequenceNr s.nvs }
          pc := .connectGateway }, none)
  -- Sequence number is NOT reset here
  | .connectGateway => ({ s with pc := .loop }, none)
  | .loop => ({ s with pc := loop world s.ram }, none)
  | .incrementSequenceNr payload =>
      ({ s with
          ram := { s.ram with sequenceNr := s.ram.sequenceNr + 1 }
          pc := .saveSequenceNr payload }, none)
  | .saveSequenceNr payload =>
      ({ s with
          nvs := saveSequenceNr s.ram.sequenceNr s.nvs
          pc := .generateNonce payload }, none)
  | .generateNonce payload =>
      ({ s with pc := .encryptPayload payload world.nonce world.time }, none)
  | .encryptPayload payload nonce timestamp =>
      match buildFrame mbedtls s.ram.deviceId s.ram.sequenceNr payload.sensorType payload.valueRaw
          payload.unit nonce timestamp with
      | some bytes =>
          let frame :=
            { deviceId := s.ram.deviceId, sequenceNr := s.ram.sequenceNr, timestamp, nonce,
              payload, bytes }
          ({ s with pc := if world.encryptionFails then .loop else .write frame }, none)
      | none => ({ s with pc := .loop }, none)
  | .write frame => ({ s with pc := .loop }, some (frame, world.written))

end Sender

/-! ### The sequence number -/

theorem load_eq {nvs nvs' : Nvs}
    (h : nvs.entries NVS_NAMESPACE NVS_SEQ_KEY = nvs'.entries NVS_NAMESPACE NVS_SEQ_KEY) :
    loadSequenceNr nvs = loadSequenceNr nvs' := by
  unfold loadSequenceNr Nvs.getUInt
  rw [h]

theorem load_put {nvs : Nvs} {key : String} (value : NvsValue) (hkey : key ≠ NVS_SEQ_KEY) :
    loadSequenceNr (nvs.put "securepipe" key value) = loadSequenceNr nvs :=
  load_eq (if_neg fun h => hkey h.2.symm)

@[simp] theorem load_save (seq : UInt32) (nvs : Nvs) :
    loadSequenceNr (saveSequenceNr seq nvs) = seq := by
  have hentry : (saveSequenceNr seq nvs).entries NVS_NAMESPACE NVS_SEQ_KEY = some (.uint seq) := by
    simp [saveSequenceNr, Nvs.putUInt, Nvs.put]
  unfold loadSequenceNr Nvs.getUInt
  rw [hentry]

/-- The namespace of the sequence number is the one that a reset clears. -/
@[simp] theorem load_clear (nvs : Nvs) : loadSequenceNr (nvs.clear "securepipe") = 0 := by
  have hentry : (nvs.clear "securepipe").entries NVS_NAMESPACE NVS_SEQ_KEY = none := by
    simp [Nvs.clear, NVS_NAMESPACE]
  unfold loadSequenceNr Nvs.getUInt
  rw [hentry]

/-- No field of the portal is saved under the key of the sequence number. -/
theorem fields_key {field : Field} (h : field ∈ fields) : field.key ≠ NVS_SEQ_KEY := by
  revert field
  decide

/-- Where the sequence number of the RAM stands to the one in flash. -/
inductive Phase
  /-- It has not been loaded. -/
  | starting
  /-- They are the same. -/
  | ready
  /-- It is one ahead. -/
  | counting
  /-- They are the same, and the frame that uses it has yet to be sent. -/
  | counted

def Pc.phase : Pc → Phase
  | .maybeFactoryReset => .starting
  | .clearPreferences => .starting
  | .restart => .starting
  | .setupWiFiAndConfig => .starting
  | .saveConfig _ => .starting
  | .loadSequenceNr => .starting
  | .connectGateway => .ready
  | .loop => .ready
  | .incrementSequenceNr _ => .ready
  | .saveSequenceNr _ => .counting
  | .generateNonce _ => .counted
  | .encryptPayload _ _ _ => .counted
  | .write _ => .counted

/-- The sequence number in flash. -/
def Sender.saved (s : Sender) : UInt32 := loadSequenceNr s.nvs

/-- The bytes are those of a frame with these fields. -/
def SentFrame.Built (mbedtls : MbedTls) (frame : SentFrame) : Prop :=
  buildFrame mbedtls frame.deviceId frame.sequenceNr frame.payload.sensorType
    frame.payload.valueRaw frame.payload.unit frame.nonce frame.timestamp = some frame.bytes

/-- What a step does, as far as sequence numbers are concerned. -/
inductive Sender.Effect (mbedtls : MbedTls) (s : Sender) : Option (SentFrame × Nat) → Sender → Prop
  /-- On the way to loading it, or after a restart. -/
  | setup {s' : Sender} (hphase : s'.pc.phase = .starting) (hsaved : s'.saved = s.saved) :
      Effect mbedtls s none s'
  | cleared {s' : Sender} (hpc : s.pc = .clearPreferences) (hphase : s'.pc.phase = .starting)
      (hsaved : s'.saved = 0) : Effect mbedtls s none s'
  | loaded {s' : Sender} (hphase : s'.pc.phase = .ready) (hsaved : s'.saved = s.saved)
      (hseq : s'.ram.sequenceNr = s.saved) : Effect mbedtls s none s'
  /-- Nothing to send, or the frame could not be encrypted. -/
  | idle {s' : Sender} (hphase : s.pc.phase = .ready ∨ s.pc.phase = .counted)
      (hphase' : s'.pc.phase = .ready) (hsaved : s'.saved = s.saved)
      (hseq : s'.ram.sequenceNr = s.ram.sequenceNr) : Effect mbedtls s none s'
  | incremented {s' : Sender} {payload : SensorPayload} (hpc : s.pc = .incrementSequenceNr payload)
      (hphase : s'.pc.phase = .counting) (hsaved : s'.saved = s.saved)
      (hseq : s'.ram.sequenceNr = s.ram.sequenceNr + 1) : Effect mbedtls s none s'
  | saved {s' : Sender} {payload : SensorPayload} (hpc : s.pc = .saveSequenceNr payload)
      (hpc' : s'.pc = .generateNonce payload) (hsaved : s'.saved = s.ram.sequenceNr)
      (hseq : s'.ram.sequenceNr = s.ram.sequenceNr) : Effect mbedtls s none s'
  /-- The frame is being made: it gets the number in RAM. -/
  | making {s' : Sender} (hphase : s.pc.phase = .counted) (hphase' : s'.pc.phase = .counted)
      (hsaved : s'.saved = s.saved) (hseq : s'.ram.sequenceNr = s.ram.sequenceNr)
      (hframe : ∀ frame, s'.pc = .write frame →
        frame.sequenceNr = s.ram.sequenceNr ∧ frame.Built mbedtls) :
      Effect mbedtls s none s'
  | wrote {s' : Sender} {frame : SentFrame} (written : Nat) (hpc : s.pc = .write frame)
      (hphase : s'.pc.phase = .ready) (hsaved : s'.saved = s.saved)
      (hseq : s'.ram.sequenceNr = s.ram.sequenceNr) : Effect mbedtls s (some (frame, written)) s'

theorem loop_phase (world : World) (ram : Ram) : (loop world ram).phase = .ready := by
  unfold loop
  cases world.connected with
  | false => rfl
  | true =>
      cases ram.directMode with
      | true =>
          cases world.objectDetected with
          | some detected => rfl
          | none => rfl
      | false =>
          cases world.rawFrame with
          | none => rfl
          | some rawFrame =>
              by_cases hvalid : validateRawFrame rawFrame.toList = some true
              · cases hread : readRawFrame rawFrame.toList with
                | some payload => simp [hvalid, hread, Pc.phase]
                | none => simp [hvalid, hread, Pc.phase]
              · simp [hvalid, Pc.phase]

/-- **What one statement does.** -/
theorem Sender.step_effect (mbedtls : MbedTls) (world : World) (s : Sender) :
    s.Effect mbedtls (s.step mbedtls world).2 (s.step mbedtls world).1 := by
  unfold step
  cases hpc : s.pc with
  | maybeFactoryReset =>
      refine .setup ?_ rfl
      cases world.resetHeld with
      | true => rfl
      | false => rfl
  | clearPreferences => exact .cleared hpc rfl (load_clear s.nvs)
  | restart => exact .setup rfl rfl
  | setupWiFiAndConfig =>
      simp only
      cases setupWiFiAndConfig s.nvs world.autoConnect s.ram with
      | none => exact .setup rfl rfl
      | some ram =>
          refine .setup ?_ rfl
          simp only
          cases ram.shouldSaveConfig with
          | true => rfl
          | false => rfl
  | saveConfig i =>
      simp only
      cases hfield : fields[i]? with
      | none => exact .setup rfl rfl
      | some field =>
          exact .setup rfl (load_put _ (fields_key (List.mem_of_getElem? hfield)))
  | loadSequenceNr => exact .loaded rfl rfl rfl
  | connectGateway => exact .idle (.inl (congrArg Pc.phase hpc)) rfl rfl rfl
  | loop => exact .idle (.inl (congrArg Pc.phase hpc)) (loop_phase world s.ram) rfl rfl
  | incrementSequenceNr payload => exact .incremented hpc rfl rfl rfl
  | saveSequenceNr payload => exact .saved hpc rfl (load_save s.ram.sequenceNr s.nvs) rfl
  | generateNonce payload =>
      exact .making (congrArg Pc.phase hpc) rfl rfl rfl (fun _ h => nomatch h)
  | encryptPayload payload nonce timestamp =>
      simp only
      cases hbuilt : buildFrame mbedtls s.ram.deviceId s.ram.sequenceNr payload.sensorType
          payload.valueRaw payload.unit nonce timestamp with
      | none => exact .idle (.inr (congrArg Pc.phase hpc)) rfl rfl rfl
      | some bytes =>
          cases world.encryptionFails with
          | true => exact .idle (.inr (congrArg Pc.phase hpc)) rfl rfl rfl
          | false =>
              refine .making (congrArg Pc.phase hpc) rfl rfl rfl ?_
              intro frame hframe
              cases hframe
              exact ⟨rfl, hbuilt⟩
  | write frame => exact .wrote world.written hpc rfl rfl rfl

/-- The number in RAM agrees with the one in flash, as far as the statement that runs next
relies on it, and a frame about to be written bears it. -/
structure Sender.Consistent (s : Sender) : Prop where
  ready (h : s.pc.phase = .ready) : s.ram.sequenceNr = s.saved
  counting (h : s.pc.phase = .counting) : s.ram.sequenceNr.toNat = s.saved.toNat + 1
  counted (h : s.pc.phase = .counted) : s.ram.sequenceNr = s.saved
  writing {frame : SentFrame} (h : s.pc = .write frame) : frame.sequenceNr = s.ram.sequenceNr

theorem Sender.consistent_starting {s : Sender} (hphase : s.pc.phase = .starting) :
    s.Consistent where
  ready h := nomatch hphase.symm.trans h
  counting h := nomatch hphase.symm.trans h
  counted h := nomatch hphase.symm.trans h
  writing h := by
    rw [h] at hphase
    exact nomatch hphase

theorem Sender.consistent_ready {s : Sender} (hphase : s.pc.phase = .ready)
    (hseq : s.ram.sequenceNr = s.saved) : s.Consistent where
  ready _ := hseq
  counting h := nomatch hphase.symm.trans h
  counted h := nomatch hphase.symm.trans h
  writing h := by
    rw [h] at hphase
    exact nomatch hphase

/-- Statements keep the sender consistent while the number does not wrap. -/
theorem Sender.Consistent.effect {mbedtls : MbedTls} {s s' : Sender} {o : Option (SentFrame × Nat)}
    (h : s.Consistent) (heffect : s.Effect mbedtls o s')
    (hwrap : ∀ payload, s.pc = .incrementSequenceNr payload →
      s.ram.sequenceNr.toNat + 1 < 2 ^ 32) : s'.Consistent := by
  cases heffect with
  | setup hphase hsaved => exact consistent_starting hphase
  | cleared hpc hphase hsaved => exact consistent_starting hphase
  | loaded hphase hsaved hseq => exact consistent_ready hphase (hseq.trans hsaved.symm)
  | idle hphase hphase' hsaved hseq =>
      refine consistent_ready hphase' ?_
      rw [hseq, hsaved]
      rcases hphase with hready | hcounted
      · exact h.ready hready
      · exact h.counted hcounted
  | @incremented _ payload hpc hphase hsaved hseq =>
      have hready : s.ram.sequenceNr = s.saved := h.ready (congrArg Pc.phase hpc)
      refine ⟨(fun h => nomatch hphase.symm.trans h), ?_, (fun h => nomatch hphase.symm.trans h), ?_⟩
      · intro _
        rw [hseq, hsaved, ← hready, UInt32.toNat_add]
        exact Nat.mod_eq_of_lt (hwrap payload hpc)
      · intro frame hframe
        rw [hframe] at hphase
        exact nomatch hphase
  | saved hpc hpc' hsaved hseq =>
      refine ⟨?_, ?_, fun _ => hseq.trans hsaved.symm, (fun h => nomatch hpc'.symm.trans h)⟩
      · rw [hpc']
        exact nofun
      · rw [hpc']
        exact nofun
  | making hphase hphase' hsaved hseq hframe =>
      refine ⟨(fun h => nomatch hphase'.symm.trans h), (fun h => nomatch hphase'.symm.trans h), ?_, ?_⟩
      · intro _
        rw [hseq, hsaved]
        exact h.counted hphase
      · intro frame hpc
        rw [hseq]
        exact (hframe frame hpc).1
  | wrote written hpc hphase hsaved hseq =>
      refine consistent_ready hphase ?_
      rw [hseq, hsaved]
      exact h.counted (congrArg Pc.phase hpc)

/-- A frame about to be written has just been built. -/
theorem Sender.Effect.built {mbedtls : MbedTls} {s s' : Sender} {o : Option (SentFrame × Nat)}
    (heffect : s.Effect mbedtls o s') {frame : SentFrame} (hpc' : s'.pc = .write frame) :
    frame.Built mbedtls := by
  have hcounted : s'.pc.phase = .counted := congrArg Pc.phase hpc'
  cases heffect with
  | setup hphase hsaved => exact nomatch hphase.symm.trans hcounted
  | cleared hpc hphase hsaved => exact nomatch hphase.symm.trans hcounted
  | loaded hphase hsaved hseq => exact nomatch hphase.symm.trans hcounted
  | idle hphase hphase' hsaved hseq => exact nomatch hphase'.symm.trans hcounted
  | incremented hpc hphase hsaved hseq => exact nomatch hphase.symm.trans hcounted
  | saved hpc hnonce hsaved hseq => exact nomatch hnonce.symm.trans hpc'
  | making hphase hphase' hsaved hseq hframe => exact (hframe frame hpc').2
  | wrote written hpc hphase hsaved hseq => exact nomatch hphase.symm.trans hcounted

end Esp32

end SecurePipe
