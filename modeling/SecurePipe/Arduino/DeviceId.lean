import SecurePipe.Arduino.CrashSafety
import SecurePipe.Lib.Chronicle
import SecurePipe.Lib.Strtoul
import SecurePipe.Protocol.Registry

/-!
# SecurePipe.Arduino.DeviceId

Who the ESP32 says it is. Its device id is entered in the portal, kept in flash as a text of eight
characters, and read by `strtoul` at each start. The gateway has a list of the ids that it lets in,
and a parser of its own.

* `entered_id_let_in`: the id that stands in the list lets the device in if its digits fit into the
  field of the portal, and not otherwise.
* `ids_in_order`: wherever the power goes, a frame bears the id in flash, and the frames bear the
  ids that were entered in the order in which they were entered.
-/

namespace SecurePipe

open Rust BigEndian

/-! ### The two readings of an id -/

namespace Esp32

/-- `deviceId`, from the text that is copied to the buffer of its field. -/
def enteredId (text : Bytes) : UInt32 := C.strtoul (text.take (devId.size - 1)) 16

variable {s t : List Char} {n : Nat}

/-- The digits on their own: eight of them fit. -/
theorem enteredId_digits (h : IsNumeral 16 s n) (hn : n < 2 ^ 32) :
    enteredId (C.text s) = UInt32.ofNat n ↔ s.length ≤ 8 ∨ n = 0 := by
  obtain ⟨m, hm, hle, hiff⟩ := C.isNumeral_take h (show 0 < devId.size - 1 by decide)
  have hm' : m < 2 ^ 32 := Nat.lt_of_le_of_lt hle hn
  rw [enteredId, C.text_take, C.strtoul_numeral hm hm', ← UInt32.toNat_inj,
    UInt32.toNat_ofNat_of_lt' hm', UInt32.toNat_ofNat_of_lt' hn]
  exact hiff

/-- The text with the prefix: it takes the room of two digits. -/
theorem enteredId_prefixed (ht : HexPrefixed t s) (h : IsNumeral 16 s n) (hn : n < 2 ^ 32) :
    enteredId (C.text t) = UInt32.ofNat n ↔ s.length ≤ 6 ∨ n = 0 := by
  obtain ⟨x, hx, rfl⟩ : ∃ x, (x = 'x' ∨ x = 'X') ∧ t = '0' :: x :: s := by
    rcases ht with rfl | rfl
    · exact ⟨'x', .inl rfl, rfl⟩
    · exact ⟨'X', .inr rfl, rfl⟩
  obtain ⟨m, hm, hle, hiff⟩ := C.isNumeral_take h (show 0 < devId.size - 3 by decide)
  have hm' : m < 2 ^ 32 := Nat.lt_of_le_of_lt hle hn
  have htake : ('0' :: x :: s).take (devId.size - 1) = '0' :: x :: s.take (devId.size - 3) := rfl
  rw [enteredId, C.text_take, htake, C.strtoul_prefixed hx hm hm', ← UInt32.toNat_inj,
    UInt32.toNat_ofNat_of_lt' hm', UInt32.toNat_ofNat_of_lt' hn]
  exact hiff

end Esp32

/-- A list with one entry. -/
theorem fromEnv_single {env : Environment} {t : List Char} {d : UInt32}
    (hvalue : env ALLOWED_DEVICES_ENV_VAR = some (t.map OsUnit.char)) (hne : t ≠ [])
    (hplain : ∀ c ∈ t, Rust.isWhitespace c = false ∧ c ≠ ',') (hparse : parseDeviceId t = some d) :
    DeviceRegistry.fromEnv env = .restricted {d} := by
  have hunicode : (t.map OsUnit.char).mapM OsUnit.toChar? = some t := by
    rcases unicode_cases (t.map OsUnit.char) with ⟨raw, hraw, hmap⟩ | ⟨⟨unit, hunit⟩, -⟩
    · rwa [← char_injective.list_map hraw] at hmap
    · simp at hunit
  have hvar : env.var ALLOWED_DEVICES_ENV_VAR = .ok t := by
    simp only [Environment.var, hvalue, hunicode]
  have htrim : trim t = t := by
    rw [trim, trimMatches, List.dropWhile_eq_self_iff.mpr, List.rdropWhile_eq_self_iff.mpr]
    · exact fun hl => by simp [(hplain _ (List.getLast_mem hl)).1]
    · exact fun hl => by simp [(hplain _ (List.getElem_mem hl)).1]
  have hsplit : t.splitOn ',' = [t] := by
    rw [List.splitOn_eq_splitOnP]
    exact List.splitOnP_eq_singleton fun c hc => by simpa using (hplain c hc).2
  unfold DeviceRegistry.fromEnv
  rw [hvar]
  simp only [htrim, hsplit, List.filterMap_cons, List.filterMap_nil, hparse]
  rw [if_pos (by simpa using hne)]
  rfl

theorem digit_plain {c : Char} (h : (toDigit 16 c).isSome) :
    Rust.isWhitespace c = false ∧ c ≠ ',' := by
  have hascii : ∀ n < 128, (toDigit 16 (Char.ofNat n)).isSome →
      Rust.isWhitespace (Char.ofNat n) = false ∧ Char.ofNat n ≠ ',' := by decide +kernel
  have hplain := hascii c.toNat (C.toNat_lt_of_isSome h)
  rw [Char.ofNat_toNat] at hplain
  exact hplain h

/-- **Who enters the id that the gateway lists.** Let the list consist of one id in hexadecimal, as
the documentation has it. A device in whose portal its digits are entered is let in if there are no
more than eight; one in whose portal the same text is entered, if there are no more than six. The
portal cuts off the others, and what is left is another id, unless it is zero. -/
theorem entered_id_let_in {env : Environment} {s t : List Char} {n : Nat}
    (hvalue : env ALLOWED_DEVICES_ENV_VAR = some (t.map OsUnit.char)) (ht : HexPrefixed t s)
    (hs : IsNumeral 16 s n) (hn : n < 2 ^ 32) :
    ((DeviceRegistry.fromEnv env).isAllowed (Esp32.enteredId (C.text s)) = true ↔
      s.length ≤ 8 ∨ n = 0) ∧
    ((DeviceRegistry.fromEnv env).isAllowed (Esp32.enteredId (C.text t)) = true ↔
      s.length ≤ 6 ∨ n = 0) := by
  have hparse : parseDeviceId t = some (UInt32.ofNat n) :=
    parseDeviceId_eq_some.mpr (.inl (.inl ⟨s, ht, by rwa [UInt32.toNat_ofNat_of_lt' hn]⟩))
  have hplain : ∀ c ∈ t, Rust.isWhitespace c = false ∧ c ≠ ',' := by
    have hdigits : ∀ c ∈ s, Rust.isWhitespace c = false ∧ c ≠ ',' := fun c hc =>
      digit_plain (hs.2.1 c hc)
    rcases ht with rfl | rfl
    · exact List.forall_mem_cons.mpr ⟨by decide, List.forall_mem_cons.mpr ⟨by decide, hdigits⟩⟩
    · exact List.forall_mem_cons.mpr ⟨by decide, List.forall_mem_cons.mpr ⟨by decide, hdigits⟩⟩
  have hne : t ≠ [] := by
    rintro rfl
    rcases ht with h | h
    · cases h
    · cases h
  rw [fromEnv_single hvalue hne hplain hparse]
  simp only [DeviceRegistry.isAllowed, Finset.mem_singleton, decide_eq_true_iff]
  exact ⟨Esp32.enteredId_digits hs hn, Esp32.enteredId_prefixed ht hs hn⟩

/-- The example of the documentation. Entered with its prefix, it becomes the id 0. -/
theorem entered_id_let_in_example :
    let env : Environment := fun _ => some ("0x00000001".toList.map OsUnit.char)
    (DeviceRegistry.fromEnv env).isAllowed (Esp32.enteredId (C.ascii "00000001")) = true ∧
    (DeviceRegistry.fromEnv env).isAllowed (Esp32.enteredId (C.ascii "0x00000001")) ≠ true := by
  intro env
  have h := @entered_id_let_in env "00000001".toList "0x00000001".toList 1 rfl (.inl rfl)
    (by decide) (by decide)
  exact ⟨h.1.mpr (by decide), fun hin => absurd (h.2.mp hin) (by decide)⟩

/-! ### The id in flash -/

namespace Esp32

/-- The id that the device starts with. -/
def Nvs.deviceId (nvs : Nvs) : UInt32 :=
  enteredId (nvs.getString "securepipe" devId.key devId.initial)

theorem Nvs.deviceId_put_string (nvs : Nvs) (text : Bytes) :
    (nvs.putString "securepipe" devId.key text).deviceId = enteredId text := by
  simp [deviceId, putString, getString, put]

/-- Other keys do not matter. -/
theorem Nvs.deviceId_put {nvs : Nvs} {key : String} (value : NvsValue) (hkey : key ≠ devId.key) :
    (nvs.put "securepipe" key value).deviceId = nvs.deviceId := by
  simp [deviceId, getString, put, Ne.symm hkey]

theorem Nvs.deviceId_save (nvs : Nvs) (seq : UInt32) :
    (saveSequenceNr seq nvs).deviceId = nvs.deviceId := Nvs.deviceId_put _ (by decide)

theorem Nvs.deviceId_clear (nvs : Nvs) :
    (nvs.clear "securepipe").deviceId = enteredId devId.initial := by
  simp [deviceId, getString, clear]

@[simp] theorem enteredId_take (text : Bytes) :
    enteredId (text.take (devId.size - 1)) = enteredId text := by
  rw [enteredId, enteredId, List.take_take, Nat.min_self]

/-- A form that is submitted is saved, and the id in it is the one that counts. -/
theorem setup_submitted (nvs : Nvs) (form : String → Bytes) (ram : Ram) :
    ∃ ram', setupWiFiAndConfig nvs (.submitted form) ram = some ram' ∧
      ram'.shouldSaveConfig = true ∧ ram'.deviceId = enteredId (form devId.key) ∧
      enteredId (ram'.buffers devId.key) = ram'.deviceId := by
  refine ⟨_, rfl, rfl, rfl, ?_⟩
  show enteredId ((form devId.key).take (devId.size - 1)) = enteredId (form devId.key)
  exact enteredId_take _

/-- Without a form, the id is the one in flash. -/
theorem setup_connected (nvs : Nvs) :
    ∃ ram', setupWiFiAndConfig nvs .connected .initial = some ram' ∧
      ram'.shouldSaveConfig = false ∧ ram'.deviceId = nvs.deviceId := by
  refine ⟨_, rfl, rfl, ?_⟩
  show enteredId ((nvs.getString "securepipe" devId.key devId.initial).take (devId.size - 1)) =
    nvs.deviceId
  exact enteredId_take _

/-! ### A life of the sender -/

inductive IdEvent
  /-- A form is submitted with this id, or the preferences are cleared, and leave this one. -/
  | configured (id : UInt32)
  /-- A frame was handed to `tcpClient.write`. -/
  | wrote (frame : SentFrame)

/-- The id that the statement brings up. -/
def Sender.configures (s : Sender) (world : World) : Option UInt32 :=
  match s.pc, world.autoConnect with
  | .setupWiFiAndConfig, .submitted form => some (enteredId (form devId.key))
  | .clearPreferences, _ => some (enteredId devId.initial)
  | _, _ => none

variable (mbedtls : MbedTls)

/-- The sender, statement by statement, with the ids and the frames. -/
def idMachine : Machine Sender SenderAction (Option IdEvent) where
  step s
    | .run world =>
        let (s', wrote) := s.step mbedtls world
        (s', match s.configures world with
          | some id => some (.configured id)
          | none => wrote.map fun w => .wrote w.1)
    | .powerLoss => (.boot s.nvs, none)

def IdEvent.id : IdEvent → Option UInt32
  | .configured id => some id
  | .wrote _ => none

def IdEvent.frame : IdEvent → Option SentFrame
  | .configured _ => none
  | .wrote frame => some frame

/-- The id that is entered and not yet saved: it is in the third of the fields. -/
def Sender.pendingId (s : Sender) : Option UInt32 :=
  match s.pc with
  | .saveConfig i => if i ≤ 2 then some s.ram.deviceId else none
  | _ => none

/-- The id in RAM agrees with the one in flash, as far as frames bear it. -/
def Sender.Identified (s : Sender) : Prop :=
  match s.pc with
  | .maybeFactoryReset | .setupWiFiAndConfig => s.ram = .initial
  | .clearPreferences | .restart => True
  | .saveConfig i => enteredId (s.ram.buffers devId.key) = s.ram.deviceId ∧
      (2 < i → s.ram.deviceId = s.nvs.deviceId)
  | .write frame => s.ram.deviceId = s.nvs.deviceId ∧ frame.deviceId = s.nvs.deviceId ∧
      frame.Built mbedtls
  | _ => s.ram.deviceId = s.nvs.deviceId

/-- What a statement does with ids. -/
inductive Sender.IdEffect (s s' : Sender) : Option IdEvent → Prop
  | quiet (hsaved : s'.nvs.deviceId = s.nvs.deviceId)
      (hpending : s'.pendingId = s.pendingId ∨ s'.pendingId = none) : IdEffect s s' none
  | entered {id : UInt32} (hsaved : s'.nvs.deviceId = s.nvs.deviceId)
      (hpending : s'.pendingId = some id) : IdEffect s s' (some (.configured id))
  | cleared (hsaved : s'.nvs.deviceId = enteredId devId.initial) (hpending : s'.pendingId = none) :
      IdEffect s s' (some (.configured (enteredId devId.initial)))
  | saved (hsaved : s.pendingId = some s'.nvs.deviceId) (hpending : s'.pendingId = none) :
      IdEffect s s' none
  | wrote {frame : SentFrame} (hsaved : s'.nvs.deviceId = s.nvs.deviceId)
      (hpending : s'.pendingId = none) (hid : frame.deviceId = s.nvs.deviceId)
      (hbuilt : frame.Built mbedtls) : IdEffect s s' (some (.wrote frame))

variable {mbedtls : MbedTls} {s s' : Sender}

theorem Sender.identified_ready (hphase : s.pc.phase = .ready) :
    s.Identified mbedtls ↔ s.ram.deviceId = s.nvs.deviceId := by
  unfold Identified
  cases hpc : s.pc with
  | connectGateway => rfl
  | loop => rfl
  | incrementSequenceNr payload => rfl
  | _ => exact nomatch (congrArg Pc.phase hpc).symm.trans hphase

theorem Sender.pendingId_ready (hphase : s.pc.phase = .ready) : s.pendingId = none := by
  unfold pendingId
  cases hpc : s.pc with
  | saveConfig i => exact nomatch (congrArg Pc.phase hpc).symm.trans hphase
  | _ => rfl

theorem fields_devId {i : Nat} {field : Field} (h : fields[i]? = some field) :
    field.key = devId.key ↔ i = 2 := by
  obtain ⟨hi, rfl⟩ := List.getElem?_eq_some_iff.mp h
  have hall : ∀ j : Fin fields.length, (fields.get j).key = devId.key ↔ j.val = 2 := by decide
  exact hall ⟨i, hi⟩

/-- A field is saved. Only the third one is the id. -/
theorem Sender.Identified.saveConfig {nvs : Nvs} {ram : Ram} {i : Nat}
    (h : Identified mbedtls ⟨nvs, ram, .saveConfig i⟩) (world : World) :
    IdEffect mbedtls ⟨nvs, ram, .saveConfig i⟩
      ((idMachine mbedtls).step ⟨nvs, ram, .saveConfig i⟩ (.run world)).1
      ((idMachine mbedtls).step ⟨nvs, ram, .saveConfig i⟩ (.run world)).2 ∧
    ((idMachine mbedtls).step ⟨nvs, ram, .saveConfig i⟩ (.run world)).1.Identified mbedtls := by
  obtain ⟨hbuffer, hdone⟩ := h
  simp only [idMachine, configures, step]
  cases hfield : fields[i]? with
  | none =>
      have hi : 2 < i := lt_of_lt_of_le (by decide) (List.getElem?_eq_none_iff.mp hfield)
      exact ⟨.quiet rfl (.inr rfl), hdone hi⟩
  | some field =>
      by_cases hi : i = 2
      · have hkey : field.key = devId.key := (fields_devId hfield).mpr hi
        have hsaved : (nvs.putString "securepipe" field.key (ram.buffers field.key)).deviceId =
            ram.deviceId := by
          rw [hkey, Nvs.deviceId_put_string]
          exact hbuffer
        subst hi
        exact ⟨.saved (congrArg some hsaved.symm) rfl, hbuffer, fun _ => hsaved.symm⟩
      · have hother : (nvs.putString "securepipe" field.key (ram.buffers field.key)).deviceId =
            nvs.deviceId := Nvs.deviceId_put _ (mt (fields_devId hfield).mp hi)
        refine ⟨.quiet hother ?_, hbuffer, fun hnext => ?_⟩
        · by_cases hle : i + 1 ≤ 2
          · left
            simp only [pendingId, if_pos hle, if_pos (Nat.le_of_succ_le hle)]
          · right
            simp only [pendingId, if_neg hle]
        · exact (hdone (by omega)).trans hother.symm

/-- **What one statement does with ids**, and that RAM and flash keep agreeing. -/
theorem Sender.Identified.step (h : s.Identified mbedtls) (action : SenderAction) :
    s.IdEffect mbedtls ((idMachine mbedtls).step s action).1 ((idMachine mbedtls).step s action).2 ∧
      ((idMachine mbedtls).step s action).1.Identified mbedtls := by
  cases action with
  | powerLoss => exact ⟨.quiet rfl (.inr rfl), rfl⟩
  | run world =>
      obtain ⟨nvs, ram, pc⟩ := s
      cases pc with
      | maybeFactoryReset =>
          simp only [idMachine, Sender.configures, Sender.step]
          cases world.resetHeld with
          | true => exact ⟨.quiet rfl (.inr rfl), trivial⟩
          | false => exact ⟨.quiet rfl (.inr rfl), h⟩
      | clearPreferences => exact ⟨.cleared nvs.deviceId_clear rfl, trivial⟩
      | restart => exact ⟨.quiet rfl (.inr rfl), rfl⟩
      | setupWiFiAndConfig =>
          obtain rfl : ram = .initial := h
          simp only [idMachine, Sender.configures, Sender.step]
          cases world.autoConnect with
          | timedOut => exact ⟨.quiet rfl (.inr rfl), trivial⟩
          | connected =>
              obtain ⟨ram, hsetup, hsave, hid⟩ := setup_connected nvs
              simp only [hsetup, hsave]
              exact ⟨.quiet rfl (.inr rfl), hid⟩
          | submitted form =>
              obtain ⟨ram, hsetup, hsave, hid, hbuffer⟩ := setup_submitted nvs form .initial
              simp only [hsetup, hsave]
              exact ⟨.entered rfl (congrArg some hid), hbuffer, nofun⟩
      | saveConfig i => exact h.saveConfig world
      | loadSequenceNr => exact ⟨.quiet rfl (.inr rfl), h⟩
      | connectGateway => exact ⟨.quiet rfl (.inr rfl), h⟩
      | loop =>
          have hphase := loop_phase world ram
          exact ⟨.quiet rfl (.inr (Sender.pendingId_ready hphase)),
            (Sender.identified_ready hphase).mpr h⟩
      | incrementSequenceNr payload => exact ⟨.quiet rfl (.inr rfl), h⟩
      | saveSequenceNr payload =>
          have hsaved := nvs.deviceId_save ram.sequenceNr
          exact ⟨.quiet hsaved (.inr rfl), Eq.trans h hsaved.symm⟩
      | generateNonce payload => exact ⟨.quiet rfl (.inr rfl), h⟩
      | encryptPayload payload nonce timestamp =>
          simp only [idMachine, Sender.configures, Sender.step]
          cases hbuilt : buildFrame mbedtls ram.deviceId ram.sequenceNr payload.sensorType
              payload.valueRaw payload.unit nonce timestamp with
          | none => exact ⟨.quiet rfl (.inr rfl), h⟩
          | some bytes =>
              cases world.encryptionFails with
              | true => exact ⟨.quiet rfl (.inr rfl), h⟩
              | false => exact ⟨.quiet rfl (.inr rfl), h, h, hbuilt⟩
      | write frame => exact ⟨.wrote rfl rfl h.2.1 h.2.2, h.1⟩

/-! ### The frames in order -/

/-- The bytes of a frame bear the id. -/
def SentFrame.Bears (id : UInt32) (frame : SentFrame) : Prop :=
  (readU32 frame.bytes 3 7 : Result UInt32) = .ok id

theorem SentFrame.Built.bears {frame : SentFrame} (h : frame.Built mbedtls) :
    SentFrame.Bears frame.deviceId frame := by
  obtain ⟨rest, hbytes⟩ := buildFrame_header h
  rw [Bears, hbytes]
  exact WireHeader.read_deviceId _ rest

/-- The frames so far, as a log kept under the id in flash. -/
def Sender.Chronicled (start : UInt32) (s : Sender) (life : List IdEvent) : Prop :=
  Chronicle SentFrame.Bears (start :: life.filterMap IdEvent.id) s.nvs.deviceId s.pendingId
    (life.filterMap IdEvent.frame)

theorem Sender.Chronicled.effect {start : UInt32} {life : List IdEvent} {o : Option IdEvent}
    (h : s.Chronicled start life) (heffect : s.IdEffect mbedtls s' o) :
    s'.Chronicled start (life ++ o.toList) := by
  unfold Chronicled at h ⊢
  rw [Trace.filterMap_append_toList, Trace.filterMap_append_toList, ← List.cons_append]
  cases heffect with
  | quiet hsaved hpending =>
      simp only [Option.bind_none, Option.toList_none, List.append_nil, hsaved]
      rcases hpending with hpending | hpending
      · rwa [hpending]
      · rw [hpending]
        exact h.forget
  | @entered id hsaved hpending =>
      rw [hsaved, hpending]
      have hproposed := h.propose id
      simpa [IdEvent.id, IdEvent.frame] using hproposed
  | cleared hsaved hpending =>
      rw [hsaved, hpending]
      have hadopted := (h.propose (enteredId devId.initial)).adopt
      simpa [IdEvent.id, IdEvent.frame] using hadopted
  | saved hsaved hpending =>
      rw [hsaved] at h
      simp only [Option.bind_none, Option.toList_none, List.append_nil, hpending]
      exact h.adopt
  | wrote hsaved hpending hid hbuilt =>
      rw [hsaved, hpending]
      have hwritten := h.forget.write (hid ▸ hbuilt.bears)
      simpa [IdEvent.id, IdEvent.frame] using hwritten

/-- `idMachine` goes on as the sender does, and shows its frames. -/
theorem idMachine_step (s : Sender) (action : SenderAction) :
    ((idMachine mbedtls).step s action).1 = ((senderMachine mbedtls).step s action).1 ∧
      ((idMachine mbedtls).step s action).2.bind IdEvent.frame =
        ((senderMachine mbedtls).step s action).2.map Prod.fst := by
  cases action with
  | powerLoss => exact ⟨rfl, rfl⟩
  | run world =>
      refine ⟨rfl, ?_⟩
      simp only [idMachine, senderMachine]
      cases hconfigures : s.configures world with
      | none => cases (s.step mbedtls world).2 <;> rfl
      | some id =>
          have hsilent : (s.step mbedtls world).2 = none := by
            unfold Sender.configures at hconfigures
            split at hconfigures
            · simp only [Sender.step, *]
              split <;> rfl
            · simp only [Sender.step, *]
            · exact nomatch hconfigures
          rw [hsilent]
          rfl

theorem Sender.IdEffect.bears {o : Option IdEvent} (h : s.IdEffect mbedtls s' o)
    {frame : SentFrame} (ho : o.bind IdEvent.frame = some frame) :
    SentFrame.Bears s.nvs.deviceId frame := by
  cases h with
  | wrote hsaved hpending hid hbuilt =>
      obtain rfl := Option.some.inj ho
      exact hid ▸ hbuilt.bears
  | _ => exact nomatch ho

/-- **The ids on the frames come in the order in which they were entered.** From any contents of the
flash, wherever the power goes and however often the config is reset: a frame bears the id that the
flash holds when it is written, and the frames fall into blocks, each with an id of its own. These
are the id that the device starts with and ids entered later, in this order, so that no id comes
back unless it is entered again. -/
theorem ids_in_order (nvs : Nvs) (actions : List SenderAction) :
    (∀ world w, (((senderMachine mbedtls).run (.boot nvs) actions).step mbedtls world).2 = some w →
      SentFrame.Bears ((senderMachine mbedtls).run (.boot nvs) actions).nvs.deviceId w.1) ∧
    FallsIntoBlocks SentFrame.Bears
      (nvs.deviceId :: ((idMachine mbedtls).trace (.boot nvs) actions).filterMap IdEvent.id)
      (((senderMachine mbedtls).trace (.boot nvs) actions).map Prod.fst) := by
  obtain ⟨hstate, hframes⟩ :=
    (idMachine mbedtls).trace_map (senderMachine mbedtls) idMachine_step (.boot nvs) actions
  obtain ⟨hidentified, hchronicled⟩ := (idMachine mbedtls).induct_trace
    (I := fun s life => s.Identified mbedtls ∧ s.Chronicled nvs.deviceId life)
    (C := fun _ _ => True)
    (fun s life action h _ => by
      obtain ⟨heffect, hnext⟩ := h.1.step action
      exact ⟨hnext, h.2.effect heffect⟩)
    (by exact ⟨rfl, .start _ _⟩) ((idMachine mbedtls).along_true (.boot nvs) actions)
  rw [← hstate, ← hframes]
  refine ⟨fun world w hw => ?_, hchronicled.fallsIntoBlocks⟩
  obtain ⟨heffect, -⟩ := hidentified.step (.run world)
  refine heffect.bears ((idMachine_step _ _).2.trans ?_)
  exact congrArg (Option.map Prod.fst) hw

/-- A new device, set up as device 1: the first frame that it writes. -/
theorem ids_in_order_first :
    ∃ w, (((senderMachine clearTls).run (.boot .empty)
        (List.replicate 16 (.run (workingWorld 0x01)))).step clearTls (workingWorld 0x01)).2 = some w ∧
      SentFrame.Bears 1 w.1 := by
  have hwrites : (((senderMachine clearTls).run (.boot .empty)
      (List.replicate 16 (.run (workingWorld 0x01)))).step clearTls
        (workingWorld 0x01)).2.isSome = true := by decide +kernel
  have hid : ((senderMachine clearTls).run (.boot .empty)
      (List.replicate 16 (.run (workingWorld 0x01)))).nvs.deviceId = 1 := by decide +kernel
  obtain ⟨w, hw⟩ := Option.isSome_iff_exists.mp hwrites
  have hbears := (@ids_in_order clearTls .empty
    (List.replicate 16 (.run (workingWorld 0x01)))).1 _ w hw
  rw [hid] at hbears
  exact ⟨w, hw, hbears⟩

end Esp32

end SecurePipe
