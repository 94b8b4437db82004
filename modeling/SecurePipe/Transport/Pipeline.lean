import SecurePipe.Arduino.Board
import SecurePipe.Transport.Session

/-!
# SecurePipe.Transport.Pipeline

**From the echo to the dashboard**: the sensor node, the UART, the ESP32, the network and the
gateway, each as it runs, and the bytes in between as slow and as cut up as they like.

Each stage has its own result. `measurements_sent` is that of the node, `inSession_run` that of the
ESP32, and `onPlan_run` that of the gateway; what is left to do here is to plan the frames of the
ESP32 (`sessionPlan`).
-/

namespace SecurePipe

open Rust SensorNode
open Esp32 (MbedTls SentFrame Sender Board BoardInput InSession Calm boardMachine incoming
  inSession_run underway_loop)

variable {mbedtls : MbedTls} {aead : Aead AUTH_TAG_SIZE}

/-- The frame, as its sender produces it. -/
def Esp32.SentFrame.production (aead : Aead AUTH_TAG_SIZE) (frame : SentFrame) : Production :=
  .sealedWith aead .devTestKey frame.deviceId frame.sequenceNr frame.timestamp frame.nonce
    frame.payload

/-- What `tcpClient.write` takes of the frames. -/
def writtenBytes (written : List (SentFrame × Nat)) : Bytes :=
  written.flatMap fun w => w.1.bytes.take w.2

/-- The frames, as they are produced. -/
def productions (aead : Aead AUTH_TAG_SIZE) (written : List (SentFrame × Nat)) : List Production :=
  written.map fun w => w.1.production aead

theorem Esp32.SentFrame.Built.bytes_eq {frame : SentFrame} (hmbedtls : mbedtls.Implements aead)
    (h : frame.Built mbedtls) : frame.bytes = (frame.production aead).bytes :=
  Option.some.inj (h.symm.trans (esp32_produces frame.deviceId frame.sequenceNr frame.timestamp
    hmbedtls frame.nonce frame.payload))

theorem Esp32.SentFrame.production_length (aead : Aead AUTH_TAG_SIZE) (frame : SentFrame) :
    (frame.production aead).bytes.length = HEADER_SIZE + PAYLOAD_SIZE + AUTH_TAG_SIZE := by
  simp only [production, Production.sealedWith, Production.bytes, List.length_append,
    WireHeader.bytes_length, sealed_length, Nat.add_assoc]

/-- **What is written are the productions**, byte for byte. -/
theorem writtenBytes_eq (hmbedtls : mbedtls.Implements aead) {written : List (SentFrame × Nat)}
    (hbuilt : ∀ w ∈ written, w.1.Built mbedtls)
    (hwhole : ∀ w ∈ written, w.2 = HEADER_SIZE + PAYLOAD_SIZE + AUTH_TAG_SIZE) :
    writtenBytes written = wire (productions aead written) := by
  rw [writtenBytes, wire, productions, List.map_map, List.flatMap_def]
  refine congrArg List.flatten (List.map_congr_left fun w hw => ?_)
  rw [Function.comp_apply, (hbuilt w hw).bytes_eq hmbedtls, hwhole w hw,
    ← w.1.production_length aead, List.take_length]

/-- A plan with all frames on one connection. -/
def planOn {key : SessionKey} {registry : DeviceRegistry} (i : Nat) (frames : List Production)
    (hsealed : ∀ p ∈ frames, p.IsSealed aead key)
    (hallowed : ∀ p ∈ frames, registry.isAllowed p.deviceId = true)
    (hcounted : frames.Pairwise Production.Before) : Plan aead key registry where
  frames j := if j = i then frames else []
  isSealed j p hp := by
    split at hp
    · exact hsealed p hp
    · cases hp
  allowed j p hp := by
    split at hp
    · exact hallowed p hp
    · cases hp
  counted j := by
    split
    · exact hcounted
    · exact .nil
  apart j k hne p hp q hq := by
    split at hp
    · split at hq
      · exact absurd (by omega) hne
      · cases hq
    · cases hp

section Numbers

variable {deviceId : UInt32} {n : Nat} {b : Board} {inputs : List BoardInput}
  {written : List (SentFrame × Nat)} {reads : List Esp32.UartRead} {m : Nat}
  {pending : Option SensorPayload}

/-- The sequence numbers of a session, as long as they do not wrap. -/
theorem Esp32.InSession.sequenceNr_toNat
    (h : InSession mbedtls deviceId n b inputs written reads m pending)
    (hcount : n + written.length < 2 ^ 32) (k : Nat) (hk : k < written.length) :
    written[k].1.sequenceNr.toNat = n + k + 1 := by
  rw [(h.numbered k hk).sequenceNr]
  exact UInt32.toNat_ofNat_of_lt' (by simp only [UInt32.size]; omega)

/-- A session counts up. -/
theorem productions_counted (h : InSession mbedtls deviceId n b inputs written reads m pending)
    (hcount : n + written.length < 2 ^ 32) (hnonces : (written.map fun w => w.1.nonce).Nodup) :
    (productions aead written).Pairwise Production.Before := by
  have hcounted : written.Pairwise fun v w => v.1.sequenceNr < w.1.sequenceNr := by
    rw [List.pairwise_iff_getElem]
    intro j k hj hk hjk
    rw [UInt32.lt_iff_toNat_lt, h.sequenceNr_toNat hcount j hj, h.sequenceNr_toNat hcount k hk]
    omega
  rw [productions, List.pairwise_map]
  refine (hcounted.and (List.pairwise_map.mp hnonces)).imp ?_
  intro v w h _
  exact h

end Numbers

/-! ### What the gateway sends -/

/-- The readings of frames that were published. -/
theorem readings_of_yields {done : List Production} {sent : List Observation}
    (h : List.Forall₂ Production.Yields done sent) :
    sent.filterMap Observation.reading = done.map Production.reading := by
  induction h with
  | nil => rfl
  | @cons p o done sent hyields hrest ih =>
      cases o with
      | produced q => exact hyields.elim
      | checked i now frame => exact hyields.elim
      | published i frame sensor =>
          obtain ⟨-, hdevice, hsequence, htimestamp, rfl⟩ := hyields
          simp only [List.filterMap_cons, Observation.reading, ih, List.map_cons]
          rw [Production.reading, SecurePipe.reading, hdevice, hsequence, htimestamp]

/-- Of frames that have arrived in full, the next one is no longer than what has arrived. -/
theorem Short.eq_nil {left : Bytes} {todo : List Production} (h : Short left todo)
    (hleft : left = wire todo) : todo = [] := by
  cases todo with
  | nil => rfl
  | cons p todo =>
      have hlt := h p rfl
      rw [hleft, wire_cons, List.length_append] at hlt
      omega

/-- Where only one connection publishes, its readings are all of them. -/
theorem readings_of_only {t : List Observation} {i : Nat}
    (honly : ∀ j, j ≠ i → t.filter (Observation.publishedOn j) = []) :
    t.filterMap Observation.reading =
      (t.filter (Observation.publishedOn i)).filterMap Observation.reading := by
  rw [List.filterMap_filter]
  refine List.filterMap_congr fun o ho => ?_
  cases o with
  | produced p => rfl
  | checked j now frame => rfl
  | published j frame sensor =>
      by_cases hj : j = i
      · simp [Observation.publishedOn, hj]
      · have hnone := List.filter_eq_nil_iff.mp (honly j hj) _ ho
        simp [Observation.publishedOn] at hnone

section EndToEnd

variable {ring : Ring} {start : Sender} {deviceId : UInt32} {n : Nat} {b : Board}
  {inputs : List BoardInput} {written : List (SentFrame × Nat)} {reads : List Esp32.UartRead}
  {m : Nat} {pending : Option SensorPayload} {registry : DeviceRegistry}

/-- **The plan of a session**: its frames, on one connection. -/
def sessionPlan (aead : Aead AUTH_TAG_SIZE)
    (h : InSession mbedtls deviceId n b inputs written reads m pending)
    (hcount : n + written.length < 2 ^ 32) (hnonces : (written.map fun w => w.1.nonce).Nodup)
    (hallowed : registry.isAllowed deviceId = true) (i : Nat) : Plan aead .devTestKey registry :=
  planOn i (productions aead written)
    (fun p hp => by
      obtain ⟨w, -, rfl⟩ := List.mem_map.mp hp
      rfl)
    (fun p hp => by
      obtain ⟨w, hw, rfl⟩ := List.mem_map.mp hp
      obtain ⟨k, hk, rfl⟩ := List.getElem_of_mem hw
      rw [← hallowed, ← (h.numbered k hk).deviceId]
      rfl)
    (productions_counted h hcount hnonces)

/-- **From the echo to the dashboard.** The sensor node has made some turns; the ESP32 has run since
it was at `loop`, in UART mode, with what the UART has brought; the gateway has run with what the
network has brought of the frames. Then no security event has been sent, and the readings that have
been sent are the first ones of the node, each with the next sequence number. They are all of them,
once no stage has anything left to do. -/
theorem echo_to_dashboard (hring : ring.Implements aead) (hmbedtls : mbedtls.Implements aead)
    {turns : List SensorNode.Turn} {node : State} {uart : Bytes}
    (hnode : loops .initial turns = some (node, uart))
    (hpc : start.pc = .loop) (hmode : start.ram.directMode = false)
    (hcalm : ∀ input ∈ inputs, Calm input) (hline : incoming inputs <+: uart)
    (hwritten : (boardMachine mbedtls).trace ⟨start, .empty⟩ inputs = written)
    (hcount : start.ram.sequenceNr.toNat + written.length < 2 ^ 32)
    (hnonces : (written.map fun w => w.1.nonce).Nodup)
    (hallowed : registry.isAllowed start.ram.deviceId = true) (i : Nat) {actions : List Action}
    (htimely : (systemMachine ring).Along Timely (.start .devTestKey registry) actions)
    (hwire : delivered i actions <+: writtenBytes written)
    (hothers : ∀ j, j ≠ i → delivered j actions = []) :
    ((systemMachine ring).run (.start .devTestKey registry) actions).gateway.eventsTx = [] ∧
    ∃ shown : List Production,
      ((systemMachine ring).run (.start .devTestKey registry) actions).gateway.readingsTx =
        shown.map Production.reading ∧
      shown.map Production.payload <+: readings turns ∧
      (∀ k (hk : k < shown.length), shown[k].deviceId = start.ram.deviceId ∧
        shown[k].sequenceNr.toNat = start.ram.sequenceNr.toNat + k + 1) ∧
      (incoming inputs = uart → ((boardMachine mbedtls).run ⟨start, .empty⟩ inputs).Drained →
        delivered i actions = writtenBytes written →
        (((systemMachine ring).run (.start .devTestKey registry) actions).connections i).Settled →
        shown.map Production.payload = readings turns) := by
  obtain ⟨node', hloops⟩ := loops_eq .initial turns
  obtain ⟨rfl, rfl⟩ : node = node' ∧ uart = line (readings turns) :=
    Prod.mk.inj (Option.some.inj (hnode.symm.trans hloops))
  obtain ⟨reads, m, pending, hsession⟩ := inSession_run hmbedtls (underway_loop hpc hmode) hcalm
  rw [hwritten] at hsession
  have hbytes : writtenBytes written = wire (productions aead written) :=
    writtenBytes_eq hmbedtls (fun w hw => by
      obtain ⟨k, hk, rfl⟩ := List.getElem_of_mem hw
      exact (hsession.numbered k hk).built) hsession.whole
  have hframes : (sessionPlan aead hsession hcount hnonces hallowed i).frames i =
    productions aead written := if_pos rfl
  have hplanned : ∀ j, delivered j actions <+:
      wire ((sessionPlan aead hsession hcount hnonces hallowed i).frames j) := by
    intro j
    by_cases hj : j = i
    · rw [hj, hframes, ← hbytes]
      exact hwire
    · rw [hothers j hj]
      exact List.nil_prefix
  have hplan := onPlan_run _ hring htimely hplanned
  obtain ⟨done, rest, todo, left, hdone, harrived, hsent, hstage, -⟩ := hplan.progress i
  rw [hframes] at hdone
  have hpayloads : (productions aead written).map Production.payload =
      written.map fun w => w.1.payload := by
    rw [productions, List.map_map]
    rfl
  refine ⟨hplan.events, done, ?_, ?_, ?_, ?_⟩
  · have honly : ∀ j, j ≠ i → (trace ring .devTestKey registry actions).filter
        (Observation.publishedOn j) = [] := by
      intro j hj
      obtain ⟨done', rest', -, -, hdone', -, hsent', -⟩ := hplan.progress j
      have hnone : done' ++ rest' = [] := hdone'.symm.trans (if_neg hj)
      rw [(List.append_eq_nil_iff.mp hnone).1] at hsent'
      exact List.forall₂_nil_left_iff.mp hsent'
    rw [hplan.readings, readings_of_only honly, readings_of_yields hsent]
  · have hprefix : done.map Production.payload <+: written.map fun w => w.1.payload := by
      rw [← hpayloads, hdone, List.map_append]
      exact List.prefix_append _ _
    exact hprefix.trans (hsession.written_prefix hline)
  · intro k hk
    have hlen : k < written.length := by
      have htotal := congrArg List.length hdone
      rw [productions, List.length_map, List.length_append] at htotal
      omega
    have hframe : done[k] = written[k].1.production aead := by
      have hget : (productions aead written)[k]? = done[k]? := by
        rw [hdone, List.getElem?_append_left hk]
      rw [productions, List.getElem?_map, List.getElem?_eq_getElem hlen,
        List.getElem?_eq_getElem hk] at hget
      exact (Option.some.inj hget).symm
    rw [hframe]
    exact ⟨(hsession.numbered k hlen).deviceId, hsession.sequenceNr_toNat hcount k hlen⟩
  · intro hall hdrained hcomplete hsettled
    have hleft : left = wire rest := by
      rw [hcomplete, hbytes, hdone, wire_append] at harrived
      exact (List.append_cancel_left harrived).symm
    have hshort : Short left rest := by
      refine hstage.short_of_settled hsettled (fun p hp => ?_) (hleft ▸ List.prefix_rfl)
      have hmem : p ∈ productions aead written := hdone ▸ List.mem_append_right done hp
      obtain ⟨w, -, rfl⟩ := List.mem_map.mp hmem
      have hsealed : (w.1.production aead).IsSealed aead .devTestKey := rfl
      exact hsealed.isWireFrame
    rw [← hsession.written_eq hall hdrained, ← hpayloads, hdone, hshort.eq_nil hleft,
      List.append_nil]

end EndToEnd

/-! ### Ten centimetres -/

/-- The world in a session: the gateway stays connected, and takes what is written. -/
def calmWorld : Esp32.World where
  resetHeld := false
  autoConnect := .connected
  connected := true
  objectDetected := none
  rawFrame := none
  nonce := temperatureFrame.nonce
  time := 1700000000
  encryptionFails := false
  written := HEADER_SIZE + PAYLOAD_SIZE + AUTH_TAG_SIZE

/-- Device 1, at `loop` for the first time. -/
def newSender : Sender where
  nvs := .empty
  ram := .initial
  pc := .loop

/-- One raw frame comes in, and the statements up to its frame are executed. -/
def oneFrame : List BoardInput :=
  .receive (rawFrame ⟨SensorNode.SENSOR_DISTANCE, 1000, SensorNode.UNIT_CM⟩) ::
    List.replicate 6 (.run calmWorld)

/-- The frame that is written. -/
def oneWritten : List (SentFrame × Nat) :=
  (boardMachine (.ofAead temperatureAead)).trace ⟨newSender, .empty⟩ oneFrame

/-- It arrives in two parts, and the peer hangs up. -/
def oneDelivery : List Action :=
  let now : SystemTime := .unix 1700000003
  [.run 0 now, .deliver 0 ((writtenBytes oneWritten).take 20), .run 0 now,
   .deliver 0 ((writtenBytes oneWritten).drop 20), .run 0 now, .run 0 now, .run 0 now, .run 0 now,
   .hangUp 0 .eof, .run 0 now]

/-- The ten centimetres of `threeTurns` get to the dashboard. -/
theorem echo_to_dashboard_ten :
    ∃ shown : List Production,
      ((systemMachine (Ring.ofAead temperatureAead)).run (.start .devTestKey .open)
        oneDelivery).gateway.readingsTx = shown.map Production.reading ∧
      shown.map Production.payload = [⟨SensorNode.SENSOR_DISTANCE, 1000, SensorNode.UNIT_CM⟩] := by
  obtain ⟨node, hnode⟩ := loops_eq .initial threeTurns
  have hreadings : readings threeTurns =
      [⟨SensorNode.SENSOR_DISTANCE, 1000, SensorNode.UNIT_CM⟩] := by decide
  have hline : incoming oneFrame = line (readings threeTurns) := by
    rw [hreadings]
    decide +kernel
  have hcalm : ∀ input ∈ oneFrame, Calm input := by decide +kernel
  have hbytes : delivered 0 oneDelivery = writtenBytes oneWritten := by decide +kernel
  have htimely : (systemMachine (Ring.ofAead temperatureAead)).Along Timely
      (.start .devTestKey .open) oneDelivery := by decide +kernel
  have hdrained : ((boardMachine (.ofAead temperatureAead)).run ⟨newSender, .empty⟩
      oneFrame).Drained := ⟨by decide +kernel, by decide +kernel⟩
  have hsettled : (((systemMachine (Ring.ofAead temperatureAead)).run (.start .devTestKey .open)
      oneDelivery).connections 0).Settled := Connection.settled_of_pace (by decide +kernel)
  have hothers : ∀ j, j ≠ 0 → delivered j oneDelivery = [] := by
    intro j hj
    simp [delivered, oneDelivery, Action.bytesOn, Ne.symm hj]
  have hwritten : (boardMachine (.ofAead temperatureAead)).trace ⟨newSender, .empty⟩ oneFrame =
      oneWritten := rfl
  obtain ⟨-, shown, hshown, -, -, hall⟩ := echo_to_dashboard
    (Ring.ofAead_implements temperatureAead) (Esp32.MbedTls.ofAead_implements temperatureAead)
    hnode (show newSender.pc = .loop from rfl) rfl hcalm (hline ▸ List.prefix_rfl) hwritten (by decide +kernel) (by decide +kernel)
    rfl 0 htimely (hbytes ▸ List.prefix_rfl) hothers
  exact ⟨shown, hshown, hreadings ▸ hall hline hdrained hbytes hsettled⟩

end SecurePipe
