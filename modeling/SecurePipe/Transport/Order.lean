import SecurePipe.Transport.Tasks

/-!
# SecurePipe.Transport.Order

In which order readings are published, over all interleavings of the tasks.

The lock covers the replay check and not the broadcast. So the **checks** of a device's
frames pass in increasing order of sequence numbers, whichever connections the frames come
on, but a task can be overtaken between its check and its broadcast. `Orderly` is the
invariant: it relates the guard and the tasks to the trace of what has been seen so far.
-/

namespace SecurePipe

open Rust Trace

namespace Observation

/-- The connection that an observation is of. -/
def connection : Observation → Option Nat
  | .produced _ => none
  | .checked i _ _ => some i
  | .published i _ _ => some i

/-- The reading that was sent. -/
def reading : Observation → Option SensorReading
  | .produced _ => none
  | .checked _ _ _ => none
  | .published _ frame sensor => some (SecurePipe.reading frame sensor)

end Observation

/-- The last thing seen of the connection is that the check of the frame passed. -/
def Passed (i : Nat) (now : SystemTime) (frame : SecurePipeFrame) (t : List Observation) : Prop :=
  Latest (fun o => o.connection = some i) (.checked i now frame) t

theorem passed_snoc (i : Nat) (now : SystemTime) (frame : SecurePipeFrame)
    (t : List Observation) : Passed i now frame (t ++ [.checked i now frame]) :=
  ⟨t, [], rfl, rfl, nofun⟩

/-- What is seen of another connection changes nothing. -/
theorem Passed.snoc {i j : Nat} {now : SystemTime} {frame : SecurePipeFrame}
    {t : List Observation} {o : Observation} (h : Passed i now frame t)
    (ho : o.connection = some j) (hne : i ≠ j) : Passed i now frame (t ++ [o]) := by
  refine Latest.snoc h ?_
  intro hi
  exact hne (Option.some.inj (hi.symm.trans ho))

/-- What has come before an observation. A check that passes is of a higher sequence number
than those that passed before; a frame is published by the task that has checked it. -/
def Precedent (before : List Observation) : Observation → Prop
  | .produced _ => True
  | .checked _ now g => Fresh now g.timestamp ∧ ∀ j now' f, .checked j now' f ∈ before →
      f.deviceId = g.deviceId → f.sequenceNr < g.sequenceNr
  | .published i f _ => ∃ now, Passed i now f before

/-- The invariant of all runs. -/
structure Orderly (s : System) (t : List Observation) : Prop where
  readings : s.gateway.readingsTx = t.filterMap Observation.reading
  seen {i : Nat} {now : SystemTime} {frame : SecurePipeFrame} (h : .checked i now frame ∈ t) :
    s.gateway.replayGuard.Seen frame.deviceId frame.sequenceNr
  passed {i : Nat} {frame : SecurePipeFrame} {plaintext : Bytes}
    (h : (s.connections i).task = .accepted frame plaintext) : ∃ now, Passed i now frame t
  precedent : Justified Precedent t

/-- The counter of the frame is one that a sender counts up before it uses it. -/
def CounterPositive (s : System) : Action → Prop
  | .run i _ => ∀ x ∈ (s.connections i).task.held, 1 ≤ x.1.sequenceNr
  | _ => True

instance (s : System) : ∀ action, Decidable (CounterPositive s action)
  | .produce _ => .isTrue trivial
  | .deliver _ _ => .isTrue trivial
  | .hangUp _ _ => .isTrue trivial
  | .run i _ =>
      inferInstanceAs (Decidable (∀ x ∈ (s.connections i).task.held, 1 ≤ x.1.sequenceNr))

/-! ### The invariant -/

theorem orderly_start (key : SessionKey) (registry : DeviceRegistry) :
    Orderly (.start key registry) [] where
  readings := rfl
  seen h := absurd h List.not_mem_nil
  passed h := nomatch h
  precedent := justified_nil

variable {ring : Ring} {s s' : System} {t : List Observation} {action : Action}

theorem Orderly.quiet (h : Orderly s t) (hquiet : s.Quiet s') : Orderly s' t where
  readings := hquiet.readingsTx.trans h.readings
  seen {i now frame} hmem := by
    have hguard : s'.gateway.replayGuard = s.gateway.replayGuard :=
      congrArg GatewayCore.guard hquiet.core
    rw [hguard]
    exact h.seen hmem
  passed {i frame plaintext} htask := by
    rcases hquiet.task i with hsame | hnone
    · exact h.passed (hsame.symm.trans htask)
    · rw [htask] at hnone
      exact nomatch hnone
  precedent := h.precedent

theorem Orderly.produced (h : Orderly s t) (p : Production) :
    Orderly { s with produced := s.produced ++ [p] } (t ++ [.produced p]) where
  readings := by
    rw [List.filterMap_append, ← h.readings]
    exact (List.append_nil _).symm
  seen {i now frame} hmem := by
    rcases List.mem_append.mp hmem with hmem | hmem
    · exact h.seen hmem
    · exact nomatch List.mem_singleton.mp hmem
  passed {i frame plaintext} htask := by
    obtain ⟨now, hpassed⟩ := h.passed htask
    exact ⟨now, Latest.snoc hpassed nofun⟩
  precedent := h.precedent.snoc trivial

/-- Another task has come to hold a frame that it has not checked. -/
theorem Orderly.authenticated (h : Orderly s t) {i : Nat} {connection : Connection}
    (htask : ∀ frame plaintext, connection.task ≠ .accepted frame plaintext) :
    Orderly (s.setConnection i connection) t where
  readings := h.readings
  seen := h.seen
  passed {j frame plaintext} haccepted := by
    rw [System.task_setConnection] at haccepted
    by_cases hj : j = i
    · rw [if_pos hj] at haccepted
      exact absurd haccepted (htask frame plaintext)
    · rw [if_neg hj] at haccepted
      exact h.passed haccepted
  precedent := h.precedent

theorem Orderly.checked (h : Orderly s t) {i : Nat} {now : SystemTime} {stream : TcpStream}
    {frame : SecurePipeFrame} {plaintext : Bytes} (hpos : 1 ≤ frame.sequenceNr)
    (hpasses : GuardPasses now s.gateway.replayGuard frame) :
    Orderly ({ s with gateway := s.gateway.withGuard (recordFrame s.gateway.replayGuard frame) }
        |>.setConnection i ⟨stream, .accepted frame plaintext⟩)
      (t ++ [.checked i now frame]) where
  readings := by
    rw [List.filterMap_append]
    exact h.readings.trans (List.append_nil _).symm
  seen {j now' g} hmem := by
    rcases List.mem_append.mp hmem with hmem | hmem
    · exact (h.seen hmem).record hpasses.2
    · cases List.mem_singleton.mp hmem
      refine ReplayGuard.seen_record _ _ _ ?_
      intro hzero
      rw [hzero] at hpos
      exact absurd hpos (by decide)
  passed {j g plaintext'} htask := by
    rw [System.task_setConnection] at htask
    by_cases hj : j = i
    · rw [if_pos hj] at htask
      cases htask
      rw [hj]
      exact ⟨now, passed_snoc i now frame t⟩
    · rw [if_neg hj] at htask
      obtain ⟨now', hpassed⟩ := h.passed htask
      exact ⟨now', hpassed.snoc rfl hj⟩
  precedent := by
    refine h.precedent.snoc ⟨hpasses.1, ?_⟩
    intro j now' f hmem hdevice
    have hseen := h.seen hmem
    rw [hdevice] at hseen
    exact hseen.lt_of_admits hpasses.2

theorem Orderly.published (h : Orderly s t) {i : Nat} {stream : TcpStream}
    {frame : SecurePipeFrame} {plaintext : Bytes} (sensor : SensorPayload)
    (htask : (s.connections i).task = .accepted frame plaintext) :
    Orderly ({ s with gateway := s.gateway.withReading (reading frame sensor) }
        |>.setConnection i ⟨stream, .reading⟩)
      (t ++ [.published i frame sensor]) where
  readings := by
    rw [List.filterMap_append, ← h.readings]
    rfl
  seen {j now' g} hmem := by
    rcases List.mem_append.mp hmem with hmem | hmem
    · exact h.seen hmem
    · exact nomatch List.mem_singleton.mp hmem
  passed {j g plaintext'} haccepted := by
    rw [System.task_setConnection] at haccepted
    by_cases hj : j = i
    · rw [if_pos hj] at haccepted
      exact nomatch haccepted
    · rw [if_neg hj] at haccepted
      obtain ⟨now', hpassed⟩ := h.passed haccepted
      exact ⟨now', hpassed.snoc rfl hj⟩
  precedent := h.precedent.snoc (h.passed htask)

theorem Orderly.effect {o : Option Observation} (h : Orderly s t)
    (heffect : s.Effect ring action o s') (hpos : CounterPositive s action) :
    Orderly s' (t ++ o.toList) := by
  cases heffect with
  | quiet hquiet =>
      rw [Option.toList_none, List.append_nil]
      exact h.quiet hquiet
  | produced p => exact h.produced p
  | authenticated htask hauth =>
      rw [Option.toList_none, List.append_nil]
      exact h.authenticated nofun
  | @checked i now plaintext frame htask hpasses =>
      refine h.checked (hpos (frame, plaintext) ?_) hpasses
      rw [htask]
      rfl
  | published htask hparse => exact h.published _ htask

/-- Every run is orderly in which the frames that authenticate have positive counters. -/
theorem orderly_run {key : SessionKey} {registry : DeviceRegistry} {actions : List Action}
    (hpos : (systemMachine ring).Along CounterPositive (.start key registry) actions) :
    Orderly ((systemMachine ring).run (.start key registry) actions)
      (trace ring key registry actions) :=
  Machine.induct_trace _ (fun s _ action h hpos => h.effect (s.step_effect action) hpos)
    (orderly_start key registry) hpos

/-! ### The order of publication -/

/-- Of two readings of one device, the first one published has the lower sequence number,
unless the other frame had passed its check first. -/
theorem Orderly.order {a b c : List Observation} {i j : Nat} {f g : SecurePipeFrame}
    {sensor sensor' : SensorPayload} (h : Orderly s t)
    (ht : t = a ++ .published i f sensor :: (b ++ .published j g sensor' :: c))
    (hdevice : f.deviceId = g.deviceId) :
    f.sequenceNr < g.sequenceNr ∨
    (i ≠ j ∧ g.sequenceNr < f.sequenceNr ∧
      ∃ now now', List.Sublist [.checked j now g, .checked i now' f] a) := by
  have hcheck : ∀ {a b : List Observation} {k : Nat} {now : SystemTime} {g : SecurePipeFrame},
      t = a ++ .checked k now g :: b → ∀ l now' f, .checked l now' f ∈ a →
        f.deviceId = g.deviceId → f.sequenceNr < g.sequenceNr :=
    fun heq => (h.precedent _ _ _ heq).2
  obtain ⟨now', a₁, b₁, ha, -, -⟩ := h.precedent a _ _ ht
  have ht' : t = (a ++ .published i f sensor :: b) ++ .published j g sensor' :: c := by
    rw [ht, List.append_assoc, List.cons_append]
  obtain ⟨now, a₂, b₂, hab, -, hlast⟩ := h.precedent _ _ _ ht'
  have hg : t = a₂ ++ .checked j now g :: (b₂ ++ .published j g sensor' :: c) := by
    rw [ht', hab, List.append_assoc, List.cons_append]
  have hmem : .checked i now' f ∈ a := by
    rw [ha]
    exact List.mem_append_right _ List.mem_cons_self
  rcases split_order hab with ⟨-, heq, -⟩ | ⟨d, ha₂, -⟩ | ⟨d, ha₂, hb₂⟩
  · exact nomatch heq
  · -- the check of `g` comes after the publication of `f`
    refine .inl (hcheck hg i now' f ?_ hdevice)
    rw [ha₂]
    exact List.mem_append_left _ hmem
  -- it comes before: then another task made it
  have hne : i ≠ j := by
    rintro rfl
    refine hlast (.published i f sensor) ?_ rfl
    rw [hb₂]
    exact List.mem_append_right _ List.mem_cons_self
  rcases split_order (ha.symm.trans ha₂) with ⟨-, heq, -⟩ | ⟨d', ha₁, -⟩ | ⟨d', ha₁, -⟩
  · cases heq
    exact absurd rfl hne
  · refine .inl (hcheck hg i now' f ?_ hdevice)
    rw [ha₁]
    exact List.mem_append_right _ List.mem_cons_self
  · refine .inr ⟨hne, ?_, now, now', ?_⟩
    · have hf : t = a₁ ++ .checked i now' f :: (b₁ ++ .published i f sensor ::
          (b ++ .published j g sensor' :: c)) := by
        rw [ht, ha, List.append_assoc, List.cons_append]
      refine hcheck hf j now g ?_ hdevice.symm
      rw [ha₁]
      exact List.mem_append_right _ List.mem_cons_self
    · rw [ha, ha₁, List.append_assoc, List.cons_append]
      refine List.Sublist.trans ?_ (List.sublist_append_right _ _)
      refine List.Sublist.cons_cons _ (List.Sublist.trans ?_ (List.sublist_append_right _ _))
      exact List.Sublist.cons_cons _ (List.nil_sublist _)

/-! ### Two frames of one device on two connections -/

/-- The next frame of the same device: a temperature of 21.50 degrees, a second later. -/
def laterFrame : SecurePipeFrame where
  version := PROTOCOL_VERSION
  deviceId := 1
  sequenceNr := 2
  timestamp := 1700000001
  nonce := List.Vector.replicate NONCE_SIZE 0x02
  encryptedPayload := [0x90, 0x27, 0x0B, 0x86, 0x69, 0xDD, 0x6E, 0xD6]
  authTag := ⟨[0x1C, 0xF5, 0x8C, 0xAF, 0x9E, 0x54, 0x14, 0xA1,
    0x0B, 0xAD, 0xC8, 0x18, 0x73, 0xB6, 0xB3, 0xF7], rfl⟩

/-- AES-256-GCM on the two temperatures. -/
def temperaturesRing : Ring := .ofTable
  [sealedIn temperatureFrame (SensorPayload.encode ⟨SENSOR_TEMPERATURE, 2137, UNIT_CELSIUS⟩),
   sealedIn laterFrame (SensorPayload.encode ⟨SENSOR_TEMPERATURE, 2150, UNIT_CELSIUS⟩)]

/-- The device reconnects between its two frames. The old connection's task checks its
frame, and the new one's checks and publishes before the old one gets to publish. -/
def reconnect : List Action :=
  let now : SystemTime := .unix 1700000003
  [.deliver 0 temperatureFrame.wireBytes, .deliver 1 laterFrame.wireBytes,
   .run 0 now, .run 0 now, .run 1 now, .run 1 now,
   .run 0 now, .run 1 now, .run 1 now, .run 0 now]

/-- **Readings are published in the order in which their checks passed**, and that is the
order of their sequence numbers. So a reading with a lower number follows one with a higher
number only where its own check was first, on another connection. -/
theorem published_in_order_of_checks (key : SessionKey) (registry : DeviceRegistry)
    (actions : List Action)
    (hpos : (systemMachine ring).Along CounterPositive (.start key registry) actions) :
    ((systemMachine ring).run (.start key registry) actions).gateway.readingsTx =
      (trace ring key registry actions).filterMap Observation.reading ∧
    ∀ (a b c : List Observation) (i j : Nat) (f g : SecurePipeFrame)
      (sensor sensor' : SensorPayload),
      trace ring key registry actions =
        a ++ .published i f sensor :: (b ++ .published j g sensor' :: c) →
      f.deviceId = g.deviceId →
      f.sequenceNr < g.sequenceNr ∨
      (i ≠ j ∧ g.sequenceNr < f.sequenceNr ∧
        ∃ now now', List.Sublist [.checked j now g, .checked i now' f] a) := by
  have horderly := orderly_run hpos
  exact ⟨horderly.readings, fun _ _ _ _ _ _ _ _ _ ht hdevice => horderly.order ht hdevice⟩

/-- The first frame may be published after the second: its check was first. -/
theorem published_in_order_of_checks_reconnect :
    laterFrame.sequenceNr < temperatureFrame.sequenceNr ∨
    (1 ≠ 0 ∧ temperatureFrame.sequenceNr < laterFrame.sequenceNr ∧
      ∃ now now', List.Sublist
        [Observation.checked 0 now temperatureFrame, .checked 1 now' laterFrame]
        [.checked 0 (.unix 1700000003) temperatureFrame,
          .checked 1 (.unix 1700000003) laterFrame]) := by
  have hpos : (systemMachine temperaturesRing).Along CounterPositive
      (.start .devTestKey .open) reconnect := by decide +kernel
  have htrace : trace temperaturesRing .devTestKey .open reconnect =
      [.checked 0 (.unix 1700000003) temperatureFrame, .checked 1 (.unix 1700000003) laterFrame,
        .published 1 laterFrame ⟨SENSOR_TEMPERATURE, 2150, UNIT_CELSIUS⟩,
        .published 0 temperatureFrame ⟨SENSOR_TEMPERATURE, 2137, UNIT_CELSIUS⟩] := by decide +kernel
  have horder := (published_in_order_of_checks .devTestKey .open reconnect hpos).2
  exact horder [_, _] [] [] 1 0 laterFrame temperatureFrame _ _ htrace rfl

theorem temperatureFrame_authenticated :
    Authenticated temperaturesRing .devTestKey .open temperatureFrame.wireBytes temperatureFrame
      (SensorPayload.encode ⟨SENSOR_TEMPERATURE, 2137, UNIT_CELSIUS⟩) :=
  ⟨by decide +kernel, by decide +kernel, rfl⟩

theorem laterFrame_authenticated :
    Authenticated temperaturesRing .devTestKey .open laterFrame.wireBytes laterFrame
      (SensorPayload.encode ⟨SENSOR_TEMPERATURE, 2150, UNIT_CELSIUS⟩) :=
  ⟨by decide +kernel, by decide +kernel, rfl⟩

/-- On two connections, authentic frames with positive counters are published out of
order. -/
theorem reconnect_out_of_order :
    ¬ ∀ actions : List Action,
      (∀ i bytes, .deliver i bytes ∈ actions → ∃ frame plaintext,
        Authenticated temperaturesRing .devTestKey .open bytes frame plaintext ∧
        bytes = frame.wireBytes ∧ 1 ≤ frame.sequenceNr) →
      ((systemMachine temperaturesRing).run (.start .devTestKey .open)
        actions).gateway.readingsTx.Pairwise
          fun r r' => r.deviceId = r'.deviceId → r.sequenceNr < r'.sequenceNr := by
  intro h
  have hpairwise := h reconnect ?_
  swap
  · intro i bytes hmem
    simp only [reconnect, List.mem_cons, Action.deliver.injEq, reduceCtorEq, or_false,
      List.not_mem_nil] at hmem
    rcases hmem with ⟨-, rfl⟩ | ⟨-, rfl⟩
    · exact ⟨_, _, temperatureFrame_authenticated, rfl, by decide⟩
    · exact ⟨_, _, laterFrame_authenticated, rfl, by decide⟩
  revert hpairwise
  decide +kernel

end SecurePipe
