import SecurePipe.Lib.Contracts
import SecurePipe.Lib.Text
import SecurePipe.Transport.Tasks

/-!
# SecurePipe.Transport.Markup

What the gateway sends to the dashboard, whose page takes texts in as they are.

Each text is put together from pieces of the source and from numbers, as long as no error
with a text from elsewhere gets into an event. The contracts below follow the errors through
`parse` and `check`, and what is sent through `process_frame` and `handle_connection`:
**whatever the peers send, no markup reaches the page** (`no_markup_injected`).
-/

namespace SecurePipe

open Rust

/-! ### Plain text -/

/-- The characters that mean something in HTML. -/
def MARKUP : List Char := ['<', '>', '&', '"', '\'']

/-- A text without markup. -/
def PlainText (s : String) : Prop := FreeOf MARKUP s

namespace PlainText

/-- A text that is written out. -/
theorem literal {s : List Char} (h : s.all (fun c => !MARKUP.contains c) = true) :
    PlainText (String.ofList s) := freeOf_ofList h

theorem append {s t : String} (hs : PlainText s) (ht : PlainText t) : PlainText (s ++ t) :=
  freeOf_append hs ht

theorem ite {c : Prop} [Decidable c] {s t : String} (hs : PlainText s) (ht : PlainText t) :
    PlainText (if c then s else t) := iteInduction (fun _ => hs) fun _ => ht

theorem decimal (n : Nat) : PlainText n.repr := freeOf_repr (by decide) n

theorem hexadecimal (n : UInt32) : PlainText (upperHex8 n) := by
  have hdigits : ∀ d < 16, d.digitChar.toUpper ∉ MARKUP := by decide
  unfold upperHex8
  intro c hc
  rw [String.toList_ofList] at hc
  rcases List.mem_append.mp hc with hc | hc
  · rw [List.eq_of_mem_replicate hc]
    decide
  · obtain ⟨digit, hdigit, rfl⟩ := List.mem_map.mp hc
    obtain ⟨d, hd, rfl⟩ := exists_of_mem_toDigits (by decide) hdigit
    exact hdigits d hd

end PlainText

/-! ### The texts of errors -/

/-- The error carries no text that comes from elsewhere. -/
def SecurePipeError.NoFreeText : SecurePipeError → Prop
  | .handshakeFailed _ => False
  | .io (.other _) => False
  | _ => True

theorem SecurePipeError.toString_plain {e : SecurePipeError} (h : e.NoFreeText) :
    PlainText e.toString := by
  cases e with
  | invalidMagic => exact .literal rfl
  | unsupportedVersion version => exact .append (.literal rfl) (.decimal _)
  | frameTooShort expected got =>
      exact .append (.append (.append (.literal rfl) (.decimal _)) (.literal rfl)) (.decimal _)
  | payloadTooLarge max got =>
      exact .append (.append (.append (.append (.literal rfl) (.decimal _)) (.literal rfl))
        (.decimal _)) (.literal rfl)
  | deviceNotAllowed deviceId =>
      exact .append (.append (.literal rfl) (.hexadecimal _)) (.literal rfl)
  | authTagInvalid => exact .literal rfl
  | decryptionFailed => exact .literal rfl
  | keyDerivationFailed => exact .literal rfl
  | replaySequence sequenceNr =>
      exact .append (.append (.literal rfl) (.decimal _)) (.literal rfl)
  | replayNonce => exact .literal rfl
  | frameStale seconds => exact .append (.append (.literal rfl) (.decimal _)) (.literal rfl)
  | frameFuture seconds => exact .append (.append (.literal rfl) (.decimal _)) (.literal rfl)
  | handshakeFailed reason => exact h.elim
  | unknownDevice deviceId => exact .append (.literal rfl) (.decimal _)
  | connectionClosed => exact .literal rfl
  | io kind =>
      cases kind with
      | unexpectedEof => exact .literal rfl
      | other message => exact h.elim

-- An error with a free text, which no code makes so far, would take markup along.
example : ¬ PlainText (SecurePipeError.handshakeFailed "<b>").toString := by
  intro h
  exact h '<' (by decide +kernel) (by decide)

/-! ### Where errors come from -/

open SecurePipeError (NoFreeText)

theorem SecurePipeFrame.parse_ensures (raw : Bytes) :
    (SecurePipeFrame.parse raw).Ensures (fun _ => True) NoFreeText := by
  unfold SecurePipeFrame.parse
  refine .ite (fun _ => trivial) fun _ => ?_
  refine .bind (.slice raw 0 2) fun magic _ => ?_
  refine .ite (fun _ => trivial) fun _ => ?_
  refine .bind (.index raw 2) fun version _ => ?_
  refine .ite (fun _ => trivial) fun _ => ?_
  refine .bind (.readBe 4 _ raw 3 7) fun deviceId _ => ?_
  refine .bind (.readBe 4 _ raw 7 11) fun sequenceNr _ => ?_
  refine .bind (.readBe 8 _ raw 11 19) fun timestamp _ => ?_
  refine .bind (.readBe 4 _ raw 19 23) fun payloadLen _ => ?_
  refine .ite (fun _ => trivial) fun _ => ?_
  refine .bind (.usizeAdd _ _) fun headerAndPayload _ => ?_
  refine .bind (.usizeAdd _ _) fun expectedTotal _ => ?_
  refine .ite (fun _ => trivial) fun _ => ?_
  refine .bind (.slice raw 23 35) fun nonceBytes _ => ?_
  refine .bind (.copyFromSlice _ nonceBytes) fun nonce _ => ?_
  refine .bind (.slice raw 35 _) fun encryptedPayload _ => ?_
  refine .bind (.slice raw _ _) fun tagBytes _ => ?_
  exact .bind (.copyFromSlice _ tagBytes) fun authTag _ => trivial

namespace ReplayGuard

theorem outsideWindow_ensures (later earlier : UInt64) :
    (outsideWindow later earlier).Ensures (fun _ => True) NoFreeText :=
  .ite (fun _ => .bind (.u64Sub later earlier) fun _ _ => trivial) fun _ => trivial

theorem checkTimestamp_ensures (now : SystemTime) (timestamp : UInt64) :
    (checkTimestamp now timestamp).Ensures (fun _ => True) NoFreeText := by
  have hclock : now.asSecs.Ensures (fun _ => True) NoFreeText := by
    cases now with
    | beforeEpoch => trivial
    | unix secs => trivial
  unfold checkTimestamp
  refine .bind hclock fun now _ => ?_
  refine .bind (outsideWindow_ensures now timestamp) fun stale _ => ?_
  refine .ite (fun _ => .bind (.u64Sub now timestamp) fun _ _ => trivial) fun _ => ?_
  refine .bind (outsideWindow_ensures timestamp now) fun future _ => ?_
  exact .ite (fun _ => .bind (.u64Sub timestamp now) fun _ _ => trivial) fun _ => trivial

instance : Std.Refl fun _ _ : ReplayGuard => True where
  refl _ := trivial

instance : IsTrans ReplayGuard fun _ _ => True where
  trans _ _ _ _ _ := trivial

/-- Whatever the guard does to itself, it refuses with a number at most. -/
theorem check_ensures (now : SystemTime) (deviceId sequenceNr : UInt32) (timestamp : UInt64)
    (nonce : Nonce) :
    (check now deviceId sequenceNr timestamp nonce).Ensures (fun _ _ => True) (fun _ => True)
      NoFreeText := by
  have hentry : (entry deviceId).Ensures (fun _ _ => True) (fun _ => True) NoFreeText :=
    fun _ => ⟨trivial, trivial⟩
  unfold check
  refine .bind (.lift (checkTimestamp_ensures now timestamp)) fun _ _ => ?_
  refine .bind hentry fun state _ => ?_
  refine .bind (.lift (Q := fun _ => True) ?_) fun _ _ => ?_
  · exact .ite (fun _ => trivial) fun _ => .ite (fun _ => trivial) fun _ => trivial
  refine .bind (.lift (Q := fun _ => True) ?_) fun _ _ => ?_
  · exact .ite (fun _ => trivial) fun _ => trivial
  refine .bind (.modify fun _ => trivial) fun _ _ => ?_
  refine .bind (.modify fun _ => trivial) fun _ _ => ?_
  exact .modify fun _ => trivial

end ReplayGuard

/-! ### What is sent -/

structure SensorReading.Plain (reading : SensorReading) : Prop where
  sensorType : PlainText reading.sensorType
  unit : PlainText reading.unit

structure SecurityEvent.Plain (event : SecurityEvent) : Prop where
  eventType : PlainText event.eventType
  detail : PlainText event.detail

/-- Readings and events have been sent, and all of them are plain. -/
def SentPlain (state state' : GatewayState) : Prop :=
  ∃ readings events, state'.readingsTx = state.readingsTx ++ readings ∧
    state'.eventsTx = state.eventsTx ++ events ∧
    (∀ reading ∈ readings, reading.Plain) ∧ ∀ event ∈ events, event.Plain

instance : Std.Refl SentPlain where
  refl _ := ⟨[], [], (List.append_nil _).symm, (List.append_nil _).symm, nofun, nofun⟩

instance : IsTrans GatewayState SentPlain where
  trans := by
    intro _ _ _ ⟨readings, events, hreadings, hevents, hplain, hplain'⟩
      ⟨readings', events', hreadings', hevents', hnew, hnew'⟩
    refine ⟨readings ++ readings', events ++ events', ?_, ?_, ?_, ?_⟩
    · rw [hreadings', hreadings, List.append_assoc]
    · rw [hevents', hevents, List.append_assoc]
    · exact List.forall_mem_append.mpr ⟨hplain, hnew⟩
    · exact List.forall_mem_append.mpr ⟨hplain', hnew'⟩

variable {E : SecurePipeError → Prop}

theorem emitSecurityEvent_ensures (deviceId : Option UInt32) {eventType detail : String}
    (htype : PlainText eventType) (hdetail : PlainText detail) :
    (emitSecurityEvent deviceId eventType detail).Ensures SentPlain (fun _ => True) E :=
  .modify fun _ => ⟨[], [_], (List.append_nil _).symm, rfl, nofun,
    List.forall_mem_singleton.mpr ⟨htype, hdetail⟩⟩

/-- The event of a declared length above the bound. -/
theorem tooLarge_plain (payloadLen : Nat) :
    PlainText ("declared payload length " ++ payloadLen.repr ++ " exceeds max " ++
      MAX_PAYLOAD_SIZE.repr) :=
  .append (.append (.append (.literal rfl) (.decimal _)) (.literal rfl)) (.decimal _)

/-- Sensor types and units have fixed names. -/
theorem reading_plain (frame : SecurePipeFrame) (sensor : SensorPayload) :
    (reading frame sensor).Plain where
  sensorType := .ite (.literal rfl) <| .ite (.literal rfl) <| .ite (.literal rfl) <|
    .ite (.literal rfl) <| .ite (.literal rfl) (.literal rfl)
  unit := .ite (.literal rfl) <| .ite (.literal rfl) <| .ite (.literal rfl) <|
    .ite (.literal rfl) (.literal rfl)

variable (ring : Ring)

theorem authenticate_ensures (raw : Bytes) :
    (authenticate ring raw).Ensures SentPlain (fun _ => True) E := by
  unfold authenticate
  refine .bind (.matchResult (.lift (SecurePipeFrame.parse_ensures raw))) fun parsed hparsed => ?_
  cases parsed with
  | error e =>
      exact .bind (emitSecurityEvent_ensures none (.literal rfl)
        (SecurePipeError.toString_plain hparsed)) fun _ _ => .pure trivial
  | ok frame =>
      refine .bind .get fun state _ => ?_
      refine .bind (.matchResult (.lift (.any _))) fun decrypted _ => ?_
      cases decrypted with
      | error e =>
          exact .bind (emitSecurityEvent_ensures _ (.literal rfl) (.literal rfl)) fun _ _ =>
            .pure trivial
      | ok plaintext =>
          refine .ite (fun _ => ?_) fun _ => .pure trivial
          exact .bind (emitSecurityEvent_ensures _ (.literal rfl) (.literal rfl)) fun _ _ =>
            .pure trivial

theorem replayCheck_ensures (now : SystemTime) (frame : SecurePipeFrame) :
    (replayCheck now frame).Ensures SentPlain (fun _ => True) E := by
  unfold replayCheck
  refine .bind (.matchResult (.zoom (ReplayGuard.check_ensures now _ _ _ _) ?_))
    fun checked hchecked => ?_
  · exact fun state _ _ => refl_of SentPlain state
  cases checked with
  | error e =>
      exact .bind (emitSecurityEvent_ensures _ (.literal rfl)
        (SecurePipeError.toString_plain hchecked)) fun _ _ => .pure trivial
  | ok checked => exact .pure trivial

theorem publish_ensures (frame : SecurePipeFrame) (plaintext : Bytes) :
    (publish frame plaintext).Ensures SentPlain (fun _ => True) E := by
  unfold publish
  refine .bind (.matchResult (.lift (.any _))) fun parsed _ => ?_
  cases parsed with
  | error e => exact .pure trivial
  | ok sensor =>
      exact .modify fun _ => ⟨[_], [], rfl, (List.append_nil _).symm,
        List.forall_mem_singleton.mpr (reading_plain frame sensor), nofun⟩

theorem processFrame_ensures (now : SystemTime) (raw : Bytes) :
    (processFrame ring now raw).Ensures SentPlain (fun _ => True) E := by
  unfold processFrame
  refine .bind (authenticate_ensures ring raw) fun authenticated _ => ?_
  cases authenticated with
  | none => exact .pure trivial
  | some authenticated =>
      refine .bind (replayCheck_ensures now authenticated.1) fun checked _ => ?_
      exact .ite (fun _ => .pure trivial) fun _ => publish_ensures _ _

/-! ### One connection -/

/-- The gateway, and how often its clock has been read. -/
abbrev ClockedGateway := GatewayState × Nat

def onGateway (m : Gateway Unit) : Stateful ClockedGateway SecurePipeError Unit :=
  .zoom Prod.fst (fun s state => (state, s.2)) m

/-- `process_frame`, where the clock reads `clock n` in the call with the number `n`. -/
def processFrameAt (clock : Nat → SystemTime) (raw : Bytes) :
    Stateful ClockedGateway SecurePipeError Unit := do
  let (_, calls) ← .get
  .modify fun (state, calls) => (state, calls + 1)
  onGateway (processFrame ring (clock calls) raw)

/-- `handle_connection`, for at most so many turns. -/
def serveConnection (clock : Nat → SystemTime) :
    Nat → TcpStream → Stateful ClockedGateway SecurePipeError TcpStream :=
  handleConnection (fun deviceId eventType detail =>
    onGateway (emitSecurityEvent deviceId eventType detail)) (processFrameAt ring clock)

section Loop

variable {σ : Type} {emitSecurityEvent : Option UInt32 → String → String →
  Stateful σ SecurePipeError Unit} {processFrame : Bytes → Stateful σ SecurePipeError Unit}
  {R : σ → σ → Prop}

theorem handleConnection_ensures [Std.Refl R] [IsTrans σ R]
    (hemit : ∀ deviceId eventType detail, PlainText eventType → PlainText detail →
      (emitSecurityEvent deviceId eventType detail).Ensures R (fun _ => True) fun _ => True)
    (hprocess : ∀ raw, (processFrame raw).Ensures R (fun _ => True) fun _ => True) (turns : Nat)
    (stream : TcpStream) :
    (handleConnection emitSecurityEvent processFrame turns stream).Ensures R (fun _ => True)
      fun _ => True := by
  induction turns generalizing stream with
  | zero => exact .pure trivial
  | succ turns ih =>
      refine .bind (P := fun _ => True) ?_ fun stream _ => ih stream
      unfold turn
      refine .bind (.lift (.any _)) fun read _ => ?_
      cases read with
      | badMagic stream =>
          exact .bind (hemit _ _ _ (.literal rfl) (.literal rfl)) fun _ _ => .pure trivial
      | payloadTooLarge payloadLen =>
          exact .bind (hemit _ _ _ (.literal rfl) (tooLarge_plain payloadLen)) fun _ _ =>
            .throw trivial
      | frame fullFrame stream => exact .bind (hprocess fullFrame) fun _ _ => .pure trivial
      | waiting => exact .pure trivial

end Loop

theorem onGateway_ensures {m : Gateway Unit}
    (hm : m.Ensures SentPlain (fun _ => True) fun _ => True) :
    (onGateway m).Ensures (Order.Preimage Prod.fst SentPlain) (fun _ => True) fun _ => True :=
  .zoom hm fun _ _ h => h

theorem serveConnection_ensures (clock : Nat → SystemTime) (turns : Nat) (stream : TcpStream) :
    (serveConnection ring clock turns stream).Ensures (Order.Preimage Prod.fst SentPlain)
      (fun _ => True) fun _ => True := by
  refine handleConnection_ensures ?_ ?_ turns stream
  · exact fun deviceId _ _ htype hdetail =>
      onGateway_ensures (emitSecurityEvent_ensures deviceId htype hdetail)
  · intro raw
    refine .bind .get fun (_, calls) _ => ?_
    refine .bind (.modify fun (state, _) => refl_of SentPlain state) fun _ _ => ?_
    exact onGateway_ensures (processFrame_ensures ring (clock calls) raw)

/-! ### All connections -/

theorem stepTask_plain (i : Nat) (now : SystemTime) (gateway : GatewayState)
    (connection : Connection) : SentPlain gateway (stepTask ring i now gateway connection).1 := by
  obtain ⟨stream, task⟩ := connection
  cases task with
  | finished => exact refl_of SentPlain gateway
  | reading =>
      unfold stepTask
      dsimp only
      cases readTurn stream with
      | err e => exact refl_of SentPlain gateway
      | panic p => exact refl_of SentPlain gateway
      | ok read =>
          cases read with
          | frame raw stream => exact refl_of SentPlain gateway
          | waiting => exact refl_of SentPlain gateway
          | badMagic stream =>
              exact (emitSecurityEvent_ensures (E := fun _ => True) none (.literal rfl)
                (.literal rfl) gateway).1
          | payloadTooLarge payloadLen =>
              exact (emitSecurityEvent_ensures (E := fun _ => True) none (.literal rfl)
                (tooLarge_plain payloadLen) gateway).1
  | received raw =>
      have hsent := (authenticate_ensures (E := fun _ => True) ring raw gateway).1
      unfold stepTask
      dsimp only
      rcases hcall : authenticate ring raw gateway with ⟨(_ | ⟨frame, plaintext⟩) | e | p, gateway'⟩
      all_goals
        rw [hcall] at hsent
        exact hsent
  | authenticated frame plaintext =>
      have hsent := (replayCheck_ensures (E := fun _ => True) now frame gateway).1
      unfold stepTask
      dsimp only
      rcases hcall : replayCheck now frame gateway with ⟨(_ | _) | e | p, gateway'⟩
      all_goals
        rw [hcall] at hsent
        exact hsent
  | accepted frame plaintext =>
      have hsent := (publish_ensures (E := fun _ => True) frame plaintext gateway).1
      unfold stepTask
      dsimp only
      rcases hcall : publish frame plaintext gateway with ⟨_ | e | p, gateway'⟩
      all_goals
        rw [hcall] at hsent
        exact hsent

/-- **One step sends plain text only**, whoever takes it. -/
theorem step_plain (s : System) (action : Action) :
    SentPlain s.gateway (s.step ring action).1.gateway := by
  cases action with
  | produce p => exact refl_of SentPlain s.gateway
  | deliver i bytes =>
      obtain ⟨connection, hstep, -⟩ := s.step_deliver ring i bytes
      rw [hstep]
      exact refl_of SentPlain s.gateway
  | hangUp i ending =>
      obtain ⟨connection, hstep, -⟩ := s.step_hangUp ring i ending
      rw [hstep]
      exact refl_of SentPlain s.gateway
  | run i now => exact stepTask_plain ring i now s.gateway (s.connections i)

/-- **No peer can put markup on the dashboard.** From every state of the gateway, whatever
arrives on a connection and whatever the clock reads, all texts in the readings and events that
`handle_connection` has sent are plain, after any number of turns. The same holds of all
connections together, however the network and the tasks take turns. -/
theorem no_markup_injected :
    (∀ (clock : Nat → SystemTime) (turns : Nat) (stream : TcpStream) (state : GatewayState),
      SentPlain state (serveConnection ring clock turns stream (state, 0)).2.1) ∧
    ∀ (s : System) (actions : List Action),
      SentPlain s.gateway ((systemMachine ring).run s actions).gateway := by
  refine ⟨fun clock turns stream state =>
    (serveConnection_ensures ring clock turns stream (state, 0)).1, ?_⟩
  intro s actions
  refine (systemMachine ring).induct_history
    (I := fun s' _ => SentPlain s.gateway s'.gateway) (C := fun _ _ => True) ?_
    (refl_of SentPlain s.gateway) ((systemMachine ring).along_true s actions)
  intro s' _ action hsent _
  exact trans_of SentPlain hsent (step_plain ring s' action)

end SecurePipe
