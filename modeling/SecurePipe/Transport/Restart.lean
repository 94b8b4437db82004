import SecurePipe.Transport.Agreement

/-!
# SecurePipe.Transport.Restart

The gateway over several lives. The replay guard lives as long as the process
(`main` in `src/main.rs`), so a gateway that is started again has forgotten which frames it has
seen, while the network still has them, and the tasks of old connections are gone.

Each life is a run from the start, but for what honest senders have produced in the lives
before it. What protects a restarted gateway is the timestamp alone: **a frame can be published
again only in another life, and within a minute of its first check** (`replays_across_lives`).
-/

namespace SecurePipe

open Rust Trace

/-! ### Lives -/

/-- The process is started again, with the key and the whitelist it had. -/
def System.restarted (s : System) : System :=
  { System.start s.gateway.key s.gateway.deviceRegistry with produced := s.produced }

variable (ring : Ring)

/-- What is seen in each life of the gateway. -/
def traces (s : System) : List (List Action) → List (List Observation)
  | [] => []
  | actions :: lives =>
      (systemMachine ring).trace s actions ::
        traces ((systemMachine ring).run s actions).restarted lives

/-- Every step of every life meets the condition. -/
def AlongLives (C : System → Action → Prop) (s : System) : List (List Action) → Prop
  | [] => True
  | actions :: lives =>
      (systemMachine ring).Along C s actions ∧
        AlongLives C ((systemMachine ring).run s actions).restarted lives

instance decidableAlongLives (C : System → Action → Prop) [∀ s a, Decidable (C s a)] :
    ∀ s lives, Decidable (AlongLives ring C s lives)
  | _, [] => .isTrue trivial
  | s, actions :: lives =>
      have := decidableAlongLives C ((systemMachine ring).run s actions).restarted lives
      inferInstanceAs (Decidable ((systemMachine ring).Along C s actions ∧ _))

/-! ### One life -/

variable {ring : Ring} {s : System} {past t : List Observation} {actions : List Action}

theorem Sourced.restarted (h : Sourced s past) : Sourced s.restarted past where
  produced := h.produced
  held _ _ hx := nomatch hx
  agreed := h.agreed

theorem orderly_restarted (s : System) : Orderly s.restarted [] where
  readings := rfl
  seen h := absurd h List.not_mem_nil
  passed h := nomatch h
  precedent := justified_nil

/-- One life, after what has been seen in the lives before. -/
theorem life (hordered : Orderly s []) (hsourced : Sourced s past)
    (hideal : (systemMachine ring).Along (Ideal ring) s actions)
    (hcounts : (systemMachine ring).Along CountsFromOne s actions) :
    Orderly ((systemMachine ring).run s actions) ((systemMachine ring).trace s actions) ∧
      Sourced ((systemMachine ring).run s actions)
        (past ++ (systemMachine ring).trace s actions) := by
  refine Machine.induct_trace _ (C := fun s action => Ideal ring s action ∧ CountsFromOne s action)
    (I := fun s t => Orderly s t ∧ Sourced s (past ++ t)) ?_ ⟨hordered, ?_⟩
    (Machine.along_and _ hideal hcounts)
  · rintro s t action ⟨hordered, hsourced⟩ ⟨hideal, hcounts⟩
    refine ⟨hordered.effect (s.step_effect action) (hsourced.counterPositive action), ?_⟩
    rw [← List.append_assoc]
    exact hsourced.effect (s.step_effect action) hideal hcounts
  · rw [List.append_nil]
    exact hsourced

/-- No life publishes a frame twice. -/
theorem Orderly.once (h : Orderly s t) (p : Production) : (t.filter p.Yields).length ≤ 1 := by
  refine filter_length_le_one fun a x b y c ht hx hy => ?_
  obtain ⟨i, f, sensor, rfl, hf⟩ := Production.Yields.published (of_decide_eq_true hx)
  obtain ⟨j, g, sensor', rfl, hg⟩ := Production.Yields.published (of_decide_eq_true hy)
  have hsame : f.sequenceNr = g.sequenceNr := hf.2.trans hg.2.symm
  have hne : f.sequenceNr < g.sequenceNr ∨ g.sequenceNr < f.sequenceNr :=
    (h.order ht (hf.1.trans hg.1.symm)).imp_right fun hlater => hlater.2.1
  rw [hsame] at hne
  exact hne.elim (UInt32.lt_irrefl _) (UInt32.lt_irrefl _)

/-- The frame of a production is published in a life whose clock read `now` at its check. -/
def PublishedAt (p : Production) (now : SystemTime) (t : List Observation) : Prop :=
  ∃ a b i frame sensor, t = a ++ .published i frame sensor :: b ∧
    p.Yields (.published i frame sensor) ∧ .checked i now frame ∈ a

/-- The check is within the time window. -/
theorem Orderly.fresh (h : Orderly s t) {p : Production} {now : SystemTime}
    (hp : PublishedAt p now t) : Fresh now p.timestamp := by
  obtain ⟨a, b, i, frame, sensor, rfl, hyields, hmem⟩ := hp
  obtain ⟨c, d, rfl⟩ := List.append_of_mem hmem
  rw [← hyields.2.2.2.1]
  refine (h.precedent c (.checked i now frame) (d ++ .published i frame sensor :: b) ?_).1
  rw [List.append_assoc, List.cons_append]

/-! ### All lives -/

/-- Each life is orderly, and published in it is what was produced in it or before. -/
theorem lives_agreed {lives : List (List Action)} (hordered : Orderly s [])
    (hsourced : Sourced s past) (hideal : AlongLives ring (Ideal ring) s lives)
    (hcounts : AlongLives ring CountsFromOne s lives) {before after : List (List Observation)}
    (ht : traces ring s lives = before ++ t :: after) :
    (∃ s', Orderly s' t) ∧ Justified Agreed (past ++ (before.flatten ++ t)) := by
  induction lives generalizing s past before with
  | nil => exact absurd ht.symm (List.append_ne_nil_of_right_ne_nil _ (List.cons_ne_nil _ _))
  | cons actions lives ih =>
      obtain ⟨hideal, hideals⟩ := hideal
      obtain ⟨hcounts, hcountss⟩ := hcounts
      obtain ⟨hordered', hsourced'⟩ := life hordered hsourced hideal hcounts
      cases before with
      | nil =>
          obtain ⟨rfl, -⟩ := List.cons.inj ht
          exact ⟨⟨_, hordered'⟩, hsourced'.agreed⟩
      | cons first before =>
          obtain ⟨rfl, hrest⟩ := List.cons.inj ht
          obtain ⟨horderly, hagreed⟩ := ih (orderly_restarted _) hsourced'.restarted hideals
            hcountss hrest
          refine ⟨horderly, ?_⟩
          rwa [List.flatten_cons, List.append_assoc, ← List.append_assoc past]

/-- Two clock readings that are both within the window of one timestamp. -/
theorem fresh_apart {secs secs' timestamp : UInt64} (h : Fresh (.unix secs) timestamp)
    (h' : Fresh (.unix secs') timestamp) :
    secs'.toNat ≤ secs.toNat + 2 * MAX_FRAME_AGE_SECS.toNat := by
  obtain ⟨-, hle⟩ := h
  obtain ⟨hle', -⟩ := h'
  omega

/-- **A restart gives replays a minute, and no more.** Over any number of lives of the gateway, each
reading that is published is one that an honest sender produced before, in this life or an
earlier one. A frame is published at most once in each life; and where it is published in two of
them, the clock readings of the two checks are at most sixty seconds apart. -/
theorem replays_across_lives (key : SessionKey) (registry : DeviceRegistry)
    (lives : List (List Action))
    (hideal : AlongLives ring (Ideal ring) (.start key registry) lives)
    (hcounts : AlongLives ring CountsFromOne (.start key registry) lives) :
    (∀ before t after, traces ring (.start key registry) lives = before ++ t :: after →
      (∀ a b i frame sensor, t = a ++ .published i frame sensor :: b →
        ∃ p, .produced p ∈ before.flatten ++ a ∧ p.Yields (.published i frame sensor)) ∧
      ∀ p : Production, (t.filter p.Yields).length ≤ 1) ∧
    ∀ p secs secs', ∀ t ∈ traces ring (.start key registry) lives,
      ∀ t' ∈ traces ring (.start key registry) lives,
        PublishedAt p (.unix secs) t → PublishedAt p (.unix secs') t' →
          secs'.toNat ≤ secs.toNat + 60 := by
  have hlife : ∀ before t after, traces ring (.start key registry) lives = before ++ t :: after →
      (∃ s', Orderly s' t) ∧ Justified Agreed ([] ++ (before.flatten ++ t)) := by
    intro before t after ht
    exact lives_agreed (orderly_start key registry) (sourced_start key registry) hideal hcounts ht
  refine ⟨fun before t after ht => ?_, fun p secs secs' t ht t' ht' hp hp' => ?_⟩
  · obtain ⟨⟨s, hordered⟩, hagreed⟩ := hlife before t after ht
    refine ⟨fun a b i frame sensor hpublished => ?_, hordered.once⟩
    refine hagreed (before.flatten ++ a) (.published i frame sensor) b ?_
    rw [hpublished, List.nil_append, List.append_assoc]
  · obtain ⟨before, after, ht⟩ := List.append_of_mem ht
    obtain ⟨before', after', ht'⟩ := List.append_of_mem ht'
    obtain ⟨⟨s, hordered⟩, -⟩ := hlife before t after ht
    obtain ⟨⟨s', hordered'⟩, -⟩ := hlife before' t' after' ht'
    exact fresh_apart (hordered.fresh hp) (hordered'.fresh hp')

/-- The temperature is published, the gateway is started again, and what was recorded is replayed
fifty-five seconds after the first check. -/
def recordAndRestart : List (List Action) :=
  [[.produce temperatureProduction, .deliver 0 temperatureProduction.bytes,
    .run 0 (.unix 1699999973), .run 0 (.unix 1699999973), .run 0 (.unix 1699999973),
    .run 0 (.unix 1699999973)],
   [.deliver 3 temperatureProduction.bytes, .run 3 (.unix 1700000028), .run 3 (.unix 1700000028),
    .run 3 (.unix 1700000028), .run 3 (.unix 1700000028)]]

/-- What is seen of the temperature in a life that publishes it. -/
def replayedAt (i : Nat) (now : SystemTime) : List Observation :=
  [.checked i now temperatureFrame,
    .published i temperatureFrame ⟨SENSOR_TEMPERATURE, 2137, UNIT_CELSIUS⟩]

/-- It is published in both lives, and the two clock readings are close. -/
theorem replays_across_lives_twice :
    PublishedAt temperatureProduction (.unix 1699999973)
        (.produced temperatureProduction :: replayedAt 0 (.unix 1699999973)) ∧
      PublishedAt temperatureProduction (.unix 1700000028) (replayedAt 3 (.unix 1700000028)) ∧
      (1700000028 : UInt64).toNat ≤ (1699999973 : UInt64).toNat + 60 := by
  have htraces : traces twoFrameRing (.start .devTestKey .open) recordAndRestart =
      [.produced temperatureProduction :: replayedAt 0 (.unix 1699999973),
        replayedAt 3 (.unix 1700000028)] := by decide +kernel
  have hyields (i : Nat) : temperatureProduction.Yields
      (.published i temperatureFrame ⟨SENSOR_TEMPERATURE, 2137, UNIT_CELSIUS⟩) :=
    ⟨by decide +kernel, rfl, rfl, rfl, rfl⟩
  have hfirst : PublishedAt temperatureProduction (.unix 1699999973)
      (.produced temperatureProduction :: replayedAt 0 (.unix 1699999973)) :=
    ⟨[_, _], [], 0, _, _, rfl, hyields 0, List.mem_cons_of_mem _ List.mem_cons_self⟩
  have hsecond : PublishedAt temperatureProduction (.unix 1700000028)
      (replayedAt 3 (.unix 1700000028)) :=
    ⟨[_], [], 3, _, _, rfl, hyields 3, List.mem_cons_self⟩
  refine ⟨hfirst, hsecond, ?_⟩
  refine (replays_across_lives .devTestKey .open recordAndRestart
    (by decide +kernel : AlongLives twoFrameRing (Ideal twoFrameRing) _ _)
    (by decide +kernel)).2 temperatureProduction _ _ _ ?_ _ ?_ hfirst hsecond
  · rw [htraces]
    exact List.mem_cons_self
  · rw [htraces]
    exact List.mem_cons_of_mem _ List.mem_cons_self

end SecurePipe
