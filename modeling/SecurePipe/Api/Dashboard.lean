import SecurePipe.Api.Routes
import SecurePipe.Transport.Markup
import SecurePipe.Transport.Order

/-!
# SecurePipe.Api.Dashboard

What the dashboard shows, over all runs of the gateway with any number of browsers that come
and go, each as slow as it likes.

A page shows readings that were published, newest first and each as often as it was published
(`dashboard_sound`). Slow browsers miss messages, but the channels hold more than the page
shows: **a browser that has caught up shows exactly the latest readings and events** since it
connected, however far it had fallen behind (`dashboard_shows_latest`).
-/

namespace SecurePipe

open Broadcast

/-! ### One list -/

namespace Feed

variable {α : Type} {max : Nat} {feed : Feed α}

/-- The list has its placeholder only, or messages only, and no more than it may have. -/
structure WellFormed (max : Nat) (feed : Feed α) : Prop where
  children : (feed.first = true ∧ feed.children = [none]) ∨
    (feed.first = false ∧ feed.children = feed.shown.map some)
  length_le : feed.shown.length ≤ max

theorem wellFormed_initial (max : Nat) : (initial : Feed α).WellFormed max where
  children := .inl ⟨rfl, rfl⟩
  length_le := Nat.zero_le max

theorem filterMap_id_map_some (xs : List α) : (xs.map some).filterMap id = xs := by
  rw [List.filterMap_map]
  exact List.filterMap_some

/-- A message goes on top, and the list is cut at the bottom. -/
theorem WellFormed.children_prepend (h : feed.WellFormed max) (hmax : 0 < max) (x : α) :
    (feed.prepend max x).children = ((x :: feed.shown).take max).map some := by
  have hall : some x :: (if feed.first then [] else feed.children) =
      (x :: feed.shown).map some := by
    rcases h.children with ⟨hfirst, hchildren⟩ | ⟨hfirst, hchildren⟩
    · rw [if_pos hfirst, shown, hchildren]
      rfl
    · rw [if_neg (by rw [hfirst]; exact Bool.false_ne_true), hchildren, List.map_cons,
        ← hchildren]
  have hlen : (x :: feed.shown).length ≤ max + 1 := Nat.succ_le_succ h.length_le
  simp only [prepend, hall, List.length_map]
  by_cases hfull : (x :: feed.shown).length > max
  · rw [if_pos hfull, List.dropLast_eq_take, List.length_map, ← List.map_take]
    congr 2
    omega
  · rw [if_neg hfull, List.take_of_length_le (not_lt.mp hfull)]

theorem WellFormed.shown_prepend (h : feed.WellFormed max) (hmax : 0 < max) (x : α) :
    (feed.prepend max x).shown = (x :: feed.shown).take max := by
  rw [shown, h.children_prepend hmax, filterMap_id_map_some]

theorem WellFormed.prepend (h : feed.WellFormed max) (hmax : 0 < max) (x : α) :
    (feed.prepend max x).WellFormed max where
  children := .inr ⟨rfl, by rw [h.children_prepend hmax, h.shown_prepend hmax]⟩
  length_le := by
    rw [h.shown_prepend hmax]
    exact List.length_take_le _ _

end Feed

/-! ### One list and its channel -/

section Channel

variable {τ : Type} {c : Channels τ} {max start : Nat} {shown₀ : List τ} {s : c.Sender}
  {receiver : Option c.Receiver} {r r' : c.Receiver} {inFlight : List τ} {feed : Feed τ}
  {received : Received τ}

/-- What is on the page, and what is on the way to it, was sent, and in this order. -/
structure Displays (c : Channels τ) (max : Nat) (s : c.Sender) (receiver : Option c.Receiver)
    (inFlight : List τ) (feed : Feed τ) : Prop where
  wellFormed : feed.WellFormed max
  sublist : (feed.shown.reverse ++ inFlight).Sublist (c.sent s)
  heard {r : c.Receiver} (h : receiver = some r) : Heard c s r (feed.shown.reverse ++ inFlight)

namespace Displays

theorem initial (c : Channels τ) (max : Nat) (s : c.Sender) :
    Displays c max s none [] Feed.initial where
  wellFormed := Feed.wellFormed_initial max
  sublist := List.nil_sublist _
  heard h := nomatch h

theorem sendAll (hc : c.Lawful) (h : Displays c max s receiver inFlight feed) (xs : List τ) :
    Displays c max (c.sendAll s xs) receiver inFlight feed where
  wellFormed := h.wellFormed
  sublist := by
    rw [hc.sent_sendAll]
    exact h.sublist.trans (List.sublist_append_left _ _)
  heard hr := (h.heard hr).sendAll hc xs

/-- The connection is lost, and with it what was on the way. -/
theorem interrupt (h : Displays c max s receiver inFlight feed) :
    Displays c max s none [] feed where
  wellFormed := h.wellFormed
  sublist := by
    rw [List.append_nil]
    exact (List.sublist_append_left _ _).trans h.sublist
  heard hr := nomatch hr

theorem connect (hc : c.Lawful) (h : Displays c max s receiver inFlight feed) :
    Displays c max s (some (c.subscribe s)) [] feed where
  wellFormed := h.wellFormed
  sublist := h.interrupt.sublist
  heard hr := by
    cases hr
    exact .subscribe hc h.interrupt.sublist

theorem poll (hc : c.Lawful) (h : Displays c max s (some r) inFlight feed)
    (hrecv : c.recv s r = some (received, r')) :
    Displays c max s (some r') (inFlight ++ received.toList) feed := by
  have hheard := (h.heard rfl).recv hc hrecv
  rw [List.append_assoc] at hheard
  refine ⟨h.wellFormed, hheard.sublist_sent, ?_⟩
  rintro _ ⟨⟩
  exact hheard

theorem read (hmax : 0 < max) {x : τ} (h : Displays c max s receiver (x :: inFlight) feed) :
    Displays c max s receiver inFlight (feed.prepend max x) := by
  have hsub : ((feed.prepend max x).shown.reverse ++ inFlight).Sublist
      (feed.shown.reverse ++ x :: inFlight) := by
    have heq : feed.shown.reverse ++ x :: inFlight = (x :: feed.shown).reverse ++ inFlight := by
      rw [List.reverse_cons, List.append_assoc, List.singleton_append]
    rw [h.wellFormed.shown_prepend hmax, heq]
    exact (List.take_sublist _ _).reverse.append (List.Sublist.refl _)
  exact ⟨h.wellFormed.prepend hmax x, hsub.trans h.sublist, fun hr => (h.heard hr).of_sublist hsub⟩

end Displays

/-- The browser connected when `start` values had been sent and the page showed `shown₀`. Since
then the page has shown what the receiver got, but for what is still on the way. -/
structure Tracks (c : Channels τ) (max start : Nat) (shown₀ : List τ) (s : c.Sender)
    (r : c.Receiver) (inFlight : List τ) (feed : Feed τ) : Prop where
  wellFormed : feed.WellFormed max
  follows : ∃ handled, Follows c start s r (handled ++ inFlight) ∧
    feed.shown = (handled.reverse ++ shown₀).take max

namespace Tracks

theorem connect (hc : c.Lawful) (s : c.Sender) (h : feed.WellFormed max) :
    Tracks c max (c.sent s).length feed.shown s (c.subscribe s) [] feed where
  wellFormed := h
  follows := ⟨[], .subscribe hc s, (List.take_of_length_le h.length_le).symm⟩

theorem sendAll (hc : c.Lawful) (h : Tracks c max start shown₀ s r inFlight feed) (xs : List τ) :
    Tracks c max start shown₀ (c.sendAll s xs) r inFlight feed := by
  obtain ⟨handled, hfollows, hshown⟩ := h.follows
  exact ⟨h.wellFormed, handled, hfollows.sendAll hc xs, hshown⟩

theorem poll (hc : c.Lawful) (h : Tracks c max start shown₀ s r inFlight feed)
    (hrecv : c.recv s r = some (received, r')) :
    Tracks c max start shown₀ s r' (inFlight ++ received.toList) feed := by
  obtain ⟨handled, hfollows, hshown⟩ := h.follows
  refine ⟨h.wellFormed, handled, ?_, hshown⟩
  rw [← List.append_assoc]
  exact hfollows.recv hc hrecv

theorem read (hmax : 0 < max) {x : τ} (h : Tracks c max start shown₀ s r (x :: inFlight) feed) :
    Tracks c max start shown₀ s r inFlight (feed.prepend max x) := by
  obtain ⟨handled, hfollows, hshown⟩ := h.follows
  refine ⟨h.wellFormed.prepend hmax x, handled ++ [x], ?_, ?_⟩
  · rwa [List.append_assoc, List.singleton_append]
  · obtain ⟨k, rfl⟩ : ∃ k, max = k + 1 := ⟨max - 1, by omega⟩
    rw [h.wellFormed.shown_prepend hmax, hshown, List.reverse_concat, List.cons_append,
      List.take_succ_cons, List.take_succ_cons, List.take_take, Nat.min_eq_left (Nat.le_succ k)]

/-- Two lists with the same end, put in front of a third. -/
theorem take_append_congr {xs ys zs : List τ} (h : xs.take max = ys.take max) :
    (xs ++ zs).take max = (ys ++ zs).take max := by
  have hlen := congrArg List.length h
  rw [List.length_take, List.length_take] at hlen
  rw [List.take_append, List.take_append, h]
  congr 2
  omega

/-- **The page shows the latest**, once everything has been read. -/
theorem shown_eq (hc : c.Lawful) (h : Tracks c max start shown₀ s r [] feed)
    (hnone : c.recv s r = none) (hmax : max ≤ c.capacity s) :
    feed.shown = (((c.sent s).drop start).reverse ++ shown₀).take max := by
  obtain ⟨handled, hfollows, hshown⟩ := h.follows
  rw [List.append_nil] at hfollows
  have hlast := congrArg List.reverse (hfollows.rtake_eq hc hnone hmax)
  rw [List.rtake_eq_reverse_take_reverse, List.rtake_eq_reverse_take_reverse, List.reverse_reverse,
    List.reverse_reverse] at hlast
  rw [hshown, take_append_congr hlast]

end Tracks

end Channel

/-! ### One browser -/

variable {readings : Channels SensorReading} {events : Channels SecurityEvent}

namespace SsePayload

theorem filterMap_readings (xs : List SensorReading) :
    (xs.map reading).filterMap reading? = xs := by
  rw [List.filterMap_map]
  exact List.filterMap_some

theorem filterMap_securityEvents (xs : List SecurityEvent) :
    (xs.map securityEvent).filterMap securityEvent? = xs := by
  rw [List.filterMap_map]
  exact List.filterMap_some

/-- Messages of one kind are none of the other. -/
theorem filterMap_readings_securityEvent (xs : List SensorReading) :
    (xs.map reading).filterMap securityEvent? = [] := by
  rw [List.filterMap_map]
  exact List.filterMap_none xs

theorem filterMap_securityEvents_reading (xs : List SecurityEvent) :
    (xs.map securityEvent).filterMap reading? = [] := by
  rw [List.filterMap_map]
  exact List.filterMap_none xs

end SsePayload

section Browser

variable {readingsTx : readings.Sender} {eventsTx : events.Sender}
  {client : Client readings events}

/-- Asking a response for more, if there is one: nothing changes, or a message is written. -/
theorem Client.act_pollReadings (readingsTx : readings.Sender) (eventsTx : events.Sender)
    (client : Client readings events) :
    client.act readingsTx eventsTx .pollReadings = client ∨
    ∃ stream received r, client.response = some stream ∧
      readings.recv readingsTx stream.readings = some (received, r) ∧
      client.act readingsTx eventsTx .pollReadings =
        { client with
          response := some { stream with readings := r }
          inFlight := client.inFlight ++ received.toList.map .reading } := by
  obtain ⟨response, inFlight, page⟩ := client
  cases response with
  | none => exact .inl rfl
  | some stream =>
      cases hrecv : readings.recv readingsTx stream.readings with
      | none =>
          refine .inl ?_
          simp only [act, Option.bind_some, SseStream.pollReadings, hrecv, Option.map_none, write]
      | some next =>
          refine .inr ⟨stream, next.1, next.2, rfl, hrecv, ?_⟩
          simp only [act, Option.bind_some, SseStream.pollReadings, hrecv, Option.map_some, write]

theorem Client.act_pollEvents (readingsTx : readings.Sender) (eventsTx : events.Sender)
    (client : Client readings events) :
    client.act readingsTx eventsTx .pollEvents = client ∨
    ∃ stream received r, client.response = some stream ∧
      events.recv eventsTx stream.events = some (received, r) ∧
      client.act readingsTx eventsTx .pollEvents =
        { client with
          response := some { stream with events := r }
          inFlight := client.inFlight ++ received.toList.map .securityEvent } := by
  obtain ⟨response, inFlight, page⟩ := client
  cases response with
  | none => exact .inl rfl
  | some stream =>
      cases hrecv : events.recv eventsTx stream.events with
      | none =>
          refine .inl ?_
          simp only [act, Option.bind_some, SseStream.pollEvents, hrecv, Option.map_none, write]
      | some next =>
          refine .inr ⟨stream, next.1, next.2, rfl, hrecv, ?_⟩
          simp only [act, Option.bind_some, SseStream.pollEvents, hrecv, Option.map_some, write]

open SsePayload

/-- Both lists show what was sent, and the page says whether there is a connection. -/
structure Client.Sound (readingsTx : readings.Sender) (eventsTx : events.Sender)
    (client : Client readings events) : Prop where
  readings : Displays readings 50 readingsTx (client.response.map SseStream.readings)
    (client.inFlight.filterMap reading?) client.page.readingsList
  events : Displays events 30 eventsTx (client.response.map SseStream.events)
    (client.inFlight.filterMap securityEvent?) client.page.eventsList
  connected : client.page.connected = client.response.isSome

namespace Client.Sound

theorem initial (readingsTx : readings.Sender) (eventsTx : events.Sender) :
    Client.initial.Sound readingsTx eventsTx where
  readings := .initial readings 50 readingsTx
  events := .initial events 30 eventsTx
  connected := rfl

theorem sendAll (hr : readings.Lawful) (he : events.Lawful) (h : client.Sound readingsTx eventsTx)
    (xs : List SensorReading) (ys : List SecurityEvent) :
    client.Sound (readings.sendAll readingsTx xs) (events.sendAll eventsTx ys) where
  readings := h.readings.sendAll hr xs
  events := h.events.sendAll he ys
  connected := h.connected

theorem read (h : client.Sound readingsTx eventsTx) :
    (client.act readingsTx eventsTx .read).Sound readingsTx eventsTx := by
  obtain ⟨response, inFlight, page⟩ := client
  cases inFlight with
  | nil => exact h
  | cons message inFlight =>
      cases message with
      | reading r => exact ⟨h.readings.read (by decide), h.events, h.connected⟩
      | securityEvent e => exact ⟨h.readings, h.events.read (by decide), h.connected⟩

/-- **A browser keeps this up**, whatever it does. -/
theorem act (hr : readings.Lawful) (he : events.Lawful) (h : client.Sound readingsTx eventsTx)
    (action : ClientAction) : (client.act readingsTx eventsTx action).Sound readingsTx eventsTx := by
  cases action with
  | load => exact initial readingsTx eventsTx
  | connect => exact ⟨h.readings.connect hr, h.events.connect he, rfl⟩
  | interrupt => exact ⟨h.readings.interrupt, h.events.interrupt, rfl⟩
  | read => exact h.read
  | pollReadings =>
      rcases client.act_pollReadings readingsTx eventsTx with
        hsame | ⟨stream, received, r, hresponse, hrecv, hact⟩
      · rwa [hsame]
      rw [hact]
      obtain ⟨hreadings, hevents, hconnected⟩ := h
      rw [hresponse] at hreadings hevents hconnected
      refine ⟨?_, ?_, hconnected⟩
      · rw [List.filterMap_append, filterMap_readings]
        exact hreadings.poll hr hrecv
      · rw [List.filterMap_append, filterMap_readings_securityEvent, List.append_nil]
        exact hevents
  | pollEvents =>
      rcases client.act_pollEvents readingsTx eventsTx with
        hsame | ⟨stream, received, r, hresponse, hrecv, hact⟩
      · rwa [hsame]
      rw [hact]
      obtain ⟨hreadings, hevents, hconnected⟩ := h
      rw [hresponse] at hreadings hevents hconnected
      refine ⟨?_, ?_, hconnected⟩
      · rw [List.filterMap_append, filterMap_securityEvents_reading, List.append_nil]
        exact hreadings
      · rw [List.filterMap_append, filterMap_securityEvents]
        exact hevents.poll he hrecv

end Client.Sound

/-- The browser is on a connection it made when `readings₀` and `events₀` values had been sent,
and when its page was `page₀`. -/
def Client.Since (readings₀ events₀ : Nat) (page₀ : Page) (readingsTx : readings.Sender)
    (eventsTx : events.Sender) (client : Client readings events) : Prop :=
  ∃ stream, client.response = some stream ∧
    Tracks readings 50 readings₀ page₀.readingsList.shown readingsTx stream.readings
      (client.inFlight.filterMap reading?) client.page.readingsList ∧
    Tracks events 30 events₀ page₀.eventsList.shown eventsTx stream.events
      (client.inFlight.filterMap securityEvent?) client.page.eventsList

namespace Client.Since

variable {readings₀ events₀ : Nat} {page₀ : Page}

theorem connect (hr : readings.Lawful) (he : events.Lawful)
    (h : client.Sound readingsTx eventsTx) :
    (client.act readingsTx eventsTx .connect).Since (readings.sent readingsTx).length
      (events.sent eventsTx).length client.page readingsTx eventsTx :=
  ⟨_, rfl, .connect hr readingsTx h.readings.wellFormed, .connect he eventsTx h.events.wellFormed⟩

theorem sendAll (hr : readings.Lawful) (he : events.Lawful)
    (h : client.Since readings₀ events₀ page₀ readingsTx eventsTx) (xs : List SensorReading)
    (ys : List SecurityEvent) :
    client.Since readings₀ events₀ page₀ (readings.sendAll readingsTx xs)
      (events.sendAll eventsTx ys) := by
  obtain ⟨stream, hresponse, hreadings, hevents⟩ := h
  exact ⟨stream, hresponse, hreadings.sendAll hr xs, hevents.sendAll he ys⟩

/-- **The browser goes on following**, as long as it stays on its connection. -/
theorem act (hr : readings.Lawful) (he : events.Lawful)
    (h : client.Since readings₀ events₀ page₀ readingsTx eventsTx) {action : ClientAction}
    (hstays : action.stays = true) :
    (client.act readingsTx eventsTx action).Since readings₀ events₀ page₀ readingsTx
      eventsTx := by
  obtain ⟨stream, hresponse, hreadings, hevents⟩ := h
  cases action with
  | load => exact nomatch hstays
  | connect => exact nomatch hstays
  | interrupt => exact nomatch hstays
  | read =>
      obtain ⟨response, inFlight, page⟩ := client
      cases inFlight with
      | nil => exact ⟨stream, hresponse, hreadings, hevents⟩
      | cons message inFlight =>
          cases message with
          | reading r => exact ⟨stream, hresponse, hreadings.read (by decide), hevents⟩
          | securityEvent e => exact ⟨stream, hresponse, hreadings, hevents.read (by decide)⟩
  | pollReadings =>
      rcases client.act_pollReadings readingsTx eventsTx with
        hsame | ⟨stream', received, r, hresponse', hrecv, hact⟩
      · rw [hsame]
        exact ⟨stream, hresponse, hreadings, hevents⟩
      cases hresponse.symm.trans hresponse'
      rw [hact]
      refine ⟨_, rfl, ?_, ?_⟩
      · rw [List.filterMap_append, filterMap_readings]
        exact hreadings.poll hr hrecv
      · rw [List.filterMap_append, filterMap_readings_securityEvent, List.append_nil]
        exact hevents
  | pollEvents =>
      rcases client.act_pollEvents readingsTx eventsTx with
        hsame | ⟨stream', received, r, hresponse', hrecv, hact⟩
      · rw [hsame]
        exact ⟨stream, hresponse, hreadings, hevents⟩
      cases hresponse.symm.trans hresponse'
      rw [hact]
      refine ⟨_, rfl, ?_, ?_⟩
      · rw [List.filterMap_append, filterMap_securityEvents_reading, List.append_nil]
        exact hreadings
      · rw [List.filterMap_append, filterMap_securityEvents]
        exact hevents.poll he hrecv

/-- A browser that has caught up shows what came since it connected. -/
theorem shown_eq (hr : readings.Lawful) (he : events.Lawful)
    (h : client.Since readings₀ events₀ page₀ readingsTx eventsTx)
    (hcaught : client.caughtUp readingsTx eventsTx = true)
    (hcapacity : 50 ≤ readings.capacity readingsTx) (hcapacity' : 30 ≤ events.capacity eventsTx) :
    client.page.readingsList.shown =
        (((readings.sent readingsTx).drop readings₀).reverse ++ page₀.readingsList.shown).take 50 ∧
      client.page.eventsList.shown =
        (((events.sent eventsTx).drop events₀).reverse ++ page₀.eventsList.shown).take 30 := by
  obtain ⟨stream, hresponse, hreadings, hevents⟩ := h
  simp only [caughtUp, hresponse, Option.any_some, Bool.and_eq_true, List.isEmpty_iff,
    Option.isNone_iff_eq_none] at hcaught
  obtain ⟨hinFlight, hnone, hnone'⟩ := hcaught
  rw [hinFlight] at hreadings hevents
  exact ⟨hreadings.shown_eq hr hnone hcapacity, hevents.shown_eq he hnone' hcapacity'⟩

end Client.Since

end Browser

/-! ### All browsers -/

variable (ring : Ring)

namespace Served

/-- The channels carry what the gateway publishes, and every browser is sound. -/
structure Sound (s : Served readings events) : Prop where
  sent_readings : readings.sent s.readingsTx = s.system.gateway.readingsTx
  sent_events : events.sent s.eventsTx = s.system.gateway.eventsTx
  readings_capacity : 64 ≤ readings.capacity s.readingsTx
  events_capacity : 64 ≤ events.capacity s.eventsTx
  clients (c : Nat) : (s.clients c).Sound s.readingsTx s.eventsTx

theorem sound_start (hr : readings.Lawful) (he : events.Lawful) (key : SessionKey)
    (registry : DeviceRegistry) : (start key registry : Served readings events).Sound where
  sent_readings := hr.sent_channel 64
  sent_events := he.sent_channel 64
  readings_capacity := hr.le_capacity 64
  events_capacity := he.le_capacity 64
  clients _ := .initial _ _

/-- What a step of the gateway adds to its lists is what it sends. -/
theorem sent_append {τ : Type} {xs ys new : List τ} (h : ys = xs ++ new) :
    xs ++ ys.drop xs.length = ys := by
  rw [h, List.drop_left]

theorem Sound.step (hr : readings.Lawful) (he : events.Lawful) {s : Served readings events}
    (h : s.Sound) (action : ServedAction) : (s.step ring action).Sound := by
  cases action with
  | gateway action =>
      obtain ⟨newReadings, newEvents, hreadings, hevents, -, -⟩ := step_plain ring s.system action
      refine ⟨?_, ?_, ?_, ?_, fun c => (h.clients c).sendAll hr he _ _⟩
      · exact (hr.sent_sendAll _ _).trans (by rw [h.sent_readings]; exact sent_append hreadings)
      · exact (he.sent_sendAll _ _).trans (by rw [h.sent_events]; exact sent_append hevents)
      · exact h.readings_capacity.trans_eq (hr.capacity_sendAll _ _).symm
      · exact h.events_capacity.trans_eq (he.capacity_sendAll _ _).symm
  | client c action =>
      refine ⟨h.sent_readings, h.sent_events, h.readings_capacity, h.events_capacity, fun d => ?_⟩
      by_cases hd : d = c
      · simp only [Served.step, hd, Function.update_self]
        exact (h.clients c).act hr he action
      · simp only [Served.step, Function.update_of_ne hd]
        exact h.clients d

/-- **Every reachable state is sound.** -/
theorem Sound.run (hr : readings.Lawful) (he : events.Lawful) {s : Served readings events}
    (h : s.Sound) (actions : List ServedAction) :
    ((servedMachine readings events ring).run s actions).Sound :=
  (servedMachine readings events ring).induct_history (I := fun s _ => s.Sound)
    (C := fun _ _ => True) (fun _ _ action hs _ => hs.step ring hr he action) h
    ((servedMachine readings events ring).along_true s actions)

/-- A browser that stays on its connection follows it through the steps of all others. -/
theorem since_run (hr : readings.Lawful) (he : events.Lawful) {s : Served readings events} {c : Nat}
    {readings₀ events₀ : Nat} {page₀ : Page} {actions : List ServedAction}
    (h : (s.clients c).Since readings₀ events₀ page₀ s.readingsTx s.eventsTx)
    (hstays : ∀ action, .client c action ∈ actions → action.stays = true) :
    let s' := (servedMachine readings events ring).run s actions
    (s'.clients c).Since readings₀ events₀ page₀ s'.readingsTx s'.eventsTx := by
  refine (servedMachine readings events ring).induct_history
    (I := fun s _ => (s.clients c).Since readings₀ events₀ page₀ s.readingsTx s.eventsTx)
    (C := fun _ action => ∀ a, action = .client c a → a.stays = true) ?_ h
    ((servedMachine readings events ring).along_of_forall
      (fun action hmem a (ha : action = .client c a) => hstays a (ha ▸ hmem)) s)
  intro s _ action hs hstays
  cases action with
  | gateway action => exact hs.sendAll hr he _ _
  | client d action =>
      by_cases hd : d = c
      · subst hd
        simp only [servedMachine, Served.step, Function.update_self]
        exact hs.act hr he (hstays action rfl)
      · simp only [servedMachine, Served.step, Function.update_of_ne (Ne.symm hd)]
        exact hs

end Served

/-! ### The theorems -/

/-- The first frame of a device arrives while a browser watches. -/
def firstReading : List ServedAction :=
  let now : SystemTime := .unix 1700000003
  [.gateway (.deliver 0 temperatureFrame.wireBytes), .gateway (.run 0 now), .gateway (.run 0 now),
   .client 7 .pollEvents, .gateway (.run 0 now), .gateway (.run 0 now), .client 7 .pollReadings,
   .client 7 .read]

/-- The gateway has started. -/
def watched₀ : Served (.reference SensorReading) (.reference SecurityEvent) :=
  .start .devTestKey .open

/-- The reading has been published, and the browser has caught up. -/
def watched : Served (.reference SensorReading) (.reference SecurityEvent) :=
  (servedMachine _ _ temperaturesRing).run watched₀ (.client 7 .connect :: firstReading)

/-- **The dashboard shows what was published**, newest first and each message as often as it was
published, in lists of bounded length that lose their placeholder with the first message. This
holds of every browser in every reachable state, whatever was missed or lost with a
connection. -/
theorem dashboard_sound (hr : readings.Lawful) (he : events.Lawful) (key : SessionKey)
    (registry : DeviceRegistry) (actions : List ServedAction) (c : Nat) (s : Served readings events)
    (hs : (servedMachine readings events ring).run (.start key registry) actions = s) :
    (s.clients c).page.readingsList.WellFormed 50 ∧
    (s.clients c).page.eventsList.WellFormed 30 ∧
    (s.clients c).page.readingsList.shown.reverse.Sublist s.system.gateway.readingsTx ∧
    (s.clients c).page.eventsList.shown.reverse.Sublist s.system.gateway.eventsTx ∧
    (s.clients c).page.connected = (s.clients c).response.isSome := by
  have hsound := (Served.sound_start hr he key registry).run ring hr he actions
  rw [hs] at hsound
  have hclient := hsound.clients c
  refine ⟨hclient.readings.wellFormed, hclient.events.wellFormed, ?_, ?_, hclient.connected⟩
  · rw [← hsound.sent_readings]
    exact (List.sublist_append_left _ _).trans hclient.readings.sublist
  · rw [← hsound.sent_events]
    exact (List.sublist_append_left _ _).trans hclient.events.sublist

/-- The browser shows what was published. -/
theorem dashboard_sound_first :
    (watched.clients 7).page.readingsList.WellFormed 50 ∧
    (watched.clients 7).page.eventsList.WellFormed 30 ∧
    (watched.clients 7).page.readingsList.shown.reverse.Sublist
      watched.system.gateway.readingsTx ∧
    (watched.clients 7).page.eventsList.shown.reverse.Sublist watched.system.gateway.eventsTx ∧
    (watched.clients 7).page.connected = (watched.clients 7).response.isSome :=
  dashboard_sound temperaturesRing Channels.reference_lawful Channels.reference_lawful .devTestKey
    .open (.client 7 .connect :: firstReading) 7 watched rfl

/-- **A browser that has caught up shows the latest**: everything that was published since it
connected, on top of what it showed before, as far as the lists go. How long it took in between
and how much it missed does not matter. -/
theorem dashboard_shows_latest (hr : readings.Lawful) (he : events.Lawful) (key : SessionKey)
    (registry : DeviceRegistry) (before after : List ServedAction) (c : Nat)
    (s₀ s : Served readings events)
    (hs₀ : (servedMachine readings events ring).run (.start key registry) before = s₀)
    (hs : (servedMachine readings events ring).run s₀ (.client c .connect :: after) = s)
    (hstays : ∀ action, .client c action ∈ after → action.stays = true)
    (hcaught : (s.clients c).caughtUp s.readingsTx s.eventsTx = true) :
    (s.clients c).page.readingsList.shown =
        ((s.system.gateway.readingsTx.drop s₀.system.gateway.readingsTx.length).reverse ++
          (s₀.clients c).page.readingsList.shown).take 50 ∧
      (s.clients c).page.eventsList.shown =
        ((s.system.gateway.eventsTx.drop s₀.system.gateway.eventsTx.length).reverse ++
          (s₀.clients c).page.eventsList.shown).take 30 := by
  have hsound₀ := (Served.sound_start hr he key registry).run ring hr he before
  rw [hs₀] at hsound₀
  have hsound := hsound₀.run ring hr he (.client c .connect :: after)
  have hsince : ((s₀.step ring (.client c .connect)).clients c).Since
      s₀.system.gateway.readingsTx.length s₀.system.gateway.eventsTx.length (s₀.clients c).page
      s₀.readingsTx s₀.eventsTx := by
    simp only [Served.step, Function.update_self]
    rw [← hsound₀.sent_readings, ← hsound₀.sent_events]
    exact .connect hr he (hsound₀.clients c)
  have hlast := Served.since_run ring (s := s₀.step ring (.client c .connect)) hr he
    hsince hstays
  rw [Machine.run_cons] at hs hsound
  change (servedMachine readings events ring).run (s₀.step ring (.client c .connect)) after = s at hs
  rw [hs] at hlast
  have hsound' : s.Sound := hs ▸ hsound
  rw [← hsound'.sent_readings, ← hsound'.sent_events]
  exact hlast.shown_eq hr he hcaught (Nat.le_trans (by decide : 50 ≤ 64) hsound'.readings_capacity)
    (Nat.le_trans (by decide : 30 ≤ 64) hsound'.events_capacity)

/-- It shows the first reading. -/
theorem dashboard_shows_latest_first :
    (watched.clients 7).page.readingsList.shown =
        ((watched.system.gateway.readingsTx.drop 0).reverse ++ []).take 50 ∧
      (watched.clients 7).page.eventsList.shown =
        ((watched.system.gateway.eventsTx.drop 0).reverse ++ []).take 30 :=
  dashboard_shows_latest temperaturesRing Channels.reference_lawful Channels.reference_lawful
    .devTestKey .open [] firstReading 7 watched₀ watched rfl rfl
    (by
      simp only [firstReading, List.mem_cons, ServedAction.client.injEq, reduceCtorEq, false_or,
        List.not_mem_nil, or_false, true_and]
      rintro action (rfl | rfl | rfl) <;> rfl)
    (by decide +kernel)

end SecurePipe
