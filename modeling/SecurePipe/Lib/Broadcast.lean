import Mathlib.Data.List.DropRight

/-!
# SecurePipe.Lib.Broadcast

Bounded broadcast channels. Every receiver gets every value that is sent once it has
subscribed, unless it falls behind by more than the channel holds: then it is told how many
values it has missed, and goes on with the oldest one that is still there.

`Channels` lists the calls of a library, and `Channels.Lawful` is what they promise, in terms
of what has been sent so far and of how far a receiver has come. Two things follow about what
a receiver has got, with nothing assumed about when it asks:

* `Heard`: it was sent, in this order;
* `Follows`: the last of it, as much as the channel holds, is the last of what was sent, once
  the receiver has caught up (`Follows.rtake_eq`). **Falling behind leaves no gap at the end.**
-/

namespace Broadcast

variable {τ : Type}

/-- What a receiver gets. -/
inductive Received (τ : Type)
  | value (x : τ)
  /-- So many values were overwritten before it got to them. -/
  | lagged (skipped : Nat)
  deriving DecidableEq

/-- The value, if that is what it got. -/
def Received.toList : Received τ → List τ
  | value x => [x]
  | lagged _ => []

/-- The calls of a library of broadcast channels. -/
structure Channels (τ : Type) where
  Sender : Type
  Receiver : Type
  channel (capacity : Nat) : Sender
  send (sender : Sender) (x : τ) : Sender
  subscribe (sender : Sender) : Receiver
  /-- `none` while there is nothing new. -/
  recv (sender : Sender) (receiver : Receiver) : Option (Received τ × Receiver)
  /-- How many values the channel holds. -/
  capacity (sender : Sender) : Nat
  /-- The values sent so far, those that found nobody to receive them among them. -/
  sent (sender : Sender) : List τ
  /-- How many of them the receiver has behind it. -/
  position (receiver : Receiver) : Nat

/-- Values sent one after the other. -/
def Channels.sendAll (c : Channels τ) (s : c.Sender) (xs : List τ) : c.Sender := xs.foldl c.send s

/-- What the calls promise. -/
structure Channels.Lawful (c : Channels τ) : Prop where
  le_capacity (n : Nat) : n ≤ c.capacity (c.channel n)
  sent_channel (n : Nat) : c.sent (c.channel n) = []
  capacity_send (s : c.Sender) (x : τ) : c.capacity (c.send s x) = c.capacity s
  sent_send (s : c.Sender) (x : τ) : c.sent (c.send s x) = c.sent s ++ [x]
  position_subscribe (s : c.Sender) : c.position (c.subscribe s) = (c.sent s).length
  recv_none {s : c.Sender} {r : c.Receiver} (h : (c.sent s).length ≤ c.position r) :
    c.recv s r = none
  recv_value {s : c.Sender} {r : c.Receiver} {x : τ} (hx : (c.sent s)[c.position r]? = some x)
    (h : (c.sent s).length ≤ c.position r + c.capacity s) :
    ∃ r', c.recv s r = some (.value x, r') ∧ c.position r' = c.position r + 1
  recv_lagged {s : c.Sender} {r : c.Receiver}
    (h : c.position r + c.capacity s < (c.sent s).length) :
    ∃ r', c.recv s r =
        some (.lagged ((c.sent s).length - c.capacity s - c.position r), r') ∧
      c.position r' = (c.sent s).length - c.capacity s

/-- What a receiver at this position gets from a channel that holds so many values. -/
def next (capacity position : Nat) (sent : List τ) : Option (Received τ × Nat) :=
  if position + capacity < sent.length then
    some (.lagged (sent.length - capacity - position), sent.length - capacity)
  else sent[position]?.map fun x => (.value x, position + 1)

/-- Channels that remember everything, and hand out no more than they should. -/
def Channels.reference (τ : Type) : Channels τ where
  Sender := Nat × List τ
  Receiver := Nat
  channel capacity := (capacity, [])
  send sender x := (sender.1, sender.2 ++ [x])
  subscribe sender := sender.2.length
  recv sender receiver := next sender.1 receiver sender.2
  capacity := Prod.fst
  sent := Prod.snd
  position receiver := receiver

theorem next_none {capacity position : Nat} {sent : List τ} (h : sent.length ≤ position) :
    next capacity position sent = none := by
  rw [next, if_neg (by omega), List.getElem?_eq_none h, Option.map_none]

theorem next_value {capacity position : Nat} {sent : List τ} {x : τ}
    (hx : sent[position]? = some x) (h : sent.length ≤ position + capacity) :
    next capacity position sent = some (.value x, position + 1) := by
  rw [next, if_neg (not_lt.mpr h), hx, Option.map_some]

theorem Channels.reference_lawful : (Channels.reference τ).Lawful where
  le_capacity _ := Nat.le_refl _
  sent_channel _ := rfl
  capacity_send _ _ := rfl
  sent_send _ _ := rfl
  position_subscribe _ := rfl
  recv_none h := next_none h
  recv_value hx h := ⟨_, next_value hx h, rfl⟩
  recv_lagged h := ⟨_, if_pos h, rfl⟩

/-! ### What a receiver has got -/

variable {c : Channels τ} {s : c.Sender} {r r' : c.Receiver} {got : List τ} {x : τ}

theorem Channels.Lawful.sent_sendAll (hc : c.Lawful) (s : c.Sender) (xs : List τ) :
    c.sent (c.sendAll s xs) = c.sent s ++ xs := by
  induction xs generalizing s with
  | nil => exact (List.append_nil _).symm
  | cons x xs ih => exact (ih (c.send s x)).trans (by rw [hc.sent_send, List.append_assoc]; rfl)

theorem Channels.Lawful.capacity_sendAll (hc : c.Lawful) (s : c.Sender) (xs : List τ) :
    c.capacity (c.sendAll s xs) = c.capacity s := by
  induction xs generalizing s with
  | nil => rfl
  | cons x xs ih => exact (ih (c.send s x)).trans (hc.capacity_send s x)

/-- A receiver within what was sent has nothing new, gets the next value, or lags. -/
theorem Channels.Lawful.recv_cases (hc : c.Lawful) (hpos : c.position r ≤ (c.sent s).length) :
    (c.position r = (c.sent s).length ∧ c.recv s r = none) ∨
    (∃ x r', (c.sent s)[c.position r]? = some x ∧
      c.recv s r = some (.value x, r') ∧ c.position r' = c.position r + 1) ∨
    (∃ skipped r', c.position r + c.capacity s < (c.sent s).length ∧
      c.recv s r = some (.lagged skipped, r') ∧
      c.position r' = (c.sent s).length - c.capacity s) := by
  by_cases hlag : c.position r + c.capacity s < (c.sent s).length
  · obtain ⟨r', hrecv, hr'⟩ := hc.recv_lagged hlag
    exact .inr (.inr ⟨_, r', hlag, hrecv, hr'⟩)
  rcases Nat.lt_or_eq_of_le hpos with hlt | heq
  · have hx := List.getElem?_eq_getElem hlt
    obtain ⟨r', hrecv, hr'⟩ := hc.recv_value hx (not_lt.mp hlag)
    exact .inr (.inl ⟨_, r', hx, hrecv, hr'⟩)
  · exact .inl ⟨heq, hc.recv_none heq.ge⟩

/-- The receiver is within what was sent, and `got` is part of what it has behind it. -/
structure Heard (c : Channels τ) (s : c.Sender) (r : c.Receiver) (got : List τ) : Prop where
  position_le : c.position r ≤ (c.sent s).length
  sublist : got.Sublist ((c.sent s).take (c.position r))

namespace Heard

theorem subscribe (hc : c.Lawful) (h : got.Sublist (c.sent s)) : Heard c s (c.subscribe s) got where
  position_le := (hc.position_subscribe s).le
  sublist := by rwa [hc.position_subscribe, List.take_length]

theorem sendAll (hc : c.Lawful) (h : Heard c s r got) (xs : List τ) :
    Heard c (c.sendAll s xs) r got where
  position_le := by
    rw [hc.sent_sendAll, List.length_append]
    exact h.position_le.trans (Nat.le_add_right _ _)
  sublist := by
    rw [hc.sent_sendAll, List.take_append_of_le_length h.position_le]
    exact h.sublist

/-- Some of what it has got may be forgotten. -/
theorem of_sublist (h : Heard c s r got) {got' : List τ} (hsub : got'.Sublist got) :
    Heard c s r got' where
  position_le := h.position_le
  sublist := hsub.trans h.sublist

/-- The receiver asks. -/
theorem recv (hc : c.Lawful) (h : Heard c s r got) {received : Received τ}
    (hrecv : c.recv s r = some (received, r')) :
    Heard c s r' (got ++ received.toList) := by
  rcases hc.recv_cases h.position_le with
    ⟨-, hnone⟩ | ⟨x, r₁, hx, hvalue, hr₁⟩ | ⟨skipped, r₁, hlag, hlagged, hr₁⟩
  · exact nomatch hrecv.symm.trans hnone
  · cases hrecv.symm.trans hvalue
    refine ⟨?_, ?_⟩
    · rw [hr₁]
      exact (List.getElem?_eq_some_iff.mp hx).1
    · rw [hr₁, List.take_add_one, hx]
      exact h.sublist.append (List.Sublist.refl _)
  · cases hrecv.symm.trans hlagged
    rw [Received.toList, List.append_nil]
    refine ⟨?_, h.sublist.trans ?_⟩
    · rw [hr₁]
      exact Nat.sub_le _ _
    · rw [hr₁]
      exact List.take_sublist_take_left (by omega)

theorem sublist_sent (h : Heard c s r got) : got.Sublist (c.sent s) :=
  h.sublist.trans (List.take_sublist _ _)

end Heard

/-- The receiver subscribed at `start` and has got `got`: all that came from then on, or all
that came from `since` on, which is as much as the channel holds or more. -/
def Follows (c : Channels τ) (start : Nat) (s : c.Sender) (r : c.Receiver) (got : List τ) : Prop :=
  ∃ since old, start ≤ since ∧ since ≤ c.position r ∧ c.position r ≤ (c.sent s).length ∧
    got = old ++ ((c.sent s).take (c.position r)).drop since ∧
    ((since = start ∧ old = []) ∨ since + c.capacity s ≤ (c.sent s).length)

namespace Follows

variable {start : Nat}

theorem subscribe (hc : c.Lawful) (s : c.Sender) :
    Follows c (c.sent s).length s (c.subscribe s) [] := by
  refine ⟨(c.sent s).length, [], Nat.le_refl _, ?_, ?_, ?_, .inl ⟨rfl, rfl⟩⟩
  · exact (hc.position_subscribe s).ge
  · exact (hc.position_subscribe s).le
  · rw [hc.position_subscribe, List.take_length, List.drop_length, List.nil_append]

theorem sendAll (hc : c.Lawful) (h : Follows c start s r got) (xs : List τ) :
    Follows c start (c.sendAll s xs) r got := by
  obtain ⟨since, old, hstart, hsince, hpos, hgot, hall⟩ := h
  have hlen : (c.sent (c.sendAll s xs)).length = (c.sent s).length + xs.length := by
    rw [hc.sent_sendAll, List.length_append]
  refine ⟨since, old, hstart, hsince, by omega, ?_, ?_⟩
  · rw [hc.sent_sendAll, List.take_append_of_le_length hpos]
    exact hgot
  · rw [hc.capacity_sendAll]
    exact hall.imp_right fun h => by omega

theorem recv (hc : c.Lawful) (h : Follows c start s r got) {received : Received τ}
    (hrecv : c.recv s r = some (received, r')) :
    Follows c start s r' (got ++ received.toList) := by
  obtain ⟨since, old, hstart, hsince, hpos, hgot, hall⟩ := h
  rcases hc.recv_cases hpos with
    ⟨-, hnone⟩ | ⟨x, r₁, hx, hvalue, hr₁⟩ | ⟨skipped, r₁, hlag, hlagged, hr₁⟩
  · exact nomatch hrecv.symm.trans hnone
  · cases hrecv.symm.trans hvalue
    have hlt : c.position r < (c.sent s).length := (List.getElem?_eq_some_iff.mp hx).1
    have hdrop : since ≤ ((c.sent s).take (c.position r)).length := by
      rw [List.length_take_of_le hpos]
      exact hsince
    refine ⟨since, old, hstart, by omega, by omega, ?_, hall⟩
    rw [hr₁, List.take_add_one, hx, List.drop_append_of_le_length hdrop, hgot, List.append_assoc]
    rfl
  · -- the receiver starts over, behind as much as the channel holds
    cases hrecv.symm.trans hlagged
    refine ⟨c.position r', got, by omega, Nat.le_refl _, by omega, ?_, .inr (by omega)⟩
    rw [List.drop_of_length_le (List.length_take_le _ _), Received.toList]

/-- **Once it has caught up**, a receiver has the last values since it subscribed, as many as
the channel holds. -/
theorem rtake_eq (hc : c.Lawful) (h : Follows c start s r got) (hnone : c.recv s r = none) {k : Nat}
    (hk : k ≤ c.capacity s) : got.rtake k = ((c.sent s).drop start).rtake k := by
  obtain ⟨since, old, hstart, hsince, hpos, hgot, hall⟩ := h
  have hend : c.position r = (c.sent s).length := by
    rcases hc.recv_cases hpos with ⟨heq, -⟩ | ⟨x, r', -, hsome, -⟩ | ⟨skipped, r', -, hsome, -⟩
    · exact heq
    · exact nomatch hnone.symm.trans hsome
    · exact nomatch hnone.symm.trans hsome
  rw [hend, List.take_length] at hgot
  rcases hall with ⟨rfl, rfl⟩ | hfull
  · rw [hgot, List.nil_append]
  · have hlen : k ≤ ((c.sent s).drop since).length := by
      rw [List.length_drop]
      omega
    have hlast : ∀ front : List τ, (front ++ (c.sent s).drop since).rtake k =
        ((c.sent s).drop since).rtake k := by
      intro front
      rw [List.rtake_eq_reverse_take_reverse, List.rtake_eq_reverse_take_reverse,
        List.reverse_append, List.take_append_of_le_length (by rw [List.length_reverse]; exact hlen)]
    obtain ⟨d, rfl⟩ := Nat.exists_eq_add_of_le hstart
    calc got.rtake k = ((c.sent s).drop (start + d)).rtake k := by rw [hgot, hlast]
      _ = (((c.sent s).drop start).take d ++ (c.sent s).drop (start + d)).rtake k :=
        (hlast _).symm
      _ = ((c.sent s).drop start).rtake k := by rw [← List.drop_drop, List.take_append_drop]

end Follows

end Broadcast
