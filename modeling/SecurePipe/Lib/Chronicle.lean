import Mathlib.Data.List.Basic

/-!
# SecurePipe.Lib.Chronicle

Entries of a log, written under a value that changes.

A component keeps a value, for which others are proposed now and then. It adopts the last proposal
or forgets it, and whatever it writes into its log bears the value of the time. `Chronicle` is the
invariant of all that: the log falls into blocks, one for each value, and these values come in the
order in which they were proposed. So **no value comes back** unless it is proposed again.
-/

/-- The values of the blocks are some of those proposed, in their order. -/
def FallsIntoBlocks {ε β : Type} (P : ε → β → Prop) (proposed : List ε) (log : List β) : Prop :=
  ∃ blocks : List (ε × List β), (blocks.map Prod.fst).Sublist proposed ∧
    log = blocks.flatMap Prod.snd ∧ ∀ block ∈ blocks, ∀ b ∈ block.2, P block.1 b

/-- The log so far, the value that is current, and the one that is pending, if there is one. -/
structure Chronicle {ε β : Type} (P : ε → β → Prop) (proposed : List ε) (current : ε)
    (pending : Option ε) (log : List β) : Prop where
  blocks : ∃ (past : List (ε × List β)) (present : List β),
    (past.map Prod.fst ++ current :: pending.toList).Sublist proposed ∧
    log = past.flatMap Prod.snd ++ present ∧
    (∀ block ∈ past, ∀ b ∈ block.2, P block.1 b) ∧ ∀ b ∈ present, P current b

namespace Chronicle

variable {ε β : Type} {P : ε → β → Prop} {proposed : List ε} {current id : ε}
  {pending : Option ε} {log : List β}

theorem start (P : ε → β → Prop) (current : ε) : Chronicle P [current] current none [] where
  blocks := ⟨[], [], List.Sublist.refl _, rfl, fun _ h => absurd h List.not_mem_nil,
    fun _ h => absurd h List.not_mem_nil⟩

/-- A proposal is forgotten. -/
theorem forget (h : Chronicle P proposed current pending log) :
    Chronicle P proposed current none log := by
  obtain ⟨past, present, hids, hlog, hpast, hpresent⟩ := h.blocks
  refine ⟨past, present, List.Sublist.trans ?_ hids, hlog, hpast, hpresent⟩
  exact (List.Sublist.refl _).append ((List.nil_sublist _).cons_cons current)

/-- A value is proposed. -/
theorem propose (h : Chronicle P proposed current pending log) (id : ε) :
    Chronicle P (proposed ++ [id]) current (some id) log := by
  obtain ⟨past, present, hids, hlog, hpast, hpresent⟩ := h.forget.blocks
  refine ⟨past, present, ?_, hlog, hpast, hpresent⟩
  have hmore := hids.append (List.Sublist.refl [id])
  rwa [List.append_assoc] at hmore

/-- The pending value is adopted. -/
theorem adopt (h : Chronicle P proposed current (some id) log) :
    Chronicle P proposed id none log := by
  obtain ⟨past, present, hids, hlog, hpast, hpresent⟩ := h.blocks
  refine ⟨past ++ [(current, present)], [], ?_, ?_, ?_, fun _ h => absurd h List.not_mem_nil⟩
  · rw [List.map_append, List.append_assoc]
    exact hids
  · simp [hlog]
  · intro block hblock
    rcases List.mem_append.mp hblock with hblock | hblock
    · exact hpast block hblock
    · rw [List.mem_singleton.mp hblock]
      exact hpresent

/-- An entry that bears the current value is written. -/
theorem write (h : Chronicle P proposed current pending log) {b : β} (hb : P current b) :
    Chronicle P proposed current pending (log ++ [b]) := by
  obtain ⟨past, present, hids, hlog, hpast, hpresent⟩ := h.blocks
  refine ⟨past, present ++ [b], hids, ?_, hpast, ?_⟩
  · rw [hlog, List.append_assoc]
  · intro b' hb'
    rcases List.mem_append.mp hb' with hb' | hb'
    · exact hpresent b' hb'
    · rw [List.mem_singleton.mp hb']
      exact hb

/-- **The log falls into blocks.** -/
theorem fallsIntoBlocks (h : Chronicle P proposed current pending log) :
    FallsIntoBlocks P proposed log := by
  obtain ⟨past, present, hids, hlog, hpast, hpresent⟩ := h.forget.blocks
  refine ⟨past ++ [(current, present)], ?_, ?_, ?_⟩
  · rw [List.map_append]
    exact hids
  · simp [hlog]
  · intro block hblock
    rcases List.mem_append.mp hblock with hblock | hblock
    · exact hpast block hblock
    · rw [List.mem_singleton.mp hblock]
      exact hpresent

end Chronicle
