import SecurePipe.Lib.Blocks
import SecurePipe.Transport.Intake

/-!
# SecurePipe.Transport.Realign

What one bad pair of magic bytes costs.

After a bad header the loop skips 35 bytes and takes the next ones for a header, so it walks
through the frames that follow in blocks of 35. As long as no block happens to start with the
magic bytes, it goes on until the end of a block is the end of a frame, and **is in step
again from there on** (`bad_magic_cost`). For frames of `s` bytes that is after
`35 / gcd(35, s)` of them: all of 35 frames at the real size of 59.
-/

namespace SecurePipe

open Rust

/-! ### Walking in blocks -/

/-- Blocks that do not start with the magic bytes are skipped. -/
theorem Cut.skips {n : Nat} {bytes : Bytes} (hlen : HEADER_SIZE * n ≤ bytes.length)
    (hmagic : ∀ k < n, (bytes.drop (HEADER_SIZE * k)).take 2 ≠ MAGIC) :
    Cut (List.replicate n none) (bytes.take (HEADER_SIZE * n)) := by
  induction n generalizing bytes with
  | zero => exact .nil
  | succ n ih =>
      rw [Nat.mul_succ, Nat.add_comm (HEADER_SIZE * n)] at hlen ⊢
      rw [List.take_add, List.replicate_succ]
      refine .skip ?_ ?_ (ih ?_ ?_)
      · rw [List.length_take]
        omega
      · rw [List.take_take]
        exact hmagic 0 (Nat.zero_lt_succ n)
      · rw [List.length_drop]
        omega
      · intro k hk
        rw [List.drop_drop, Nat.add_comm, ← Nat.mul_succ]
        exact hmagic (k + 1) (Nat.succ_lt_succ hk)

/-- Where no block starts with the magic bytes, no frame is found. -/
theorem Cut.no_frames {pieces : List (Option Bytes)} {front rest : Bytes} (h : Cut pieces front)
    (hmagic : ∀ k, ((front ++ rest).drop (HEADER_SIZE * k)).take 2 ≠ MAGIC) :
    pieces.reduceOption = [] := by
  induction h with
  | nil => rfl
  | @skip block _ _ hlen _ _ ih =>
      refine ih fun k => ?_
      have hnext := hmagic (k + 1)
      rwa [Nat.mul_succ, Nat.add_comm, ← List.drop_drop, ← hlen, List.append_assoc,
        List.drop_left, hlen] at hnext
  | frame hraw _ _ =>
      refine absurd ?_ (hmagic 0)
      rw [List.append_assoc]
      exact hraw.take _

/-! ### Events and calls, in lists -/

/-- An `emit_security_event` that writes down the types of the events. -/
def recordEvent (_ : Option UInt32) (eventType _ : String) :
    Stateful (List String × List Bytes) SecurePipeError Unit :=
  .modify fun s => (s.1 ++ [eventType], s.2)

/-- A `process_frame` that writes down what it is called with, next to the events. -/
def recordCallBeside (raw : Bytes) : Stateful (List String × List Bytes) SecurePipeError Unit :=
  .modify fun s => (s.1, s.2 ++ [raw])

theorem forM_record (pieces : List (Option Bytes)) (events : List String) (called : List Bytes) :
    (forM pieces (react recordEvent recordCallBeside) :
        Stateful (List String × List Bytes) SecurePipeError Unit) (events, called) =
      (.ok (), events ++ List.replicate (pieces.count none) "invalid_magic",
        called ++ pieces.reduceOption) := by
  induction pieces generalizing events called with
  | nil => simp
  | cons piece pieces ih =>
      rw [List.forM_cons]
      cases piece with
      | none =>
          have hreact : react recordEvent recordCallBeside none (events, called) =
              (.ok (), events ++ ["invalid_magic"], called) := rfl
          rw [Stateful.bind_ok hreact, ih, List.count_cons_self, List.replicate_succ,
            List.reduceOption_cons_of_none, List.append_assoc, List.singleton_append]
      | some raw =>
          have hreact : react recordEvent recordCallBeside (some raw) (events, called) =
              (.ok (), events, called ++ [raw]) := rfl
          rw [Stateful.bind_ok hreact, ih, List.count_cons_of_ne (by simp),
            List.reduceOption_cons_of_some, List.append_assoc, List.singleton_append]

/-- On an exhausted stream the loop does nothing more. -/
theorem handleConnection_exhausted (turns : Nat) (ending : StreamEnd)
    (s : List String × List Bytes) :
    (handleConnection recordEvent recordCallBeside turns ⟨[], ending⟩ s).2 = s := by
  induction turns with
  | zero => rfl
  | succ turns ih =>
      cases ending with
      | waiting => exact ih
      | eof => rfl
      | failed message => rfl

/-! ### Skips, and then frames -/

section Skips

variable {n : Nat} {frames : List Bytes} {bytes : Bytes}

/-- The loop on a stream of headers to skip and then frames. -/
theorem handleConnection_skips {σ : Type} (emit : Option UInt32 → String → String →
    Stateful σ SecurePipeError Unit) (process : Bytes → Stateful σ SecurePipeError Unit)
    (hcut : Cut (List.replicate n none ++ frames.map some) bytes) (turns : Nat)
    (ending : StreamEnd) :
    handleConnection emit process (n + frames.length + turns) ⟨bytes, ending⟩ =
      forM (List.replicate n ())
          (fun _ => emit none "invalid_magic" "Frame rejected: bad magic bytes") >>= fun _ =>
        forM frames process >>= fun _ => handleConnection emit process turns ⟨[], ending⟩ := by
  have hloop := handleConnection_cut emit process hcut turns [] ending
  rw [List.append_nil, List.length_append, List.length_replicate, List.length_map] at hloop
  have hskips : List.replicate n none =
      (List.replicate n ()).map (fun _ => (none : Option Bytes)) := by
    rw [List.map_replicate]
  rw [hloop, hskips, List.forM_append, bind_assoc, List.forM_map, List.forM_map]
  rfl

/-- The same with the events and the calls written down. -/
theorem record_skips (hcut : Cut (List.replicate n none ++ frames.map some) bytes)
    {turns : Nat} (hturns : n + frames.length ≤ turns) (ending : StreamEnd) :
    (handleConnection recordEvent recordCallBeside turns ⟨bytes, ending⟩ ([], [])).2 =
      (List.replicate n "invalid_magic", frames) := by
  obtain ⟨more, rfl⟩ := Nat.exists_eq_add_of_le hturns
  have hcount : (frames.map some).count none = 0 := by
    refine List.count_eq_zero.mpr fun hmem => ?_
    obtain ⟨_, -, hnone⟩ := List.mem_map.mp hmem
    cases hnone
  have hframes : (frames.map some).reduceOption = frames := by
    rw [List.reduceOption, List.filterMap_map]
    exact List.filterMap_some
  have hloop := handleConnection_cut recordEvent recordCallBeside hcut more [] ending
  rw [List.append_nil, List.length_append, List.length_replicate, List.length_map] at hloop
  rw [hloop, Stateful.bind_ok (forM_record _ [] []), handleConnection_exhausted,
    List.count_append, hcount, List.reduceOption_append, hframes, List.count_replicate_self,
    List.reduceOption_replicate_none]
  rfl

end Skips

/-- Where no block starts with the magic bytes, nothing is processed. -/
theorem calls_eq_nil {bytes : Bytes} (hmagic : ∀ k, (bytes.drop (HEADER_SIZE * k)).take 2 ≠ MAGIC)
    {σ : Type} (emit : Option UInt32 → String → String → Stateful σ SecurePipeError Unit)
    (process : Bytes → Stateful σ SecurePipeError Unit) (turns : Nat) (ending : StreamEnd)
    (st : σ) : calls emit process turns ⟨bytes, ending⟩ st = [] := by
  obtain ⟨front, rest, rfl, hcut, -⟩ := deframe_cut turns bytes ending
  have hcalls := calls_of_deframe emit process turns ⟨front ++ rest, ending⟩ st
  rw [hcut.no_frames hmagic] at hcalls
  exact List.prefix_nil.mp hcalls

/-! ### The cost -/

/-- The stream of a bad frame and good ones, cut: the blocks up to where the grids meet, and
then the frames. -/
theorem cut_realigned {s : Nat} {bad : Bytes} {good : List Bytes} (hbad : bad.length = s)
    (hgood : ∀ raw ∈ good, IsWireFrame raw ∧ raw.length = s)
    (hmagic : ∀ k < s / Nat.gcd 35 s, ((bad :: good).flatten.drop (35 * k)).take 2 ≠ MAGIC)
    (henough : 35 / Nat.gcd 35 s ≤ (bad :: good).length) :
    Cut (List.replicate (s / Nat.gcd 35 s) none ++
        ((bad :: good).drop (35 / Nat.gcd 35 s)).map some) (bad :: good).flatten := by
  have hsize : ∀ raw ∈ bad :: good, raw.length = s :=
    List.forall_mem_cons.mpr ⟨hbad, fun raw hraw => (hgood raw hraw).2⟩
  have hmeet : HEADER_SIZE * (s / Nat.gcd 35 s) = s * (35 / Nat.gcd 35 s) := Blocks.grids_meet 35 s
  have hpos : 0 < 35 / Nat.gcd 35 s :=
    Nat.div_pos (Nat.le_of_dvd (by decide) (Nat.gcd_dvd_left 35 s)) (Nat.gcd_pos_of_pos_left s (by decide))
  have hskips : Cut (List.replicate (s / Nat.gcd 35 s) none)
      ((bad :: good).flatten.take (HEADER_SIZE * (s / Nat.gcd 35 s))) := by
    refine Cut.skips ?_ hmagic
    rw [hmeet, Blocks.length_flatten hsize]
    exact Nat.mul_le_mul_left s henough
  have hframes : Cut (((bad :: good).drop (35 / Nat.gcd 35 s)).map some)
      ((bad :: good).flatten.drop (HEADER_SIZE * (s / Nat.gcd 35 s))) := by
    rw [hmeet, Blocks.drop_flatten hsize]
    refine Cut.of_frames fun raw hraw => (hgood raw ?_).1
    obtain ⟨d, hd⟩ := Nat.exists_eq_succ_of_ne_zero hpos.ne'
    rw [hd, List.drop_succ_cons] at hraw
    exact List.mem_of_mem_drop hraw
  rw [← List.take_append_drop (HEADER_SIZE * (s / Nat.gcd 35 s)) (bad :: good).flatten]
  exact hskips.append hframes

/-- **The cost of one bad magic.** On a concatenation of frames of one size, with bad magic
bytes in the first, and in which no later block of 35 bytes starts with the magic bytes
before the grids of blocks and frames meet: the loop discards the first `35 / gcd(35, s)`
frames, with one `invalid_magic` event per block, and processes each of the others, in
order. Of so few frames or fewer it processes none. -/
theorem bad_magic_cost {p : Nat} {bad : Bytes} {good : List Bytes} (hbad : bad.length = 51 + p)
    (hcorrupt : bad.take 2 ≠ MAGIC)
    (hgood : ∀ raw ∈ good, IsWireFrame raw ∧ raw.length = 51 + p)
    (hmagic : ∀ k < (51 + p) / Nat.gcd 35 (51 + p), 1 ≤ k →
      ((bad :: good).flatten.drop (35 * k)).take 2 ≠ MAGIC) :
    let frames := bad :: good
    let blocks := (51 + p) / Nat.gcd 35 (51 + p)
    let lost := 35 / Nat.gcd 35 (51 + p)
    (lost ≤ frames.length →
      (∀ (σ : Type) (emit : Option UInt32 → String → String → Stateful σ SecurePipeError Unit)
          (process : Bytes → Stateful σ SecurePipeError Unit) (turns : Nat) (ending : StreamEnd),
        handleConnection emit process (blocks + (frames.length - lost) + turns)
            ⟨frames.flatten, ending⟩ =
          forM (List.replicate blocks ())
              (fun _ => emit none "invalid_magic" "Frame rejected: bad magic bytes") >>= fun _ =>
            forM (frames.drop lost) process >>= fun _ =>
              handleConnection emit process turns ⟨[], ending⟩) ∧
      ∀ turns ending, blocks + (frames.length - lost) ≤ turns →
        (handleConnection recordEvent recordCallBeside turns ⟨frames.flatten, ending⟩ ([], [])).2 =
          (List.replicate blocks "invalid_magic", frames.drop lost)) ∧
    (frames.length ≤ lost →
      ∀ (σ : Type) (emit : Option UInt32 → String → String → Stateful σ SecurePipeError Unit)
        (process : Bytes → Stateful σ SecurePipeError Unit) (turns : Nat) (ending : StreamEnd)
        (st : σ), calls emit process turns ⟨frames.flatten, ending⟩ st = []) := by
  intro frames blocks lost
  have hblocks : ∀ k < blocks, (frames.flatten.drop (35 * k)).take 2 ≠ MAGIC := by
    intro k hk
    cases k with
    | zero =>
        rw [Nat.mul_zero, List.drop_zero, List.flatten_cons, List.take_append_of_le_length (by omega)]
        exact hcorrupt
    | succ k => exact hmagic (k + 1) hk (Nat.le_add_left 1 k)
  refine ⟨fun henough => ?_, fun hfew => ?_⟩
  · have hcut := cut_realigned hbad hgood hblocks henough
    have hlength : (frames.drop lost).length = frames.length - lost := List.length_drop
    rw [← hlength]
    exact ⟨fun σ emit process => handleConnection_skips emit process hcut,
      fun turns ending hturns => record_skips hcut hturns ending⟩
  · have hend : 35 * blocks = (51 + p) * lost := Blocks.grids_meet 35 (51 + p)
    have hsize : ∀ raw ∈ frames, raw.length = 51 + p :=
      List.forall_mem_cons.mpr ⟨hbad, fun raw hraw => (hgood raw hraw).2⟩
    have hall : ∀ k, (frames.flatten.drop (HEADER_SIZE * k)).take 2 ≠ MAGIC := by
      intro k
      by_cases hk : k < blocks
      · exact hblocks k hk
      · have hpast : frames.flatten.length ≤ HEADER_SIZE * k := by
          rw [Blocks.length_flatten hsize]
          calc (51 + p) * frames.length ≤ (51 + p) * lost := Nat.mul_le_mul_left _ hfew
            _ = 35 * blocks := hend.symm
            _ ≤ HEADER_SIZE * k := Nat.mul_le_mul_left _ (not_lt.mp hk)
        rw [List.drop_eq_nil_of_le hpast]
        nofun
    exact fun σ emit process => calls_eq_nil hall emit process

/-- Frames of the real size: the first 35 of 36 are lost. -/
theorem bad_magic_cost_temperature :
    (handleConnection recordEvent recordCallBeside 60
        ⟨(temperatureFrame.wireBytes.set 0 0x00 ::
          List.replicate 35 temperatureFrame.wireBytes).flatten, .eof⟩ ([], [])).2 =
      (List.replicate 59 "invalid_magic", [temperatureFrame.wireBytes]) := by
  have hbad : (temperatureFrame.wireBytes.set 0 0x00).length = 51 + 8 := by decide
  have hgood : ∀ raw ∈ List.replicate 35 temperatureFrame.wireBytes,
      IsWireFrame raw ∧ raw.length = 51 + 8 := by
    intro raw hraw
    rw [List.eq_of_mem_replicate hraw]
    exact ⟨isWireFrame_wireBytes (by decide), by decide⟩
  exact ((bad_magic_cost hbad (by decide) hgood (by decide +kernel)).1 (by decide)).2 60 .eof
    (by decide)

end SecurePipe
