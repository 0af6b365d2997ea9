/-
# Nested interrupts and their ends

`pic_send_eoi` does not name an interrupt: each controller clears whatever in-service
bit has priority.  The handlers that have been entered and not left form a stack, and
what makes the call end the right one is that the stack is strictly ordered by the
master's inputs, the interrupt handled last having the highest priority.

* `NestStep` — an interrupt is acknowledged, or the handler entered last ends its own;
* `Nested` — the stack is ordered, and the in-service bits are those of the stack;
* `Nested.acknowledge`, `Nested.endOfInterrupt` — one step;
* `pic_isr_of_nesting` — every run from a remap.
-/
import GridX64.I8259
import Mathlib.Logic.Relation

namespace GridX64

/-! ## Acknowledging an interrupt -/

namespace Pic

/-- No interrupt of number at most `k` is in service. -/
def CanAcknowledge (k : ℕ) (p : Pic) : Prop := ∀ j ≤ k, p.isr.getLsbD j = false

/-- Input `k` is acknowledged: it is in service and no longer requested.  With the
automatic EOI it would not stay in service. -/
def acknowledge (k : ℕ) (p : Pic) : Pic :=
  { p with
    isr := if p.autoEoi then p.isr else p.isr ||| (1 : Byte) <<< k
    irr := p.irr &&& ~~~((1 : Byte) <<< k) }

end Pic

/-- The master's input that IRQ `n` comes through: the slave is on input 2. -/
def masterLine (n : ℕ) : ℕ := if n < 8 then n else 2

namespace PicPair

/-- IRQ `n` has priority over what is in service, on every controller it passes. -/
def CanAcknowledge (n : ℕ) (s : PicPair) : Prop :=
  s.master.CanAcknowledge (masterLine n) ∧ (8 ≤ n → s.slave.CanAcknowledge (n - 8))

/-- IRQ `n` is acknowledged by every controller it passes. -/
def acknowledge (n : ℕ) (s : PicPair) : PicPair where
  master := s.master.acknowledge (masterLine n)
  slave := if 8 ≤ n then s.slave.acknowledge (n - 8) else s.slave

end PicPair

/-- One step of the pair and the stack of handlers, the one entered last on top. -/
inductive NestStep : PicPair × List ℕ → PicPair × List ℕ → Prop
  /-- A device interrupt with priority is acknowledged and its handler entered. -/
  | acknowledge {s : PicPair} {stack : List ℕ} {n : ℕ} (hn : n < 16) (hdevice : n ≠ 2)
      (hcan : s.CanAcknowledge n) : NestStep (s, stack) (s.acknowledge n, n :: stack)
  /-- The handler entered last ends its interrupt. -/
  | endOfInterrupt {s : PicPair} {n : ℕ} {stack : List ℕ} :
      NestStep (s, n :: stack) (picSendEoi (BitVec.ofNat 8 n) s, stack)
  /-- Somebody looks at the in-service registers. -/
  | getIsr {s : PicPair} {stack : List ℕ} : NestStep (s, stack) ((picGetIsr s).2, stack)

/-! ## In-service bits -/

/-- Without the automatic EOI an acknowledged input is in service. -/
theorem Pic.acknowledge_isr {p : Pic} (hp : p.autoEoi = false) (k : ℕ) {j : ℕ} (hj : j < 8) :
    (p.acknowledge k).isr.getLsbD j = true ↔ j = k ∨ p.isr.getLsbD j = true := by
  simp only [Pic.acknowledge, hp, Bool.false_eq_true, if_false]
  rw [BitVec.getLsbD_or, getLsbD_one_shiftLeft hj, Bool.or_eq_true, decide_eq_true_iff, or_comm]

/-- A non-specific EOI clears the bit with priority. -/
theorem Pic.endLowest_isr {p : Pic} {k : ℕ} (hk : k < 8) (hset : p.isr.getLsbD k = true)
    (hlow : ∀ j < k, p.isr.getLsbD j = false) {j : ℕ} (hj : j < 8) :
    p.endLowest.isr.getLsbD j = true ↔ j ≠ k ∧ p.isr.getLsbD j = true := by
  have hfirst : p.lowestInService = some k := by
    rw [Pic.lowestInService, List.find?_range_eq_some]
    refine ⟨hset, List.mem_range.mpr hk, ?_⟩
    intro i hi
    simp [hlow i hi]
  rw [Pic.endLowest, hfirst]
  simp only
  rw [BitVec.getLsbD_and, BitVec.getLsbD_not, getLsbD_one_shiftLeft hj]
  by_cases h : j = k <;> simp [h, hj]

@[simp] theorem Pic.endLowest_autoEoi (p : Pic) : p.endLowest.autoEoi = p.autoEoi := by
  rw [Pic.endLowest]
  rcases p.lowestInService with _ | k <;> rfl

/-- The bits of `pic_get_isr`: the master's below the slave's. -/
theorem picGetIsr_bit (s : PicPair) {k : ℕ} (hk : k < 16) :
    (picGetIsr s).1.getLsbD k
      = if k < 8 then s.master.isr.getLsbD k else s.slave.isr.getLsbD (k - 8) := by
  rw [picGetIsr_eq]
  simp only [BitVec.getLsbD_setWidth, BitVec.getLsbD_or, BitVec.getLsbD_shiftLeft]
  by_cases h : k < 8
  · simp [h, hk]
    omega
  · have hhigh : s.master.isr.getLsbD k = false := BitVec.getLsbD_of_ge _ _ (by omega)
    have hshift : k < 32 ∧ k - 8 < 32 := by omega
    simp [h, hk, hhigh, hshift]

/-! ## The invariant -/

theorem masterLine_lt {n : ℕ} : masterLine n < 8 := by
  rw [masterLine]
  split_ifs <;> omega

/-- The in-service bits are those of a stack of handlers that is strictly ordered by
the master's inputs. -/
structure Nested (s : PicPair) (stack : List ℕ) : Prop where
  master_manual : s.master.autoEoi = false
  slave_manual : s.slave.autoEoi = false
  device : ∀ n ∈ stack, n < 16 ∧ n ≠ 2
  ordered : stack.Pairwise fun n m => masterLine n < masterLine m
  master_bit : ∀ k < 8, s.master.isr.getLsbD k = true ↔ ∃ n ∈ stack, masterLine n = k
  slave_bit : ∀ k < 8, s.slave.isr.getLsbD k = true ↔ k + 8 ∈ stack

variable {s : PicPair} {stack : List ℕ} {n : ℕ}

/-- After a remap nothing is in service if nothing was before. -/
theorem nested_picRemap (m o : Byte) (hm : s.master.isr = 0) (hs : s.slave.isr = 0) :
    Nested (picRemap m o s) [] := by
  rw [picRemap_eq]
  have hmanual : decide (icw48086 &&& icw4AutoEoi ≠ 0) = false := by decide
  refine { master_manual := hmanual
           slave_manual := hmanual
           device := by simp
           ordered := List.Pairwise.nil
           master_bit := ?_
           slave_bit := ?_ }
  · intro k hk
    simp [hm]
  · intro k hk
    simp [hs]

/-- **Acknowledging an interrupt.**  What is in service comes through a lower-priority
input, so the new handler goes on top of an ordered stack. -/
theorem Nested.acknowledge (h : Nested s stack) (hn : n < 16) (hdevice : n ≠ 2)
    (hcan : s.CanAcknowledge n) : Nested (s.acknowledge n) (n :: stack) := by
  refine { master_manual := h.master_manual
           slave_manual := ?_
           device := ?_
           ordered := ?_
           master_bit := ?_
           slave_bit := ?_ }
  · simp only [PicPair.acknowledge]
    by_cases h8 : 8 ≤ n
    · rw [if_pos h8]
      exact h.slave_manual
    · rw [if_neg h8]
      exact h.slave_manual
  · intro m hm
    rcases List.mem_cons.mp hm with rfl | hm
    · exact ⟨hn, hdevice⟩
    · exact h.device m hm
  · apply List.Pairwise.cons _ h.ordered
    intro m hm
    -- a handler with the same or a higher priority would keep the line from being acknowledged
    by_contra hle
    have hset := (h.master_bit (masterLine m) masterLine_lt).mpr ⟨m, hm, rfl⟩
    rw [hcan.1 (masterLine m) (not_lt.mp hle)] at hset
    exact Bool.false_ne_true hset
  · intro k hk
    rw [PicPair.acknowledge, Pic.acknowledge_isr h.master_manual _ hk, h.master_bit k hk, eq_comm]
    simp
  · intro k hk
    simp only [PicPair.acknowledge]
    by_cases h8 : 8 ≤ n
    · rw [if_pos h8, Pic.acknowledge_isr h.slave_manual _ hk, h.slave_bit k hk, List.mem_cons]
      apply or_congr_left
      omega
    · rw [if_neg h8, h.slave_bit k hk, List.mem_cons]
      constructor
      · exact Or.inr
      · rintro (heq | hmem)
        · omega
        · exact hmem

/-- The handler entered last has the master's lowest bit in service. -/
theorem Nested.top_master (h : Nested s (n :: stack)) :
    s.master.isr.getLsbD (masterLine n) = true ∧
      ∀ j < masterLine n, s.master.isr.getLsbD j = false := by
  constructor
  · exact (h.master_bit (masterLine n) masterLine_lt).mpr ⟨n, List.mem_cons_self, rfl⟩
  · intro j hj
    by_contra hbit
    rw [Bool.not_eq_false, h.master_bit j (lt_trans hj masterLine_lt)] at hbit
    obtain ⟨m, hm, hline⟩ := hbit
    rcases List.mem_cons.mp hm with rfl | hm
    · omega
    · have := (List.pairwise_cons.mp h.ordered).1 m hm
      omega

/-- Two interrupts of the slave would share the master's input, so the others are the
master's. -/
theorem Nested.rest_on_master (h : Nested s (n :: stack)) (h8 : 8 ≤ n) :
    ∀ m ∈ stack, m < 8 := by
  intro m hm
  have hlt := (List.pairwise_cons.mp h.ordered).1 m hm
  by_contra hm8
  rw [masterLine, masterLine, if_neg (by omega), if_neg hm8] at hlt
  omega

/-- An interrupt of the slave is the only one in service there. -/
theorem Nested.top_slave (h : Nested s (n :: stack)) (h8 : 8 ≤ n) {j : ℕ} (hj : j < 8) :
    s.slave.isr.getLsbD j = true ↔ j = n - 8 := by
  rw [h.slave_bit j hj, List.mem_cons]
  constructor
  · rintro (heq | hmem)
    · omega
    · have := h.rest_on_master h8 _ hmem
      omega
  · intro heq
    exact Or.inl (by omega)

/-- **The handler entered last ends its interrupt.**  Its input is the master's
lowest bit in service, and on the slave it is the only one. -/
theorem Nested.endOfInterrupt (h : Nested s (n :: stack)) :
    Nested (picSendEoi (BitVec.ofNat 8 n) s) stack := by
  obtain ⟨hn, -⟩ := h.device n List.mem_cons_self
  obtain ⟨habove, hordered⟩ := List.pairwise_cons.mp h.ordered
  obtain ⟨hset, hlow⟩ := h.top_master
  have hirq : BitVec.ofNat 8 n ≥ 8 ↔ 8 ≤ n := by
    rw [ge_iff_le, BitVec.le_def, BitVec.toNat_ofNat, Nat.mod_eq_of_lt (by omega)]
    rfl
  rw [picSendEoi_eq, if_congr hirq rfl rfl]
  refine { master_manual := ?_
           slave_manual := ?_
           device := fun m hm => h.device m (List.mem_cons_of_mem n hm)
           ordered := hordered
           master_bit := ?_
           slave_bit := ?_ }
  · rw [Pic.endLowest_autoEoi]
    exact h.master_manual
  · split_ifs
    · rw [Pic.endLowest_autoEoi]
      exact h.slave_manual
    · exact h.slave_manual
  · intro k hk
    -- no other handler has the input of `n`, so clearing it takes `n` off and no more
    rw [Pic.endLowest_isr masterLine_lt hset hlow hk, h.master_bit k hk]
    constructor
    · rintro ⟨hne, m, hm, rfl⟩
      rcases List.mem_cons.mp hm with rfl | hm
      · exact absurd rfl hne
      · exact ⟨m, hm, rfl⟩
    · rintro ⟨m, hm, rfl⟩
      exact ⟨(habove m hm).ne', m, List.mem_cons_of_mem n hm, rfl⟩
  · intro k hk
    by_cases h8 : 8 ≤ n
    · have hslaveLow : ∀ j < n - 8, s.slave.isr.getLsbD j = false := by
        intro j hj
        rw [← Bool.not_eq_true, h.top_slave h8 (by omega)]
        omega
      -- the slave's register becomes empty, and no slave interrupt is left on the stack
      rw [if_pos h8, Pic.endLowest_isr (by omega) ((h.top_slave h8 (by omega)).mpr rfl) hslaveLow hk,
        h.top_slave h8 hk]
      constructor
      · rintro ⟨hne, heq⟩
        exact absurd heq hne
      · intro hmem
        have := h.rest_on_master h8 _ hmem
        omega
    · rw [if_neg h8, h.slave_bit k hk, List.mem_cons]
      constructor
      · rintro (heq | hmem)
        · omega
        · exact hmem
      · exact Or.inr

/-- Every step keeps the invariant. -/
theorem Nested.step {t : PicPair × List ℕ} (h : Nested s stack) (hstep : NestStep (s, stack) t) :
    Nested t.1 t.2 := by
  rcases hstep with ⟨hn, hdevice, hcan⟩ | _ | _
  · exact h.acknowledge hn hdevice hcan
  · exact h.endOfInterrupt
  · exact { h with }

/-- **Nested interrupts are ended correctly.**  In every state reached from a remap by
acknowledging interrupts and ending the one acknowledged last, `pic_get_isr` returns
the interrupts still in service, and bit 2 when one of them is the slave's. -/
theorem pic_isr_of_nesting (m o : Byte) (p : PicPair) (hm : p.master.isr = 0)
    (hs : p.slave.isr = 0) (s : PicPair) (stack : List ℕ)
    (h : Relation.ReflTransGen NestStep (picRemap m o p, []) (s, stack)) (k : ℕ) (hk : k < 16) :
    (picGetIsr s).1.getLsbD k = true ↔ k ∈ stack ∨ (k = 2 ∧ ∃ n ∈ stack, 8 ≤ n) := by
  have hnested : ∀ t : PicPair × List ℕ,
      Relation.ReflTransGen NestStep (picRemap m o p, []) t → Nested t.1 t.2 := by
    intro t ht
    induction ht with
    | refl => exact nested_picRemap m o hm hs
    | tail _ hstep ih => exact ih.step hstep
  have hfinal := hnested _ h
  rw [picGetIsr_bit s hk]
  by_cases h8 : k < 8
  · rw [if_pos h8, hfinal.master_bit k h8]
    constructor
    · rintro ⟨n, hn, hline⟩
      rw [masterLine] at hline
      by_cases hn8 : n < 8
      · rw [if_pos hn8] at hline
        exact Or.inl (hline ▸ hn)
      · rw [if_neg hn8] at hline
        exact Or.inr ⟨hline.symm, n, hn, not_lt.mp hn8⟩
    · rintro (hmem | ⟨rfl, n, hn, hn8⟩)
      · exact ⟨k, hmem, if_pos h8⟩
      · exact ⟨n, hn, if_neg (not_lt.mpr hn8)⟩
  · rw [if_neg h8, hfinal.slave_bit (k - 8) (by omega), Nat.sub_add_cancel (not_lt.mp h8)]
    constructor
    · exact Or.inl
    · rintro (hmem | ⟨rfl, -⟩)
      · exact hmem
      · omega

/-- IRQ 8 is interrupted by IRQ 1, which ends first: IRQ 8 and the cascade bit remain. -/
theorem pic_isr_of_nesting_quiet :
    let s := (picRemap 0x20 0x28 ⟨Pic.quiet, Pic.quiet⟩).acknowledge 8
    (picGetIsr (picSendEoi 1 (s.acknowledge 1))).1 = 0x0104 := by
  intro s
  have hready : (picRemap 0x20 0x28 ⟨Pic.quiet, Pic.quiet⟩).CanAcknowledge 8 :=
    ⟨by unfold Pic.CanAcknowledge; decide, fun _ => by unfold Pic.CanAcknowledge; decide⟩
  have hpriority : s.CanAcknowledge 1 :=
    ⟨by unfold Pic.CanAcknowledge; decide, fun h => absurd h (by omega)⟩
  have hbits := pic_isr_of_nesting 0x20 0x28 ⟨Pic.quiet, Pic.quiet⟩ rfl rfl
    (picSendEoi 1 (s.acknowledge 1)) [8]
    (((Relation.ReflTransGen.refl.tail (.acknowledge (by omega) (by omega) hready)).tail
      (.acknowledge (by omega) (by omega) hpriority)).tail .endOfInterrupt)
  apply BitVec.eq_of_getLsbD_eq
  intro k hk
  rw [Bool.eq_iff_iff, hbits k hk]
  interval_cases k <;> decide

end GridX64
