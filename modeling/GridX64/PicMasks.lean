/-
# The IRQ masks over driver calls

`pic_remap` wipes both masks and has to put them back after the last initialisation
word; every other call must find both controllers waiting for a mask.  A call either
overwrites an IRQ's mask or leaves it (`PicCall.maskEffect`), and either overwrites
the programming of the pair or leaves it (`PicCall.setupEffect`).

* `picUpdateMask_spec` — setting and clearing a mask touch one IRQ;
* `picStep_spec` — one call;
* `pic_masks_survive` — every sequence of calls.
-/
import GridX64.I8259
import GridX64.Runs

namespace GridX64

/-! ## The pair as the driver's users see it -/

namespace PicPair

/-- Neither controller waits for an initialisation word. -/
structure Operational (s : PicPair) : Prop where
  master : s.master.Operational
  slave : s.slave.Operational

/-- IRQ `n` is masked. -/
def masked (s : PicPair) (n : ℕ) : Bool :=
  if n < 8 then s.master.imr.getLsbD n else s.slave.imr.getLsbD (n - 8)

end PicPair

/-- What an initialisation leaves behind in the pair. -/
@[ext]
structure PicSetup where
  masterBase : Byte
  slaveBase : Byte
  masterCascade : Byte
  slaveCascade : Byte
  master8086 : Bool
  slave8086 : Bool

/-- The vector base in an ICW2: its low three bits come from the IRQ. -/
def vectorBase (icw2 : Byte) : Byte := icw2 &&& 0xF8

/-- The programming of the pair. -/
def PicPair.setup (s : PicPair) : PicSetup where
  masterBase := vectorBase s.master.icw2
  slaveBase := vectorBase s.slave.icw2
  masterCascade := s.master.icw3
  slaveCascade := s.slave.icw3
  master8086 := s.master.icw4.getLsbD 0
  slave8086 := s.slave.icw4.getLsbD 0

/-- The programming that `pic_remap(m, o)` is for: cascade words 4 and 2, 8086 mode. -/
def remapped (m o : Byte) : PicSetup := ⟨m, o, 4, 2, true, true⟩

/-! ## Calls of the driver -/

/-- A call of the driver. -/
inductive PicCall
  | setMask (irq : Byte)
  | clearMask (irq : Byte)
  | disable
  | remap (masterOffset slaveOffset : Byte)
  | sendEoi (irq : Byte)
  | getIsr
  | getIrr

namespace PicCall

/-- The arguments a caller may use: an IRQ of the pair, offsets divisible by 8. -/
def Valid : PicCall → Prop
  | setMask irq => irq < 16
  | clearMask irq => irq < 16
  | remap masterOffset slaveOffset => 8 ∣ masterOffset.toNat ∧ 8 ∣ slaveOffset.toNat
  | _ => True

/-- What a call says about the mask of IRQ `n`, if anything. -/
def maskEffect (n : ℕ) : PicCall → Option Bool
  | setMask irq => if irq.toNat = n then some true else none
  | clearMask irq => if irq.toNat = n then some false else none
  | disable => some true
  | _ => none

/-- The offsets of a `pic_remap`. -/
def offsets : PicCall → Option (Byte × Byte)
  | remap masterOffset slaveOffset => some (masterOffset, slaveOffset)
  | _ => none

/-- What a call says about the programming of the pair, if anything. -/
def setupEffect (call : PicCall) : Option PicSetup :=
  call.offsets.map fun (m, o) => remapped m o

end PicCall

/-- One call, its result dropped. -/
def picStep (s : PicPair) : PicCall → PicPair
  | .setMask irq => picSetMask irq s
  | .clearMask irq => picClearMask irq s
  | .disable => picDisable s
  | .remap masterOffset slaveOffset => picRemap masterOffset slaveOffset s
  | .sendEoi irq => picSendEoi irq s
  | .getIsr => (picGetIsr s).2
  | .getIrr => (picGetIrr s).2

/-! ## One call -/

/-- Combining a mask with the bit `k` gives bit `k` the value `v` and keeps the others. -/
def EditsBit (v : Bool) (combine : BitVec 32 → BitVec 32 → BitVec 32) : Prop :=
  ∀ (imr : BitVec 32) (k j : ℕ), k < 8 → j < 8 →
    (combine imr ((1 : BitVec 32) <<< k)).getLsbD j = if j = k then v else imr.getLsbD j

/-- `pic_set_mask`'s or sets the bit. -/
theorem editsBit_or : EditsBit true fun imr bit => imr ||| bit := by
  intro imr k j hk hj
  rw [BitVec.getLsbD_or, getLsbD_one_shiftLeft (by omega)]
  by_cases h : j = k <;> simp [h]

/-- `pic_clear_mask`'s and with the complement clears it. -/
theorem editsBit_and_not : EditsBit false fun imr bit => imr &&& ~~~bit := by
  intro imr k j hk hj
  rw [BitVec.getLsbD_and, BitVec.getLsbD_not, getLsbD_one_shiftLeft (by omega)]
  by_cases h : j = k
  · simp [h]
  · simp [h]
    omega

/-- **Setting or clearing a mask touches one IRQ**, and neither the programming nor
the readiness of the pair. -/
theorem picUpdateMask_spec {v : Bool} {combine : BitVec 32 → BitVec 32 → BitVec 32}
    (hedit : EditsBit v combine) {irq : Byte} (hirq : irq < 16) {s : PicPair}
    (hs : s.Operational) :
    (picUpdateMask combine irq s).Operational ∧
      (picUpdateMask combine irq s).setup = s.setup ∧
      ∀ n < 16, (picUpdateMask combine irq s).masked n
        = if irq.toNat = n then v else s.masked n := by
  have hlt : irq.toNat < 16 := hirq
  -- the narrowed mask, bit by bit
  have hbit : ∀ (imr : Byte) (k j : ℕ), k < 8 → j < 8 →
      ((combine (imr.setWidth 32) ((1 : BitVec 32) <<< k)).setWidth 8).getLsbD j
        = if j = k then v else imr.getLsbD j := by
    intro imr k j hk hj
    rw [BitVec.getLsbD_setWidth, hedit _ k j hk hj, BitVec.getLsbD_setWidth]
    by_cases h : j = k <;> simp [h, hj] <;> omega
  by_cases hlow : irq < 8
  · have hlow' : irq.toNat < 8 := hlow
    rw [picUpdateMask_master combine hlow hs.master]
    refine ⟨⟨hs.master, hs.slave⟩, rfl, ?_⟩
    intro n hn
    simp only [PicPair.masked]
    by_cases hn8 : n < 8
    · rw [if_pos hn8, if_pos hn8, hbit _ _ _ hlow' hn8]
      apply if_congr eq_comm rfl rfl
    · rw [if_neg hn8, if_neg hn8, if_neg (by omega)]
  · have hsub : (irq - 8).toNat = irq.toNat - 8 := by bv_omega
    have hge : 8 ≤ irq.toNat := not_lt.mp hlow
    -- the slave masks line `irq` with bit `irq - 8`
    rw [picUpdateMask_slave combine hlow hs.slave, hsub]
    refine ⟨⟨hs.master, hs.slave⟩, rfl, ?_⟩
    intro n hn
    simp only [PicPair.masked]
    by_cases hn8 : n < 8
    · rw [if_pos hn8, if_pos hn8, if_neg (by omega)]
    · rw [if_neg hn8, if_neg hn8, hbit _ _ _ (by omega) (by omega)]
      apply if_congr _ rfl rfl
      omega

theorem picDisable_spec {s : PicPair} (hs : s.Operational) :
    (picDisable s).Operational ∧ (picDisable s).setup = s.setup ∧
      ∀ n < 16, (picDisable s).masked n = true := by
  rw [picDisable_eq hs.master hs.slave]
  refine ⟨⟨hs.master, hs.slave⟩, rfl, ?_⟩
  intro n hn
  have hones : ∀ k < 8, (0xFF : Byte).getLsbD k = true := by decide
  simp only [PicPair.masked]
  by_cases hn8 : n < 8
  · rw [if_pos hn8, hones n hn8]
  · rw [if_neg hn8, hones (n - 8) (by omega)]

/-- An offset divisible by 8 is its own vector base. -/
theorem vectorBase_of_dvd {m : Byte} (hm : 8 ∣ m.toNat) : vectorBase m = m := by
  apply BitVec.eq_of_toNat_eq
  have h : ∀ m : Fin 256, 8 ∣ m.val → m.val &&& 0xF8 = m.val := by decide +kernel
  rw [vectorBase, BitVec.toNat_and]
  exact h ⟨m.toNat, m.isLt⟩ hm

/-- **A remap leaves every mask as it was.** -/
theorem picRemap_spec {m o : Byte} (hm : 8 ∣ m.toNat) (ho : 8 ∣ o.toNat) (s : PicPair) :
    (picRemap m o s).Operational ∧ (picRemap m o s).setup = remapped m o ∧
      ∀ n, (picRemap m o s).masked n = s.masked n := by
  rw [picRemap_eq]
  refine ⟨⟨rfl, rfl⟩, ?_, fun n => rfl⟩
  have hmode : icw48086.getLsbD 0 = true := by decide
  simp only [PicPair.setup, remapped, vectorBase_of_dvd hm, vectorBase_of_dvd ho, hmode]

/-- An end of interrupt changes the in-service register only. -/
theorem Pic.endLowest_frame (p : Pic) : ∃ isr, p.endLowest = { p with isr := isr } := by
  rw [Pic.endLowest]
  rcases p.lowestInService with _ | k
  · exact ⟨p.isr, rfl⟩
  · exact ⟨_, rfl⟩

theorem picSendEoi_spec (irq : Byte) {s : PicPair} (hs : s.Operational) :
    (picSendEoi irq s).Operational ∧ (picSendEoi irq s).setup = s.setup ∧
      ∀ n, (picSendEoi irq s).masked n = s.masked n := by
  obtain ⟨masterIsr, hmaster⟩ := s.master.endLowest_frame
  obtain ⟨slaveIsr, hslave⟩ := s.slave.endLowest_frame
  rw [picSendEoi_eq, hmaster, hslave]
  by_cases hirq : irq ≥ 8
  · rw [if_pos hirq]
    exact ⟨⟨hs.master, hs.slave⟩, rfl, fun n => rfl⟩
  · rw [if_neg hirq]
    exact ⟨⟨hs.master, hs.slave⟩, rfl, fun n => rfl⟩

/-- **One call.**  The pair stays operational, and each mask and the programming are
overwritten or left as the call says. -/
theorem picStep_spec {s : PicPair} (hs : s.Operational) {call : PicCall} (hcall : call.Valid) :
    (picStep s call).Operational ∧
      (picStep s call).setup = call.setupEffect.getD s.setup ∧
      ∀ n < 16, (picStep s call).masked n = (call.maskEffect n).getD (s.masked n) := by
  rcases call with irq | irq | _ | ⟨m, o⟩ | irq | _ | _
  · -- pic_set_mask
    obtain ⟨hop, hsetup, hmask⟩ := picUpdateMask_spec editsBit_or hcall hs
    refine ⟨hop, hsetup, ?_⟩
    intro n hn
    rw [picStep, picSetMask, hmask n hn, PicCall.maskEffect]
    by_cases h : irq.toNat = n <;> simp [h]
  · -- pic_clear_mask
    obtain ⟨hop, hsetup, hmask⟩ := picUpdateMask_spec editsBit_and_not hcall hs
    refine ⟨hop, hsetup, ?_⟩
    intro n hn
    rw [picStep, picClearMask, hmask n hn, PicCall.maskEffect]
    by_cases h : irq.toNat = n <;> simp [h]
  · exact picDisable_spec hs
  · obtain ⟨hop, hsetup, hmask⟩ := picRemap_spec hcall.1 hcall.2 s
    exact ⟨hop, hsetup, fun n _ => hmask n⟩
  · obtain ⟨hop, hsetup, hmask⟩ := picSendEoi_spec irq hs
    exact ⟨hop, hsetup, fun n _ => hmask n⟩
  · exact ⟨⟨hs.master, hs.slave⟩, rfl, fun n _ => rfl⟩
  · exact ⟨⟨hs.master, hs.slave⟩, rfl, fun n _ => rfl⟩

/-! ## Sequences of calls -/

variable {s : PicPair} {calls : List PicCall}

theorem picRun_operational (hs : s.Operational) (hcalls : ∀ call ∈ calls, call.Valid) :
    (run picStep s calls).Operational :=
  run_invariant_of_mem PicPair.Operational hs
    (fun _ hs call hcall => (picStep_spec hs (hcalls call hcall)).1)

theorem picRun_masked (hs : s.Operational) (hcalls : ∀ call ∈ calls, call.Valid) {n : ℕ}
    (hn : n < 16) : (run picStep s calls).masked n
      = (calls.filterMap (PicCall.maskEffect n)).getLast?.getD (s.masked n) := by
  apply run_observe PicPair.Operational (fun s => s.masked n) hs
  · exact fun _ hs call hcall => (picStep_spec hs (hcalls call hcall)).1
  · exact fun _ hs call hcall => (picStep_spec hs (hcalls call hcall)).2.2 n hn

theorem picRun_setup (hs : s.Operational) (hcalls : ∀ call ∈ calls, call.Valid) :
    (run picStep s calls).setup
      = (calls.filterMap PicCall.setupEffect).getLast?.getD s.setup := by
  apply run_observe PicPair.Operational PicPair.setup hs
  · exact fun _ hs call hcall => (picStep_spec hs (hcalls call hcall)).1
  · exact fun _ hs call hcall => (picStep_spec hs (hcalls call hcall)).2.1

/-- **The IRQ masks survive every sequence of driver calls.**  After any sequence both
controllers are operational, each IRQ is masked as the last call about it left it, and
the programming is that of the last remap. -/
theorem pic_masks_survive (s : PicPair) (hs : s.Operational) (calls : List PicCall)
    (hcalls : ∀ call ∈ calls, call.Valid) :
    let t := run picStep s calls
    t.Operational ∧
      (∀ n < 16, t.masked n
        = (calls.filterMap (PicCall.maskEffect n)).getLast?.getD (s.masked n)) ∧
      ∀ m o, (calls.filterMap PicCall.offsets).getLast? = some (m, o) →
        t.setup = remapped m o := by
  refine ⟨picRun_operational hs hcalls, fun n hn => picRun_masked hs hcalls hn, ?_⟩
  intro m o hlast
  have hsetup : calls.filterMap PicCall.setupEffect
      = (calls.filterMap PicCall.offsets).map fun (m, o) => remapped m o := by
    rw [List.map_filterMap]
    rfl
  -- the calls that program the pair are the remaps, so the last one decides
  rw [picRun_setup hs hcalls, hsetup, List.getLast?_map, hlast]
  rfl

/-- IRQ 3 is unmasked again after a remap, IRQ 11 stays masked. -/
theorem pic_masks_survive_quiet :
    let t := run picStep ⟨Pic.quiet, Pic.quiet⟩
      [.setMask 3, .setMask 11, .remap 0x20 0x28, .sendEoi 11, .clearMask 3]
    t.Operational ∧ t.masked 3 = false ∧ t.masked 11 = true ∧ t.setup = remapped 0x20 0x28 := by
  obtain ⟨hop, hmask, hsetup⟩ := pic_masks_survive ⟨Pic.quiet, Pic.quiet⟩ ⟨rfl, rfl⟩
    [.setMask 3, .setMask 11, .remap 0x20 0x28, .sendEoi 11, .clearMask 3]
    (by simp [PicCall.Valid])
  exact ⟨hop, hmask 3 (by omega), hmask 11 (by omega), hsetup 0x20 0x28 rfl⟩

end GridX64
