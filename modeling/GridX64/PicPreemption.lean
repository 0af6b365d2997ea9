/-
# Driver calls that interrupts preempt

The functions of the driver are sequences of port accesses, and an interrupt can come
between any two of them.  A served interrupt is acknowledged by the controllers, and its
handler, itself preempted by others, ends it with `pic_send_eoi`.

* `Served.sameButRequests` — a served interrupt leaves nothing but its request cleared;
* `picCall_preempted` — so a driver call does not notice the interrupts that preempt it;
* `maskUpdate_preempted_iff` — a call of the driver itself, between the two accesses of
  `pic_set_mask` or `pic_clear_mask`, goes unnoticed only if it touches no other mask of
  the controller.
-/
import GridX64.PicMasks
import GridX64.PicNesting
import GridX64.PortProgram

namespace GridX64

/-! ## The driver as programs -/

/-- The pair of controllers behind the ports. -/
def picDevice : PortDevice PicPair (BitVec 16) Byte :=
  { write := PicPair.outb, read := PicPair.inb }

/-- A sequence of port accesses. -/
abbrev PicProgram : Type → Type := PortProgram (BitVec 16) Byte

namespace PicProgram

/-- `io_wait`. -/
def ioWait : PicProgram Unit := .out 0x80 0x00

/-- `pic_remap`. -/
def remap (masterOffset slaveOffset : Byte) : PicProgram Unit := do
  let masterImr ← .inp masterPicData
  let slaveImr ← .inp slavePicData
  .out masterPicCommand (icw1Init ||| icw1Ic4)
  ioWait
  .out slavePicCommand (icw1Init ||| icw1Ic4)
  ioWait
  .out masterPicData masterOffset
  ioWait
  .out slavePicData slaveOffset
  ioWait
  .out masterPicData ((1 : Byte) <<< 2)
  ioWait
  .out slavePicData 0x02
  ioWait
  .out masterPicData icw48086
  ioWait
  .out slavePicData icw48086
  ioWait
  .out masterPicData masterImr
  ioWait
  .out slavePicData slaveImr
  ioWait

/-- `pic_set_mask` and `pic_clear_mask`. -/
def updateMask (combine : BitVec 32 → BitVec 32 → BitVec 32) (irq : Byte) : PicProgram Unit := do
  let (port, irq) := picLine irq
  let imr ← .inp port
  .out port ((combine (imr.setWidth 32) ((1 : BitVec 32) <<< irq.toNat)).setWidth 8)

/-- `pic_send_eoi`. -/
def sendEoi (irq : Byte) : PicProgram Unit :=
  if irq ≥ 8 then do
    .out slavePicCommand ocw2Eoi
    .out masterPicCommand ocw2Eoi
  else .out masterPicCommand ocw2Eoi

/-- `pic_disable`. -/
def disable : PicProgram Unit := do
  .out masterPicData 0xFF
  .out slavePicData 0xFF

/-- `pic_get_isr` and `pic_get_irr`. -/
def getRegister (ocw3 : Byte) : PicProgram (BitVec 16) := do
  .out masterPicCommand ocw3
  let master ← .inp masterPicCommand
  .out slavePicCommand ocw3
  let slave ← .inp slavePicCommand
  return ((slave.setWidth 32 <<< 8) ||| master.setWidth 32).setWidth 16

theorem exec_remap (m o : Byte) (s : PicPair) :
    (remap m o).exec picDevice s = ((), picRemap m o s) := rfl

theorem exec_updateMask (combine : BitVec 32 → BitVec 32 → BitVec 32) (irq : Byte) (s : PicPair) :
    (updateMask combine irq).exec picDevice s = ((), picUpdateMask combine irq s) := rfl

theorem exec_sendEoi (irq : Byte) (s : PicPair) :
    (sendEoi irq).exec picDevice s = ((), picSendEoi irq s) := by
  unfold sendEoi picSendEoi
  split_ifs <;> rfl

theorem exec_disable (s : PicPair) : disable.exec picDevice s = ((), picDisable s) := rfl

theorem exec_getRegister (ocw3 : Byte) (s : PicPair) :
    (getRegister ocw3).exec picDevice s = picGetRegister ocw3 s := rfl

end PicProgram

/-- The program of a driver call, and its result: a register for `pic_get_isr` and
`pic_get_irr`. -/
def PicCall.program : PicCall → PicProgram (Option (BitVec 16))
  | setMask irq => (PicProgram.updateMask (fun imr bit => imr ||| bit) irq).bind fun _ => .ret none
  | clearMask irq =>
      (PicProgram.updateMask (fun imr bit => imr &&& ~~~bit) irq).bind fun _ => .ret none
  | disable => PicProgram.disable.bind fun _ => .ret none
  | remap m o => (PicProgram.remap m o).bind fun _ => .ret none
  | sendEoi irq => (PicProgram.sendEoi irq).bind fun _ => .ret none
  | getIsr => (PicProgram.getRegister ocw3Isr).bind fun r => .ret (some r)
  | getIrr => (PicProgram.getRegister ocw3Irr).bind fun r => .ret (some r)

/-- What a call returns. -/
def PicCall.result (s : PicPair) : PicCall → Option (BitVec 16)
  | getIsr => some (picGetIsr s).1
  | getIrr => some (picGetIrr s).1
  | _ => none

/-- **The programs compute the functions.** -/
theorem PicCall.exec_program (call : PicCall) (s : PicPair) :
    call.program.exec picDevice s = (call.result s, picStep s call) := by
  cases call with
  | setMask irq | clearMask irq =>
      simp only [program, PortProgram.exec_bind, PicProgram.exec_updateMask]
      rfl
  | disable =>
      simp only [program, PortProgram.exec_bind, PicProgram.exec_disable]
      rfl
  | remap m o =>
      simp only [program, PortProgram.exec_bind, PicProgram.exec_remap]
      rfl
  | sendEoi irq =>
      simp only [program, PortProgram.exec_bind, PicProgram.exec_sendEoi]
      rfl
  | getIsr | getIrr =>
      simp only [program, PortProgram.exec_bind, PicProgram.exec_getRegister]
      rfl

/-! ## Interrupts -/

/-- Some interrupts have been served, one after another: each is acknowledged when it has
priority, and its handler, which others may interrupt, ends it. -/
inductive Served : PicPair → PicPair → Prop
  | done {s : PicPair} : Served s s
  | interrupt {s t u : PicPair} {n : ℕ} (hn : n < 16) (hdevice : n ≠ 2)
      (hcan : s.CanAcknowledge n) (hhandler : Served (s.acknowledge n) t)
      (hrest : Served (picSendEoi (BitVec.ofNat 8 n) t) u) : Served s u

/-- Only requests have changed, and none has been added. -/
structure SameButRequests (s t : PicPair) : Prop where
  master : t.master = { s.master with irr := t.master.irr }
  slave : t.slave = { s.slave with irr := t.slave.irr }
  master_le : ∀ k, t.master.irr.getLsbD k = true → s.master.irr.getLsbD k = true
  slave_le : ∀ k, t.slave.irr.getLsbD k = true → s.slave.irr.getLsbD k = true

/-- No controller ends its interrupts by itself. -/
structure PicPair.ManualEoi (s : PicPair) : Prop where
  master : s.master.autoEoi = false
  slave : s.slave.autoEoi = false

theorem SameButRequests.refl (s : PicPair) : SameButRequests s s :=
  { master := rfl, slave := rfl, master_le := fun _ h => h, slave_le := fun _ h => h }

theorem SameButRequests.trans {s t u : PicPair} (h : SameButRequests s t)
    (h' : SameButRequests t u) : SameButRequests s u := by
  refine { master := ?_
           slave := ?_
           master_le := fun k hk => h.master_le k (h'.master_le k hk)
           slave_le := fun k hk => h.slave_le k (h'.slave_le k hk) }
  · rw [h'.master, h.master]
  · rw [h'.slave, h.slave]

theorem SameButRequests.manualEoi {s t : PicPair} (h : SameButRequests s t) (hs : s.ManualEoi) :
    t.ManualEoi := by
  constructor
  · rw [h.master]
    exact hs.master
  · rw [h.slave]
    exact hs.slave

theorem PicPair.ManualEoi.acknowledge {s : PicPair} (hs : s.ManualEoi) (n : ℕ) :
    (s.acknowledge n).ManualEoi := by
  refine ⟨hs.master, ?_⟩
  rw [PicPair.acknowledge]
  split_ifs
  · exact hs.slave
  · exact hs.slave

namespace Pic

variable {p : Pic} {k : ℕ}

/-- An input that had priority and is ended leaves the in-service register as it was. -/
theorem endLowest_acknowledge (hp : p.autoEoi = false) (hk : k < 8) (hcan : p.CanAcknowledge k)
    (irr : Byte) :
    ({ p.acknowledge k with irr := irr } : Pic).endLowest = { p with irr := irr } := by
  have hbit : ∀ j < 8, (p.acknowledge k).isr.getLsbD j = true ↔ j = k ∨ p.isr.getLsbD j = true :=
    fun j hj => acknowledge_isr hp k hj
  have hset : (p.acknowledge k).isr.getLsbD k = true := (hbit k hk).mpr (Or.inl rfl)
  have hlow : ∀ j < k, (p.acknowledge k).isr.getLsbD j = false := by
    intro j hj
    rw [← Bool.not_eq_true, hbit j (by omega), hcan j hj.le]
    simp only [Bool.false_eq_true, or_false]
    omega
  have hisr : ({ p.acknowledge k with irr := irr } : Pic).endLowest.isr = p.isr := by
    apply BitVec.eq_of_getLsbD_eq
    intro j hj
    rw [Bool.eq_iff_iff, endLowest_isr (p := { p.acknowledge k with irr := irr }) hk hset hlow hj,
      hbit j hj]
    constructor
    · rintro ⟨hne, heq | hin⟩
      · exact absurd heq hne
      · exact hin
    · intro hin
      refine ⟨?_, Or.inr hin⟩
      rintro rfl
      rw [hcan j (Nat.le_refl j)] at hin
      exact Bool.false_ne_true hin
  obtain ⟨isr, hframe⟩ := endLowest_frame { p.acknowledge k with irr := irr }
  rw [hframe] at hisr ⊢
  rw [show isr = p.isr from hisr]
  rfl

theorem acknowledge_irr_le {j : ℕ} (h : (p.acknowledge k).irr.getLsbD j = true) :
    p.irr.getLsbD j = true := by
  rw [acknowledge, BitVec.getLsbD_and, Bool.and_eq_true] at h
  exact h.1

end Pic

/-- The argument of `pic_send_eoi` is the number of the interrupt. -/
theorem ofNat_ge_eight {n : ℕ} (hn : n < 16) : BitVec.ofNat 8 n ≥ (8 : Byte) ↔ 8 ≤ n := by
  rw [ge_iff_le, BitVec.le_def, BitVec.toNat_ofNat, Nat.mod_eq_of_lt (by omega)]
  rfl

/-- **A served interrupt**, its handler preempted or not, leaves nothing but requests cleared. -/
theorem Served.sameButRequests {s t : PicPair} (h : Served s t) (hs : s.ManualEoi) :
    SameButRequests s t := by
  induction h with
  | done => exact SameButRequests.refl _
  | @interrupt s t u n hn hdevice hcan hhandler hrest ihhandler ihrest =>
      -- the handler returns with the interrupt still in service
      have ht := ihhandler (hs.acknowledge n)
      have hmaster : t.master.endLowest = { s.master with irr := t.master.irr } := by
        rw [ht.master]
        exact Pic.endLowest_acknowledge hs.master masterLine_lt hcan.1 _
      have hslave : (if 8 ≤ n then t.slave.endLowest else t.slave)
          = { s.slave with irr := t.slave.irr } := by
        have hframe := ht.slave
        rw [PicPair.acknowledge] at hframe
        split_ifs at hframe ⊢ with h8
        · rw [hframe]
          exact Pic.endLowest_acknowledge hs.slave (by omega) (hcan.2 h8) _
        · exact hframe
      have hone : SameButRequests s (picSendEoi (BitVec.ofNat 8 n) t) := by
        rw [picSendEoi_eq, if_congr (ofNat_ge_eight hn) rfl rfl, hmaster, hslave]
        refine { master := rfl, slave := rfl, master_le := ?_, slave_le := ?_ }
        · exact fun k hk => Pic.acknowledge_irr_le (ht.master_le k hk)
        · intro k hk
          have hle := ht.slave_le k hk
          rw [PicPair.acknowledge] at hle
          split_ifs at hle
          · exact Pic.acknowledge_irr_le hle
          · exact hle
      exact hone.trans (ihrest (hone.manualEoi hs))

/-! ## Preempted calls -/

namespace Pic

/-- An end of interrupt does not look at the requests. -/
theorem endLowest_withRequests (p : Pic) (irr : Byte) :
    ({ p with irr := irr } : Pic).endLowest = { p.endLowest with irr := irr } := by
  have hlowest : ({ p with irr := irr } : Pic).lowestInService = p.lowestInService := rfl
  rw [endLowest, endLowest, hlowest]
  rcases p.lowestInService with _ | k <;> rfl

theorem endLowest_irr (p : Pic) : p.endLowest.irr = p.irr := by
  obtain ⟨isr, hframe⟩ := p.endLowest_frame
  rw [hframe]

/-- Nor does a command. -/
theorem writeCommand_withRequests (v : Byte) (p : Pic) (irr : Byte) :
    ({ p with irr := irr } : Pic).writeCommand v = { p.writeCommand v with irr := irr } := by
  unfold writeCommand
  split_ifs
  · rfl
  · rfl
  · rfl
  · rfl
  · exact endLowest_withRequests p irr
  · rfl

theorem writeCommand_irr (v : Byte) (p : Pic) : (p.writeCommand v).irr = p.irr := by
  unfold writeCommand
  split_ifs
  · rfl
  · rfl
  · rfl
  · rfl
  · exact endLowest_irr p
  · rfl

/-- Nor does a byte on the data port. -/
theorem writeData_withRequests (v : Byte) (p : Pic) (irr : Byte) :
    ({ p with irr := irr } : Pic).writeData v = { p.writeData v with irr := irr } := by
  unfold writeData
  rcases p.pending with _ | ⟨_ | _ | _, rest⟩ <;> rfl

theorem writeData_irr (v : Byte) (p : Pic) : (p.writeData v).irr = p.irr := by
  unfold writeData
  rcases p.pending with _ | ⟨_ | _ | _, rest⟩ <;> rfl

end Pic

/-- The same write keeps two pairs alike. -/
theorem SameButRequests.outb {s t : PicPair} (h : SameButRequests s t) (port : BitVec 16)
    (val : Byte) : SameButRequests (s.outb port val) (t.outb port val) := by
  obtain ⟨hmaster, hslave, hmle, hsle⟩ := h
  rw [PicPair.outb, PicPair.outb]
  split_ifs
  · refine { master := ?_, slave := hslave, master_le := ?_, slave_le := hsle }
    · rw [Pic.writeCommand_irr, hmaster]
      exact Pic.writeCommand_withRequests val s.master t.master.irr
    · intro k hk
      rw [Pic.writeCommand_irr] at hk ⊢
      exact hmle k hk
  · refine { master := ?_, slave := hslave, master_le := ?_, slave_le := hsle }
    · rw [Pic.writeData_irr, hmaster]
      exact Pic.writeData_withRequests val s.master t.master.irr
    · intro k hk
      rw [Pic.writeData_irr] at hk ⊢
      exact hmle k hk
  · refine { master := hmaster, slave := ?_, master_le := hmle, slave_le := ?_ }
    · rw [Pic.writeCommand_irr, hslave]
      exact Pic.writeCommand_withRequests val s.slave t.slave.irr
    · intro k hk
      rw [Pic.writeCommand_irr] at hk ⊢
      exact hsle k hk
  · refine { master := hmaster, slave := ?_, master_le := hmle, slave_le := ?_ }
    · rw [Pic.writeData_irr, hslave]
      exact Pic.writeData_withRequests val s.slave t.slave.irr
    · intro k hk
      rw [Pic.writeData_irr] at hk ⊢
      exact hsle k hk
  · exact ⟨hmaster, hslave, hmle, hsle⟩

/-- A read that does not look at the requests: of a mask, or of a command port where the
in-service register is selected. -/
def ReadsNoRequests (s : PicPair) (port : BitVec 16) : Prop :=
  (port = masterPicCommand → s.master.readIsr = true) ∧
    (port = slavePicCommand → s.slave.readIsr = true)

/-- Such a read gives the same value. -/
theorem SameButRequests.inb {s t : PicPair} (h : SameButRequests s t) {port : BitVec 16}
    (hport : ReadsNoRequests s port) : s.inb port = t.inb port := by
  obtain ⟨hmaster, hslave, -, -⟩ := h
  rw [PicPair.inb, PicPair.inb]
  split_ifs with h1 h2 h3
  · rw [hmaster, Pic.readCommand, Pic.readCommand, if_pos (hport.1 h1)]
    exact (if_pos (hport.1 h1)).symm
  · rw [hmaster]
    rfl
  · rw [hslave, Pic.readCommand, Pic.readCommand, if_pos (hport.2 h3)]
    exact (if_pos (hport.2 h3)).symm
  · rw [hslave]
    rfl

/-- **Interrupts are not noticed**: a program that does not look at requests, and along
which no controller ends interrupts by itself, ends as it would alone, but for requests
that have been served. -/
theorem interfered_served {α : Type} {p : PicProgram α} {s t : PicPair} {a : α}
    (halong : p.Along picDevice PicPair.ManualEoi ReadsNoRequests s)
    (h : p.Interfered picDevice Served s a t) :
    (p.exec picDevice s).1 = a ∧ SameButRequests (p.exec picDevice s).2 t := by
  refine PortProgram.Interfered.unseen picDevice ?_ ?_ ?_ halong (SameButRequests.refl s) h
  · exact fun u d d' hu hsame hserved => hsame.trans (hserved.sameButRequests (hsame.manualEoi hu))
  · exact fun u d port val hsame => hsame.outb port val
  · exact fun u d port hport hsame => hsame.inb hport

/-- The masks are on other ports. -/
theorem readsNoRequests_data (s : PicPair) {port : BitVec 16}
    (hport : port = masterPicData ∨ port = slavePicData) : ReadsNoRequests s port := by
  constructor
  · rintro rfl
    exact absurd hport (by decide)
  · rintro rfl
    exact absurd hport (by decide)

section Along

variable {s : PicPair}

/-- The words that a remap leaves in ICW4, its own or those from before. -/
theorem manualEoi_of_icw4 (hs : s.ManualEoi) {t : PicPair}
    (hmaster : t.master.icw4 = s.master.icw4 ∨ t.master.icw4 = icw48086)
    (hslave : t.slave.icw4 = s.slave.icw4 ∨ t.slave.icw4 = icw48086) : t.ManualEoi := by
  have hmode : ∀ p : Pic, p.icw4 = icw48086 → p.autoEoi = false := by
    intro p hp
    rw [Pic.autoEoi, hp]
    decide
  constructor
  · rcases hmaster with hold | hnew
    · rw [Pic.autoEoi, hold]
      exact hs.master
    · exact hmode _ hnew
  · rcases hslave with hold | hnew
    · rw [Pic.autoEoi, hold]
      exact hs.slave
    · exact hmode _ hnew

theorem along_remap (hs : s.ManualEoi) (m o : Byte) :
    (PicProgram.remap m o).Along picDevice PicPair.ManualEoi ReadsNoRequests s := by
  have hbefore : ∀ t : PicPair, t.master.icw4 = s.master.icw4 → t.slave.icw4 = s.slave.icw4 →
      t.ManualEoi := fun t hm hsl => manualEoi_of_icw4 hs (Or.inl hm) (Or.inl hsl)
  have hbetween : ∀ t : PicPair, t.master.icw4 = icw48086 → t.slave.icw4 = s.slave.icw4 →
      t.ManualEoi := fun t hm hsl => manualEoi_of_icw4 hs (Or.inr hm) (Or.inl hsl)
  have hafter : ∀ t : PicPair, t.master.icw4 = icw48086 → t.slave.icw4 = icw48086 →
      t.ManualEoi := fun t hm hsl => manualEoi_of_icw4 hs (Or.inr hm) (Or.inr hsl)
  refine ⟨hs, readsNoRequests_data s (Or.inl rfl), hs, readsNoRequests_data s (Or.inr rfl), ?_⟩
  -- the two ICW1, ICW2 and ICW3, each with its wait, then ICW4 and the masks
  refine ⟨hs, hbefore _ rfl rfl, hbefore _ rfl rfl, hbefore _ rfl rfl, hbefore _ rfl rfl,
    hbefore _ rfl rfl, hbefore _ rfl rfl, hbefore _ rfl rfl, hbefore _ rfl rfl, hbefore _ rfl rfl,
    hbefore _ rfl rfl, hbefore _ rfl rfl, hbefore _ rfl rfl, ?_⟩
  exact ⟨hbetween _ rfl rfl, hbetween _ rfl rfl, hafter _ rfl rfl, hafter _ rfl rfl,
    hafter _ rfl rfl, hafter _ rfl rfl, hafter _ rfl rfl, hafter _ rfl rfl⟩

/-- A command that is no ICW1 does not change the mode. -/
theorem Pic.writeCommand_icw4 {v : Byte} (hv : v &&& icw1Init = 0) (p : Pic) :
    (p.writeCommand v).icw4 = p.icw4 := by
  rw [Pic.writeCommand, if_neg (not_not.mpr hv)]
  split_ifs
  · rfl
  · rfl
  · obtain ⟨isr, hframe⟩ := p.endLowest_frame
    rw [hframe]
  · rfl

theorem manualEoi_outb_command (hs : s.ManualEoi) {v : Byte} (hv : v &&& icw1Init = 0)
    {port : BitVec 16} (hport : port = masterPicCommand ∨ port = slavePicCommand) :
    (s.outb port v).ManualEoi := by
  rcases hport with rfl | rfl
  · exact manualEoi_of_icw4 hs (Or.inl (s.master.writeCommand_icw4 hv)) (Or.inl rfl)
  · exact manualEoi_of_icw4 hs (Or.inl rfl) (Or.inl (s.slave.writeCommand_icw4 hv))

theorem Pic.writeData_icw4 {p : Pic} (hp : p.Operational) (v : Byte) :
    (p.writeData v).icw4 = p.icw4 := by
  rw [Pic.writeData_operational hp]

/-- A byte on the data port of an operational controller is no ICW4. -/
theorem manualEoi_outb_data (hs : s.ManualEoi) (hop : s.Operational) (v : Byte)
    {port : BitVec 16} (hport : port = masterPicData ∨ port = slavePicData) :
    (s.outb port v).ManualEoi := by
  rcases hport with rfl | rfl
  · exact manualEoi_of_icw4 hs (Or.inl (Pic.writeData_icw4 hop.master v)) (Or.inl rfl)
  · exact manualEoi_of_icw4 hs (Or.inl rfl) (Or.inl (Pic.writeData_icw4 hop.slave v))

theorem along_updateMask (hs : s.ManualEoi) (hop : s.Operational)
    (combine : BitVec 32 → BitVec 32 → BitVec 32) (irq : Byte) :
    (PicProgram.updateMask combine irq).Along picDevice PicPair.ManualEoi ReadsNoRequests s := by
  have hport : (picLine irq).1 = masterPicData ∨ (picLine irq).1 = slavePicData := by
    rw [picLine]
    split_ifs
    · exact Or.inl rfl
    · exact Or.inr rfl
  exact ⟨hs, readsNoRequests_data s hport, hs, manualEoi_outb_data hs hop _ hport⟩

theorem along_disable (hs : s.ManualEoi) (hop : s.Operational) :
    PicProgram.disable.Along picDevice PicPair.ManualEoi ReadsNoRequests s := by
  have hmaster := manualEoi_outb_data hs hop 0xFF (Or.inl rfl)
  have hop' : (s.outb masterPicData 0xFF).Operational := by
    refine ⟨?_, hop.slave⟩
    show (s.master.writeData 0xFF).Operational
    rw [Pic.writeData_operational hop.master]
    exact hop.master
  exact ⟨hs, hmaster, manualEoi_outb_data hmaster hop' 0xFF (Or.inr rfl)⟩

theorem along_sendEoi (hs : s.ManualEoi) (irq : Byte) :
    (PicProgram.sendEoi irq).Along picDevice PicPair.ManualEoi ReadsNoRequests s := by
  have heoi : ocw2Eoi &&& icw1Init = 0 := by decide
  unfold PicProgram.sendEoi
  split_ifs
  · have hslave := manualEoi_outb_command hs heoi (Or.inr rfl)
    exact ⟨hs, hslave, manualEoi_outb_command hslave heoi (Or.inl rfl)⟩
  · exact ⟨hs, manualEoi_outb_command hs heoi (Or.inl rfl)⟩

/-- `pic_get_isr` selects the register that it reads. -/
theorem along_getIsr (hs : s.ManualEoi) :
    (PicProgram.getRegister ocw3Isr).Along picDevice PicPair.ManualEoi ReadsNoRequests s := by
  have hocw3 : ocw3Isr &&& icw1Init = 0 := by decide
  have hmaster := manualEoi_outb_command hs hocw3 (Or.inl rfl)
  have hslave := manualEoi_outb_command hmaster hocw3 (Or.inr rfl)
  refine ⟨hs, hmaster, ⟨fun _ => rfl, fun h => absurd h (by decide)⟩, hmaster, ?_⟩
  exact ⟨hslave, ⟨fun h => absurd h (by decide), fun _ => rfl⟩, hslave⟩

/-- Along a call other than `pic_get_irr`, no request is looked at. -/
theorem along_program (hs : s.ManualEoi) (hop : s.Operational) {call : PicCall}
    (hcall : call ≠ .getIrr) :
    call.program.Along picDevice PicPair.ManualEoi ReadsNoRequests s := by
  cases call with
  | setMask irq =>
      have h := along_updateMask hs hop (fun imr bit => imr ||| bit) irq
      exact h.bind _ (h.exec _)
  | clearMask irq =>
      have h := along_updateMask hs hop (fun imr bit => imr &&& ~~~bit) irq
      exact h.bind _ (h.exec _)
  | disable => exact (along_disable hs hop).bind _ ((along_disable hs hop).exec _)
  | remap m o => exact (along_remap hs m o).bind _ ((along_remap hs m o).exec _)
  | sendEoi irq => exact (along_sendEoi hs irq).bind _ ((along_sendEoi hs irq).exec _)
  | getIsr => exact (along_getIsr hs).bind _ ((along_getIsr hs).exec _)
  | getIrr => exact absurd rfl hcall

end Along

/-- **Interrupts do not disturb the driver.**  On an operational pair with manual EOI, a call
other than `pic_get_irr` that is preempted, between any two of its port accesses, by any
number of interrupts, nested or not, returns what it would have returned alone, and leaves
the controllers as it would have left them, but for the requests that have been served. -/
theorem picCall_preempted {s t : PicPair} (hop : s.Operational) (hs : s.ManualEoi) {call : PicCall}
    (hcall : call ≠ .getIrr) {r : Option (BitVec 16)}
    (h : call.program.Interfered picDevice Served s r t) :
    r = call.result s ∧ SameButRequests (picStep s call) t := by
  have hend := interfered_served (along_program hs hop hcall) h
  rw [call.exec_program] at hend
  exact ⟨hend.1.symm, hend.2⟩

/-- IRQ 1 is served between the two accesses of `pic_set_mask(3)`. -/
theorem picCall_preempted_keyboard : ∃ t : PicPair,
    (PicCall.setMask 3).program.Interfered picDevice Served
        ⟨{ Pic.quiet with irr := 2 }, Pic.quiet⟩ none t ∧
      SameButRequests (picStep ⟨{ Pic.quiet with irr := 2 }, Pic.quiet⟩ (.setMask 3)) t := by
  have hready : PicPair.CanAcknowledge 1 ⟨{ Pic.quiet with irr := 2 }, Pic.quiet⟩ :=
    ⟨by unfold Pic.CanAcknowledge; decide, fun h => absurd h (by omega)⟩
  have hserved : Served ⟨{ Pic.quiet with irr := 2 }, Pic.quiet⟩ _ :=
    .interrupt (by omega) (by omega) hready .done .done
  have hrun : (PicCall.setMask 3).program.Interfered picDevice Served
      ⟨{ Pic.quiet with irr := 2 }, Pic.quiet⟩ none _ :=
    .read .done (.write hserved (.ret .done))
  have hop : PicPair.Operational ⟨{ Pic.quiet with irr := 2 }, Pic.quiet⟩ := ⟨rfl, rfl⟩
  have hmanual : PicPair.ManualEoi ⟨{ Pic.quiet with irr := 2 }, Pic.quiet⟩ := ⟨rfl, rfl⟩
  exact ⟨_, hrun, (picCall_preempted hop hmanual PicCall.noConfusion hrun).2⟩

/-! ## Handlers that call the driver -/

/-- `pic_set_mask` or `pic_clear_mask`. -/
def maskCall (masked : Bool) (irq : Byte) : PicCall :=
  if masked then .setMask irq else .clearMask irq

/-- How it combines a mask with a bit. -/
def maskCombine (masked : Bool) (imr bit : BitVec 32) : BitVec 32 :=
  if masked then imr ||| bit else imr &&& ~~~bit

theorem editsBit_maskCombine (masked : Bool) : EditsBit masked (maskCombine masked) := by
  cases masked
  · exact editsBit_and_not
  · exact editsBit_or

theorem maskEffect_maskCall (masked : Bool) (irq : Byte) (n : ℕ) :
    (maskCall masked irq).maskEffect n = if irq.toNat = n then some masked else none := by
  cases masked <;> rfl

/-- `w`, with the mask register that the call for `irq` reads as it is in `v`. -/
def withMaskOf (irq : Byte) (v w : PicPair) : PicPair :=
  if irq < 8 then { w with master := { w.master with imr := v.master.imr } }
  else { w with slave := { w.slave with imr := v.slave.imr } }

theorem withMaskOf_masked (irq : Byte) (v w : PicPair) (n : ℕ) :
    (withMaskOf irq v w).masked n
      = if (n < 8 ↔ irq.toNat < 8) then v.masked n else w.masked n := by
  have hlow : irq < 8 ↔ irq.toNat < 8 := Iff.rfl
  rw [withMaskOf]
  by_cases hirq : irq < 8
  · rw [if_pos hirq]
    by_cases hn : n < 8
    · rw [if_pos (iff_of_true hn (hlow.mp hirq)), PicPair.masked, PicPair.masked, if_pos hn,
        if_pos hn]
    · rw [if_neg (fun h => hn (h.mpr (hlow.mp hirq))), PicPair.masked, PicPair.masked, if_neg hn,
        if_neg hn]
  · rw [if_neg hirq]
    by_cases hn : n < 8
    · rw [if_neg (fun h => hirq (hlow.mpr (h.mp hn))), PicPair.masked, PicPair.masked, if_pos hn,
        if_pos hn]
    · rw [if_pos (iff_of_false hn (fun h => hirq (hlow.mpr h))), PicPair.masked, PicPair.masked,
        if_neg hn, if_neg hn]

/-- The call read its mask in `v` and writes it back in `w`: it works on a mask register
that has gone stale. -/
theorem picUpdateMask_stale (combine : BitVec 32 → BitVec 32 → BitVec 32) (irq : Byte)
    (v : PicPair) {w : PicPair} (hw : w.Operational) :
    w.outb (picLine irq).1 ((combine ((v.inb (picLine irq).1).setWidth 32)
        ((1 : BitVec 32) <<< (picLine irq).2.toNat)).setWidth 8)
      = picUpdateMask combine irq (withMaskOf irq v w) := by
  by_cases hirq : irq < 8
  · have hstale : (withMaskOf irq v w).master.Operational := by
      rw [withMaskOf, if_pos hirq]
      exact hw.master
    have hline : picLine irq = (masterPicData, irq) := if_pos hirq
    rw [picUpdateMask_master combine hirq hstale, hline, withMaskOf, if_pos hirq]
    show { w with master := w.master.writeData _ } = _
    rw [Pic.writeData_operational hw.master]
    rfl
  · have hstale : (withMaskOf irq v w).slave.Operational := by
      rw [withMaskOf, if_neg hirq]
      exact hw.slave
    have hline : picLine irq = (slavePicData, irq - 8) := if_neg hirq
    rw [picUpdateMask_slave combine hirq hstale, hline, withMaskOf, if_neg hirq]
    show { w with slave := w.slave.writeData _ } = _
    rw [Pic.writeData_operational hw.slave]
    rfl

theorem withMaskOf_operational (irq : Byte) (v : PicPair) {w : PicPair} (hw : w.Operational) :
    (withMaskOf irq v w).Operational := by
  rw [withMaskOf]
  split_ifs
  · exact ⟨hw.master, hw.slave⟩
  · exact ⟨hw.master, hw.slave⟩

section LostUpdates

variable {s : PicPair} {irq : Byte} {before between after : List PicCall}

/-- The call among calls before it, between its two accesses and after it. -/
theorem execAmong_maskCall (masked : Bool) (irq : Byte) (before between after : List PicCall)
    (s : PicPair) :
    ((maskCall masked irq).program.execAmong picDevice
        [(run picStep · before), (run picStep · between), (run picStep · after)] s).2
      = run picStep ((run picStep s (before ++ between)).outb (picLine irq).1
          ((maskCombine masked (((run picStep s before).inb (picLine irq).1).setWidth 32)
            ((1 : BitVec 32) <<< (picLine irq).2.toNat)).setWidth 8)) after := by
  rw [run_append]
  cases masked <;> rfl

/-- The masks that such a call leaves: its controller's are those from before `between`. -/
theorem execAmong_maskCall_masked (hop : s.Operational) (masked : Bool) (hirq : irq < 16)
    (hcalls : ∀ call ∈ before ++ between ++ after, call.Valid) {n : ℕ} (hn : n < 16) :
    ((maskCall masked irq).program.execAmong picDevice
        [(run picStep · before), (run picStep · between), (run picStep · after)] s).2.masked n
      = (after.filterMap (PicCall.maskEffect n)).getLast?.getD
          (if irq.toNat = n then masked
           else if (n < 8 ↔ irq.toNat < 8) then (run picStep s before).masked n
           else (run picStep s (before ++ between)).masked n) := by
  have hbetween : (run picStep s (before ++ between)).Operational :=
    picRun_operational hop (fun call hcall => hcalls call (List.mem_append_left _ hcall))
  have hstale := withMaskOf_operational irq (run picStep s before) hbetween
  obtain ⟨hcall, -, hmask⟩ := picUpdateMask_spec (editsBit_maskCombine masked) hirq hstale
  rw [execAmong_maskCall, picUpdateMask_stale _ _ _ hbetween,
    picRun_masked hcall (fun call hcall => hcalls call (List.mem_append_right _ hcall)) hn,
    hmask n hn, withMaskOf_masked]

/-- The masks that the call leaves when `between` comes before it. -/
theorem run_maskCall_masked (hop : s.Operational) (masked : Bool) (hirq : irq < 16)
    (hcalls : ∀ call ∈ before ++ between ++ after, call.Valid) {n : ℕ} (hn : n < 16) :
    (run picStep s (before ++ between ++ maskCall masked irq :: after)).masked n
      = (after.filterMap (PicCall.maskEffect n)).getLast?.getD
          (if irq.toNat = n then masked
           else (run picStep s (before ++ between)).masked n) := by
  have hbetween : (run picStep s (before ++ between)).Operational :=
    picRun_operational hop (fun call hcall => hcalls call (List.mem_append_left _ hcall))
  have hvalid : (maskCall masked irq).Valid := by
    cases masked <;> exact hirq
  obtain ⟨hcall, -, hmask⟩ := picStep_spec hbetween hvalid
  rw [run_append, run_cons,
    picRun_masked hcall (fun call hcall => hcalls call (List.mem_append_right _ hcall)) hn,
    hmask n hn, maskEffect_maskCall]
  split_ifs <;> rfl

/-- **Lost updates.**  `pic_set_mask` and `pic_clear_mask` read a mask register and write
it back.  When handlers call the driver before, between and after the two accesses, all
IRQs are masked at the end as if the calls in between had come first if and only if these
changed no other mask of the same controller, except where a later call overwrites it. -/
theorem maskUpdate_preempted_iff (hop : s.Operational) (masked : Bool) (hirq : irq < 16)
    (hcalls : ∀ call ∈ before ++ between ++ after, call.Valid) :
    let t := ((maskCall masked irq).program.execAmong picDevice
      [(run picStep · before), (run picStep · between), (run picStep · after)] s).2
    let u := run picStep s (before ++ between ++ maskCall masked irq :: after)
    (∀ n < 16, t.masked n = u.masked n) ↔
      ∀ n < 16, n ≠ irq.toNat → (n < 8 ↔ irq.toNat < 8) →
        after.filterMap (PicCall.maskEffect n) = [] →
          (run picStep s (before ++ between)).masked n = (run picStep s before).masked n := by
  intro t u
  have ht : ∀ n < 16, t.masked n = _ := fun n hn =>
    execAmong_maskCall_masked hop masked hirq hcalls hn
  have hu : ∀ n < 16, u.masked n = _ := fun n hn => run_maskCall_masked hop masked hirq hcalls hn
  constructor
  · intro h n hn hne hside hafter
    have heq := h n hn
    rw [ht n hn, hu n hn, hafter, if_neg (Ne.symm hne), if_neg (Ne.symm hne), if_pos hside] at heq
    exact heq.symm
  · intro h n hn
    rw [ht n hn, hu n hn]
    rcases hafter : (after.filterMap (PicCall.maskEffect n)).getLast? with _ | v
    · by_cases hne : irq.toNat = n
      · rw [if_pos hne, if_pos hne]
      · rw [if_neg hne, if_neg hne]
        by_cases hside : n < 8 ↔ irq.toNat < 8
        · rw [if_pos hside, h n hn (Ne.symm hne) hside (List.getLast?_eq_none_iff.mp hafter)]
        · rw [if_neg hside]
    · rfl

/-- A handler that masks IRQ 4 while `pic_set_mask(3)` is under way is not heard. -/
theorem maskUpdate_preempted_lost :
    ¬ ∀ n < 16, ((maskCall true 3).program.execAmong picDevice
        [(run picStep · []), (run picStep · [.setMask 4]), (run picStep · [])]
        ⟨Pic.quiet, Pic.quiet⟩).2.masked n
      = (run picStep ⟨Pic.quiet, Pic.quiet⟩ [.setMask 4, .setMask 3]).masked n := by
  have hop : PicPair.Operational ⟨Pic.quiet, Pic.quiet⟩ := ⟨rfl, rfl⟩
  have hiff := @maskUpdate_preempted_iff ⟨Pic.quiet, Pic.quiet⟩ 3 [] [.setMask 4] [] hop true
    (by decide) (by simp [PicCall.Valid])
  intro h
  have hsame := hiff.mp h 4 (by omega) (by decide) (by decide) rfl
  exact absurd hsame (by decide)

end LostUpdates

end GridX64
