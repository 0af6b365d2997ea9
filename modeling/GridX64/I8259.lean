/-
# The 8259 interrupt controllers and their driver (src/drivers/i8259)

The driver reaches the two controllers only through their four ports.  `Pic` is one
controller as a port user sees it: the initialisation words it is programmed with,
the ones it still waits for, and its mask, in-service and request registers.
`PicPair` is the master and the slave behind `outb` and `inb`.

The driver's functions are the port accesses of the source, in its order.
-/
import GridX64.ByteMemory

namespace GridX64

/-! ## Constants of `i8259.h` -/

/-- `MASTER_PIC_COMMAND`. -/
abbrev masterPicCommand : BitVec 16 := 0x20

/-- `MASTER_PIC_DATA`. -/
abbrev masterPicData : BitVec 16 := 0x21

/-- `SLAVE_PIC_COMMAND`. -/
abbrev slavePicCommand : BitVec 16 := 0xA0

/-- `SLAVE_PIC_DATA`. -/
abbrev slavePicData : BitVec 16 := 0xA1

/-- `ICW1_IC4`: an ICW4 will be sent. -/
abbrev icw1Ic4 : Byte := 0x01

/-- `ICW1_SNGL`: a single controller, no ICW3. -/
abbrev icw1Sngl : Byte := 0x02

/-- `ICW1_INIT`: begin an initialisation. -/
abbrev icw1Init : Byte := 0x10

/-- `ICW4_8086`. -/
abbrev icw48086 : Byte := 0x01

/-- `ICW4_AUTO_EOI`. -/
abbrev icw4AutoEoi : Byte := 0x02

/-- `OCW2_EOI`: a non-specific end of interrupt. -/
abbrev ocw2Eoi : Byte := 0x20

/-- `OCW3_IRR`. -/
abbrev ocw3Irr : Byte := 0x0A

/-- `OCW3_ISR`. -/
abbrev ocw3Isr : Byte := 0x0B

/-! ## One controller -/

/-- The initialisation words that follow ICW1 on the data port. -/
inductive Icw
  | icw2
  | icw3
  | icw4
deriving DecidableEq

/-- An 8259.  `pending` are the words of an initialisation still to come, and
`readIsr` is the register that the last OCW3 selected for command reads. -/
structure Pic where
  imr : Byte
  isr : Byte
  irr : Byte
  icw2 : Byte
  icw3 : Byte
  icw4 : Byte
  pending : List Icw
  readIsr : Bool
deriving DecidableEq

namespace Pic

/-- A controller with nothing programmed, masked, requested or in service. -/
def quiet : Pic := ⟨0, 0, 0, 0, 0, 0, [], false⟩

/-- The words that an ICW1 announces. -/
def announced (icw1 : Byte) : List Icw :=
  .icw2 :: ((if icw1 &&& icw1Sngl = 0 then [.icw3] else [])
    ++ if icw1 &&& icw1Ic4 = 0 then [] else [.icw4])

/-- The lowest-numbered interrupt in service. -/
def lowestInService (p : Pic) : Option ℕ := (List.range 8).find? fun k => p.isr.getLsbD k

/-- A non-specific end of interrupt: the lowest-numbered in-service bit is cleared. -/
def endLowest (p : Pic) : Pic :=
  match p.lowestInService with
  | none => p
  | some k => { p with isr := p.isr &&& ~~~((1 : Byte) <<< k) }

/-- A byte written to the command port: bit 4 makes it an ICW1, otherwise bit 3 an
OCW3, otherwise it is an OCW2, of which only the non-specific EOI is used. -/
def writeCommand (v : Byte) (p : Pic) : Pic :=
  if v &&& icw1Init ≠ 0 then
    { p with
      imr := 0
      pending := announced v
      -- without IC4 the functions that ICW4 selects are off
      icw4 := if v &&& icw1Ic4 = 0 then 0 else p.icw4
      readIsr := false }
  else if v.getLsbD 3 then
    -- RR asks for a register, RIS says which
    if v.getLsbD 1 then { p with readIsr := v.getLsbD 0 } else p
  else if v &&& 0xE0 = ocw2Eoi then p.endLowest
  else p

/-- A byte written to the data port: the next awaited ICW, or else the mask. -/
def writeData (v : Byte) (p : Pic) : Pic :=
  match p.pending with
  | .icw2 :: rest => { p with icw2 := v, pending := rest }
  | .icw3 :: rest => { p with icw3 := v, pending := rest }
  | .icw4 :: rest => { p with icw4 := v, pending := rest }
  | [] => { p with imr := v }

/-- A byte read from the command port. -/
def readCommand (p : Pic) : Byte := if p.readIsr then p.isr else p.irr

/-- A byte read from the data port. -/
def readData (p : Pic) : Byte := p.imr

/-- No initialisation is under way. -/
def Operational (p : Pic) : Prop := p.pending = []

/-- ICW4 turns the automatic EOI on. -/
def autoEoi (p : Pic) : Bool := p.icw4 &&& icw4AutoEoi ≠ 0

end Pic

/-! ## The pair behind the ports -/

/-- The master and the slave. -/
structure PicPair where
  master : Pic
  slave : Pic
deriving DecidableEq

namespace PicPair

/-- `outb(port, val)`.  No other port reaches a controller. -/
def outb (s : PicPair) (port : BitVec 16) (val : Byte) : PicPair :=
  if port = masterPicCommand then { s with master := s.master.writeCommand val }
  else if port = masterPicData then { s with master := s.master.writeData val }
  else if port = slavePicCommand then { s with slave := s.slave.writeCommand val }
  else if port = slavePicData then { s with slave := s.slave.writeData val }
  else s

/-- `inb(port)`, of the four ports. -/
def inb (s : PicPair) (port : BitVec 16) : Byte :=
  if port = masterPicCommand then s.master.readCommand
  else if port = masterPicData then s.master.readData
  else if port = slavePicCommand then s.slave.readCommand
  else s.slave.readData

/-- `io_wait`: a write to a port of neither controller. -/
def ioWait (s : PicPair) : PicPair := s.outb 0x80 0x00

end PicPair

/-! ## The driver -/

/-- `pic_remap`: initialise both controllers, step by step in turn, and put their
masks back. -/
def picRemap (masterOffset slaveOffset : Byte) (s : PicPair) : PicPair :=
  let masterImr := s.inb masterPicData
  let slaveImr := s.inb slavePicData
  let s := (s.outb masterPicCommand (icw1Init ||| icw1Ic4)).ioWait
  let s := (s.outb slavePicCommand (icw1Init ||| icw1Ic4)).ioWait
  let s := (s.outb masterPicData masterOffset).ioWait
  let s := (s.outb slavePicData slaveOffset).ioWait
  let s := (s.outb masterPicData ((1 : Byte) <<< 2)).ioWait
  let s := (s.outb slavePicData 0x02).ioWait
  let s := (s.outb masterPicData icw48086).ioWait
  let s := (s.outb slavePicData icw48086).ioWait
  let s := (s.outb masterPicData masterImr).ioWait
  (s.outb slavePicData slaveImr).ioWait

/-- The data port of an IRQ line and its number on that controller. -/
def picLine (irq : Byte) : BitVec 16 × Byte :=
  if irq < 8 then (masterPicData, irq) else (slavePicData, irq - 8)

/-- What `pic_set_mask` and `pic_clear_mask` share: the mask of the line's controller
and the bit `1 << irq` are combined in `int`, and `outb` narrows the result. -/
def picUpdateMask (combine : BitVec 32 → BitVec 32 → BitVec 32) (irq : Byte) (s : PicPair) :
    PicPair :=
  let (port, irq) := picLine irq
  s.outb port ((combine ((s.inb port).setWidth 32) ((1 : BitVec 32) <<< irq.toNat)).setWidth 8)

/-- `pic_set_mask`. -/
def picSetMask (irq : Byte) (s : PicPair) : PicPair :=
  picUpdateMask (fun imr bit => imr ||| bit) irq s

/-- `pic_clear_mask`. -/
def picClearMask (irq : Byte) (s : PicPair) : PicPair :=
  picUpdateMask (fun imr bit => imr &&& ~~~bit) irq s

/-- `pic_send_eoi`. -/
def picSendEoi (irq : Byte) (s : PicPair) : PicPair :=
  let s := if irq ≥ 8 then s.outb slavePicCommand ocw2Eoi else s
  s.outb masterPicCommand ocw2Eoi

/-- `pic_disable`. -/
def picDisable (s : PicPair) : PicPair :=
  let s := s.outb masterPicData 0xFF
  s.outb slavePicData 0xFF

/-- What `pic_get_isr` and `pic_get_irr` share: select a register with an OCW3 and
read it, from the master and then from the slave. -/
def picGetRegister (ocw3 : Byte) (s : PicPair) : BitVec 16 × PicPair :=
  let s := s.outb masterPicCommand ocw3
  let master := s.inb masterPicCommand
  let s := s.outb slavePicCommand ocw3
  let slave := s.inb slavePicCommand
  (((slave.setWidth 32 <<< 8) ||| master.setWidth 32).setWidth 16, s)

/-- `pic_get_isr`. -/
def picGetIsr (s : PicPair) : BitVec 16 × PicPair := picGetRegister ocw3Isr s

/-- `pic_get_irr`. -/
def picGetIrr (s : PicPair) : BitVec 16 × PicPair := picGetRegister ocw3Irr s

/-! ## What the port accesses amount to -/

theorem getLsbD_one_shiftLeft {w k j : ℕ} (hj : j < w) :
    ((1 : BitVec w) <<< k).getLsbD j = decide (j = k) := by
  have hone : (1 : BitVec w).getLsbD (j - k) = decide (j - k = 0) := by
    rw [show (1 : BitVec w) = 1#w from rfl, BitVec.getLsbD_one]
    simp
    omega
  rw [BitVec.getLsbD_shiftLeft, hone]
  by_cases h : j = k
  · simp [h]
    omega
  · simp [h]
    omega

/-- A byte written to the data port of an operational controller is its mask. -/
theorem Pic.writeData_operational {p : Pic} (h : p.Operational) (v : Byte) :
    p.writeData v = { p with imr := v } := by
  obtain ⟨imr, isr, irr, icw2, icw3, icw4, pending, readIsr⟩ := p
  cases h
  rfl

/-- **Both initialisations complete.**  Whatever the controllers were waiting for, the
four words reach each of them in order, and the saved masks come after the last one. -/
theorem picRemap_eq (masterOffset slaveOffset : Byte) (s : PicPair) :
    picRemap masterOffset slaveOffset s =
      { master := { s.master with
          icw2 := masterOffset, icw3 := 4, icw4 := icw48086, pending := [], readIsr := false }
        slave := { s.slave with
          icw2 := slaveOffset, icw3 := 2, icw4 := icw48086, pending := [], readIsr := false } } :=
  rfl

theorem picUpdateMask_master (combine : BitVec 32 → BitVec 32 → BitVec 32) {irq : Byte}
    (hirq : irq < 8) {s : PicPair} (hs : s.master.Operational) :
    picUpdateMask combine irq s = { s with master := { s.master with
      imr := (combine (s.master.imr.setWidth 32) ((1 : BitVec 32) <<< irq.toNat)).setWidth 8 } } := by
  rw [picUpdateMask, picLine, if_pos hirq, ← Pic.writeData_operational hs]
  rfl

theorem picUpdateMask_slave (combine : BitVec 32 → BitVec 32 → BitVec 32) {irq : Byte}
    (hirq : ¬ irq < 8) {s : PicPair} (hs : s.slave.Operational) :
    picUpdateMask combine irq s = { s with slave := { s.slave with
      imr := (combine (s.slave.imr.setWidth 32) ((1 : BitVec 32) <<< (irq - 8).toNat)).setWidth 8 } } := by
  rw [picUpdateMask, picLine, if_neg hirq, ← Pic.writeData_operational hs]
  rfl

theorem picDisable_eq {s : PicPair} (hm : s.master.Operational) (hs : s.slave.Operational) :
    picDisable s
      = { master := { s.master with imr := 0xFF }, slave := { s.slave with imr := 0xFF } } := by
  rw [← Pic.writeData_operational hm, ← Pic.writeData_operational hs]
  rfl

/-- The slave gets an EOI only for its own lines, the master always. -/
theorem picSendEoi_eq (irq : Byte) (s : PicPair) :
    picSendEoi irq s = { master := s.master.endLowest
                         slave := if irq ≥ 8 then s.slave.endLowest else s.slave } := by
  rw [picSendEoi]
  by_cases h : irq ≥ 8
  · rw [if_pos h, if_pos h]
    rfl
  · rw [if_neg h, if_neg h]
    rfl

theorem picGetIsr_eq (s : PicPair) :
    picGetIsr s = (((s.slave.isr.setWidth 32 <<< 8) ||| s.master.isr.setWidth 32).setWidth 16,
      { master := { s.master with readIsr := true }
        slave := { s.slave with readIsr := true } }) := rfl

theorem picGetIrr_eq (s : PicPair) :
    picGetIrr s = (((s.slave.irr.setWidth 32 <<< 8) ||| s.master.irr.setWidth 32).setWidth 16,
      { master := { s.master with readIsr := false }
        slave := { s.slave with readIsr := false } }) := rfl

end GridX64
