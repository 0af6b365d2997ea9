/-
# The VGA text console (src/drivers/console/vga.c)

An 80 by 25 text mode at `VGA_MEMORY_ADDR`: a cell is a character and an attribute
byte, and the hardware cursor is set through the CRTC index and data ports.  The
cursor variables are `int`s.

The state records, next to the cell memory, the indices stored to (`stores`) and
the bytes written to ports (`ports`), latest first.
-/
import GridX64.Ascii

namespace GridX64

/-- `VGA_MAX_COLS`. -/
abbrev vgaMaxCols : ℕ := 80

/-- `VGA_MAX_ROWS`. -/
abbrev vgaMaxRows : ℕ := 25

/-- The driver's static variables, the cell memory, and what it has written so far. -/
structure VgaState where
  memory : ℤ → BitVec 16
  colorAttr : Byte
  cursorX : ℤ
  cursorY : ℤ
  stores : List ℤ
  ports : List (BitVec 16 × Byte)

/-- `vga_entry`: a character with its attribute. -/
def vgaEntry (c : Byte) (attr : Byte) : BitVec 16 :=
  c.signExtend 16 ||| (attr.setWidth 16 <<< 8)

namespace VgaState

/-- `vga_memory[i] = v`. -/
def store (s : VgaState) (i : ℤ) (v : BitVec 16) : VgaState :=
  { s with memory := Function.update s.memory i v, stores := i :: s.stores }

/-- `outb(port, val)`. -/
def outb (s : VgaState) (port : BitVec 16) (val : Byte) : VgaState :=
  { s with ports := (port, val) :: s.ports }

end VgaState

/-- `update_cursor`: set the hardware cursor, low byte first. -/
def updateCursor (s : VgaState) : VgaState :=
  let cursorPos := s.cursorY * vgaMaxCols + s.cursorX
  let s := s.outb 0x3D4 0x0F
  let s := s.outb 0x3D5 (BitVec.ofInt 8 cursorPos)
  let s := s.outb 0x3D4 0x0E
  s.outb 0x3D5 (BitVec.ofInt 8 (cursorPos / 256))

@[simp] theorem updateCursor_memory (s : VgaState) : (updateCursor s).memory = s.memory := rfl

/-- The loop of `vga_clear`. -/
def vgaFillScreen (s : VgaState) : VgaState :=
  let space := vgaEntry chSpace s.colorAttr
  forUp (vgaMaxCols * vgaMaxRows) (fun i s => s.store i space) s

/-- `vga_clear`. -/
def vgaClear (s : VgaState) : VgaState :=
  updateCursor { vgaFillScreen s with cursorX := 0, cursorY := 0 }

/-- The first loop of `vga_scroll`: copy every row to the one above it. -/
def vgaCopyRows (s : VgaState) : VgaState :=
  forUp (vgaMaxCols * (vgaMaxRows - 1)) (fun i s => s.store i (s.memory (i + vgaMaxCols))) s

/-- The second loop of `vga_scroll`, from cell `VGA_MAX_COLS * (VGA_MAX_ROWS - 1)`
to the last: blank the last row. -/
def vgaBlankLastRow (s : VgaState) : VgaState :=
  forUp vgaMaxCols
    (fun k s => s.store ((vgaMaxCols * (vgaMaxRows - 1) + k : ℕ)) (vgaEntry chSpace s.colorAttr)) s

/-- `vga_scroll`: move the rows up by one and put the cursor at the start of the
last one. -/
def vgaScroll (s : VgaState) : VgaState :=
  updateCursor { vgaBlankLastRow (vgaCopyRows s) with cursorX := 0, cursorY := vgaMaxRows - 1 }

/-- The last statements of `vga_putc`: scroll when the cursor is below the last
row, and update the hardware cursor. -/
def vgaSettle (s : VgaState) : VgaState :=
  if s.cursorY ≥ vgaMaxRows then vgaScroll s else updateCursor s

/-- `vga_memory[cursor_y * VGA_MAX_COLS + cursor_x] = vga_entry(c, color_attr)`. -/
def vgaStoreAtCursor (c : Byte) (s : VgaState) : VgaState :=
  s.store (s.cursorY * vgaMaxCols + s.cursorX) (vgaEntry c s.colorAttr)

/-- `vga_putc`. -/
def vgaPutc (c : Byte) (s : VgaState) : VgaState :=
  if c = chNewline then
    vgaSettle { s with cursorX := 0, cursorY := s.cursorY + 1 }
  else if c = chReturn then
    vgaSettle { s with cursorX := 0 }
  else if c = chBackspace then
    -- this branch returns without `update_cursor`
    if s.cursorX > 0 then
      vgaStoreAtCursor chSpace { s with cursorX := s.cursorX - 1 }
    else if s.cursorY > 0 then
      vgaStoreAtCursor chSpace { s with cursorX := vgaMaxCols - 1, cursorY := s.cursorY - 1 }
    else s
  else if IsPrintable c then
    let s := vgaStoreAtCursor c s
    if s.cursorX + 1 ≥ vgaMaxCols then
      vgaSettle { s with cursorX := 0, cursorY := s.cursorY + 1 }
    else
      vgaSettle { s with cursorX := s.cursorX + 1 }
  else
    vgaSettle s

end GridX64
