/-
# The framebuffer console drivers (src/drivers/console/rgb.c)

`rgb.c` holds three copies of one text driver, for 16, 24 and 32 bits a pixel.
They share the cursor and `rgb_scroll`, and differ in `rgb_putpixelN` and
`rgb_clearN` only; `rgb_drawcharN` and `rgb_putcN` are the same code around the
pixel writer of their depth.  So `rgbDrawchar` and `rgbPutc` are written once,
over any surface `σ` with a pixel writer and a scroll, and each depth's function
is their instance at the framebuffer memory.

Coordinates and sizes are the code's `uint32_t`s (`BitVec 32`, wrapping).  The
`int` coordinates of `rgb_drawcharN` are multiples of the cell size plus an index
below it, so their additions never pass the top of a 32-bit word.
-/
import GridX64.LibMem
import GridX64.Font8x16
import GridX64.Ascii

namespace GridX64

/-- `struct framebuffer` (src/drivers/video/framebuffer.h). -/
structure Framebuffer where
  addr : ℕ
  pitch : BitVec 32
  width : BitVec 32
  height : BitVec 32
  bpp : Byte

/-- `RGB_CHAR_HEIGHT`. -/
abbrev rgbCharHeight : BitVec 32 := 16

/-- `RGB_CHAR_WIDTH`. -/
abbrev rgbCharWidth : BitVec 32 := 8

/-- `RGB_DEFAULT_COLOR`. -/
abbrev rgbDefaultColor : BitVec 32 := 0xFFFFFFFF

/-- The number of text columns, `max_cols`. -/
def Framebuffer.maxCols (fb : Framebuffer) : BitVec 32 := fb.width / rgbCharWidth

/-- The number of text rows, `max_rows`. -/
def Framebuffer.maxRows (fb : Framebuffer) : BitVec 32 := fb.height / rgbCharHeight

/-- The driver's state: the surface it draws on and the static cursor. -/
structure RgbState (σ : Type*) where
  screen : σ
  cursorX : BitVec 32
  cursorY : BitVec 32

/-! ## Pixels -/

/-- `rgb_putpixel16`: pack to 5-6-5 and store two bytes. -/
def rgbPutpixel16 (fb : Framebuffer) (x y color : BitVec 32) (m : Mem) : Mem :=
  if x ≥ fb.width ∨ y ≥ fb.height then m
  else
    let r : Byte := ((color >>> 16) &&& 0xFF).setWidth 8
    let g : Byte := ((color >>> 8) &&& 0xFF).setWidth 8
    let b : Byte := (color &&& 0xFF).setWidth 8
    let rgb : BitVec 16 :=
      ((r >>> 3).setWidth 16 <<< 11) ||| ((g >>> 2).setWidth 16 <<< 5) ||| (b >>> 3).setWidth 16
    m.storeLE (fb.addr + (y * fb.pitch).toNat + (x * 2).toNat) 2 rgb.toNat

/-- `rgb_putpixel24`: store blue, green and red. -/
def rgbPutpixel24 (fb : Framebuffer) (x y color : BitVec 32) (m : Mem) : Mem :=
  if x ≥ fb.width ∨ y ≥ fb.height then m
  else
    let r : Byte := ((color >>> 16) &&& 0xFF).setWidth 8
    let g : Byte := ((color >>> 8) &&& 0xFF).setWidth 8
    let b : Byte := (color &&& 0xFF).setWidth 8
    let pixel := fb.addr + (y * fb.pitch).toNat + (x * 3).toNat
    ((m.store pixel b).store (pixel + 1) g).store (pixel + 2) r

/-- `rgb_putpixel32`: store the colour with the top byte set. -/
def rgbPutpixel32 (fb : Framebuffer) (x y color : BitVec 32) (m : Mem) : Mem :=
  if x ≥ fb.width ∨ y ≥ fb.height then m
  else m.storeLE (fb.addr + (y * fb.pitch).toNat + (x * 4).toNat) 4 (0xFF000000 ||| color).toNat

/-! ## Clear and scroll -/

/-- `rgb_clear16`. -/
def rgbClear16 (fb : Framebuffer) (s : RgbState Mem) : RgbState Mem :=
  let pixels := (fb.pitch / 2) * fb.height
  { s with screen := forUp pixels.toNat (fun i m => m.storeLE (fb.addr + 2 * i) 2 0) s.screen }

/-- `rgb_clear24`. -/
def rgbClear24 (fb : Framebuffer) (s : RgbState Mem) : RgbState Mem :=
  { s with
    screen := forUp fb.height.toNat
      (fun y m => (memset (fb.addr + (BitVec.ofNat 32 y * fb.pitch).toNat) 0 fb.pitch.toNat m).2)
      s.screen }

/-- `rgb_clear32`, the only one of the three that also moves the cursor home. -/
def rgbClear32 (fb : Framebuffer) (s : RgbState Mem) : RgbState Mem :=
  let pixels := (fb.pitch / 4) * fb.height
  { screen := forUp pixels.toNat (fun i m => m.storeLE (fb.addr + 4 * i) 4 0) s.screen
    cursorX := 0
    cursorY := 0 }

/-- `rgb_scroll`: move the picture up by one text row and clear the last one.
It leaves the cursor where it is. -/
def rgbScroll (fb : Framebuffer) (m : Mem) : Mem :=
  let rowBytes := fb.pitch
  let scrollBytes := rgbCharHeight * rowBytes
  let totalBytes := rowBytes * fb.height
  let (_, m) := memmove fb.addr (fb.addr + scrollBytes.toNat) (totalBytes - scrollBytes).toNat m
  let (_, m) := memset (fb.addr + totalBytes.toNat - scrollBytes.toNat) 0 scrollBytes.toNat m
  m

/-! ## Characters -/

section Driver

variable {σ τ : Type*}

/-- `rgb_drawcharN`: write the pixels whose font bit is set; the others are left
as they are. -/
def rgbDrawchar (putpixel : BitVec 32 → BitVec 32 → BitVec 32 → σ → σ)
    (x y : BitVec 32) (c : Byte) (color : BitVec 32) (s : σ) : σ :=
  forUp 16 (fun row s =>
    let bits := font8x16 c row
    forUp 8 (fun col s =>
      if bits &&& (1 <<< (7 - col)) ≠ 0 then
        putpixel (x + BitVec.ofNat 32 col) (y + BitVec.ofNat 32 row) color s
      else s) s) s

/-- The erasing loop of the backspace branch of `rgb_putcN`: every pixel of the
cursor cell is written black. -/
def rgbErase (putpixel : BitVec 32 → BitVec 32 → BitVec 32 → σ → σ)
    (cursorX cursorY : BitVec 32) (s : σ) : σ :=
  forUp 16 (fun row s =>
    forUp 8 (fun col s =>
      putpixel (cursorX * rgbCharWidth + BitVec.ofNat 32 col)
        (cursorY * rgbCharHeight + BitVec.ofNat 32 row) 0 s) s) s

/-- The last statement of `rgb_putcN`: scroll when the cursor is below the last
text row. -/
def rgbSettle (fb : Framebuffer) (scroll : σ → σ) (s : RgbState σ) : RgbState σ :=
  if s.cursorY ≥ fb.maxRows then { s with screen := scroll s.screen } else s

/-- `rgb_putcN`, over the pixel writer of its depth. -/
def rgbPutc (fb : Framebuffer) (putpixel : BitVec 32 → BitVec 32 → BitVec 32 → σ → σ)
    (scroll : σ → σ) (c : Byte) (s : RgbState σ) : RgbState σ :=
  if c = chNewline then
    rgbSettle fb scroll { s with cursorX := 0, cursorY := s.cursorY + 1 }
  else if c = chReturn then
    rgbSettle fb scroll { s with cursorX := 0 }
  else if c = chBackspace then
    -- this branch returns before the scroll test
    if s.cursorX > 0 then
      let cursorX := s.cursorX - 1
      { s with screen := rgbErase putpixel cursorX s.cursorY s.screen, cursorX := cursorX }
    else if s.cursorY > 0 then
      let cursorX := fb.maxCols - 1
      let cursorY := s.cursorY - 1
      { screen := rgbErase putpixel cursorX cursorY s.screen, cursorX := cursorX, cursorY := cursorY }
    else s
  else if IsPrintable c then
    let screen := rgbDrawchar putpixel (s.cursorX * rgbCharWidth) (s.cursorY * rgbCharHeight) c
      rgbDefaultColor s.screen
    if s.cursorX + 1 ≥ fb.maxCols then
      rgbSettle fb scroll { screen := screen, cursorX := 0, cursorY := s.cursorY + 1 }
    else
      rgbSettle fb scroll { screen := screen, cursorX := s.cursorX + 1, cursorY := s.cursorY }
  else
    rgbSettle fb scroll s

end Driver

/-- `rgb_putc16`. -/
def rgbPutc16 (fb : Framebuffer) : Byte → RgbState Mem → RgbState Mem :=
  rgbPutc fb (rgbPutpixel16 fb) (rgbScroll fb)

/-- `rgb_putc24`. -/
def rgbPutc24 (fb : Framebuffer) : Byte → RgbState Mem → RgbState Mem :=
  rgbPutc fb (rgbPutpixel24 fb) (rgbScroll fb)

/-- `rgb_putc32`. -/
def rgbPutc32 (fb : Framebuffer) : Byte → RgbState Mem → RgbState Mem :=
  rgbPutc fb (rgbPutpixel32 fb) (rgbScroll fb)

/-- The colour depths that `rgb.c` has a driver for. -/
inductive Depth
  | bpp16
  | bpp24
  | bpp32
  deriving DecidableEq, Repr

/-- `rgb_putcN` of a depth. -/
def Depth.putc : Depth → Framebuffer → Byte → RgbState Mem → RgbState Mem
  | bpp16 => rgbPutc16
  | bpp24 => rgbPutc24
  | bpp32 => rgbPutc32

/-- `rgb_clearN` of a depth. -/
def Depth.clear : Depth → Framebuffer → RgbState Mem → RgbState Mem
  | bpp16 => rgbClear16
  | bpp24 => rgbClear24
  | bpp32 => rgbClear32

/-- `rgb_putpixelN` of a depth. -/
def Depth.putpixel :
    Depth → Framebuffer → BitVec 32 → BitVec 32 → BitVec 32 → Mem → Mem
  | bpp16 => rgbPutpixel16
  | bpp24 => rgbPutpixel24
  | bpp32 => rgbPutpixel32

/-- The three `rgb_putcN` are one function of the pixel writer. -/
theorem Depth.putc_eq (d : Depth) (fb : Framebuffer) :
    d.putc fb = rgbPutc fb (d.putpixel fb) (rgbScroll fb) := by
  cases d <;> rfl

/-- The operations of a console driver. -/
inductive ScreenOp
  | clear
  | scroll
  | putc (c : Byte)
  deriving DecidableEq, Repr

end GridX64
