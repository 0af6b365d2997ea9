/-
# The console (src/drivers/console/console.c)

The console calls through a table of three functions.  It starts with functions
that do nothing; `console_init` takes the framebuffer from the boot information
and installs the 32-bit driver, unless the framebuffer address is zero.

`ConsoleInside` is the invariant of a console that has been initialised and
cleared: the accesses stay in the framebuffer, and the columns that are not part
of the text area stay black, scan-line padding included.
-/
import GridX64.RgbPicture

namespace GridX64

/-! ## The driver table -/

/-- `boot_info_t` (src/include/tetos/boot.h). -/
structure BootInfo where
  FrameBufferBase : BitVec 64
  HorizontalResolution : BitVec 32
  VerticalResolution : BitVec 32
  PixelsPerScanLine : BitVec 32
  SystemTable : BitVec 64
  MemoryMap : BitVec 64
  MemoryMapSize : BitVec 64
  DescriptorSize : BitVec 64

/-- `struct console_driver`. -/
structure ConsoleDriver where
  clear : Framebuffer → RgbState Mem → RgbState Mem
  scroll : Framebuffer → RgbState Mem → RgbState Mem
  putc : Framebuffer → Byte → RgbState Mem → RgbState Mem

/-- `noop_clear`. -/
def noopClear (_ : Framebuffer) (s : RgbState Mem) : RgbState Mem := s

/-- `noop_scroll`. -/
def noopScroll (_ : Framebuffer) (s : RgbState Mem) : RgbState Mem := s

/-- `noop_putc`. -/
def noopPutc (_ : Framebuffer) (_ : Byte) (s : RgbState Mem) : RgbState Mem := s

/-- The globals of the console: `fb`, `console_drv` and the state of the driver. -/
structure ConsoleState where
  fb : Framebuffer
  drv : ConsoleDriver
  rgb : RgbState Mem

/-- The globals at boot. -/
def consoleBoot (m : Mem) : ConsoleState :=
  { fb := { addr := 0, pitch := 0, width := 0, height := 0, bpp := 0 }
    drv := { clear := noopClear, scroll := noopScroll, putc := noopPutc }
    rgb := { screen := m, cursorX := 0, cursorY := 0 } }

/-- The table that `console_init` installs. -/
def rgb32Driver : ConsoleDriver :=
  { clear := rgbClear32
    scroll := fun fb s => { s with screen := rgbScroll fb s.screen }
    putc := rgbPutc32 }

/-- The framebuffer that `console_init` describes; the pitch is a 32-bit product. -/
def framebufferOf (b : BootInfo) : Framebuffer :=
  { addr := b.FrameBufferBase.toNat
    pitch := b.PixelsPerScanLine * 4
    width := b.HorizontalResolution
    height := b.VerticalResolution
    bpp := 32 }

/-- `console_init`. -/
def consoleInit (b : BootInfo) (s : ConsoleState) : ℤ × ConsoleState :=
  let s := { s with fb := framebufferOf b }
  -- the address is tested after `fb` has been filled in
  if s.fb.addr = 0 then (-1, s)
  else (0, { s with drv := rgb32Driver })

/-- The framebuffer is described before either return. -/
theorem consoleInit_fb (b : BootInfo) (s : ConsoleState) :
    (consoleInit b s).2.fb = framebufferOf b := by
  rw [consoleInit]
  split_ifs <;> rfl

/-- `console_clear`. -/
def consoleClear (s : ConsoleState) : ConsoleState :=
  { s with rgb := s.drv.clear s.fb s.rgb }

/-- `console_scroll`. -/
def consoleScroll (s : ConsoleState) : ConsoleState :=
  { s with rgb := s.drv.scroll s.fb s.rgb }

/-- `console_putc`. -/
def consolePutc (c : Byte) (s : ConsoleState) : ConsoleState :=
  { s with rgb := s.drv.putc s.fb c s.rgb }

/-- One call on the console. -/
def consoleStep (s : ConsoleState) : ScreenOp → ConsoleState
  | .clear => consoleClear s
  | .scroll => consoleScroll s
  | .putc c => consolePutc c s

/-! ## The margin -/

section Margin

variable {fb : Framebuffer} {W : ℕ} {m : Mem}

/-- The pixels right of the text area, up to column `W`, are zero. -/
def BlackMargin (fb : Framebuffer) (W : ℕ) (m : Mem) : Prop :=
  ∀ x < W, 8 * fb.maxCols.toNat ≤ x → ∀ y < fb.height.toNat, ∀ i < 4,
    m.byte (Depth.bpp32.pixelAddr fb x y + i) = 0

/-- A pixel store in the text columns leaves the margin alone. -/
theorem BlackMargin.putpixel (hfit : Depth.bpp32.Fits fb W) {x : BitVec 32}
    (hx : x.toNat < 8 * fb.maxCols.toNat) (y color : BitVec 32) (h : BlackMargin fb W m) :
    BlackMargin fb W (rgbPutpixel32 fb x y color m) := by
  intro x' hx' hmargin y' hy' i hi
  have hother : ¬ (x < fb.width ∧ y < fb.height ∧ x' = x.toNat ∧ y' = y.toNat) := by omega
  refine (Depth.putpixel_pixel hfit x y color m hx' hi).trans ?_
  rw [if_neg hother]
  exact h x' hx' hmargin y' hy' i hi

/-- The scroll moves black rows of the margin up, and black ones in below. -/
theorem BlackMargin.scroll (hfit : Depth.bpp32.Fits fb W) (hheight : 16 ≤ fb.height)
    (h : BlackMargin fb W m) : BlackMargin fb W (rgbScroll fb m) := by
  intro x hx hmargin y hy i hi
  obtain ⟨hge, hlt⟩ := Depth.bpp32.inside_pixel hfit hx hy hi
  rw [rgbScroll_byte hfit.size_lt hheight, if_pos ⟨hge, hlt⟩, Depth.pixelAddr_down]
  split_ifs with hkeep
  · refine h x hx hmargin (y + 16) ?_ i hi
    by_contra hout
    have hrow : fb.height.toNat * fb.pitch.toNat ≤ (y + 16) * fb.pitch.toNat :=
      Nat.mul_le_mul_right _ (by omega)
    rw [Depth.pixelAddr, Framebuffer.size, Nat.mul_comm fb.pitch.toNat] at hkeep
    omega
  · rfl

/-- A clear blackens the margin with the rest. -/
theorem blackMargin_clear (hfit : Depth.bpp32.Fits fb W) (halign : 4 ∣ fb.pitch.toNat)
    (s : RgbState Mem) : BlackMargin fb W (rgbClear32 fb s).screen := by
  intro x hx _ y hy i hi
  have hin := Depth.bpp32.inside_pixel hfit hx hy hi
  rw [show rgbClear32 = Depth.bpp32.clear from rfl,
    Depth.clear_byte .bpp32 hfit.size_lt halign]
  exact if_pos hin

/-- The columns that one `rgb_putcN` draws in are text columns. -/
theorem drawsIn_text {x cx : BitVec 32} (hx : x < fb.maxCols) (hcx : DrawsIn fb x cx) {k : ℕ}
    (hk : k < 8) : (cx * rgbCharWidth + BitVec.ofNat 32 k).toNat < 8 * fb.maxCols.toNat := by
  have hcols : cx < fb.maxCols := by
    rcases hcx with rfl | ⟨hpos, rfl⟩ | rfl
    · exact hx
    · bv_omega
    · bv_omega
  obtain ⟨hmul, hwidth⟩ := cell_column hcols
  have hw := fb.width.isLt
  rw [BitVec.lt_def] at hcols
  rw [toNat_add_offset hk (by omega), hmul]
  omega

end Margin

/-! ## The console stays inside the framebuffer -/

/-- What `console_init` requires of the boot information to be safe: a
framebuffer, at least one text cell, the visible columns inside the scan line, and
a buffer below 4 GiB that does not wrap around the address space. -/
structure BootInfo.Sane (b : BootInfo) : Prop where
  base : b.FrameBufferBase ≠ 0
  width : 8 ≤ b.HorizontalResolution
  height : 16 ≤ b.VerticalResolution
  line : b.HorizontalResolution ≤ b.PixelsPerScanLine
  size : 4 * b.PixelsPerScanLine.toNat * b.VerticalResolution.toNat < 2 ^ 32
  wrap : b.FrameBufferBase.toNat + 4 * b.PixelsPerScanLine.toNat * b.VerticalResolution.toNat
    ≤ 2 ^ 64

/-- The invariant of an initialised and cleared console, over the addresses
`touched₀` accessed before. -/
structure ConsoleInside (b : BootInfo) (m₀ : Mem) (s : ConsoleState) : Prop where
  fb_eq : s.fb = framebufferOf b
  drv_eq : s.drv = rgb32Driver
  column : s.rgb.cursorX < (framebufferOf b).maxCols
  touches : Mem.TouchesOnly (framebufferOf b).Inside m₀ s.rgb.screen
  margin : BlackMargin (framebufferOf b) b.PixelsPerScanLine.toNat s.rgb.screen

variable {b : BootInfo} {m₀ : Mem} {s : ConsoleState}

/-- The pitch is the bytes of `PixelsPerScanLine` pixels. -/
theorem BootInfo.Sane.pitch_toNat (hb : b.Sane) :
    (framebufferOf b).pitch.toNat = 4 * b.PixelsPerScanLine.toNat := by
  have hrow : 4 * b.PixelsPerScanLine.toNat * 1
      ≤ 4 * b.PixelsPerScanLine.toNat * b.VerticalResolution.toNat :=
    Nat.mul_le_mul_left _ (Nat.le_trans (by decide) hb.height)
  have hlt := Nat.lt_of_le_of_lt hrow hb.size
  show (b.PixelsPerScanLine * 4).toNat = _
  rw [BitVec.toNat_mul, show (4 : BitVec 32).toNat = 4 from rfl, Nat.mod_eq_of_lt (by omega),
    Nat.mul_comm]

/-- The framebuffer is the `S` bytes of the boot information. -/
theorem BootInfo.Sane.size_eq (hb : b.Sane) : (framebufferOf b).size
    = 4 * b.PixelsPerScanLine.toNat * b.VerticalResolution.toNat := by
  rw [Framebuffer.size, hb.pitch_toNat]
  rfl

theorem BootInfo.Sane.fits (hb : b.Sane) :
    Depth.bpp32.Fits (framebufferOf b) b.PixelsPerScanLine.toNat :=
  fits_bpp32 (by rw [hb.size_eq]; exact hb.size) hb.pitch_toNat.ge hb.line

theorem BootInfo.Sane.align (hb : b.Sane) : 4 ∣ (framebufferOf b).pitch.toNat :=
  ⟨b.PixelsPerScanLine.toNat, hb.pitch_toNat⟩

theorem BootInfo.Sane.maxCols_pos (hb : b.Sane) : 0 < (framebufferOf b).maxCols := by
  have hwidth : 8 ≤ b.HorizontalResolution.toNat := hb.width
  rw [BitVec.lt_def, Framebuffer.maxCols, BitVec.toNat_udiv]
  exact Nat.div_pos hwidth (by decide)

/-- `console_init` accepts a framebuffer that is not at address zero. -/
theorem consoleInit_sane (hb : b.Sane) (s : ConsoleState) :
    consoleInit b s = (0, { s with fb := framebufferOf b, drv := rgb32Driver }) := by
  have haddr : (framebufferOf b).addr ≠ 0 := fun h => hb.base (BitVec.eq_of_toNat_eq h)
  rw [consoleInit]
  exact if_neg haddr

/-- The first clear establishes the invariant, whatever was in the framebuffer. -/
theorem consoleInside_clear (hb : b.Sane) (hfb : s.fb = framebufferOf b)
    (hdrv : s.drv = rgb32Driver)
    (ht : Mem.TouchesOnly (framebufferOf b).Inside m₀ s.rgb.screen) :
    ConsoleInside b m₀ (consoleClear s) := by
  rw [consoleClear, hdrv, hfb]
  exact { fb_eq := rfl
          drv_eq := rfl
          column := hb.maxCols_pos
          touches := Depth.clear_touchesOnly .bpp32 hb.fits.size_lt hb.align ht
          margin := blackMargin_clear hb.fits hb.align s.rgb }

/-- **Every call keeps the invariant**, wherever the cursor row is. -/
theorem ConsoleInside.step (hb : b.Sane) (h : ConsoleInside b m₀ s) (op : ScreenOp) :
    ConsoleInside b m₀ (consoleStep s op) := by
  cases op with
  | clear => exact consoleInside_clear hb h.fb_eq h.drv_eq h.touches
  | scroll =>
      rw [consoleStep, consoleScroll, h.drv_eq, h.fb_eq]
      exact { fb_eq := rfl
              drv_eq := rfl
              column := h.column
              touches := rgbScroll_touchesOnly hb.fits.size_lt hb.height h.touches
              margin := h.margin.scroll hb.fits hb.height }
  | putc c =>
      rw [consoleStep, consolePutc, h.drv_eq, h.fb_eq]
      refine { fb_eq := rfl, drv_eq := rfl, column := ?_, touches := ?_, margin := ?_ }
      · exact rgbPutc_cursorX_lt _ _ _ c hb.maxCols_pos h.column
      · -- an off-screen pixel is not written, so every column may be asked for
        refine rgbPutc_preserves (Mem.TouchesOnly (framebufferOf b).Inside m₀)
          (fun _ => True) ?_ ?_ c h.touches (fun _ _ _ _ => trivial)
        · exact fun x y color m _ hm => Depth.putpixel_touchesOnly hb.fits x y color hm
        · exact fun m hm => rgbScroll_touchesOnly hb.fits.size_lt hb.height hm
      · -- for the margin it matters that only text columns are drawn in
        refine rgbPutc_preserves (BlackMargin (framebufferOf b) b.PixelsPerScanLine.toNat)
          (fun x => x.toNat < 8 * (framebufferOf b).maxCols.toNat) ?_ ?_ c h.margin
          (fun cx hcx k hk => drawsIn_text h.column hcx hk)
        · exact fun x y color m hx hm => hm.putpixel hb.fits hx y color
        · exact fun m hm => hm.scroll hb.fits hb.height

/-- **The framebuffer console never leaves the framebuffer**, and never draws
right of the text area. -/
theorem console_stays_inside (b : BootInfo) (hb : b.Sane) (s : ConsoleState)
    (ops : List ScreenOp) :
    let S := 4 * b.PixelsPerScanLine.toNat * b.VerticalResolution.toNat
    let t := run consoleStep (consoleClear (consoleInit b s).2) ops
    (∀ a ∈ t.rgb.screen.touched, a ∈ s.rgb.screen.touched ∨
      (b.FrameBufferBase.toNat ≤ a ∧ a < b.FrameBufferBase.toNat + S ∧ a < 2 ^ 64)) ∧
    ∀ x < b.PixelsPerScanLine.toNat, 8 * (b.HorizontalResolution.toNat / 8) ≤ x →
      ∀ y < b.VerticalResolution.toNat,
        leWord t.rgb.screen.byte
          (b.FrameBufferBase.toNat + 4 * (b.PixelsPerScanLine.toNat * y + x)) 4 = 0 := by
  intro S t
  have hinit : ConsoleInside b s.rgb.screen (consoleClear (consoleInit b s).2) := by
    rw [consoleInit_sane hb]
    exact consoleInside_clear hb rfl rfl (Mem.TouchesOnly.refl _ _)
  have ht : ConsoleInside b s.rgb.screen t :=
    run_invariant (ConsoleInside b s.rgb.screen) hinit (fun _ h op => h.step hb op)
  refine ⟨fun a ha => ?_, fun x hx hmargin y hy => ?_⟩
  · rcases ht.touches a ha with hold | ⟨hge, hlt⟩
    · exact Or.inl hold
    · have hwrap := hb.wrap
      rw [hb.size_eq] at hlt
      exact Or.inr ⟨hge, hlt, Nat.lt_of_lt_of_le hlt hwrap⟩
  · have hpixel : Depth.bpp32.pixelAddr (framebufferOf b) x y
        = b.FrameBufferBase.toNat + 4 * (b.PixelsPerScanLine.toNat * y + x) := by
      rw [Depth.pixelAddr, hb.pitch_toNat, Depth.bytes]
      show b.FrameBufferBase.toNat + _ + _ = _
      ring
    have hcols : (framebufferOf b).maxCols.toNat = b.HorizontalResolution.toNat / 8 :=
      BitVec.toNat_udiv
    rw [← hpixel, leWord_eq_zero_iff]
    exact ht.margin x hx (by rw [hcols]; exact hmargin) y hy

/-- A 1024x768 framebuffer at 3 GiB, with 32 pixels of padding in a scan line. -/
def bootInfo1024x768 : BootInfo :=
  { FrameBufferBase := 0xC0000000
    HorizontalResolution := 1024
    VerticalResolution := 768
    PixelsPerScanLine := 1056
    SystemTable := 0
    MemoryMap := 0
    MemoryMapSize := 0
    DescriptorSize := 40 }

/-- Typing, a newline and a scroll on the 1024x768 framebuffer. -/
theorem console_stays_inside_1024x768 :
    let t := run consoleStep
      (consoleClear (consoleInit bootInfo1024x768 (consoleBoot ⟨fun _ => 0xFF, []⟩)).2)
      [.putc 65, .putc chNewline, .scroll]
    (∀ a ∈ t.rgb.screen.touched, a ∈ [] ∨
      (0xC0000000 ≤ a ∧ a < 0xC0000000 + 4 * 1056 * 768 ∧ a < 2 ^ 64)) ∧
    ∀ x < 1056, 1024 ≤ x → ∀ y < 768,
      leWord t.rgb.screen.byte (0xC0000000 + 4 * (1056 * y + x)) 4 = 0 :=
  console_stays_inside bootInfo1024x768
    { base := by decide
      width := by decide
      height := by decide
      line := by decide
      size := by decide
      wrap := by decide }
    (consoleBoot ⟨fun _ => 0xFF, []⟩) [.putc 65, .putc chNewline, .scroll]

end GridX64
