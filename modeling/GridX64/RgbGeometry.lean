/-
# Which geometries the 32-bit driver can handle

The driver computes its sizes and offsets as 32-bit products of what the firmware says,
and `console_init` tests none of them.

* `rgbScroll_moves_up`  — in every geometry whose size fits, with sixteen scan lines or
  more, the scroll is the picture moved up by one text row;
* `exact_geometry_iff`  — `console_init` sets up exact arithmetic exactly when that is so,
  or when there are no pixels in a scan line.
-/
import GridX64.Console

namespace GridX64

/-! ## The scroll, scan line by scan line -/

/-- **`rgb_scroll` moves the picture up by one text row**, clears the last sixteen scan
lines, and changes nothing outside the framebuffer. -/
theorem rgbScroll_moves_up (fb : Framebuffer) (hheight : 16 ≤ fb.height)
    (hsize : fb.pitch.toNat * fb.height.toNat < 2 ^ 32) (m : Mem) :
    (∀ y < fb.height.toNat, ∀ b < fb.pitch.toNat,
        (rgbScroll fb m).byte (fb.addr + y * fb.pitch.toNat + b)
          = if y < fb.height.toNat - 16 then m.byte (fb.addr + (y + 16) * fb.pitch.toNat + b)
            else 0) ∧
      ∀ a, ¬ (fb.addr ≤ a ∧ a < fb.addr + fb.pitch.toNat * fb.height.toNat) →
        (rgbScroll fb m).byte a = m.byte a := by
  constructor
  · intro y hy b hb
    have hin : y * fb.pitch.toNat + b < fb.height.toNat * fb.pitch.toNat := row_lt_next hy hb
    have hdown : (y + 16) * fb.pitch.toNat = y * fb.pitch.toNat + 16 * fb.pitch.toNat :=
      Nat.add_mul y 16 _
    have hsz : fb.size = fb.height.toNat * fb.pitch.toNat := Nat.mul_comm _ _
    rw [rgbScroll_byte hsize hheight, if_pos (by omega), hdown]
    by_cases hkeep : y < fb.height.toNat - 16
    · have hbelow := row_lt_next (show y + 16 < fb.height.toNat by omega) hb
      rw [if_pos hkeep, if_pos (by omega)]
      congr 1
      omega
    · -- sixteen scan lines further down is past the last one
      have hpast : fb.height.toNat * fb.pitch.toNat ≤ (y + 16) * fb.pitch.toNat :=
        Nat.mul_le_mul_right _ (by omega)
      rw [if_neg hkeep, if_neg (by omega)]
  · intro a ha
    rw [rgbScroll_byte hsize hheight]
    exact if_neg ha

/-- A framebuffer of 25 scan lines of 64 bytes, which is not a number of text rows. -/
theorem rgbScroll_moves_up_25 :
    let m : Mem := ⟨fun a => BitVec.ofNat 8 (a / 64), []⟩
    (rgbScroll ⟨4096, 64, 16, 25, 32⟩ m).byte (4096 + 8 * 64 + 5) = 88 ∧
      (rgbScroll ⟨4096, 64, 16, 25, 32⟩ m).byte (4096 + 9 * 64 + 5) = 0 := by
  intro m
  obtain ⟨hmoved, -⟩ := rgbScroll_moves_up ⟨4096, 64, 16, 25, 32⟩ (by decide) (by decide) m
  exact ⟨hmoved 8 (by decide) 5 (by decide), hmoved 9 (by decide) 5 (by decide)⟩

/-! ## Exact products -/

/-- A product of words is exact when it is below the modulus, and only then. -/
theorem toNat_mul_eq_iff {w : ℕ} {x y : BitVec w} :
    (x * y).toNat = x.toNat * y.toNat ↔ x.toNat * y.toNat < 2 ^ w := by
  constructor
  · intro h
    rw [← h]
    exact (x * y).isLt
  · exact BitVec.toNat_mul_of_lt

/-! ## The arithmetic of the 32-bit driver -/

/-- The bytes of the framebuffer that the firmware describes. -/
def BootInfo.framebufferBytes (b : BootInfo) : ℕ :=
  4 * b.PixelsPerScanLine.toNat * b.VerticalResolution.toNat

/-- Every 32-bit quantity that the 32-bit driver computes is the number that it stands
for, and lies in the framebuffer that the firmware describes. -/
structure ExactGeometry (b : BootInfo) (fb : Framebuffer) : Prop where
  /-- `fb.pitch` -/
  pitch : fb.pitch.toNat = 4 * b.PixelsPerScanLine.toNat
  /-- `pixels` of `rgb_clear32` -/
  pixels : (fb.pitch / 4 * fb.height).toNat
    = b.PixelsPerScanLine.toNat * b.VerticalResolution.toNat
  /-- `scroll_bytes` of `rgb_scroll` -/
  scrollBytes : (rgbCharHeight * fb.pitch).toNat = 16 * fb.pitch.toNat
  /-- `total_bytes` of `rgb_scroll` -/
  totalBytes : (fb.pitch * fb.height).toNat = fb.pitch.toNat * fb.height.toNat
  /-- `total_bytes - scroll_bytes` -/
  no_wrap : (rgbCharHeight * fb.pitch).toNat ≤ (fb.pitch * fb.height).toNat
  /-- `y * fb.pitch` of `rgb_putpixel32` -/
  rowOffset : ∀ y < fb.height, (y * fb.pitch).toNat = y.toNat * fb.pitch.toNat
  /-- the length of the `memmove` -/
  moved : (fb.pitch * fb.height - rgbCharHeight * fb.pitch).toNat ≤ b.framebufferBytes
  /-- the length of the `memset` -/
  cleared : (rgbCharHeight * fb.pitch).toNat ≤ b.framebufferBytes
  /-- the end of the four bytes of a pixel -/
  pixel : ∀ x < fb.width, ∀ y < fb.height,
    (y * fb.pitch).toNat + (x * 4).toNat + 4 ≤ b.framebufferBytes

/-- Sixteen scan lines or more whose bytes fit 32 bits, or no pixels at all. -/
def HandledGeometry (b : BootInfo) : Prop :=
  b.PixelsPerScanLine = 0 ∨ (16 ≤ b.VerticalResolution ∧ b.framebufferBytes < 2 ^ 32)

section Geometry

variable {b : BootInfo}

/-- Without pixels in a scan line every size is zero. -/
theorem framebufferOf_pitch_zero (h : b.PixelsPerScanLine = 0) : (framebufferOf b).pitch = 0 := by
  rw [framebufferOf, h]
  rfl

/-- The pitch is exact below 2^30 pixels in a scan line. -/
theorem framebufferOf_pitch (h : 4 * b.PixelsPerScanLine.toNat < 2 ^ 32) :
    (framebufferOf b).pitch.toNat = 4 * b.PixelsPerScanLine.toNat := by
  have hmul : b.PixelsPerScanLine.toNat * (4 : BitVec 32).toNat < 2 ^ 32 := by
    rw [Nat.mul_comm]
    exact h
  rw [framebufferOf, toNat_mul_eq_iff.mpr hmul, Nat.mul_comm]
  rfl

/-- The bytes of the framebuffer, when the pitch is exact. -/
theorem framebufferOf_size (hpitch : (framebufferOf b).pitch.toNat = 4 * b.PixelsPerScanLine.toNat) :
    (framebufferOf b).size = b.framebufferBytes := by
  rw [Framebuffer.size, hpitch]
  rfl

theorem exactGeometry_of_empty (hline : b.HorizontalResolution ≤ b.PixelsPerScanLine)
    (h : b.PixelsPerScanLine = 0) : ExactGeometry b (framebufferOf b) := by
  have hp := framebufferOf_pitch_zero h
  have hbytes : b.framebufferBytes = 0 := by rw [BootInfo.framebufferBytes, h]; simp
  constructor
  · rw [hp, h]
    rfl
  · rw [hp, h]
    simp
  · rw [hp]
    rfl
  · rw [hp]
    simp
  · rw [hp]
    simp
  · intro y _
    rw [hp]
    simp
  · rw [hp, hbytes]
    simp
  · rw [hp, hbytes]
    rfl
  · intro x hx
    rw [h] at hline
    have hwidth : (framebufferOf b).width ≤ 0 := hline
    exact absurd hx (by bv_omega)

theorem exactGeometry_of_fits (hline : b.HorizontalResolution ≤ b.PixelsPerScanLine)
    (hrows : 16 ≤ b.VerticalResolution) (hbytes : b.framebufferBytes < 2 ^ 32) :
    ExactGeometry b (framebufferOf b) := by
  have hle : 4 * b.PixelsPerScanLine.toNat * 16 ≤ b.framebufferBytes :=
    Nat.mul_le_mul_left _ hrows
  have hpitch : (framebufferOf b).pitch.toNat = 4 * b.PixelsPerScanLine.toNat :=
    framebufferOf_pitch (by omega)
  have hsize := framebufferOf_size hpitch
  have hfit : (framebufferOf b).size < 2 ^ 32 := by rw [hsize]; exact hbytes
  obtain ⟨hscroll, htotal, hinside, hrest⟩ := scroll_sizes hfit hrows
  constructor
  · exact hpitch
  · have hwords : 4 * ((framebufferOf b).pitch / 4 * (framebufferOf b).height).toNat
        = (framebufferOf b).size := clear_words (k := 4) hfit ⟨_, hpitch⟩
    rw [hsize, BootInfo.framebufferBytes, Nat.mul_assoc] at hwords
    exact Nat.eq_of_mul_eq_mul_left (by decide) hwords
  · exact hscroll
  · exact htotal
  · rw [hscroll, htotal]
    exact hinside
  · intro y hy
    exact row_offset_toNat hfit hy
  · rw [hrest, hsize]
    exact Nat.sub_le _ _
  · rw [hscroll, ← hsize]
    exact hinside
  · -- a pixel ends in its own scan line
    intro x hx y hy
    have hx' : x.toNat < b.PixelsPerScanLine.toNat := Nat.lt_of_lt_of_le hx hline
    have hy' : y.toNat < b.VerticalResolution.toNat := hy
    have hcolumn : (x * 4).toNat = x.toNat * 4 :=
      toNat_mul_eq_iff.mpr (show x.toNat * 4 < 2 ^ 32 by omega)
    have hend : y.toNat * (framebufferOf b).pitch.toNat + (x.toNat * 4 + 3)
        < b.VerticalResolution.toNat * (framebufferOf b).pitch.toNat :=
      row_lt_next hy' (by omega)
    rw [row_offset_toNat hfit hy, hcolumn, BootInfo.framebufferBytes, ← hpitch, Nat.mul_comm _
      b.VerticalResolution.toNat]
    omega

/-- Exact arithmetic needs the framebuffer to be handled. -/
theorem ExactGeometry.handled (h : ExactGeometry b (framebufferOf b)) : HandledGeometry b := by
  by_cases hempty : b.PixelsPerScanLine = 0
  · exact Or.inl hempty
  · right
    have hpos : 0 < b.PixelsPerScanLine.toNat := by bv_omega
    constructor
    · -- the last sixteen scan lines are part of the picture
      have hle := h.no_wrap
      rw [h.scrollBytes, h.totalBytes, Nat.mul_comm] at hle
      exact Nat.le_of_mul_le_mul_left hle (by rw [h.pitch]; omega)
    · rw [← framebufferOf_size h.pitch]
      exact toNat_mul_eq_iff.mp h.totalBytes

/-- **The arithmetic of a console that `console_init` has set up is exact** exactly when
the framebuffer has sixteen scan lines and fits 32 bits, or has no pixels. -/
theorem exact_geometry_iff (b : BootInfo) (s t : ConsoleState) (hinit : consoleInit b s = (0, t))
    (hline : b.HorizontalResolution ≤ b.PixelsPerScanLine) :
    ExactGeometry b t.fb ↔ HandledGeometry b := by
  have hfb : t.fb = framebufferOf b := by
    have h := consoleInit_fb b s
    rw [hinit] at h
    exact h
  rw [hfb]
  constructor
  · exact ExactGeometry.handled
  · rintro (hempty | ⟨hrows, hbytes⟩)
    · exact exactGeometry_of_empty hline hempty
    · exact exactGeometry_of_fits hline hrows hbytes

end Geometry

/-- A 1024x768 mode is handled. -/
theorem exact_geometry_1024x768 :
    ExactGeometry bootInfo1024x768
      (consoleInit bootInfo1024x768 (consoleBoot ⟨fun _ => 0, []⟩)).2.fb := by
  refine (exact_geometry_iff bootInfo1024x768 (consoleBoot ⟨fun _ => 0, []⟩) _ rfl (by decide)).mpr ?_
  exact Or.inr ⟨by decide, by decide⟩

/-- With eight scan lines `console_init` returns 0, and `total_bytes - scroll_bytes`
wraps to nearly 4 GiB. -/
theorem console_init_accepts_eight_lines :
    let b : BootInfo := { bootInfo1024x768 with VerticalResolution := 8 }
    let fb := (consoleInit b (consoleBoot ⟨fun _ => 0, []⟩)).2.fb
    (consoleInit b (consoleBoot ⟨fun _ => 0, []⟩)).1 = 0 ∧
      (fb.pitch * fb.height - rgbCharHeight * fb.pitch).toNat = 2 ^ 32 - 8 * 4224 ∧
      ¬ ∀ b s, (consoleInit b s).1 = 0 → b.HorizontalResolution ≤ b.PixelsPerScanLine →
        ExactGeometry b (consoleInit b s).2.fb := by
  intro b fb
  refine ⟨by decide, by decide, ?_⟩
  intro h
  have hwrap := (h b (consoleBoot ⟨fun _ => 0, []⟩) (by decide) (by decide)).no_wrap
  exact absurd hwrap (by decide)

end GridX64
