/-
# Below the text area

`rgb_scroll` leaves the cursor where it is.  Once the cursor has left the text area by its
last row, every character scrolls, and what is drawn is drawn below the screen: the screen
moves up until nothing is left of it.

* `putc_below` — one character;
* `putc_run_below` — every run without a backspace, at every depth;
* `kernelMain_dark` — the kernel whose transcript is too long for its screen.
-/
import GridX64.KernelScreen

namespace GridX64

variable {d : Depth} {fb : Framebuffer}

/-! ## One character -/

/-- Pixels below the screen are not stored. -/
theorem Depth.putpixel_below (d : Depth) {x y color : BitVec 32} (hy : y ≥ fb.height) (m : Mem) :
    d.putpixel fb x y color m = m := by
  cases d with
  | bpp16 => exact if_pos (Or.inr hy)
  | bpp24 => exact if_pos (Or.inr hy)
  | bpp32 => exact if_pos (Or.inr hy)

/-- A character below the screen is not drawn. -/
theorem rgbDrawchar_below {x y : BitVec 32} (hy : fb.height.toNat ≤ y.toNat)
    (hwrap : y.toNat + 16 ≤ 2 ^ 32) (c : Byte) (color : BitVec 32) (m : Mem) :
    rgbDrawchar (d.putpixel fb) x y c color m = m := by
  rw [rgbDrawchar]
  refine forUp_preserves (fun t => t = m) rfl (fun row hrow t ht => ?_)
  refine forUp_preserves (fun t => t = m) ht (fun col _ t ht => ?_)
  have hbelow : y + BitVec.ofNat 32 row ≥ fb.height := by
    rw [ge_iff_le, BitVec.le_def, toNat_add_offset hrow hwrap]
    omega
  rw [d.putpixel_below hbelow]
  split_ifs <;> exact ht

/-- The cursor's cell lies below the screen, and its pixel rows fit 32 bits. -/
structure RgbState.Below {σ : Type*} (fb : Framebuffer) (s : RgbState σ) : Prop where
  row : fb.height.toNat ≤ 16 * s.cursorY.toNat
  fits : s.cursorY.toNat < 2 ^ 28

theorem RgbState.Below.scrolls {s : RgbState Mem} (h : s.Below fb) {y : BitVec 32}
    (hy : s.cursorY.toNat ≤ y.toNat) : y ≥ fb.maxRows := by
  have hrow := h.row
  rw [ge_iff_le, BitVec.le_def, Framebuffer.maxRows, BitVec.toNat_udiv,
    show (rgbCharHeight : BitVec 32).toNat = 16 from rfl]
  omega

/-- The next row, where it does not wrap around. -/
theorem toNat_next_row {y : BitVec 32} (hy : y.toNat + 1 < 2 ^ 32) :
    (y + 1).toNat = y.toNat + 1 := BitVec.toNat_add_of_lt hy

/-- **A character below the text area** other than a backspace does nothing but scroll. -/
theorem putc_below {s : RgbState Mem} (h : s.Below fb) {c : Byte} (hc : c ≠ chBackspace) :
    (d.putc fb c s).screen = rgbScroll fb s.screen := by
  have hdraw : rgbDrawchar (d.putpixel fb) (s.cursorX * rgbCharWidth)
      (s.cursorY * rgbCharHeight) c rgbDefaultColor s.screen = s.screen := by
    have hfits := h.fits
    have hrow : (s.cursorY * rgbCharHeight).toNat = 16 * s.cursorY.toNat := by
      rw [BitVec.toNat_mul, show (rgbCharHeight : BitVec 32).toNat = 16 from rfl, Nat.mul_comm]
      exact Nat.mod_eq_of_lt (by omega)
    exact rgbDrawchar_below (by rw [hrow]; exact h.row) (by omega) c _ _
  have hscroll : s.cursorY ≥ fb.maxRows := h.scrolls (Nat.le_refl _)
  have hscroll' : s.cursorY + 1 ≥ fb.maxRows := by
    have hfits := h.fits
    exact h.scrolls (by rw [toNat_next_row (by omega)]; omega)
  rw [d.putc_eq, rgbPutc]
  split_ifs
  · rw [rgbSettle, if_pos hscroll']
  · rw [rgbSettle, if_pos hscroll]
  · rw [hdraw, rgbSettle, if_pos hscroll']
  · rw [hdraw, rgbSettle, if_pos hscroll]
  · rw [rgbSettle, if_pos hscroll]

/-! ## The rows of a text -/

/-- A character other than a backspace moves the cursor down by at most one row, a newline
by exactly one. -/
theorem rgbCursor_row (fb : Framebuffer) {c : Byte} (hc : c ≠ chBackspace) (x : BitVec 32)
    {y : BitVec 32} (hy : y.toNat + 1 < 2 ^ 32) :
    y.toNat + (if c = chNewline then 1 else 0) ≤ (rgbCursor fb c x y).2.toNat ∧
      (rgbCursor fb c x y).2.toNat ≤ y.toNat + 1 := by
  have hsucc := toNat_next_row hy
  rw [rgbCursor]
  split_ifs <;> simp only [hsucc] <;> omega

/-- The row of the cursor after one character. -/
theorem putc_row (d : Depth) (fb : Framebuffer) {c : Byte} (hc : c ≠ chBackspace)
    {s : RgbState Mem} (hs : s.cursorY.toNat + 1 < 2 ^ 32) :
    s.cursorY.toNat + (if c = chNewline then 1 else 0) ≤ (d.putc fb c s).cursorY.toNat ∧
      (d.putc fb c s).cursorY.toNat ≤ s.cursorY.toNat + 1 := by
  rw [d.putc_eq, rgbPutc_cursorY]
  exact rgbCursor_row fb hc s.cursorX hs

/-- Over a text without backspaces the cursor goes down at least by its newlines and at most
by its characters. -/
theorem cursorY_run (d : Depth) (fb : Framebuffer) {cs : List Byte} (hcs : chBackspace ∉ cs)
    {s : RgbState Mem} (hs : s.cursorY.toNat + cs.length < 2 ^ 32) :
    s.cursorY.toNat + cs.count chNewline ≤ (run (fun s c => d.putc fb c s) s cs).cursorY.toNat ∧
      (run (fun s c => d.putc fb c s) s cs).cursorY.toNat ≤ s.cursorY.toNat + cs.length := by
  induction cs generalizing s with
  | nil => exact ⟨Nat.le_refl _, Nat.le_refl _⟩
  | cons c cs ih =>
      rw [List.mem_cons, not_or] at hcs
      rw [List.length_cons] at hs
      have hstep := putc_row d fb (Ne.symm hcs.1) (s := s) (by omega)
      obtain ⟨hlow, hhigh⟩ := ih hcs.2 (s := d.putc fb c s) (by omega)
      rw [run_cons, List.count_cons, List.length_cons]
      simp only [beq_iff_eq]
      omega

/-! ## Runs -/

/-- **Below the text area the screen only moves up.**  At every depth, on a framebuffer of at
least 16 scan lines and less than 4 GiB, from a cursor below the screen, a text of `n`
characters without a backspace leaves at every byte of the framebuffer what was `16 n` scan
lines further down, or zero, and nothing else changed.  A row from 2^28 on would be drawn at
the top again. -/
theorem putc_run_below (d : Depth) (fb : Framebuffer) (hsize : fb.size < 2 ^ 32)
    (hheight : 16 ≤ fb.height) {cs : List Byte} (hcs : chBackspace ∉ cs) {s : RgbState Mem}
    (hbelow : fb.height.toNat ≤ 16 * s.cursorY.toNat)
    (hroom : s.cursorY.toNat + cs.length < 2 ^ 28) (a : ℕ) :
    (run (fun s c => d.putc fb c s) s cs).screen.byte a
      = if fb.addr ≤ a ∧ a < fb.addr + fb.size then
          if a + cs.length * (16 * fb.pitch.toNat) < fb.addr + fb.size then
            s.screen.byte (a + cs.length * (16 * fb.pitch.toNat))
          else 0
        else s.screen.byte a := by
  induction cs generalizing s with
  | nil =>
      simp only [run_nil, List.length_nil, Nat.zero_mul, Nat.add_zero]
      split_ifs with hin hlt
      · rfl
      · exact absurd hin.2 hlt
      · rfl
  | cons c cs ih =>
      rw [List.mem_cons, not_or] at hcs
      rw [List.length_cons] at hroom
      have hscroll : (d.putc fb c s).screen = rgbScroll fb s.screen :=
        putc_below ⟨hbelow, by omega⟩ (Ne.symm hcs.1)
      obtain ⟨hlow, hhigh⟩ := putc_row d fb (Ne.symm hcs.1) (s := s) (by omega)
      have hrest := ih hcs.2 (s := d.putc fb c s) (by omega) (by omega)
      have hsplit : a + (cs.length + 1) * (16 * fb.pitch.toNat)
          = a + cs.length * (16 * fb.pitch.toNat) + 16 * fb.pitch.toNat := by
        rw [Nat.add_mul]
        omega
      rw [run_cons, hrest, hscroll, rgbScroll_byte hsize hheight, rgbScroll_byte hsize hheight,
        List.length_cons, hsplit]
      split_ifs <;> first | rfl | omega

/-- **A text that is too long leaves a black screen.**  When a part of it has moved the
cursor below the screen, and the rest has at least as many characters as the screen has
rows, no byte of the framebuffer is left but zeros. -/
theorem putc_run_dark (d : Depth) (fb : Framebuffer) (hsize : fb.size < 2 ^ 32)
    (hheight : 16 ≤ fb.height) {pre post : List Byte} (hcs : chBackspace ∉ pre ++ post)
    {s : RgbState Mem} (hpre : fb.height.toNat ≤ 16 * (s.cursorY.toNat + pre.count chNewline))
    (hpost : fb.height.toNat ≤ 16 * post.length)
    (hroom : s.cursorY.toNat + (pre ++ post).length < 2 ^ 28) {a : ℕ} (ha : fb.Inside a) :
    (run (fun s c => d.putc fb c s) s (pre ++ post)).screen.byte a = 0 := by
  rw [List.mem_append, not_or] at hcs
  rw [List.length_append] at hroom
  obtain ⟨hlow, hhigh⟩ := cursorY_run d fb hcs.1 (s := s) (by omega)
  rw [run_append, putc_run_below d fb hsize hheight hcs.2 (by omega) (by omega), if_pos (show _ ∧ _ from ha),
    if_neg]
  intro hlt
  -- `16 * post.length` lines down is past the last line
  have hpast : fb.height.toNat * fb.pitch.toNat ≤ 16 * post.length * fb.pitch.toNat :=
    Nat.mul_le_mul_right _ hpost
  rw [Framebuffer.size, Nat.mul_comm fb.pitch.toNat, Nat.mul_left_comm, ← Nat.mul_assoc] at hlt
  have hge : fb.addr ≤ a := ha.1
  omega

/-- A letter and a newline typed on row 30 of a white 640x480 screen blacken its last two
text rows. -/
theorem putc_run_below_640x480 :
    (run (fun s c => Depth.putc .bpp32 mode640x480 c s)
        { screen := { byte := fun _ => 0xFF, touched := [] }, cursorX := 0, cursorY := 30 }
        [65, chNewline]).screen.byte (0x80000000 + 448 * 2560) = 0 := by
  rw [putc_run_below .bpp32 mode640x480 (by decide) (by decide) (by decide) (by decide)
    (by decide), if_pos (by decide), if_neg (by decide)]

/-! ## The kernel -/

/-- **A transcript that is too long is lost.**  When the kernel idles on a sane framebuffer and
has printed, in a transcript without backspaces, newlines for the height of the screen, at 16
scan lines each, and then as many characters, nothing is left on the screen. -/
theorem kernelMain_dark {m : ℕ → Byte} {cpu : Cpu} {b : BootInfo} (hb : b.Sane)
    (hidles : KernelIdles m b) {fuel₀ : ℕ} {info : AcpiInfo} {tables : List ListedTable}
    (hinit : acpiInit m fuel₀ cpu b.SystemTable AcpiInfo.zero = .ok (info, tables))
    {pre post : List Byte} (htext : kernelText m b info tables = pre ++ post)
    (hback : chBackspace ∉ pre ++ post)
    (hpre : b.VerticalResolution.toNat ≤ 16 * pre.count chNewline)
    (hpost : b.VerticalResolution.toNat ≤ 16 * post.length)
    (hroom : (pre ++ post).length < 2 ^ 28) (s : ConsoleState) :
    ∃ N, ∀ fuel ≥ N, ∃ t, kernelMain fuel m cpu b s = .ok (info, t) ∧
      ∀ a, (framebufferOf b).Inside a → t.rgb.screen.byte a = 0 := by
  obtain ⟨N, hN⟩ := kernelMain_settles hinit hidles s
  refine ⟨N, fun fuel hfuel => ⟨_, hN fuel hfuel, ?_⟩⟩
  intro a ha
  have hstart : (rgbClear32 (framebufferOf b) s.rgb).cursorY.toNat = 0 := rfl
  rw [consoleClear_init hb, run_consolePutc, htext]
  exact putc_run_dark .bpp32 (framebufferOf b) hb.fits.size_lt hb.height hback
    (by rw [hstart, Nat.zero_add]; exact hpre) hpost (by rw [hstart, Nat.zero_add]; exact hroom) ha

/-- The firmware's transcript on a screen of two rows. -/
theorem kernelMain_dark_two_rows :
    ∃ N, ∀ fuel ≥ N, ∃ t,
      kernelMain fuel (firmware 0x50) cpuWithApic { bootFirmware with VerticalResolution := 32 }
          (consoleBoot ⟨fun _ => 0xFF, []⟩) = .ok (firmwareInfo, t) ∧
        ∀ a, (framebufferOf { bootFirmware with VerticalResolution := 32 }).Inside a →
          t.rgb.screen.byte a = 0 := by
  have hsane : BootInfo.Sane { bootFirmware with VerticalResolution := 32 } :=
    { base := by decide
      width := by decide
      height := by decide
      line := by decide
      size := by decide
      wrap := by decide }
  have hidles : KernelIdles (firmware 0x50) { bootFirmware with VerticalResolution := 32 } :=
    { acpi := bootFirmware_idles.acpi
      config := bootFirmware_idles.config
      stride := bootFirmware_idles.stride
      map := bootFirmware_idles.map }
  refine kernelMain_dark hsane hidles firmware_acpiInit (List.take_append_drop 64 _).symm ?_ ?_ ?_
    ?_ (consoleBoot ⟨fun _ => 0xFF, []⟩)
  · rw [List.take_append_drop]
    decide +kernel
  · decide +kernel
  · decide +kernel
  · rw [List.take_append_drop]
    decide +kernel

end GridX64
