/-
# The cursor of the framebuffer console

The cursor of `rgb_putcN` does not depend on the depth, nor on the picture.
`RgbState.InText` is the text area, and the cursor stays inside it exactly as
long as no character is printed that moves it below the last text row
(`StaysInText`): `rgb_scroll`, unlike `vga_scroll`, does not move the cursor
back up, so the first such character leaves it outside (`putc_inText_iff`).

The column bound needs no condition: every branch of `rgb_putcN` keeps
`cursor_x < max_cols` (`rgbPutc_cursorX_lt`).
-/
import GridX64.Rgb
import GridX64.Runs

namespace GridX64

variable {σ : Type*}

/-- The cursor is on a cell of the text area. -/
def RgbState.InText (fb : Framebuffer) (s : RgbState σ) : Prop :=
  s.cursorX < fb.maxCols ∧ s.cursorY < fb.maxRows

instance (fb : Framebuffer) (s : RgbState σ) : Decidable (s.InText fb) :=
  inferInstanceAs (Decidable (s.cursorX < fb.maxCols ∧ s.cursorY < fb.maxRows))

/-- Printing `c` does not move the cursor below the last text row: it is not a
newline on the last row, nor a printable character in the last cell. -/
def StaysInText (fb : Framebuffer) (c : Byte) (s : RgbState σ) : Prop :=
  (c = chNewline → s.cursorY + 1 < fb.maxRows) ∧
    (IsPrintable c → s.cursorX + 1 < fb.maxCols ∨ s.cursorY + 1 < fb.maxRows)

instance (fb : Framebuffer) (c : Byte) (s : RgbState σ) : Decidable (StaysInText fb c s) :=
  inferInstanceAs (Decidable (_ ∧ _))

/-- The number of calls of `rgb_scroll` that one `rgb_putcN` makes: the driver
run on a surface that counts them. -/
def scrollCalls (fb : Framebuffer) (c : Byte) (s : RgbState σ) : ℕ :=
  (rgbPutc fb (fun _ _ _ n => n) (fun n => n + 1) c
    { screen := 0, cursorX := s.cursorX, cursorY := s.cursorY }).screen

/-! ## Cells -/

/-- Offsets inside a cell do not wrap. -/
theorem toNat_add_offset {x : BitVec 32} {k n : ℕ} (hk : k < n) (hx : x.toNat + n ≤ 2 ^ 32) :
    (x + BitVec.ofNat 32 k).toNat = x.toNat + k := by
  rw [BitVec.toNat_add, BitVec.toNat_ofNat, Nat.mod_eq_of_lt (show k < 2 ^ 32 by omega),
    Nat.mod_eq_of_lt (by omega)]

/-- A column of the text area is on the screen, and its pixel offset does not wrap. -/
theorem cell_column {fb : Framebuffer} {cx : BitVec 32} (hx : cx < fb.maxCols) :
    (cx * rgbCharWidth).toNat = 8 * cx.toNat ∧ 8 * cx.toNat + 8 ≤ fb.width.toNat := by
  have hx' : cx.toNat < fb.width.toNat / 8 := by
    rw [BitVec.lt_def, Framebuffer.maxCols, BitVec.toNat_udiv] at hx
    exact hx
  have hw := fb.width.isLt
  have hmul : (cx * rgbCharWidth).toNat = cx.toNat * 8 := by
    rw [BitVec.toNat_mul]
    exact Nat.mod_eq_of_lt (by rw [show rgbCharWidth.toNat = 8 from rfl]; omega)
  omega

/-- A row of the text area is on the screen, and its pixel offset does not wrap. -/
theorem cell_row {fb : Framebuffer} {cy : BitVec 32} (hy : cy < fb.maxRows) :
    (cy * rgbCharHeight).toNat = 16 * cy.toNat ∧ 16 * cy.toNat + 16 ≤ fb.height.toNat := by
  have hy' : cy.toNat < fb.height.toNat / 16 := by
    rw [BitVec.lt_def, Framebuffer.maxRows, BitVec.toNat_udiv] at hy
    exact hy
  have hh := fb.height.isLt
  have hmul : (cy * rgbCharHeight).toNat = cy.toNat * 16 := by
    rw [BitVec.toNat_mul]
    exact Nat.mod_eq_of_lt (by rw [show rgbCharHeight.toNat = 16 from rfl]; omega)
  omega

/-! ## The cursor after one character -/

@[simp] theorem rgbSettle_cursorX (fb : Framebuffer) (scroll : σ → σ) (s : RgbState σ) :
    (rgbSettle fb scroll s).cursorX = s.cursorX := by
  rw [rgbSettle]
  split_ifs <;> rfl

@[simp] theorem rgbSettle_cursorY (fb : Framebuffer) (scroll : σ → σ) (s : RgbState σ) :
    (rgbSettle fb scroll s).cursorY = s.cursorY := by
  rw [rgbSettle]
  split_ifs <;> rfl

/-- Where the cursor goes: the part of `rgb_putcN` that moves it. -/
def rgbCursor (fb : Framebuffer) (c : Byte) (x y : BitVec 32) : BitVec 32 × BitVec 32 :=
  if c = chNewline then (0, y + 1)
  else if c = chReturn then (0, y)
  else if c = chBackspace then
    if x > 0 then (x - 1, y) else if y > 0 then (fb.maxCols - 1, y - 1) else (x, y)
  else if IsPrintable c then
    if x + 1 ≥ fb.maxCols then (0, y + 1) else (x + 1, y)
  else (x, y)

section Step

variable (fb : Framebuffer) (put : BitVec 32 → BitVec 32 → BitVec 32 → σ → σ) (scroll : σ → σ)

/-- The cursor moves the same way on every surface. -/
theorem rgbPutc_cursor (c : Byte) (s : RgbState σ) :
    ((rgbPutc fb put scroll c s).cursorX, (rgbPutc fb put scroll c s).cursorY)
      = rgbCursor fb c s.cursorX s.cursorY := by
  rw [rgbPutc, rgbCursor]
  split_ifs <;> simp only [rgbSettle_cursorX, rgbSettle_cursorY]

theorem rgbPutc_cursorX (c : Byte) (s : RgbState σ) :
    (rgbPutc fb put scroll c s).cursorX = (rgbCursor fb c s.cursorX s.cursorY).1 :=
  congrArg Prod.fst (rgbPutc_cursor fb put scroll c s)

theorem rgbPutc_cursorY (c : Byte) (s : RgbState σ) :
    (rgbPutc fb put scroll c s).cursorY = (rgbCursor fb c s.cursorX s.cursorY).2 :=
  congrArg Prod.snd (rgbPutc_cursor fb put scroll c s)

/-- **The column never leaves the text area**, whatever the character. -/
theorem rgbPutc_cursorX_lt (c : Byte) {s : RgbState σ} (hcols : 0 < fb.maxCols)
    (h : s.cursorX < fb.maxCols) : (rgbPutc fb put scroll c s).cursorX < fb.maxCols := by
  rw [rgbPutc_cursorX, rgbCursor]
  split_ifs with hn hr hb hx hy hp hlast <;> bv_omega

/-- From a cursor in the text area, one character keeps it there exactly when it
does not move it below the last row. -/
theorem rgbPutc_inText_iff (c : Byte) {s : RgbState σ} (h : s.InText fb) :
    (rgbPutc fb put scroll c s).InText fb ↔ StaysInText fb c s := by
  obtain ⟨hx, hy⟩ := h
  have hX := rgbPutc_cursorX_lt fb put scroll c (by bv_omega) hx
  rw [RgbState.InText, and_iff_right hX, rgbPutc_cursorY, rgbCursor, StaysInText]
  split_ifs with hn hr hb hx0 hy0 hp hlast
  · have hnp : ¬ IsPrintable c := fun hp => hp.ne_control.1 hn
    exact ⟨fun h => ⟨fun _ => h, fun hp => absurd hp hnp⟩, fun h => h.1 hn⟩
  · have hnp : ¬ IsPrintable c := fun hp => hp.ne_control.2.1 hr
    exact ⟨fun _ => ⟨fun h => absurd h hn, fun hp => absurd hp hnp⟩, fun _ => hy⟩
  · have hnp : ¬ IsPrintable c := fun hp => hp.ne_control.2.2 hb
    exact ⟨fun _ => ⟨fun h => absurd h hn, fun hp => absurd hp hnp⟩, fun _ => hy⟩
  · have hnp : ¬ IsPrintable c := fun hp => hp.ne_control.2.2 hb
    have hup : s.cursorY - 1 < fb.maxRows := by bv_omega
    exact ⟨fun _ => ⟨fun h => absurd h hn, fun hp => absurd hp hnp⟩, fun _ => hup⟩
  · have hnp : ¬ IsPrintable c := fun hp => hp.ne_control.2.2 hb
    exact ⟨fun _ => ⟨fun h => absurd h hn, fun hp => absurd hp hnp⟩, fun _ => hy⟩
  · have hlast' : ¬ s.cursorX + 1 < fb.maxCols := by bv_omega
    exact ⟨fun h => ⟨fun h => absurd h hn, fun _ => Or.inr h⟩,
      fun h => (h.2 hp).resolve_left hlast'⟩
  · have hnext : s.cursorX + 1 < fb.maxCols := by bv_omega
    exact ⟨fun _ => ⟨fun h => absurd h hn, fun _ => Or.inl hnext⟩, fun _ => hy⟩
  · exact ⟨fun _ => ⟨fun h => absurd h hn, fun h => absurd h hp⟩, fun _ => hy⟩

end Step

/-! ## Calls that do not scroll -/

/-- Above the bottom of the text area the last statement of `rgb_putcN` does nothing. -/
theorem rgbSettle_of_lt (fb : Framebuffer) (scroll : σ → σ) (p : σ) (x : BitVec 32)
    {y : BitVec 32} (h : y < fb.maxRows) :
    rgbSettle fb scroll { screen := p, cursorX := x, cursorY := y }
      = { screen := p, cursorX := x, cursorY := y } := by
  rw [rgbSettle, if_neg (by bv_omega)]

/-- Drawing on a surface that ignores pixels leaves it alone. -/
theorem rgbDrawchar_ignore (x y : BitVec 32) (c : Byte) (color : BitVec 32) (s : σ) :
    rgbDrawchar (fun _ _ _ t => t) x y c color s = s := by
  rw [rgbDrawchar]
  refine forUp_preserves (fun t => t = s) rfl (fun row _ t ht => ?_)
  refine forUp_preserves (fun t => t = s) ht (fun col _ t ht => ?_)
  split_ifs <;> exact ht

/-- Erasing on a surface that ignores pixels leaves it alone. -/
theorem rgbErase_ignore (x y : BitVec 32) (s : σ) : rgbErase (fun _ _ _ t => t) x y s = s := by
  rw [rgbErase]
  refine forUp_preserves (fun t => t = s) rfl (fun row _ t ht => ?_)
  exact forUp_preserves (fun t => t = s) ht (fun col _ t ht => ht)

/-- A call that leaves the cursor above the bottom of the text area does not scroll. -/
theorem scrollCalls_eq_zero (fb : Framebuffer) (c : Byte) {s : RgbState σ}
    (h : (rgbCursor fb c s.cursorX s.cursorY).2 < fb.maxRows) : scrollCalls fb c s = 0 := by
  rw [rgbCursor] at h
  rw [scrollCalls, rgbPutc]
  split_ifs at h ⊢
  · rw [rgbSettle_of_lt fb _ _ _ h]
  · rw [rgbSettle_of_lt fb _ _ _ h]
  · simp only [rgbErase_ignore]
  · simp only [rgbErase_ignore]
  · rfl
  · simp only [rgbDrawchar_ignore, rgbSettle_of_lt fb _ _ _ h]
  · simp only [rgbDrawchar_ignore, rgbSettle_of_lt fb _ _ _ h]
  · rw [rgbSettle_of_lt fb _ _ _ h]

/-! ## The cursor along a run -/

/-- **The text area is kept by a run exactly when no call moves the cursor below
the last row.**  While it is kept no call scrolls, so the cursor position that a
scroll leaves behind is never at issue. -/
theorem putc_inText_iff (d : Depth) (fb : Framebuffer) (hcols : 1 ≤ fb.maxCols)
    (hrows : 1 ≤ fb.maxRows) (m : Mem) (cs : List Byte) :
    EveryStep (fun s c => d.putc fb c s)
        (fun s c s' => s'.InText fb ∧
          (scrollCalls fb c s ≠ 0 → s'.cursorY = fb.maxRows - 1))
        { screen := m, cursorX := 0, cursorY := 0 } cs
      ↔ EveryStep (fun s c => d.putc fb c s) (fun s c _ => StaysInText fb c s)
        { screen := m, cursorX := 0, cursorY := 0 } cs := by
  rw [d.putc_eq]
  refine everyStep_iff (fun s => s.InText fb) ?_ ?_ ?_
  · exact ⟨by bv_omega, by bv_omega⟩
  · intro s hs c
    constructor
    · exact fun h => (rgbPutc_inText_iff fb _ _ c hs).mp h.1
    · -- a call that stays does not scroll
      intro hstay
      have hin := (rgbPutc_inText_iff fb (d.putpixel fb) (rgbScroll fb) c hs).mpr hstay
      have hY := hin.2
      rw [rgbPutc_cursorY] at hY
      exact ⟨hin, fun hscroll => absurd (scrollCalls_eq_zero fb c hY) hscroll⟩
  · intro s hs c hstay
    exact (rgbPutc_inText_iff fb _ _ c hs).mpr hstay

/-- A 640x480 mode: 80 columns and 30 rows of text. -/
def mode640x480 : Framebuffer :=
  { addr := 0x80000000, pitch := 2560, width := 640, height := 480, bpp := 32 }

/-- Typing, a newline and a backspace over it stay inside a 640x480 text area. -/
theorem putc_inText_640x480 :
    EveryStep (fun s c => Depth.putc .bpp32 mode640x480 c s)
      (fun s c s' => s'.InText mode640x480 ∧
        (scrollCalls mode640x480 c s ≠ 0 → s'.cursorY = mode640x480.maxRows - 1))
      { screen := { byte := fun _ => 0, touched := [] }, cursorX := 0, cursorY := 0 }
      [65, chNewline, chBackspace] := by
  refine (putc_inText_iff .bpp32 mode640x480 (by decide) (by decide) _ _).mpr ?_
  exact ⟨by decide +kernel, by decide +kernel, by decide +kernel, trivial⟩

/-- Thirty newlines on a 640x480 screen leave the cursor on row 30, below the
last text row 29. -/
theorem putc_leaves_text_area :
    ¬ ∀ (d : Depth) (fb : Framebuffer), 1 ≤ fb.maxCols → 1 ≤ fb.maxRows →
      ∀ (m : Mem) (cs : List Byte),
        EveryStep (fun s c => d.putc fb c s)
          (fun s c s' => s'.InText fb ∧
            (scrollCalls fb c s ≠ 0 → s'.cursorY = fb.maxRows - 1))
          { screen := m, cursorX := 0, cursorY := 0 } cs := by
  intro h
  -- the thirtieth newline is the first that no row is left for
  have h30 := h .bpp32 mode640x480 (by decide) (by decide) { byte := fun _ => 0, touched := [] }
    (List.replicate 29 chNewline ++ [chNewline])
  rw [everyStep_append] at h30
  have hlast := h30.2.1.1.2
  revert hlast
  decide +kernel

end GridX64
