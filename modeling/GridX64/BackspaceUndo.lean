/-
# A backspace undoes what was typed

A printed character and the backspace after it move the cursor forth and back, over
the end of a row too, and rewrite one cell.  If that cell was blank nothing is left of
the character:

* `vgaPutc_typed_erased` — the two calls on the VGA console;
* `rgbCursor_typed_erased`, `rgbPutc_typed_erased` — the two calls of `rgb_putcN`, on
  any surface;
* `rgbErase_painted` — the erasing loop paints the cell black, and nothing else;
* `backspace_undoes_typing` — every state that a run from a clear reaches.
-/
import GridX64.RgbOverprint
import GridX64.VgaCursor
import GridX64.VgaPage

namespace GridX64

/-! ## The VGA console -/

/-- The cell at the cursor is blank. -/
def VgaBlankAtCursor (s : VgaState) : Prop :=
  s.memory s.cursorPos = vgaEntry chSpace s.colorAttr

/-- A character printed at the cursor scrolls: it is in the last cell. -/
def VgaPrintScrolls (s : VgaState) : Prop :=
  s.cursorX + 1 ≥ vgaMaxCols ∧ s.cursorY + 1 ≥ vgaMaxRows

instance (s : VgaState) : Decidable (VgaPrintScrolls s) := inferInstanceAs (Decidable (_ ∧ _))

/-- `vga_putc(c)` and `vga_putc('\b')` leave the cursor and every cell as they were. -/
structure VgaUndone (c : Byte) (s : VgaState) : Prop where
  cursorX : (vgaPutc chBackspace (vgaPutc c s)).cursorX = s.cursorX
  cursorY : (vgaPutc chBackspace (vgaPutc c s)).cursorY = s.cursorY
  memory : (vgaPutc chBackspace (vgaPutc c s)).memory = s.memory

/-- A backspace keeps the cursor on the screen. -/
theorem OnScreen.backspace {s : VgaState} (h : OnScreen s) : OnScreen (vgaPutc chBackspace s) := by
  obtain ⟨hx0, hx, hy0, hy⟩ := h
  rw [vgaPutc, if_neg (by decide), if_neg (by decide), if_pos rfl]
  by_cases hcol : s.cursorX > 0
  · rw [if_pos hcol]
    exact ⟨show 0 ≤ s.cursorX - 1 by omega, show s.cursorX - 1 < 80 by omega, hy0, hy⟩
  rw [if_neg hcol]
  by_cases hrow : s.cursorY > 0
  · rw [if_pos hrow]
    exact ⟨show (0 : ℤ) ≤ 80 - 1 by omega, show (80 : ℤ) - 1 < 80 by omega,
      show 0 ≤ s.cursorY - 1 by omega, show s.cursorY - 1 < 25 by omega⟩
  · rw [if_neg hrow]
    exact ⟨hx0, hx, hy0, hy⟩

/-- The cursor stays on the screen along a run. -/
theorem vgaRun_onScreen (s : VgaState) (cs : List Byte) :
    OnScreen (run (fun s c => vgaPutc c s) (vgaClear s) cs) := by
  let crtc : Crtc := ⟨0, fun _ => 0⟩
  apply run_invariant OnScreen (vgaClear_inStep crtc s).2
  intro s hs c
  by_cases hc : c = chBackspace
  · rw [hc]
    exact hs.backspace
  · exact (vgaPutc_inStep crtc hs hc).2

/-- A printed character that does not scroll is stored at the cursor, which moves on. -/
theorem vgaPutc_printed {c : Byte} (hc : IsPrintable c) {s : VgaState} (hs : OnScreen s)
    (hscroll : ¬ VgaPrintScrolls s) :
    vgaPutc c s
      = if s.cursorX + 1 ≥ vgaMaxCols then
          updateCursor { vgaStoreAtCursor c s with cursorX := 0, cursorY := s.cursorY + 1 }
        else updateCursor { vgaStoreAtCursor c s with cursorX := s.cursorX + 1 } := by
  obtain ⟨hn, hr, hb⟩ := hc.ne_control
  rw [vgaPutc, if_neg hn, if_neg hr, if_neg hb, if_pos hc]
  by_cases hlast : s.cursorX + 1 ≥ vgaMaxCols
  · have hrow : ¬ s.cursorY + 1 ≥ vgaMaxRows := fun hrow => hscroll ⟨hlast, hrow⟩
    exact (if_pos hlast).trans ((if_neg hrow).trans (if_pos hlast).symm)
  · have hrow : ¬ s.cursorY ≥ (25 : ℤ) := not_le.mpr hs.y_lt
    exact (if_neg hlast).trans ((if_neg hrow).trans (if_neg hlast).symm)

/-- A backspace that moves the cursor to `(x, y)` blanks the cell there. -/
theorem vgaPutc_backspace {s : VgaState} {x y : ℤ}
    (hmove : (0 < s.cursorX ∧ x = s.cursorX - 1 ∧ y = s.cursorY) ∨
      (s.cursorX = 0 ∧ 0 < s.cursorY ∧ x = 79 ∧ y = s.cursorY - 1)) :
    let t := vgaPutc chBackspace s
    t.cursorX = x ∧ t.cursorY = y ∧
      t.memory = Function.update s.memory (y * 80 + x) (vgaEntry chSpace s.colorAttr) := by
  rw [vgaPutc, if_neg (by decide), if_neg (by decide), if_pos rfl]
  rcases hmove with ⟨hcol, rfl, rfl⟩ | ⟨hcol, hrow, rfl, rfl⟩
  · rw [if_pos hcol]
    exact ⟨rfl, rfl, rfl⟩
  · rw [if_neg (by omega), if_pos hrow]
    exact ⟨rfl, rfl, rfl⟩

/-- **Typing and erasing on the VGA console**: the cursor is back, and its cell blank. -/
theorem vgaPutc_typed_erased {c : Byte} (hc : IsPrintable c) {s : VgaState} (hs : OnScreen s)
    (hscroll : ¬ VgaPrintScrolls s) :
    let t := vgaPutc chBackspace (vgaPutc c s)
    t.cursorX = s.cursorX ∧ t.cursorY = s.cursorY ∧
      t.memory = Function.update (Function.update s.memory s.cursorPos (vgaEntry c s.colorAttr))
        s.cursorPos (vgaEntry chSpace s.colorAttr) := by
  obtain ⟨hx0, hx, hy0, hy⟩ := hs
  rw [vgaPutc_printed hc ⟨hx0, hx, hy0, hy⟩ hscroll]
  by_cases hlast : s.cursorX + 1 ≥ vgaMaxCols
  · -- the cursor has wrapped to the next row, and wraps back
    have hcol : (80 : ℤ) ≤ s.cursorX + 1 := hlast
    rw [if_pos hlast]
    apply vgaPutc_backspace
    right
    exact ⟨rfl, show 0 < s.cursorY + 1 by omega, by omega,
      show s.cursorY = s.cursorY + 1 - 1 by omega⟩
  · rw [if_neg hlast]
    apply vgaPutc_backspace
    left
    exact ⟨show 0 < s.cursorX + 1 by omega, show s.cursorX = s.cursorX + 1 - 1 by omega, rfl⟩

/-- On a blank cell of the VGA console a backspace undoes what was typed. -/
theorem vgaUndone_of_blank {c : Byte} (hc : IsPrintable c) {s : VgaState} (hs : OnScreen s)
    (hscroll : ¬ VgaPrintScrolls s) (hblank : VgaBlankAtCursor s) : VgaUndone c s := by
  obtain ⟨hx, hy, hmem⟩ := vgaPutc_typed_erased hc hs hscroll
  refine ⟨hx, hy, ?_⟩
  rw [hmem, Function.update_idem, Function.update_eq_self_iff]
  exact hblank.symm

/-! ## The two calls of rgb_putcN -/

section Calls

variable {σ : Type*} {fb : Framebuffer} {put : BitVec 32 → BitVec 32 → BitVec 32 → σ → σ}
  {scroll : σ → σ} {c : Byte}

/-- Where a backspace takes the cursor. -/
theorem rgbCursor_backspace (fb : Framebuffer) (x y : BitVec 32) :
    rgbCursor fb chBackspace x y
      = if x > 0 then (x - 1, y) else if y > 0 then (fb.maxCols - 1, y - 1) else (x, y) := by
  rw [rgbCursor, if_neg (by decide), if_neg (by decide), if_pos rfl]

/-- The cursor goes forth and back, and is not at the top left in between. -/
theorem rgbCursor_typed_erased (hc : IsPrintable c) {x y : BitVec 32} (hx : x < fb.maxCols)
    (hy : y < fb.maxRows) :
    let p := rgbCursor fb c x y
    rgbCursor fb chBackspace p.1 p.2 = (x, y) ∧ (p.1 > 0 ∨ p.2 > 0) := by
  obtain ⟨hn, hr, hb⟩ := hc.ne_control
  obtain ⟨-, hrow⟩ := cell_row hy
  have hheight := fb.height.isLt
  rw [rgbCursor, if_neg hn, if_neg hr, if_neg hb, if_pos hc]
  by_cases hlast : x + 1 ≥ fb.maxCols
  · have hdown : y + 1 > 0 := by bv_omega
    have hback : (fb.maxCols - 1, y + 1 - 1) = (x, y) := by
      rw [BitVec.add_sub_cancel]
      congr 1
      bv_omega
    rw [if_pos hlast]
    constructor
    · rw [rgbCursor_backspace, if_neg (BitVec.lt_irrefl _), if_pos hdown, hback]
    · exact Or.inr hdown
  · have hright : x + 1 > 0 := by bv_omega
    rw [if_neg hlast]
    constructor
    · rw [rgbCursor_backspace, if_pos hright, BitVec.add_sub_cancel]
    · exact Or.inl hright

/-- A backspace that is not at the top left erases the cell that it goes back to. -/
theorem rgbPutc_backspace {s : RgbState σ} (hs : s.cursorX > 0 ∨ s.cursorY > 0) :
    (rgbPutc fb put scroll chBackspace s).screen
      = rgbErase put (rgbCursor fb chBackspace s.cursorX s.cursorY).1
          (rgbCursor fb chBackspace s.cursorX s.cursorY).2 s.screen := by
  rw [rgbCursor_backspace, rgbPutc, if_neg (by decide), if_neg (by decide), if_pos rfl]
  by_cases hcol : s.cursorX > 0
  · rw [if_pos hcol, if_pos hcol]
  · have hrow : s.cursorY > 0 := hs.resolve_left hcol
    rw [if_neg hcol, if_neg hcol, if_pos hrow, if_pos hrow]

/-- **Typing and erasing with `rgb_putcN`**: the cursor is back, and the glyph has been
drawn and the cell erased, on any surface. -/
theorem rgbPutc_typed_erased (hc : IsPrintable c) {s : RgbState σ} (hs : s.InText fb)
    (hscroll : scrollCalls fb c s = 0) :
    rgbPutc fb put scroll chBackspace (rgbPutc fb put scroll c s)
      = { screen := rgbErase put s.cursorX s.cursorY
            (rgbDrawchar put (s.cursorX * rgbCharWidth) (s.cursorY * rgbCharHeight) c
              rgbDefaultColor s.screen)
          cursorX := s.cursorX
          cursorY := s.cursorY } := by
  obtain ⟨hundo, hmoved⟩ := rgbCursor_typed_erased hc hs.1 hs.2
  have hscreen : (rgbPutc fb put scroll c s).screen = _ := rgbPutc_screen_of_printable hc hscroll
  have hX := rgbPutc_cursorX fb put scroll c s
  have hY := rgbPutc_cursorY fb put scroll c s
  generalize rgbPutc fb put scroll c s = t at hscreen hX hY ⊢
  rw [← hX, ← hY] at hundo hmoved
  have herase : (rgbPutc fb put scroll chBackspace t).screen = _ := rgbPutc_backspace hmoved
  have hcursor := rgbPutc_cursor fb put scroll chBackspace t
  rw [hundo] at herase hcursor
  rw [hscreen] at herase
  generalize rgbPutc fb put scroll chBackspace t = u at herase hcursor ⊢
  obtain ⟨screen, x, y⟩ := u
  obtain ⟨rfl, rfl⟩ := Prod.mk.inj hcursor
  rw [← herase]

end Calls

/-! ## The erased cell -/

/-- The pixels of a text cell. -/
def Picture.textCell (cx cy : ℕ) : Picture := fun i j => decide (j / 16 = cy ∧ i / 8 = cx)

section Erased

variable {d : Depth} {fb : Framebuffer} {W : ℕ}

/-- **The erasing loop paints the cell black** and touches no other pixel. -/
theorem rgbErase_painted (hfit : d.Fits fb W) {cx cy : BitVec 32} (hx : cx < fb.maxCols)
    (hy : cy < fb.maxRows) (m : Mem) :
    d.Painted fb W 0 m (rgbErase (d.putpixel fb) cx cy m)
      (Picture.textCell cx.toNat cy.toNat) := by
  -- what the loop does to the picture of the painted pixels
  have hcell : rgbErase (fun x y _ => Picture.plot fb.width fb.height x y rgbDefaultColor) cx cy
      Picture.blank = Picture.textCell cx.toNat cy.toNat := by
    funext i j
    refine (plot_textCell hx hy rgbDefaultColor (fun _ _ => true) Picture.blank i j).trans ?_
    by_cases hin : j / 16 = cy.toNat ∧ i / 8 = cx.toNat
    · rw [if_pos ⟨hin, rfl⟩, Picture.textCell, decide_eq_true hin]
      rfl
    · rw [if_neg (fun h => hin h.1), Picture.textCell, decide_eq_false hin]
      rfl
  rw [← hcell]
  refine forUp_relates (d.Painted fb W 0 m) (d.painted_blank fb W 0 m) (fun row _ _ _ h => ?_)
  refine forUp_relates (d.Painted fb W 0 m) h (fun col _ _ _ h => ?_)
  exact h.putpixel hfit _ _

end Erased

/-! ## Undone -/

/-- The cell at the cursor is on the screen, and its pixels there are blank. -/
def BlankAtCursor (fb : Framebuffer) (s : RgbState Mem) : Prop :=
  16 * s.cursorY.toNat < fb.height.toNat ∧
    ∀ j < 16, 16 * s.cursorY.toNat + j < fb.height.toNat → ∀ i < 8,
      Depth.bpp32.colour fb s.screen (8 * s.cursorX.toNat + i) (16 * s.cursorY.toNat + j) = 0

instance (fb : Framebuffer) (s : RgbState Mem) : Decidable (BlankAtCursor fb s) :=
  inferInstanceAs (Decidable (_ ∧ _))

/-- Below the text area a printed character scrolls, wherever it moves the cursor. -/
theorem inText_of_printed {σ : Type*} {fb : Framebuffer} {c : Byte} (hc : IsPrintable c)
    {s : RgbState σ} (hx : s.cursorX < fb.maxCols) (hy : 16 * s.cursorY.toNat < fb.height.toNat)
    (hscroll : scrollCalls fb c s = 0) : s.InText fb := by
  obtain ⟨hn, hr, hb⟩ := hc.ne_control
  refine ⟨hx, ?_⟩
  rw [scrollCalls, rgbPutc, if_neg hn, if_neg hr, if_neg hb, if_pos hc] at hscroll
  simp only [rgbDrawchar_ignore] at hscroll
  split_ifs at hscroll
  · -- on the screen the row below does not wrap
    have hnext : s.cursorY + 1 < fb.maxRows := rgbSettle_lt_of_count hscroll
    have hheight := fb.height.isLt
    bv_omega
  · exact rgbSettle_lt_of_count hscroll

/-- `rgb_putc32(c)` and `rgb_putc32('\b')` leave the cursor and the colour of every pixel
as they were. -/
structure Undone (fb : Framebuffer) (c : Byte) (s : RgbState Mem) : Prop where
  cursorX : (rgbPutc32 fb chBackspace (rgbPutc32 fb c s)).cursorX = s.cursorX
  cursorY : (rgbPutc32 fb chBackspace (rgbPutc32 fb c s)).cursorY = s.cursorY
  screen : ∀ x < fb.pitch.toNat / 4, ∀ y < fb.height.toNat,
    Depth.bpp32.colour fb (rgbPutc32 fb chBackspace (rgbPutc32 fb c s)).screen x y
      = Depth.bpp32.colour fb s.screen x y

/-- The cursor stays in a column of the text area along a run. -/
theorem rgbRun_column {fb : Framebuffer} (hwidth : 8 ≤ fb.width) (s : RgbState Mem)
    (cs : List Byte) :
    (run (fun s c => rgbPutc32 fb c s) (rgbClear32 fb s) cs).cursorX < fb.maxCols := by
  have hcols : 0 < fb.maxCols := by
    rw [BitVec.lt_def, Framebuffer.maxCols, BitVec.toNat_udiv]
    exact Nat.div_pos hwidth (by decide)
  apply run_invariant (fun s : RgbState Mem => s.cursorX < fb.maxCols) hcols
  intro s h c
  exact rgbPutc_cursorX_lt fb _ _ c hcols h

/-- On a blank cell of the framebuffer a backspace undoes what was typed. -/
theorem undone_of_blank {fb : Framebuffer} (hfit : Depth.bpp32.Fits fb (fb.pitch.toNat / 4))
    {c : Byte} (hc : IsPrintable c) {s : RgbState Mem} (hcol : s.cursorX < fb.maxCols)
    (hs : BlankAtCursor fb s) (hscroll : scrollCalls fb c s = 0) : Undone fb c s := by
  obtain ⟨hrow, hblank⟩ := hs
  have hin : s.InText fb := inText_of_printed hc hcol hrow hscroll
  have htwo : rgbPutc32 fb chBackspace (rgbPutc32 fb c s) = _ :=
    rgbPutc_typed_erased hc hin hscroll
  constructor
  · rw [htwo]
  · rw [htwo]
  · intro x hx y hy
    rw [htwo]
    have hdrawn := drawchar_overlays hfit hin.1 hin.2 c s.screen
    have herased := rgbErase_painted hfit hin.1 hin.2
      (rgbDrawchar (Depth.bpp32.putpixel fb) (s.cursorX * rgbCharWidth)
        (s.cursorY * rgbCharHeight) c rgbDefaultColor s.screen)
    have hblack : leWord (Depth.bpp32.encode 0) 0 Depth.bpp32.colourBytes = 0 := by decide
    refine (herased.colour_eq hx hy).trans ?_
    rw [hdrawn.colour_eq hx hy, hblack]
    by_cases hcell : y / 16 = s.cursorY.toNat ∧ x / 8 = s.cursorX.toNat
    · -- the cell is black again, as it was
      have hpixel := hblank (y % 16) (Nat.mod_lt y (by omega)) (by omega) (x % 8)
        (Nat.mod_lt x (by omega))
      rw [show 8 * s.cursorX.toNat + x % 8 = x by omega,
        show 16 * s.cursorY.toNat + y % 16 = y by omega] at hpixel
      rw [Picture.textCell, decide_eq_true hcell, hpixel]
      rfl
    · rw [Picture.textCell, decide_eq_false hcell, Picture.glyph_outside (fun h => hcell h.symm)]
      rfl

/-- **Backspace undoes typing** in every state that `putc` calls reach from a clear, if
the cell at the cursor is blank and the character does not scroll: on the VGA console,
and on a framebuffer of the 32-bit driver. -/
theorem backspace_undoes_typing :
    (∀ (s₀ : VgaState) (cs : List Byte) (c : Byte), IsPrintable c →
      let s := run (fun s c => vgaPutc c s) (vgaClear s₀) cs
      VgaBlankAtCursor s → ¬ VgaPrintScrolls s → VgaUndone c s) ∧
    ∀ fb : Framebuffer, 8 ≤ fb.width → 16 ≤ fb.height → 4 * fb.width.toNat ≤ fb.pitch.toNat →
      fb.pitch.toNat * fb.height.toNat < 2 ^ 32 →
      ∀ (s₀ : RgbState Mem) (cs : List Byte) (c : Byte), IsPrintable c →
        let s := run (fun s c => rgbPutc32 fb c s) (rgbClear32 fb s₀) cs
        BlankAtCursor fb s → scrollCalls fb c s = 0 → Undone fb c s := by
  constructor
  · intro s₀ cs c hc s hblank hscroll
    exact vgaUndone_of_blank hc (vgaRun_onScreen s₀ cs) hscroll hblank
  · intro fb hwidth _ hpitch hsize s₀ cs c hc s hblank hscroll
    have hfit : Depth.bpp32.Fits fb (fb.pitch.toNat / 4) :=
      fits_bpp32 hsize (by omega) (by omega)
    exact undone_of_blank hfit hc (rgbRun_column hwidth s₀ cs) hblank hscroll

/-- A screen of one column and three rows of text, of which the first has been typed in:
the second character is typed in the last column. -/
theorem backspace_undoes_typing_wrap :
    let fb : Framebuffer := ⟨4096, 32, 8, 48, 32⟩
    let v : VgaState := ⟨fun _ => 0, 0x07, 0, 0, [], []⟩
    VgaUndone 65 (vgaClear v) ∧ Undone fb 66 (rgbPutc32 fb 65 (rgbClear32 fb blankScreen)) := by
  intro fb v
  have hshow := vgaClear_shows v
  constructor
  · refine backspace_undoes_typing.1 v [] 65 (by decide) ?_ ?_
    · have hpos : (vgaClear v).cursorPos = ((80 * 0 + 0 : ℕ) : ℤ) := by
        rw [VgaState.cursorPos, hshow.cursorX, hshow.cursorY]
        rfl
      rw [run_nil, VgaBlankAtCursor, hpos, hshow.attr_eq]
      exact hshow.cells 0 (by omega) 0 (by omega)
    · intro h
      have hlast := h.1
      rw [run_nil, hshow.cursorX] at hlast
      exact absurd hlast (by decide)
  · have hfit : Depth.bpp32.Fits fb 8 := fits_bpp32 (by decide) (by decide) (by decide)
    have hrender := (renders_clear (by decide) (by decide) hfit (by decide) blankScreen).putc
      (c := 65) (by decide) hfit (by decide) (by decide +kernel)
    obtain ⟨hin, hblack⟩ := hrender.black_ahead hfit
    refine backspace_undoes_typing.2 fb (by decide) (by decide) (by decide) (by decide) blankScreen
      [65] 66 (by decide) ⟨?_, ?_⟩ (by decide +kernel)
    · obtain ⟨-, hrow⟩ := cell_row hin.2
      rw [run_cons, run_nil]
      omega
    · intro j hj _ i hi
      exact hblack chSpace j hj i hi (fontBit_space hj)

end GridX64
