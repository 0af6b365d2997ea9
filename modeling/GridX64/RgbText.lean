/-
# The 32-bit console renders a text terminal

`TextPage.picture` draws the window of a page with the console font.  `ShowsText`
relates the driver on pictures to a page of `max_cols` by `max_rows` cells, as
long as the window has not moved: `rgb_drawcharN` writes the lit pixels only, so
what makes it draw the glyph and nothing else is that the cell under the cursor is
blank, and `TextPage.BlankAhead` is the invariant that says so.

* `rgbErase_picture`, `rgbDrawchar_picture` — the two drawing loops, on a cell;
* `ShowsText.putc` — one character keeps the relation;
* `putc32_renders_page` — a run from a clear renders the page pixel by pixel.
-/
import GridX64.RgbPicture

namespace GridX64

/-! ## The picture of a page -/

/-- The window of a page, each cell drawn as the glyph of its character. -/
def TextPage.picture (cols rows : ℕ) (p : TextPage Byte) : Picture := fun i j =>
  decide (i / 8 < cols ∧ j / 16 < rows)
    && fontBit (p.cell (p.top + j / 16) (i / 8)) (j % 16) (i % 8)

/-- The picture of a blank page is black. -/
theorem TextPage.picture_blank (cols rows : ℕ) :
    (TextPage.blank chSpace).picture cols rows = Picture.blank := by
  funext i j
  show (_ && fontBit 32 (j % 16) (i % 8)) = false
  rw [fontBit_space (Nat.mod_lt j (by omega)), Bool.and_false]

/-- Writing a visible cell changes the picture in that cell only. -/
theorem TextPage.picture_write {cols rows : ℕ} {p : TextPage Byte} (hwin : p.InWindow cols rows)
    (c : Byte) (i j : ℕ) :
    (p.write c).picture cols rows i j
      = if p.top + j / 16 = p.y ∧ i / 8 = p.x then fontBit c (j % 16) (i % 8)
        else p.picture cols rows i j := by
  obtain ⟨hx, htop, hy⟩ := hwin
  show (_ && fontBit (if p.top + j / 16 = p.y ∧ i / 8 = p.x then c
    else p.cell (p.top + j / 16) (i / 8)) _ _) = _
  by_cases hcell : p.top + j / 16 = p.y ∧ i / 8 = p.x
  · rw [if_pos hcell, if_pos hcell, decide_eq_true (by omega), Bool.true_and]
  · rw [if_neg hcell, if_neg hcell]
    rfl

/-! ## The drawing loops on a cell -/

section Cell

variable {fb : Framebuffer} {cx cy : BitVec 32}

/-- The loops over the pixels of a text cell plot the selected ones. -/
theorem plot_textCell (hx : cx < fb.maxCols) (hy : cy < fb.maxRows) (color : BitVec 32)
    (sel : ℕ → ℕ → Bool) (p : Picture) (i j : ℕ) :
    forUp 16 (fun row p => forUp 8 (fun col p =>
        if sel row col then Picture.plot fb.width fb.height (cx * rgbCharWidth + BitVec.ofNat 32 col)
          (cy * rgbCharHeight + BitVec.ofNat 32 row) color p
        else p) p) p i j
      = if (j / 16 = cy.toNat ∧ i / 8 = cx.toNat) ∧ sel (j % 16) (i % 8) = true
        then decide (color ≠ 0) else p i j := by
  obtain ⟨hxmul, hxw⟩ := cell_column hx
  obtain ⟨hymul, hyh⟩ := cell_row hy
  have hw := fb.width.isLt
  have hh := fb.height.isLt
  rw [Picture.plot_cell color sel p (by omega) (by omega), hxmul, hymul]
  by_cases hcell : j / 16 = cy.toNat ∧ i / 8 = cx.toNat
  · have hj : j - 16 * cy.toNat = j % 16 := by omega
    have hi : i - 8 * cx.toNat = i % 8 := by omega
    rw [hj, hi]
    refine if_congr ?_ rfl rfl
    exact ⟨fun h => ⟨hcell, h.2.2.2.2⟩, fun h => ⟨by omega, by omega, by omega, by omega, h.2⟩⟩
  · rw [if_neg (by omega), if_neg (fun h => hcell h.1)]

/-- The erasing loop of `rgb_putcN` blackens the cell. -/
theorem rgbErase_picture (hx : cx < fb.maxCols) (hy : cy < fb.maxRows) (p : Picture) (i j : ℕ) :
    rgbErase (Picture.plot fb.width fb.height) cx cy p i j
      = if j / 16 = cy.toNat ∧ i / 8 = cx.toNat then false else p i j := by
  have h := plot_textCell hx hy 0 (fun _ _ => true) p i j
  exact h.trans (if_congr (and_iff_left rfl) rfl rfl)

/-- `rgb_drawcharN` lights the pixels of the glyph and leaves the others. -/
theorem rgbDrawchar_picture (hx : cx < fb.maxCols) (hy : cy < fb.maxRows) (c : Byte) (p : Picture)
    (i j : ℕ) :
    rgbDrawchar (Picture.plot fb.width fb.height) (cx * rgbCharWidth) (cy * rgbCharHeight) c
        rgbDefaultColor p i j
      = if (j / 16 = cy.toNat ∧ i / 8 = cx.toNat) ∧ fontBit c (j % 16) (i % 8) = true
        then true else p i j := by
  refine Eq.trans ?_ (plot_textCell hx hy rgbDefaultColor (fontBit c) p i j)
  refine congrFun (congrFun ?_ i) j
  refine forUp_relates Eq rfl (fun row _ s t hst => ?_)
  refine forUp_relates Eq hst (fun col hcol s t hst => ?_)
  rw [hst]
  exact if_congr (fontBit_iff c row hcol) rfl rfl

end Cell

/-! ## The relation -/

/-- The picture is that of the page, whose window has not moved, and the cursors
are the same. -/
structure ShowsCells (fb : Framebuffer) (t : RgbState Picture) (p : TextPage Byte) : Prop where
  screen : t.screen = p.picture fb.maxCols.toNat fb.maxRows.toNat
  cursorX : t.cursorX.toNat = p.x
  cursorY : t.cursorY.toNat = p.y
  top_eq : p.top = 0

/-- The driver on pictures shows a page that is blank ahead of its cursor. -/
structure ShowsText (fb : Framebuffer) (t : RgbState Picture) (p : TextPage Byte) : Prop
    extends ShowsCells fb t p where
  window : p.InWindow fb.maxCols.toNat fb.maxRows.toNat
  ahead : p.BlankAhead fb.maxCols.toNat chSpace

variable {fb : Framebuffer} {t : RgbState Picture} {p : TextPage Byte} {s : Picture}
  {x y : BitVec 32}

theorem ShowsCells.inWindow (h : ShowsCells fb ⟨s, x, y⟩ p) (hx : x < fb.maxCols)
    (hy : y < fb.maxRows) : p.InWindow fb.maxCols.toNat fb.maxRows.toNat := by
  have hpx : x.toNat = p.x := h.cursorX
  have hpy : y.toNat = p.y := h.cursorY
  have htop := h.top_eq
  rw [BitVec.lt_def] at hx hy
  exact ⟨by omega, by omega, by omega⟩

/-- Erasing the cursor cell writes a space on the page. -/
theorem ShowsCells.erase (h : ShowsCells fb ⟨s, x, y⟩ p) (hx : x < fb.maxCols)
    (hy : y < fb.maxRows) :
    ShowsCells fb ⟨rgbErase (Picture.plot fb.width fb.height) x y s, x, y⟩ (p.write chSpace) := by
  refine ⟨?_, h.cursorX, h.cursorY, h.top_eq⟩
  have hpx : x.toNat = p.x := h.cursorX
  have hpy : y.toNat = p.y := h.cursorY
  have hs : s = _ := h.screen
  funext i j
  show rgbErase (Picture.plot fb.width fb.height) x y s i j = _
  rw [rgbErase_picture hx hy, TextPage.picture_write (h.inWindow hx hy), h.top_eq, Nat.zero_add,
    fontBit_space (Nat.mod_lt j (by omega)), hpx, hpy, hs]

/-- Drawing a glyph in a blank cursor cell writes the character on the page. -/
theorem ShowsCells.draw (h : ShowsCells fb ⟨s, x, y⟩ p) (hx : x < fb.maxCols)
    (hy : y < fb.maxRows) (hblank : p.cell p.y p.x = chSpace) (c : Byte) :
    ShowsCells fb ⟨rgbDrawchar (Picture.plot fb.width fb.height) (x * rgbCharWidth)
      (y * rgbCharHeight) c rgbDefaultColor s, x, y⟩ (p.write c) := by
  refine ⟨?_, h.cursorX, h.cursorY, h.top_eq⟩
  have hpx : x.toNat = p.x := h.cursorX
  have hpy : y.toNat = p.y := h.cursorY
  have hs : s = _ := h.screen
  funext i j
  show rgbDrawchar (Picture.plot fb.width fb.height) _ _ c _ s i j = _
  rw [rgbDrawchar_picture hx hy, TextPage.picture_write (h.inWindow hx hy), h.top_eq, Nat.zero_add,
    hpx, hpy]
  by_cases hcell : j / 16 = p.y ∧ i / 8 = p.x
  · -- the cell was blank, so the pixels that the loop leaves are black
    have hblack : s i j = false := by
      rw [hs, TextPage.picture, h.top_eq, Nat.zero_add, hcell.1, hcell.2, hblank,
        fontBit_space (Nat.mod_lt j (by omega)), Bool.and_false]
    rw [if_pos hcell, hblack]
    cases fontBit c (j % 16) (i % 8) <;> simp [hcell]
  · rw [if_neg hcell, if_neg (fun hc => hcell hc.1), hs]

/-- With the cursor still in the text area the window stays where it is. -/
theorem ShowsCells.follow (h : ShowsCells fb ⟨s, x, y⟩ p) (hy : y < fb.maxRows) :
    ShowsCells fb ⟨s, x, y⟩ (p.follow fb.maxRows.toNat) := by
  have hpy : y.toNat = p.y := h.cursorY
  have htop := h.top_eq
  rw [TextPage.follow_of_lt (by rw [BitVec.lt_def] at hy; omega)]
  exact h

/-- With the cursor still in the text area the driver does not scroll. -/
theorem ShowsCells.settle (h : ShowsCells fb ⟨s, x, y⟩ p) (hy : y < fb.maxRows)
    (scroll : Picture → Picture) :
    ShowsCells fb (rgbSettle fb scroll ⟨s, x, y⟩) (p.follow fb.maxRows.toNat) := by
  rw [rgbSettle_of_lt fb scroll s x hy]
  exact h.follow hy

/-- **One character keeps the relation**, if it is not a carriage return and does
not move the cursor below the text area. -/
theorem ShowsText.putc (h : ShowsText fb t p) {c : Byte} (hc : c ≠ chReturn)
    (hstay : (rgbCursor fb c t.cursorX t.cursorY).2 < fb.maxRows) :
    ShowsText fb (picturePutc fb c t)
      (p.press fb.maxCols.toNat fb.maxRows.toNat chSpace (keyOf c)) := by
  refine { window := h.window.press chSpace (keyOf c)
           ahead := h.ahead.press (keyOf_ne_carriageReturn hc)
           toShowsCells := ?_ }
  obtain ⟨hcells, hwin, hahead⟩ := h
  obtain ⟨s, x, y⟩ := t
  have hpx : x.toNat = p.x := hcells.cursorX
  have hpy : y.toNat = p.y := hcells.cursorY
  have htop := hcells.top_eq
  have hx : x < fb.maxCols := by rw [BitVec.lt_def, hpx]; exact hwin.x_lt
  have hy : y < fb.maxRows := by rw [BitVec.lt_def, hpy]; have := hwin.y_lt; omega
  have hblank : p.cell p.y p.x = chSpace := hahead p.y p.x hwin.x_lt (Or.inr ⟨rfl, Nat.le_refl _⟩)
  rw [rgbCursor] at hstay
  rw [picturePutc, rgbPutc, keyOf]
  split_ifs at hstay ⊢ with hn hb hx0 hy0 hp hlast
  · -- a newline, by `hstay` not on the last row
    refine ShowsCells.settle (p := { p with x := 0, y := p.y + 1 }) ?_ hstay _
    exact { hcells with cursorX := rfl, cursorY := by simp only; bv_omega }
  · -- a backspace inside a row
    have hleft : x - 1 < fb.maxCols := by bv_omega
    have hback : ShowsCells fb ⟨s, x - 1, y⟩ { p with x := p.x - 1 } :=
      { hcells with cursorX := by simp only; bv_omega }
    show ShowsCells fb _ (TextPage.follow _ (TextPage.erase _ chSpace p))
    rw [TextPage.erase, if_pos (by bv_omega)]
    exact (hback.erase hleft hy).follow hy
  · -- a backspace to the end of the row above
    have hlast : fb.maxCols - 1 < fb.maxCols := by bv_omega
    have hup : y - 1 < fb.maxRows := by bv_omega
    have hback : ShowsCells fb ⟨s, fb.maxCols - 1, y - 1⟩
        { p with x := fb.maxCols.toNat - 1, y := p.y - 1 } :=
      { hcells with
        cursorX := by simp only; bv_omega
        cursorY := by simp only; bv_omega }
    show ShowsCells fb _ (TextPage.follow _ (TextPage.erase _ chSpace p))
    rw [TextPage.erase, if_neg (by bv_omega), if_pos (by bv_omega)]
    exact (hback.erase hlast hup).follow hup
  · -- a backspace at the top left
    show ShowsCells fb _ (TextPage.follow _ (TextPage.erase _ chSpace p))
    rw [TextPage.erase, if_neg (by bv_omega), if_neg (by bv_omega)]
    exact hcells.follow hy
  · -- a printable character in the last column
    have hdraw := hcells.draw hx hy hblank c
    show ShowsCells fb _ (TextPage.follow _ (TextPage.advance _ (p.write c)))
    rw [TextPage.advance, if_neg (by show ¬ p.x + 1 < _; bv_omega)]
    refine ShowsCells.settle (p := { p.write c with x := 0, y := p.y + 1 }) ?_ hstay _
    exact { hdraw with cursorX := rfl, cursorY := by simp only; bv_omega }
  · -- a printable character inside a row
    have hdraw := hcells.draw hx hy hblank c
    show ShowsCells fb _ (TextPage.follow _ (TextPage.advance _ (p.write c)))
    rw [TextPage.advance, if_pos (by show p.x + 1 < _; bv_omega)]
    refine ShowsCells.settle (p := { p.write c with x := p.x + 1 }) ?_ hy _
    exact { hdraw with cursorX := by simp only; bv_omega }
  · exact hcells.settle hy _

/-! ## The run -/

/-- Over the first `W` pixels of every scan line, the low 24 bits of a pixel are
white where its cell's glyph has a bit set, and black elsewhere in the text area
and everywhere outside it. -/
def RendersPage (fb : Framebuffer) (W : ℕ) (m : Mem) (p : TextPage Byte) : Prop :=
  (∀ i < fb.maxCols.toNat, ∀ j < fb.maxRows.toNat, ∀ r < 16, ∀ k < 8,
    Depth.bpp32.colour fb m (8 * i + k) (16 * j + r)
      = if fontBit (p.cell (p.top + j) i) r k then 0xFFFFFF else 0) ∧
  ∀ x < W, ∀ y < fb.height.toNat, 8 * fb.maxCols.toNat ≤ x ∨ 16 * fb.maxRows.toNat ≤ y →
    Depth.bpp32.colour fb m x y = 0

/-- A framebuffer that shows the picture of a page renders the page. -/
theorem Depth.Shows.rendersPage {W : ℕ} {m : Mem} (hW : fb.width.toNat ≤ W)
    (h : Depth.bpp32.Shows fb W m (p.picture fb.maxCols.toNat fb.maxRows.toNat)) :
    RendersPage fb W m p := by
  refine ⟨fun i hi j hj r hr k hk => ?_, fun x hx y hy hout => ?_⟩
  · obtain ⟨-, hiw⟩ := cell_column (show BitVec.ofNat 32 i < fb.maxCols by bv_omega)
    obtain ⟨-, hjh⟩ := cell_row (show BitVec.ofNat 32 j < fb.maxRows by bv_omega)
    rw [BitVec.toNat_ofNat, Nat.mod_eq_of_lt (by omega)] at hiw hjh
    rw [h.colour_eq (by omega) (by omega), TextPage.picture, show (8 * i + k) / 8 = i by omega,
      show (16 * j + r) / 16 = j by omega, show (8 * i + k) % 8 = k by omega,
      show (16 * j + r) % 16 = r by omega, decide_eq_true ⟨hi, hj⟩, Bool.true_and]
    rfl
  · rw [h.colour_eq hx hy, TextPage.picture, decide_eq_false (by omega), Bool.false_and]
    rfl

/-- A character that does not bring the cursor to `max_rows` leaves it above. -/
theorem rgbCursor_lt_of_ne {c : Byte} (hy : y < fb.maxRows)
    (hne : (rgbCursor fb c x y).2 ≠ fb.maxRows) : (rgbCursor fb c x y).2 < fb.maxRows := by
  rw [rgbCursor] at hne ⊢
  split_ifs at hne ⊢ <;> simp only at hne ⊢ <;> bv_omega

/-- The framebuffer shows what the driver on pictures draws, and that is the page. -/
def Renders (fb : Framebuffer) (W : ℕ) (s : RgbState Mem) (p : TextPage Byte) : Prop :=
  ∃ t, ShowsText fb t p ∧ Depth.bpp32.Shows fb W s.screen t.screen ∧
    s.cursorX = t.cursorX ∧ s.cursorY = t.cursorY

/-- `rgb_clear32` renders the blank page. -/
theorem renders_clear {W : ℕ} (hwidth : 8 ≤ fb.width) (hheight : 16 ≤ fb.height)
    (hfit : Depth.bpp32.Fits fb W) (hpitch : fb.pitch.toNat = 4 * W) (s : RgbState Mem) :
    Renders fb W (rgbClear32 fb s) (TextPage.blank chSpace) := by
  have hcols : 0 < fb.maxCols.toNat := by
    rw [Framebuffer.maxCols, BitVec.toNat_udiv]
    exact Nat.div_pos hwidth (by decide)
  have hrows : 0 < fb.maxRows.toNat := by
    rw [Framebuffer.maxRows, BitVec.toNat_udiv]
    exact Nat.div_pos hheight (by decide)
  refine ⟨{ screen := Picture.blank, cursorX := 0, cursorY := 0 }, ?_, ?_, rfl, rfl⟩
  · exact { screen := (TextPage.picture_blank _ _).symm
            cursorX := rfl
            cursorY := rfl
            top_eq := rfl
            window := TextPage.inWindow_blank chSpace hcols hrows
            ahead := TextPage.blankAhead_blank _ chSpace }
  · exact shows_clear hfit ⟨W, hpitch⟩ s

/-- `rgb_putc32` renders what the terminal shows after the key. -/
theorem Renders.putc {W : ℕ} (hheight : 16 ≤ fb.height) (hfit : Depth.bpp32.Fits fb W)
    {s : RgbState Mem} (h : Renders fb W s p) {c : Byte} (hc : c ≠ chReturn)
    (hne : (rgbPutc32 fb c s).cursorY ≠ fb.maxRows) :
    Renders fb W (rgbPutc32 fb c s)
      (p.press fb.maxCols.toNat fb.maxRows.toNat chSpace (keyOf c)) := by
  obtain ⟨t, htext, hshow, hx, hy⟩ := h
  have hrow : t.cursorY < fb.maxRows := by
    have := htext.window.y_lt
    have := htext.cursorY
    have := htext.top_eq
    rw [BitVec.lt_def]
    omega
  rw [rgbPutc32, rgbPutc_cursorY, hx, hy] at hne
  refine ⟨picturePutc fb c t, htext.putc hc (rgbCursor_lt_of_ne hrow hne), ?_, ?_⟩
  · exact shows_putc hfit hheight rfl rfl c hshow hx hy
  · exact rgbPutc_cursor_eq rfl c hx hy

/-- **The 32-bit console renders the text terminal pixel by pixel**, on a buffer
of `W` pixels a scan line, from any memory and cursor. -/
theorem putc32_renders_page (fb : Framebuffer) (W : ℕ) (hwidth : 8 ≤ fb.width)
    (hheight : 16 ≤ fb.height) (hpitch : fb.pitch.toNat = 4 * W) (hW : fb.width.toNat ≤ W)
    (hsize : fb.size < 2 ^ 32) (s : RgbState Mem) (cs : List Byte) (hreturn : chReturn ∉ cs)
    (hrows : EveryStep (fun s c => rgbPutc32 fb c s) (fun _ _ s' => s'.cursorY ≠ fb.maxRows)
      (rgbClear32 fb s) cs) :
    RendersPage fb W (run (fun s c => rgbPutc32 fb c s) (rgbClear32 fb s) cs).screen
      (run (fun p c => p.press fb.maxCols.toNat fb.maxRows.toNat chSpace (keyOf c))
        (TextPage.blank chSpace) cs) := by
  have hfit := fits_bpp32 hsize hpitch.ge hW
  have h := hrows.run_relates (Renders fb W) (renders_clear hwidth hheight hfit hpitch s)
    (fun s p h c hc hne => h.putc hheight hfit (fun heq => hreturn (heq ▸ hc)) hne)
  obtain ⟨t, htext, hshow, -, -⟩ := h
  rw [htext.screen] at hshow
  exact hshow.rendersPage hW

/-- A letter typed over after a backspace, on a 640x480 screen. -/
theorem putc32_renders_page_640x480 :
    RendersPage mode640x480 640
      (run (fun s c => rgbPutc32 mode640x480 c s) (rgbClear32 mode640x480
        { screen := { byte := fun _ => 0, touched := [] }, cursorX := 0, cursorY := 0 })
        [65, chBackspace, 66, chNewline]).screen
      (run (fun p c => p.press 80 30 chSpace (keyOf c)) (TextPage.blank chSpace)
        [65, chBackspace, 66, chNewline]) := by
  refine putc32_renders_page mode640x480 640 (by decide) (by decide) (by decide) (by decide)
    (by decide) _ _ (by decide) ?_
  exact ⟨by decide +kernel, by decide +kernel, by decide +kernel, by decide +kernel, trivial⟩

end GridX64
