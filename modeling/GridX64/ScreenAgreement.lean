/-
# Two screens with the same text

The VGA console and the 32-bit console are written apart, and both show a text page.  On
a framebuffer of 80 columns and 25 rows they show the same text with the cursor in the same
cell, until the page scrolls (`consoles_agree_iff`): the VGA console follows it, the other
one does not.
-/
import GridX64.ScreenText
import GridX64.VgaPage

namespace GridX64

/-- The text in the cell memory of the VGA console, row by row. -/
def VgaState.text (v : VgaState) : List (List (Option Byte)) :=
  (List.range vgaMaxRows).map (fun i =>
    (List.range vgaMaxCols).map (fun j => some ((v.memory (80 * i + j : ℕ)).setWidth 8)))

/-- The same character on both consoles. -/
def bothPutc (fb : Framebuffer) (t : VgaState × RgbState Mem) (c : Byte) :
    VgaState × RgbState Mem := (vgaPutc c t.1, rgbPutc32 fb c t.2)

/-- Both consoles show the same text, with the cursor in the same cell. -/
structure SameText (fb : Framebuffer) (t : VgaState × RgbState Mem) : Prop where
  text : readScreen fb t.2.screen = t.1.text
  cursorX : t.1.cursorX = t.2.cursorX.toNat
  cursorY : t.1.cursorY = t.2.cursorY.toNat

/-- The low byte of an entry is its character. -/
theorem vgaEntry_char (c attr : Byte) : (vgaEntry c attr).setWidth 8 = c := by
  apply BitVec.eq_of_getLsbD_eq
  intro i hi
  rw [vgaEntry, BitVec.getLsbD_setWidth, BitVec.getLsbD_or, BitVec.getLsbD_signExtend,
    BitVec.getLsbD_shiftLeft]
  simp [hi]
  omega

/-- A page of printable characters stays one. -/
theorem TextPage.press_printables {p : TextPage Byte} (hp : ∀ i j, IsPrintable (p.cell i j))
    (cols rows : ℕ) (c : Byte) (i j : ℕ) :
    IsPrintable ((p.press cols rows chSpace (keyOf c)).cell i j) := by
  have hwrite : ∀ (q : TextPage Byte) (a : Byte), (∀ i j, IsPrintable (q.cell i j)) →
      IsPrintable a → IsPrintable ((q.write a).cell i j) := by
    intro q a hq ha
    show IsPrintable (if i = q.y ∧ j = q.x then a else q.cell i j)
    split_ifs
    · exact ha
    · exact hq i j
  have hspace : IsPrintable chSpace := by decide
  rw [keyOf]
  split_ifs with hn hr hb hprint
  · show IsPrintable ((TextPage.follow rows { p with x := 0, y := p.y + 1 }).cell i j)
    rw [TextPage.follow_cell]
    exact hp i j
  · show IsPrintable ((TextPage.follow rows { p with x := 0 }).cell i j)
    rw [TextPage.follow_cell]
    exact hp i j
  · show IsPrintable ((TextPage.follow rows (TextPage.erase cols chSpace p)).cell i j)
    rw [TextPage.follow_cell, TextPage.erase]
    split_ifs
    · exact hwrite { p with x := p.x - 1 } chSpace hp hspace
    · exact hwrite { p with x := cols - 1, y := p.y - 1 } chSpace hp hspace
    · exact hp i j
  · show IsPrintable ((TextPage.follow rows (TextPage.advance cols (p.write c))).cell i j)
    rw [TextPage.follow_cell, TextPage.advance]
    split_ifs
    · exact hwrite p c hp hprint
    · exact hwrite p c hp hprint
  · show IsPrintable ((TextPage.follow rows p).cell i j)
    rw [TextPage.follow_cell]
    exact hp i j

section Agreement

variable {fb : Framebuffer} {W : ℕ} {stores₀ : List ℤ} {attr : Byte} {v : VgaState}
  {s : RgbState Mem} {p : TextPage Byte}

/-- Two consoles that show one page show the same text. -/
theorem sameText_of_page (hcols : fb.maxCols = 80) (hrows : fb.maxRows = 25)
    (hW : fb.width.toNat ≤ W) (hv : VgaShows stores₀ attr v p) (hs : Renders fb W s p)
    (hp : ∀ i j, IsPrintable (p.cell i j)) : SameText fb (v, s) := by
  obtain ⟨t, htext, hshow, hx, hy⟩ := hs
  refine { text := ?_, cursorX := ?_, cursorY := ?_ }
  · rw [htext.screen] at hshow
    rw [(hshow.rendersPage hW).readScreen_eq hp, hcols, hrows, VgaState.text]
    refine List.map_congr_left (fun i hi => List.map_congr_left (fun j hj => ?_))
    rw [hv.cells i (List.mem_range.mp hi) j (List.mem_range.mp hj), vgaEntry_char]
  · show v.cursorX = s.cursorX.toNat
    rw [hv.cursorX, hx, htext.cursorX]
  · show v.cursorY = s.cursorY.toNat
    rw [hv.cursorY, hy, htext.cursorY, htext.top_eq]
    omega

/-- From two consoles that show one page. -/
theorem agree_iff_of_page (hheight : 16 ≤ fb.height) (hfit : Depth.bpp32.Fits fb W)
    (hcols : fb.maxCols = 80) (hrows : fb.maxRows = 25) (hv : VgaShows stores₀ attr v p)
    (hs : Renders fb W s p) (hp : ∀ i j, IsPrintable (p.cell i j)) {cs : List Byte}
    (hreturn : chReturn ∉ cs) :
    EveryStep (bothPutc fb) (fun _ _ t => SameText fb t) (v, s) cs ↔ (p.type fb cs).top = 0 := by
  induction cs generalizing v s p with
  | nil =>
      obtain ⟨t, htext, -⟩ := hs
      exact iff_of_true trivial htext.top_eq
  | cons c cs ih =>
      rw [List.mem_cons, not_or] at hreturn
      have hv' : VgaShows stores₀ attr (vgaPutc c v)
          (p.press fb.maxCols.toNat fb.maxRows.toNat chSpace (keyOf c)) := by
        rw [hcols, hrows]
        exact hv.putc c
      have hp' := TextPage.press_printables hp fb.maxCols.toNat fb.maxRows.toNat c
      by_cases hrow : (rgbPutc32 fb c s).cursorY = fb.maxRows
      · -- the page scrolls, and the cursors part
        have htop : (p.press fb.maxCols.toNat fb.maxRows.toNat chSpace (keyOf c)).top = 1 := by
          obtain ⟨t, htext, -, hx, hy⟩ := hs
          rw [rgbPutc32, rgbPutc_cursorY, hx, hy] at hrow
          exact htext.press_top hrow
        apply iff_of_false
        · rintro ⟨hsame, -⟩
          have hcursor : (vgaPutc c v).cursorY = (rgbPutc32 fb c s).cursorY.toNat := hsame.cursorY
          have hwindow := hv'.window.y_lt
          have hvy := hv'.cursorY
          rw [hrow, hrows, hvy] at hcursor
          have hlast : ((25 : BitVec 32).toNat : ℤ) = 25 := rfl
          omega
        · intro hnone
          have hle := TextPage.le_type_top fb
            (p.press fb.maxCols.toNat fb.maxRows.toNat chSpace (keyOf c)) cs
          have hnone' : ((p.press fb.maxCols.toNat fb.maxRows.toNat chSpace (keyOf c)).type fb
            cs).top = 0 := hnone
          omega
      · have hs' := hs.putc hheight hfit (Ne.symm hreturn.1) hrow
        have hsame := sameText_of_page hcols hrows hfit.width_le hv' hs' hp'
        exact (and_iff_right hsame).trans (ih hv' hs' hp' hreturn.2)

/-- **The two consoles agree until the page scrolls.**  On a framebuffer with room for 80
columns and 25 rows, below 4 GiB and with whole pixels in a scan line, a text without carriage returns printed on both cleared consoles gives
after every character the same text, with the cursor in the same cell, if and only if the
page of the text does not scroll. -/
theorem consoles_agree_iff (fb : Framebuffer) (W : ℕ) (hcols : fb.maxCols = 80)
    (hrows : fb.maxRows = 25) (hpitch : fb.pitch.toNat = 4 * W) (hW : fb.width.toNat ≤ W)
    (hsize : fb.size < 2 ^ 32) (v : VgaState) (s : RgbState Mem) {cs : List Byte}
    (hreturn : chReturn ∉ cs) :
    EveryStep (bothPutc fb) (fun _ _ t => SameText fb t) (vgaClear v, rgbClear32 fb s) cs
      ↔ ((TextPage.blank chSpace).type fb cs).top = 0 := by
  have hwidth : 8 ≤ fb.width := by
    have hdiv : fb.width.toNat / 8 = 80 := by
      rw [← show fb.maxCols.toNat = fb.width.toNat / 8 from BitVec.toNat_udiv, hcols]
      rfl
    show 8 ≤ fb.width.toNat
    omega
  have hheight : 16 ≤ fb.height := by
    have hdiv : fb.height.toNat / 16 = 25 := by
      rw [← show fb.maxRows.toNat = fb.height.toNat / 16 from BitVec.toNat_udiv, hrows]
      rfl
    show 16 ≤ fb.height.toNat
    omega
  have hfit := fits_bpp32 hsize hpitch.ge hW
  have hspace : IsPrintable chSpace := by decide
  exact agree_iff_of_page hheight hfit hcols hrows (vgaClear_shows v)
    (renders_clear hwidth hheight hfit hpitch s) (fun _ _ => hspace) hreturn

/-- A 640x400 framebuffer. -/
def mode640x400 : Framebuffer := { mode640x480 with height := 400 }

/-- A word typed with a correction, on a 640x400 framebuffer. -/
theorem consoles_agree_640x400 :
    EveryStep (bothPutc mode640x400) (fun _ _ t => SameText mode640x400 t)
      (vgaClear ⟨fun _ => 0, 0x0F, 0, 0, [], []⟩, rgbClear32 mode640x400
        { screen := { byte := fun _ => 0, touched := [] }, cursorX := 0, cursorY := 0 })
      [79, 75, chBackspace, 72, chNewline] := by
  refine (consoles_agree_iff mode640x400 640 (by decide) (by decide) (by decide) (by decide)
    (by decide) _ _ (by decide)).mpr ?_
  decide +kernel

end Agreement

end GridX64
