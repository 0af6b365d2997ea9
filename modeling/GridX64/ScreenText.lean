/-
# Reading the screen

What a console of 32 bits a pixel shows can be read back: the glyphs of the printable
characters are pairwise different (`eq_of_fontBit`), so the pixels of a cell say which
character is in it.

* `Renders.type` — on a page that does not scroll the console renders what is typed;
* `TextPage.type_lines` — the page of some lines of text;
* `screen_reads_back` — lines that fit the screen are read back from the framebuffer.
-/
import GridX64.RgbText
import Mathlib.Data.List.GetD
import Mathlib.Data.List.Nodup

namespace GridX64

/-! ## Pages that do not scroll -/

section Page

variable {fb : Framebuffer} {W : ℕ} {t : RgbState Picture} {s : RgbState Mem} {p : TextPage Byte}

/-- The page of a text on the console. -/
def TextPage.type (fb : Framebuffer) (p : TextPage Byte) (cs : List Byte) : TextPage Byte :=
  run (fun p c => p.press fb.maxCols.toNat fb.maxRows.toNat chSpace (keyOf c)) p cs

/-- Typing does not move the window up. -/
theorem TextPage.le_type_top (fb : Framebuffer) (p : TextPage Byte) (cs : List Byte) :
    p.top ≤ (p.type fb cs).top := by
  induction cs generalizing p with
  | nil => exact Nat.le_refl _
  | cons c cs ih =>
      exact Nat.le_trans (TextPage.le_press_top _ _ _ _ p) (ih (p.press _ _ chSpace (keyOf c)))

/-- A page whose cursor has been moved below the window scrolls. -/
theorem TextPage.follow_top_of_eq {rows : ℕ} {p : TextPage Byte} (h : p.y = p.top + rows) :
    (TextPage.follow rows p).top = p.top + 1 := by
  rw [TextPage.follow, if_pos h]

/-- Where the driver's cursor comes to stand at `max_rows`, the page scrolls. -/
theorem ShowsText.press_top (h : ShowsText fb t p) {c : Byte}
    (hlast : (rgbCursor fb c t.cursorX t.cursorY).2 = fb.maxRows) :
    (p.press fb.maxCols.toNat fb.maxRows.toNat chSpace (keyOf c)).top = 1 := by
  have hpx := h.cursorX
  have hpy := h.cursorY
  have htop := h.top_eq
  have hx := h.window.x_lt
  have hy := h.window.y_lt
  rw [htop] at hy
  rw [rgbCursor] at hlast
  rw [keyOf]
  split_ifs at hlast ⊢ with hn hr hb hx0 hy0 hp hend
  · show (TextPage.follow _ { p with x := 0, y := p.y + 1 }).top = 1
    rw [TextPage.follow_top_of_eq]
    · show p.top + 1 = 1
      omega
    · show p.y + 1 = p.top + _
      bv_omega
  · bv_omega
  · bv_omega
  · bv_omega
  · bv_omega
  · show (TextPage.follow _ (TextPage.advance _ (p.write c))).top = 1
    rw [TextPage.advance, if_neg (by show ¬ p.x + 1 < _; bv_omega)]
    rw [TextPage.follow_top_of_eq]
    · show p.top + 1 = 1
      omega
    · show p.y + 1 = p.top + _
      bv_omega
  · bv_omega
  · bv_omega

/-- **On a page that does not scroll the console renders what is typed.** -/
theorem Renders.type (hheight : 16 ≤ fb.height) (hfit : Depth.bpp32.Fits fb W)
    (h : Renders fb W s p) {cs : List Byte} (hreturn : chReturn ∉ cs)
    (htop : (p.type fb cs).top = 0) :
    Renders fb W (run (fun s c => rgbPutc32 fb c s) s cs) (p.type fb cs) := by
  induction cs generalizing s p with
  | nil => exact h
  | cons c cs ih =>
      rw [List.mem_cons, not_or] at hreturn
      have hstep : (p.press fb.maxCols.toNat fb.maxRows.toNat chSpace (keyOf c)).top = 0 :=
        Nat.le_zero.mp (htop ▸ TextPage.le_type_top fb _ cs)
      have hrow : (rgbPutc32 fb c s).cursorY ≠ fb.maxRows := by
        obtain ⟨t, htext, -, hx, hy⟩ := h
        intro hlast
        rw [rgbPutc32, rgbPutc_cursorY, hx, hy] at hlast
        have := htext.press_top hlast
        omega
      exact ih (h.putc hheight hfit (Ne.symm hreturn.1) hrow) hreturn.2 htop

end Page

/-! ## Glyphs -/

/-- The printable characters. -/
def printables : List Byte := (List.range 95).map (fun k => BitVec.ofNat 8 (32 + k))

theorem mem_printables_iff {c : Byte} : c ∈ printables ↔ IsPrintable c := by
  have hc : c.toNat < 256 := c.isLt
  rw [isPrintable_iff, printables, List.mem_map]
  constructor
  · rintro ⟨k, hk, rfl⟩
    rw [List.mem_range] at hk
    rw [BitVec.toNat_ofNat]
    omega
  · rintro ⟨hlo, hhi⟩
    refine ⟨c.toNat - 32, List.mem_range.mpr (by omega), ?_⟩
    apply BitVec.eq_of_toNat_eq
    rw [BitVec.toNat_ofNat]
    omega

/-- The rows of the font are 16 bytes each. -/
theorem font8x16Table_rows : ∀ row ∈ font8x16Table, row.length = 16 ∧ ∀ v ∈ row, v < 256 := by
  have hall : font8x16Table.all (fun row => decide (row.length = 16) &&
      row.all (fun v => decide (v < 256))) = true := by
    decide +kernel
  simpa only [List.all_eq_true, Bool.and_eq_true, decide_eq_true_iff] using hall

/-- No two printable characters look the same. -/
theorem nodup_printable_rows : ((font8x16Table.drop 32).take 95).Nodup := by
  -- a row as one number
  have hcodes : (((font8x16Table.drop 32).take 95).map (List.foldl (256 * · + ·) 0)).Nodup := by
    decide +kernel
  exact hcodes.of_map _

/-- The row of the table for a printable character. -/
theorem printable_row {c : Byte} (hc : IsPrintable c) :
    ∃ h : c.toNat - 32 < ((font8x16Table.drop 32).take 95).length,
      ((font8x16Table.drop 32).take 95)[c.toNat - 32] = font8x16Table.getD c.toNat [] := by
  rw [isPrintable_iff] at hc
  have hlen : ((font8x16Table.drop 32).take 95).length = 95 := by decide +kernel
  have htable : font8x16Table.length = 256 := by decide +kernel
  refine ⟨by omega, ?_⟩
  rw [List.getElem_take, List.getElem_drop, List.getD_eq_getElem _ _ (by omega)]
  simp only [Nat.add_sub_cancel' hc.1]

/-- **The glyph of a printable character says which it is.** -/
theorem eq_of_fontBit {c d : Byte} (hc : IsPrintable c) (hd : IsPrintable d)
    (h : ∀ r < 16, ∀ k < 8, fontBit c r k = fontBit d r k) : c = d := by
  obtain ⟨hclt, hcrow⟩ := printable_row hc
  obtain ⟨hdlt, hdrow⟩ := printable_row hd
  have hbytes : ∀ r < 16, font8x16 c r = font8x16 d r := by
    intro r hr
    apply BitVec.eq_of_getLsbD_eq
    intro i hi
    have hbit := h r hr (7 - i) (by omega)
    rwa [fontBit, fontBit, show 7 - (7 - i) = i by omega] at hbit
  have hcmem : font8x16Table.getD c.toNat [] ∈ font8x16Table := by
    rw [← hcrow]
    exact List.mem_of_mem_drop (List.mem_of_mem_take (List.getElem_mem hclt))
  have hdmem : font8x16Table.getD d.toNat [] ∈ font8x16Table := by
    rw [← hdrow]
    exact List.mem_of_mem_drop (List.mem_of_mem_take (List.getElem_mem hdlt))
  have hrows : font8x16Table.getD c.toNat [] = font8x16Table.getD d.toNat [] := by
    obtain ⟨hclen, hcval⟩ := font8x16Table_rows _ hcmem
    obtain ⟨hdlen, hdval⟩ := font8x16Table_rows _ hdmem
    apply List.ext_getElem (hclen.trans hdlen.symm)
    intro r hrc hrd
    have hbyte := congrArg BitVec.toNat (hbytes r (by omega))
    rw [font8x16, font8x16, List.getD_eq_getElem _ 0 hrc, List.getD_eq_getElem _ 0 hrd,
      BitVec.toNat_ofNat, BitVec.toNat_ofNat, Nat.mod_eq_of_lt (hcval _ (List.getElem_mem hrc)),
      Nat.mod_eq_of_lt (hdval _ (List.getElem_mem hrd))] at hbyte
    exact hbyte
  rw [← hcrow, ← hdrow] at hrows
  have hindex := (nodup_printable_rows.getElem_inj_iff).mp hrows
  rw [isPrintable_iff] at hc hd
  apply BitVec.eq_of_toNat_eq
  omega

/-- The pixels are those of the glyph of `c`. -/
def looksLike (lit : ℕ → ℕ → Bool) (c : Byte) : Bool :=
  (List.range 16).all (fun r => (List.range 8).all (fun k => lit r k == fontBit c r k))

theorem looksLike_iff {lit : ℕ → ℕ → Bool} {c : Byte} :
    looksLike lit c = true ↔ ∀ r < 16, ∀ k < 8, lit r k = fontBit c r k := by
  simp only [looksLike, List.all_eq_true, List.mem_range, beq_iff_eq]

/-- The printable character whose glyph the pixels are. -/
def readGlyph (lit : ℕ → ℕ → Bool) : Option Byte := printables.find? (looksLike lit)

/-- A glyph reads back. -/
theorem readGlyph_eq {c : Byte} (hc : IsPrintable c) {lit : ℕ → ℕ → Bool}
    (hlit : ∀ r < 16, ∀ k < 8, lit r k = fontBit c r k) : readGlyph lit = some c := by
  rcases hread : readGlyph lit with _ | d
  · have hnone := List.find?_eq_none.mp hread c (mem_printables_iff.mpr hc)
    exact absurd (looksLike_iff.mpr hlit) hnone
  · -- whatever is found looks the same
    unfold readGlyph at hread
    have hd : IsPrintable d := mem_printables_iff.mp (List.mem_of_find?_eq_some hread)
    have hsame := looksLike_iff.mp (List.find?_some hread)
    rw [eq_of_fontBit hc hd (fun r hr k hk => (hlit r hr k hk).symm.trans (hsame r hr k hk))]

/-! ## The screen -/

/-- The character in a cell of the screen. -/
def readCell (fb : Framebuffer) (m : Mem) (i j : ℕ) : Option Byte :=
  readGlyph (fun r k => decide (Depth.bpp32.colour fb m (8 * i + k) (16 * j + r) ≠ 0))

/-- The text on the screen, row by row. -/
def readScreen (fb : Framebuffer) (m : Mem) : List (List (Option Byte)) :=
  (List.range fb.maxRows.toNat).map (fun j =>
    (List.range fb.maxCols.toNat).map (fun i => readCell fb m i j))

section Screen

variable {fb : Framebuffer} {W : ℕ} {m : Mem} {p : TextPage Byte}

/-- **A page of printable characters reads back from the framebuffer.** -/
theorem RendersPage.readScreen_eq (h : RendersPage fb W m p)
    (hcells : ∀ i j, IsPrintable (p.cell i j)) :
    readScreen fb m = (List.range fb.maxRows.toNat).map (fun j =>
      (List.range fb.maxCols.toNat).map (fun i => some (p.cell (p.top + j) i))) := by
  refine List.map_congr_left (fun j hj => List.map_congr_left (fun i hi => ?_))
  rw [List.mem_range] at hi hj
  refine readGlyph_eq (hcells _ _) (fun r hr k hk => ?_)
  rw [h.1 i hi j hj r hr k hk]
  cases fontBit (p.cell (p.top + j) i) r k <;> rfl

end Screen

/-! ## Lines of text -/

/-- The cells of some lines of text, from the first row on. -/
def lineCells (lines : List (List Byte)) (i j : ℕ) : Byte := (lines.getD i []).getD j chSpace

/-- The page of some lines of text, each ended by a newline. -/
def TextPage.ofLines (lines : List (List Byte)) : TextPage Byte :=
  { cell := lineCells lines, top := 0, x := 0, y := lines.length }

/-- The characters of some lines. -/
def linesText (lines : List (List Byte)) : List Byte := lines.flatMap (· ++ [chNewline])

section Lines

variable {fb : Framebuffer} {p : TextPage Byte}

theorem TextPage.type_append (fb : Framebuffer) (p : TextPage Byte) (as bs : List Byte) :
    p.type fb (as ++ bs) = (p.type fb as).type fb bs := run_append _ _ _ _

theorem keyOf_of_printable {c : Byte} (hc : IsPrintable c) : keyOf c = .print c := by
  obtain ⟨hn, hr, hb⟩ := hc.ne_control
  rw [keyOf, if_neg hn, if_neg hr, if_neg hb, if_pos hc]

/-- A printable character inside a row. -/
theorem TextPage.press_printable {c : Byte} (hc : IsPrintable c)
    (hx : p.x + 1 < fb.maxCols.toNat) (hy : p.y < p.top + fb.maxRows.toNat) :
    p.press fb.maxCols.toNat fb.maxRows.toNat chSpace (keyOf c)
      = { p.write c with x := p.x + 1 } := by
  rw [keyOf_of_printable hc]
  have hinside : (p.write c).x + 1 < fb.maxCols.toNat := hx
  show TextPage.follow _ (TextPage.advance _ (p.write c)) = _
  rw [TextPage.advance, if_pos hinside]
  exact TextPage.follow_of_lt hy

/-- Characters that fit the row stand behind one another in it. -/
theorem TextPage.type_printables {cs : List Byte} (hcs : ∀ c ∈ cs, IsPrintable c)
    (hx : p.x + cs.length < fb.maxCols.toNat) (hy : p.y < p.top + fb.maxRows.toNat) :
    p.type fb cs
      = { p with
          cell := fun i j =>
            if i = p.y ∧ p.x ≤ j ∧ j < p.x + cs.length then cs.getD (j - p.x) chSpace
            else p.cell i j
          x := p.x + cs.length } := by
  induction cs generalizing p with
  | nil =>
      have hcell : (fun i j => if i = p.y ∧ p.x ≤ j ∧ j < p.x + 0 then
          List.getD [] (j - p.x) chSpace else p.cell i j) = p.cell := by
        funext i j
        rw [if_neg (by omega)]
      show p = { p with
        cell := fun i j => if i = p.y ∧ p.x ≤ j ∧ j < p.x + 0 then List.getD [] (j - p.x) chSpace
          else p.cell i j
        x := p.x + 0 }
      rw [hcell]
      rfl
  | cons c cs ih =>
      rw [List.length_cons] at hx
      have hrest := ih (p := { p.write c with x := p.x + 1 })
        (fun c hc => hcs c (List.mem_cons_of_mem _ hc)) (by show p.x + 1 + _ < _; omega) hy
      show TextPage.type fb (p.press _ _ chSpace (keyOf c)) cs = _
      rw [TextPage.press_printable (hcs c List.mem_cons_self) (by omega) hy, hrest]
      rw [TextPage.mk.injEq]
      refine ⟨?_, rfl, by show p.x + 1 + cs.length = p.x + (cs.length + 1); omega, rfl⟩
      funext i j
      show (if i = p.y ∧ p.x + 1 ≤ j ∧ j < p.x + 1 + cs.length then cs.getD (j - (p.x + 1)) chSpace
        else if i = p.y ∧ j = p.x then c else p.cell i j) = _
      rw [List.length_cons]
      by_cases hcur : i = p.y ∧ j = p.x
      · rw [if_neg (by omega), if_pos hcur, if_pos (by omega), hcur.2, Nat.sub_self,
          List.getD_cons_zero]
      · by_cases hin : i = p.y ∧ p.x + 1 ≤ j ∧ j < p.x + 1 + cs.length
        · rw [if_pos hin, if_pos (by omega), show j - p.x = j - (p.x + 1) + 1 by omega,
            List.getD_cons_succ]
        · rw [if_neg hin, if_neg hcur, if_neg (by omega)]

/-- One more line. -/
theorem lineCells_append (lines : List (List Byte)) (l : List Byte) (i j : ℕ) :
    lineCells (lines ++ [l]) i j
      = if i = lines.length ∧ j < l.length then l.getD j chSpace else lineCells lines i j := by
  unfold lineCells
  rcases Nat.lt_trichotomy i lines.length with hlt | heq | hgt
  · rw [List.getD_append _ _ _ _ hlt, if_neg (by omega)]
  · rw [heq, List.getD_append_right _ _ _ _ (Nat.le_refl _), Nat.sub_self, List.getD_cons_zero,
      List.getD_eq_default lines [] (Nat.le_refl _)]
    by_cases hj : j < l.length
    · rw [if_pos ⟨rfl, hj⟩]
    · rw [if_neg (fun h => hj h.2), List.getD_eq_default l _ (by omega)]
      rfl
  · have hlast : (lines ++ [l]).length ≤ i := by
      rw [List.length_append, List.length_singleton]
      omega
    rw [List.getD_eq_default _ [] hlast, List.getD_eq_default lines [] (by omega), if_neg (by omega)]

/-- **Lines that fit the screen stand in its rows.** -/
theorem TextPage.type_lines {lines : List (List Byte)}
    (hlines : ∀ l ∈ lines, (∀ c ∈ l, IsPrintable c) ∧ l.length < fb.maxCols.toNat)
    (hrows : lines.length < fb.maxRows.toNat) :
    (TextPage.blank chSpace).type fb (linesText lines) = TextPage.ofLines lines := by
  induction lines using List.reverseRecOn with
  | nil => rfl
  | append_singleton lines l ih =>
      rw [List.length_append, List.length_singleton] at hrows
      obtain ⟨hl, hlen⟩ := hlines l (List.mem_append_right _ List.mem_cons_self)
      have hrest := ih (fun l hl => hlines l (List.mem_append_left _ hl)) (by omega)
      have htext : linesText (lines ++ [l]) = linesText lines ++ (l ++ [chNewline]) := by
        rw [linesText, List.flatMap_append, List.flatMap_singleton]
        rfl
      rw [htext, TextPage.type_append, hrest, TextPage.type_append,
        TextPage.type_printables hl (by show 0 + _ < _; omega)
          (by show lines.length < 0 + _; omega)]
      have hcell : (fun i j => if i = lines.length ∧ 0 ≤ j ∧ j < 0 + l.length then
          l.getD (j - 0) chSpace else lineCells lines i j) = lineCells (lines ++ [l]) := by
        funext i j
        rw [lineCells_append, Nat.zero_add, Nat.sub_zero]
        exact if_congr (by omega) rfl rfl
      show TextPage.follow fb.maxRows.toNat
        { cell := fun i j => if i = lines.length ∧ 0 ≤ j ∧ j < 0 + l.length then
            l.getD (j - 0) chSpace else lineCells lines i j
          top := 0, x := 0, y := lines.length + 1 } = _
      rw [TextPage.follow_of_lt (by show lines.length + 1 < 0 + _; omega), hcell, TextPage.ofLines,
        List.length_append, List.length_singleton]

end Lines

/-- The text of some lines has no carriage return in it. -/
theorem return_notMem_linesText {lines : List (List Byte)}
    (hlines : ∀ l ∈ lines, ∀ c ∈ l, IsPrintable c) : chReturn ∉ linesText lines := by
  intro hmem
  obtain ⟨l, hl, hreturn⟩ := List.mem_flatMap.mp hmem
  rcases List.mem_append.mp hreturn with hc | hnewline
  · exact (hlines l hl chReturn hc).ne_control.2.1 rfl
  · exact absurd (List.mem_singleton.mp hnewline) (by decide)

/-- The cells of printable lines are printable. -/
theorem lineCells_printable {lines : List (List Byte)}
    (hlines : ∀ l ∈ lines, ∀ c ∈ l, IsPrintable c) (i j : ℕ) : IsPrintable (lineCells lines i j) := by
  unfold lineCells
  rw [List.getD_eq_getElem?_getD (l := lines)]
  rcases hrow : lines[i]? with _ | l
  · rw [Option.getD_none, List.getD_nil]
    decide
  · rw [Option.getD_some, List.getD_eq_getElem?_getD]
    rcases hcell : l[j]? with _ | c
    · rw [Option.getD_none]
      decide
    · rw [Option.getD_some]
      exact hlines l (List.mem_of_getElem? hrow) c (List.mem_of_getElem? hcell)

/-- Printed on a screen that shows the blank page, lines that fit it read back. -/
theorem Renders.readScreen_lines {fb : Framebuffer} {W : ℕ} {s : RgbState Mem}
    (hheight : 16 ≤ fb.height) (hfit : Depth.bpp32.Fits fb W)
    (hs : Renders fb W s (TextPage.blank chSpace)) {lines : List (List Byte)}
    (hlines : ∀ l ∈ lines, (∀ c ∈ l, IsPrintable c) ∧ l.length < fb.maxCols.toNat)
    (hrows : lines.length < fb.maxRows.toNat) :
    readScreen fb (run (fun s c => rgbPutc32 fb c s) s (linesText lines)).screen
      = (List.range fb.maxRows.toNat).map (fun j =>
          (List.range fb.maxCols.toNat).map (fun i => some (lineCells lines j i))) := by
  have hpage := TextPage.type_lines hlines hrows
  obtain ⟨t, htext, hshow, -, -⟩ := hs.type hheight hfit
    (return_notMem_linesText (fun l hl => (hlines l hl).1)) (by rw [hpage]; rfl)
  rw [htext.screen, hpage] at hshow
  rw [(hshow.rendersPage hfit.width_le).readScreen_eq
    (lineCells_printable (fun l hl => (hlines l hl).1))]
  simp only [TextPage.ofLines, Nat.zero_add]

/-- **What is printed can be read back from the framebuffer**: on one whose scan lines do not
overlap and that is smaller than 4 GiB, lines of printable characters, all shorter than a row
and fewer than the rows, stand there row by row, and spaces behind them. -/
theorem screen_reads_back (fb : Framebuffer) (W : ℕ) (hwidth : 8 ≤ fb.width)
    (hheight : 16 ≤ fb.height) (hpitch : fb.pitch.toNat = 4 * W) (hW : fb.width.toNat ≤ W)
    (hsize : fb.size < 2 ^ 32) (s : RgbState Mem) {lines : List (List Byte)}
    (hlines : ∀ l ∈ lines, (∀ c ∈ l, IsPrintable c) ∧ l.length < fb.maxCols.toNat)
    (hrows : lines.length < fb.maxRows.toNat) :
    readScreen fb (run (fun s c => rgbPutc32 fb c s) (rgbClear32 fb s) (linesText lines)).screen
      = (List.range fb.maxRows.toNat).map (fun j =>
          (List.range fb.maxCols.toNat).map (fun i => some (lineCells lines j i))) := by
  have hfit := fits_bpp32 hsize hpitch.ge hW
  exact (renders_clear hwidth hheight hfit hpitch s).readScreen_lines hheight hfit hlines hrows

/-- Two lines on a 640x480 screen. -/
theorem screen_reads_back_640x480 :
    readScreen mode640x480
        (run (fun s c => rgbPutc32 mode640x480 c s) (rgbClear32 mode640x480
          { screen := { byte := fun _ => 0, touched := [] }, cursorX := 0, cursorY := 0 })
          (linesText [[65, 67, 80, 73], [79, 75]])).screen
      = (List.range 30).map (fun j => (List.range 80).map (fun i =>
          some (lineCells [[65, 67, 80, 73], [79, 75]] j i))) := by
  refine screen_reads_back mode640x480 640 (by decide) (by decide) (by decide) (by decide)
    (by decide) _ ?_ (by decide)
  intro l hl
  rcases List.mem_pair.mp hl with rfl | rfl <;> decide +kernel

end GridX64
