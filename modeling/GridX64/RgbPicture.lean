/-
# The picture on the screen

`Picture` forgets the pixel format: it says which pixels are lit.  The driver code
runs on pictures as it runs on memory (`rgbPutc` at the surface `Picture`), and a
framebuffer of any depth shows the picture that the driver has drawn:

* `rgbPutc_relates` — `rgb_putcN` on two surfaces keeps any relation that the
  pixel writers and the scrolls keep;
* `Depth.Shows` — the colour bytes of a framebuffer are all ones at the lit pixels
  and zero at the others;
* `shows_plot`, `shows_scroll`, `shows_clear` — each operation keeps it.
-/
import GridX64.RgbCursor
import GridX64.RgbPixels

namespace GridX64

variable {σ τ : Type*}

/-! ## The driver on two surfaces -/

section Relates

variable {put : BitVec 32 → BitVec 32 → BitVec 32 → σ → σ}
  {put' : BitVec 32 → BitVec 32 → BitVec 32 → τ → τ} {scroll : σ → σ} {scroll' : τ → τ}

/-- The pixel writers keep `R` for the two colours that the driver uses, in the
columns `col`. -/
def PutRelates (R : σ → τ → Prop) (col : BitVec 32 → Prop)
    (put : BitVec 32 → BitVec 32 → BitVec 32 → σ → σ)
    (put' : BitVec 32 → BitVec 32 → BitVec 32 → τ → τ) : Prop :=
  ∀ x y color s t, col x → color = rgbDefaultColor ∨ color = 0 → R s t →
    R (put x y color s) (put' x y color t)

/-- The glyph loops keep what the pixel writers keep for one colour. -/
theorem rgbDrawchar_relates_color {R : σ → τ → Prop} {col : BitVec 32 → Prop} {color : BitVec 32}
    (hput : ∀ x y s t, col x → R s t → R (put x y color s) (put' x y color t)) (x y : BitVec 32)
    (c : Byte) {s : σ} {t : τ} (hcol : ∀ k < 8, col (x + BitVec.ofNat 32 k)) (h : R s t) :
    R (rgbDrawchar put x y c color s) (rgbDrawchar put' x y c color t) := by
  refine forUp_relates R h (fun row _ s t h => ?_)
  refine forUp_relates R h (fun k hk s t h => ?_)
  split_ifs
  · exact hput _ _ _ _ (hcol k hk) h
  · exact h

theorem rgbDrawchar_relates {R : σ → τ → Prop} {col : BitVec 32 → Prop}
    (hput : PutRelates R col put put') (x y : BitVec 32) (c : Byte) {s : σ} {t : τ}
    (hcol : ∀ k < 8, col (x + BitVec.ofNat 32 k)) (h : R s t) :
    R (rgbDrawchar put x y c rgbDefaultColor s) (rgbDrawchar put' x y c rgbDefaultColor t) := by
  apply rgbDrawchar_relates_color ?_ x y c hcol h
  intro x y s t hx hst
  exact hput x y rgbDefaultColor s t hx (Or.inl rfl) hst

theorem rgbErase_relates {R : σ → τ → Prop} {col : BitVec 32 → Prop}
    (hput : PutRelates R col put put') (x y : BitVec 32) {s : σ} {t : τ}
    (hcol : ∀ k < 8, col (x * rgbCharWidth + BitVec.ofNat 32 k)) (h : R s t) :
    R (rgbErase put x y s) (rgbErase put' x y t) := by
  refine forUp_relates R h (fun row _ s t h => ?_)
  refine forUp_relates R h (fun k hk s t h => ?_)
  exact hput _ _ _ _ _ (hcol k hk) (Or.inr rfl) h

/-- The text columns that one `rgb_putcN` can draw in: the cursor's, and where a
backspace takes it. -/
def DrawsIn (fb : Framebuffer) (x : BitVec 32) (cx : BitVec 32) : Prop :=
  cx = x ∨ (x > 0 ∧ cx = x - 1) ∨ cx = fb.maxCols - 1

/-- **The driver keeps any relation that its two surface operations keep.**  The
two framebuffers need only have the same visible size. -/
theorem rgbPutc_relates (R : σ → τ → Prop) (col : BitVec 32 → Prop) {fb fb' : Framebuffer}
    (hw : fb.width = fb'.width) (hh : fb.height = fb'.height)
    (hput : PutRelates R col put put') (hscroll : ∀ s t, R s t → R (scroll s) (scroll' t))
    (c : Byte) {s : RgbState σ} {t : RgbState τ} (hR : R s.screen t.screen)
    (hx : s.cursorX = t.cursorX) (hy : s.cursorY = t.cursorY)
    (hcol : ∀ cx, DrawsIn fb s.cursorX cx → ∀ k < 8, col (cx * rgbCharWidth + BitVec.ofNat 32 k)) :
    R (rgbPutc fb put scroll c s).screen (rgbPutc fb' put' scroll' c t).screen := by
  have hcols : fb.maxCols = fb'.maxCols := by rw [Framebuffer.maxCols, hw, Framebuffer.maxCols]
  have hrows : fb.maxRows = fb'.maxRows := by rw [Framebuffer.maxRows, hh, Framebuffer.maxRows]
  have hsettle : ∀ p q x y, R p q →
      R (rgbSettle fb scroll ⟨p, x, y⟩).screen (rgbSettle fb' scroll' ⟨q, x, y⟩).screen := by
    intro p q x y hpq
    rw [rgbSettle, rgbSettle, ← hrows]
    split_ifs
    · exact hscroll p q hpq
    · exact hpq
  obtain ⟨p, x, y⟩ := s
  obtain ⟨q, x', y'⟩ := t
  simp only at hR hx hy hcol
  subst hx
  subst hy
  have hdraw := rgbDrawchar_relates hput (x * rgbCharWidth) (y * rgbCharHeight) c
    (hcol x (Or.inl rfl)) hR
  simp only [rgbPutc, ← hcols]
  -- both drivers take the same branch, because they agree on the cursor and the columns
  split_ifs with hn hr hb hx0 hy0 hp hlast
  · exact hsettle _ _ _ _ hR
  · exact hsettle _ _ _ _ hR
  · exact rgbErase_relates hput _ _ (hcol _ (Or.inr (Or.inl ⟨hx0, rfl⟩))) hR
  · exact rgbErase_relates hput _ _ (hcol _ (Or.inr (Or.inr rfl))) hR
  · exact hR
  · exact hsettle _ _ _ _ hdraw
  · exact hsettle _ _ _ _ hdraw
  · exact hsettle _ _ _ _ hR

/-- **The driver keeps any property that its two surface operations keep.** -/
theorem rgbPutc_preserves (I : σ → Prop) (col : BitVec 32 → Prop) {fb : Framebuffer}
    (hput : ∀ x y color p, col x → I p → I (put x y color p)) (hscroll : ∀ p, I p → I (scroll p))
    (c : Byte) {s : RgbState σ} (h : I s.screen)
    (hcol : ∀ cx, DrawsIn fb s.cursorX cx → ∀ k < 8, col (cx * rgbCharWidth + BitVec.ofNat 32 k)) :
    I (rgbPutc fb put scroll c s).screen := by
  -- the other surface is a point
  have hput' : PutRelates (fun p (_ : Unit) => I p) col put (fun _ _ _ t => t) :=
    fun x y color p _ hx _ hp => hput x y color p hx hp
  let point : RgbState Unit := { screen := (), cursorX := s.cursorX, cursorY := s.cursorY }
  exact @rgbPutc_relates σ Unit put (fun _ _ _ t => t) scroll id (fun p _ => I p) col fb fb rfl rfl
    hput' (fun p _ hp => hscroll p hp) c s point h rfl rfl hcol

/-- The cursor moves the same way on two framebuffers of the same width. -/
theorem rgbPutc_cursor_eq {fb fb' : Framebuffer} (hw : fb.width = fb'.width) (c : Byte)
    {s : RgbState σ} {t : RgbState τ} (hx : s.cursorX = t.cursorX) (hy : s.cursorY = t.cursorY) :
    (rgbPutc fb put scroll c s).cursorX = (rgbPutc fb' put' scroll' c t).cursorX ∧
      (rgbPutc fb put scroll c s).cursorY = (rgbPutc fb' put' scroll' c t).cursorY := by
  have hcols : fb.maxCols = fb'.maxCols := by rw [Framebuffer.maxCols, hw, Framebuffer.maxCols]
  have hcursor : rgbCursor fb c s.cursorX s.cursorY = rgbCursor fb' c t.cursorX t.cursorY := by
    rw [rgbCursor, rgbCursor, hcols, hx, hy]
  rw [rgbPutc_cursorX, rgbPutc_cursorX, rgbPutc_cursorY, rgbPutc_cursorY, hcursor]
  exact ⟨rfl, rfl⟩

end Relates

/-! ## Pictures -/

/-- Which pixels are lit, by column and row. -/
abbrev Picture := ℕ → ℕ → Bool

namespace Picture

/-- Nothing is lit. -/
def blank : Picture := fun _ _ => false

/-- A pixel store on a screen of `w` by `h` pixels: any colour but black lights
the pixel. -/
def plot (w h x y color : BitVec 32) (p : Picture) : Picture := fun i j =>
  if x < w ∧ y < h ∧ i = x.toNat ∧ j = y.toNat then decide (color ≠ 0) else p i j

/-- The picture moves up by one text row. -/
def scroll (h : BitVec 32) (p : Picture) : Picture := fun i j =>
  decide (j + 16 < h.toNat) && p i (j + 16)

/-- What one round of a cell's loops does to the pixel at column `i` and row `j`. -/
theorem plot_if {w h x y : BitVec 32} (color : BitVec 32) (sel : Bool) (p : Picture) (i j : ℕ) :
    (if sel then plot w h x y color p else p) i j
      = if sel = true ∧ i = x.toNat ∧ j = y.toNat ∧ i < w.toNat ∧ j < h.toNat
        then decide (color ≠ 0) else p i j := by
  cases sel with
  | false => rfl
  | true =>
      refine if_congr ?_ rfl rfl
      rw [BitVec.lt_def, BitVec.lt_def]
      constructor
      · rintro ⟨hx, hy, rfl, rfl⟩
        exact ⟨rfl, rfl, rfl, hx, hy⟩
      · rintro ⟨-, rfl, rfl, hx, hy⟩
        exact ⟨hx, hy, rfl, rfl⟩

/-- The pixels that one row of a cell's loops plots. -/
theorem plot_row {w h x y : BitVec 32} (color : BitVec 32) (sel : ℕ → Bool) (p : Picture)
    (hx : x.toNat + 8 ≤ 2 ^ 32) (i j : ℕ) :
    forUp 8 (fun col p => if sel col then plot w h (x + BitVec.ofNat 32 col) y color p else p) p i j
      = if (x.toNat ≤ i ∧ i < x.toNat + 8) ∧ j = y.toNat ∧ i < w.toNat ∧ j < h.toNat
          ∧ sel (i - x.toNat) = true
        then decide (color ≠ 0) else p i j := by
  refine forUp_induction (fun k (q : Picture) => q i j
    = if (x.toNat ≤ i ∧ i < x.toNat + k) ∧ j = y.toNat ∧ i < w.toNat ∧ j < h.toNat
        ∧ sel (i - x.toNat) = true
      then decide (color ≠ 0) else p i j) ?_ ?_
  · rw [if_neg (by omega)]
  · intro k hk q hq
    rw [plot_if, toNat_add_offset hk hx, hq]
    by_cases hik : i = x.toNat + k
    · have hcol : i - x.toNat = k := by omega
      rw [hcol]
      by_cases hon : sel k = true ∧ j = y.toNat ∧ i < w.toNat ∧ j < h.toNat
      · obtain ⟨hsel, hj, hi, hjh⟩ := hon
        rw [if_pos ⟨hsel, hik, hj, hi, hjh⟩, if_pos ⟨by omega, hj, hi, hjh, hsel⟩]
      · rw [if_neg (fun hc => hon ⟨hc.1, hc.2.2⟩), if_neg (by omega),
          if_neg (fun hc => hon ⟨hc.2.2.2.2, hc.2.1, hc.2.2.1, hc.2.2.2.1⟩)]
    · rw [if_neg (fun hc => hik hc.2.1)]
      exact if_congr (and_congr_left' (by omega)) rfl rfl

/-- **The pixels that a cell's loops plot**: the selected ones of the cell that are
on the screen. -/
theorem plot_cell {w h x y : BitVec 32} (color : BitVec 32) (sel : ℕ → ℕ → Bool) (p : Picture)
    (hx : x.toNat + 8 ≤ 2 ^ 32) (hy : y.toNat + 16 ≤ 2 ^ 32) (i j : ℕ) :
    forUp 16 (fun row p => forUp 8 (fun col p =>
        if sel row col then plot w h (x + BitVec.ofNat 32 col) (y + BitVec.ofNat 32 row) color p
        else p) p) p i j
      = if (y.toNat ≤ j ∧ j < y.toNat + 16) ∧ (x.toNat ≤ i ∧ i < x.toNat + 8) ∧ i < w.toNat
          ∧ j < h.toNat ∧ sel (j - y.toNat) (i - x.toNat) = true
        then decide (color ≠ 0) else p i j := by
  refine forUp_induction (fun k (q : Picture) => q i j
    = if (y.toNat ≤ j ∧ j < y.toNat + k) ∧ (x.toNat ≤ i ∧ i < x.toNat + 8) ∧ i < w.toNat
        ∧ j < h.toNat ∧ sel (j - y.toNat) (i - x.toNat) = true
      then decide (color ≠ 0) else p i j) ?_ ?_
  · rw [if_neg (by omega)]
  · intro k hk q hq
    rw [plot_row color (sel k) q hx, toNat_add_offset hk hy, hq]
    by_cases hjk : j = y.toNat + k
    · have hrow : j - y.toNat = k := by omega
      rw [hrow]
      by_cases hon : (x.toNat ≤ i ∧ i < x.toNat + 8) ∧ i < w.toNat ∧ j < h.toNat
          ∧ sel k (i - x.toNat) = true
      · rw [if_pos ⟨hon.1, hjk, hon.2⟩, if_pos ⟨by omega, hon⟩]
      · rw [if_neg (fun hc => hon ⟨hc.1, hc.2.2⟩), if_neg (by omega), if_neg (fun hc => hon hc.2)]
    · rw [if_neg (fun hc => hjk hc.2.1)]
      exact if_congr (and_congr_left' (by omega)) rfl rfl

end Picture

/-- `rgb_putcN` on pictures. -/
def picturePutc (fb : Framebuffer) : Byte → RgbState Picture → RgbState Picture :=
  rgbPutc fb (Picture.plot fb.width fb.height) (Picture.scroll fb.height)

/-! ## A framebuffer shows a picture -/

/-- Over the first `W` pixels of every scan line, the colour bytes are all ones at
the lit pixels and zero at the others. -/
def Depth.Shows (d : Depth) (fb : Framebuffer) (W : ℕ) (m : Mem) (p : Picture) : Prop :=
  ∀ x < W, ∀ y < fb.height.toNat, ∀ i < d.colourBytes,
    m.byte (d.pixelAddr fb x y + i) = if p x y then 0xFF else 0

variable {d : Depth} {fb : Framebuffer} {W : ℕ} {m : Mem} {p : Picture}

/-- A pixel store plots the pixel. -/
theorem shows_plot (hfit : d.Fits fb W) {x y color : BitVec 32}
    (hcolor : color = rgbDefaultColor ∨ color = 0) (h : d.Shows fb W m p) :
    d.Shows fb W (d.putpixel fb x y color m) (Picture.plot fb.width fb.height x y color p) := by
  intro i hi j hj k hk
  have hkb : k < d.bytes := Nat.lt_of_lt_of_le hk d.colourBytes_le
  rw [Depth.putpixel_pixel hfit x y color m hi hkb, Picture.plot]
  by_cases hon : x < fb.width ∧ y < fb.height ∧ i = x.toNat ∧ j = y.toNat
  · rw [if_pos hon, if_pos hon]
    rcases hcolor with rfl | rfl
    · exact Depth.encode_white d hkb
    · exact Depth.encode_black d hk
  · rw [if_neg hon, if_neg hon]
    exact h i hi j hj k hk

/-- A byte of a pixel at its place in the scan line. -/
theorem Depth.pixelAddr_down (d : Depth) (fb : Framebuffer) (x y i : ℕ) :
    d.pixelAddr fb x y + i + 16 * fb.pitch.toNat = d.pixelAddr fb x (y + 16) + i := by
  rw [Depth.pixelAddr, Depth.pixelAddr, Nat.add_mul]
  omega

/-- `rgb_scroll` scrolls the picture. -/
theorem shows_scroll (hfit : d.Fits fb W) (hheight : 16 ≤ fb.height) (h : d.Shows fb W m p) :
    d.Shows fb W (rgbScroll fb m) (Picture.scroll fb.height p) := by
  intro x hx y hy i hi
  have hib : i < d.bytes := Nat.lt_of_lt_of_le hi d.colourBytes_le
  obtain ⟨hge, hlt⟩ := d.inside_pixel hfit hx hy hib
  rw [rgbScroll_byte hfit.size_lt hheight, if_pos ⟨hge, hlt⟩, Depth.pixelAddr_down,
    Picture.scroll]
  by_cases hkeep : y + 16 < fb.height.toNat
  · rw [if_pos (Depth.pixelAddr_add_lt hfit hx hkeep hib), h x hx (y + 16) hkeep i hi]
    simp [hkeep]
  · rw [if_neg ?_]
    · simp [hkeep]
    · -- the row sixteen lines down is past the last one
      have hrow : fb.height.toNat * fb.pitch.toNat ≤ (y + 16) * fb.pitch.toNat :=
        Nat.mul_le_mul_right _ (by omega)
      rw [Depth.pixelAddr, Framebuffer.size, Nat.mul_comm fb.pitch.toNat]
      omega

/-- A clear blanks the picture. -/
theorem shows_clear (hfit : d.Fits fb W) (halign : d.alignment ∣ fb.pitch.toNat)
    (s : RgbState Mem) : d.Shows fb W (d.clear fb s).screen Picture.blank := by
  intro x hx y hy i hi
  have hib : i < d.bytes := Nat.lt_of_lt_of_le hi d.colourBytes_le
  obtain ⟨hge, hlt⟩ := d.inside_pixel hfit hx hy hib
  rw [d.clear_byte hfit.size_lt halign, if_pos ⟨hge, hlt⟩]
  rfl

/-- `rgb_putcN` draws on memory what it draws on the picture. -/
theorem shows_putc {fb' : Framebuffer} (hfit : d.Fits fb W) (hheight : 16 ≤ fb.height)
    (hw : fb.width = fb'.width) (hh : fb.height = fb'.height) (c : Byte)
    {s : RgbState Mem} {t : RgbState Picture} (h : d.Shows fb W s.screen t.screen)
    (hx : s.cursorX = t.cursorX) (hy : s.cursorY = t.cursorY) :
    d.Shows fb W (d.putc fb c s).screen (picturePutc fb' c t).screen := by
  rw [d.putc_eq]
  refine rgbPutc_relates (d.Shows fb W) (fun _ => True) hw hh ?_ ?_ c h hx hy
    (fun _ _ _ _ => trivial)
  · intro x y color m p _ hcolor hmp
    rw [← hw, ← hh]
    exact shows_plot hfit hcolor hmp
  · intro m p hmp
    rw [← hh]
    exact shows_scroll hfit hheight hmp

/-! ## Colour bits -/

/-- The colour bits of a pixel: all of a 16- or 24-bit pixel, the low 24 bits of a
32-bit one. -/
def Depth.colour (d : Depth) (fb : Framebuffer) (m : Mem) (x y : ℕ) : ℕ :=
  leWord m.byte (d.pixelAddr fb x y) d.bytes % 2 ^ 24

/-- The colour bits are the word of the colour bytes. -/
theorem Depth.colour_eq_leWord (d : Depth) (fb : Framebuffer) (m : Mem) (x y : ℕ) :
    d.colour fb m x y = leWord m.byte (d.pixelAddr fb x y) d.colourBytes := by
  rw [Depth.colour]
  have hlt := leWord_lt m.byte (d.pixelAddr fb x y) d.bytes
  cases d with
  | bpp16 => exact Nat.mod_eq_of_lt (Nat.lt_trans hlt (by decide))
  | bpp24 => exact Nat.mod_eq_of_lt hlt
  | bpp32 =>
      have hlow := leWord_lt m.byte (bpp32.pixelAddr fb x y) 3
      simp only [Depth.bytes, Depth.colourBytes, leWord] at hlow ⊢
      omega

/-- The colour bits are zero exactly when the colour bytes are. -/
theorem Depth.colour_eq_zero_iff (d : Depth) (fb : Framebuffer) (m : Mem) (x y : ℕ) :
    d.colour fb m x y = 0 ↔ ∀ i < d.colourBytes, m.byte (d.pixelAddr fb x y + i) = 0 := by
  rw [d.colour_eq_leWord, leWord_eq_zero_iff]

/-- White or black: the colour bits of a framebuffer that shows a picture. -/
theorem Depth.Shows.colour_eq (h : d.Shows fb W m p) {x y : ℕ} (hx : x < W)
    (hy : y < fb.height.toNat) :
    d.colour fb m x y = if p x y then 256 ^ d.colourBytes - 1 else 0 := by
  have hbytes := h x hx y hy
  by_cases hp : p x y = true
  · rw [if_pos hp, d.colour_eq_leWord]
    exact leWord_ones (fun i hi => by rw [hbytes i hi, if_pos hp])
  · rw [if_neg hp, d.colour_eq_zero_iff]
    exact fun i hi => by rw [hbytes i hi, if_neg hp]

/-- A framebuffer that shows a picture is black exactly where the picture is not lit. -/
theorem Depth.Shows.colour_ne_zero_iff (h : d.Shows fb W m p) {x y : ℕ} (hx : x < W)
    (hy : y < fb.height.toNat) : d.colour fb m x y ≠ 0 ↔ p x y = true := by
  have hwhite : 256 ^ d.colourBytes - 1 ≠ 0 := by cases d <;> decide
  rw [h.colour_eq hx hy]
  split_ifs with hp
  · exact iff_of_true hwhite hp
  · exact iff_of_false (fun hc => hc rfl) hp

/-- A black framebuffer shows the blank picture. -/
theorem Depth.shows_blank_of_black (h : ∀ x < W, ∀ y < fb.height.toNat, d.colour fb m x y = 0) :
    d.Shows fb W m Picture.blank := by
  intro x hx y hy i hi
  exact (d.colour_eq_zero_iff fb m x y).mp (h x hx y hy) i hi

end GridX64
