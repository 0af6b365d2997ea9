/-
# Printing over a character (rgb_putc32)

`rgb_drawchar32` stores the lit pixels of a glyph and leaves the others, so
printing over a character adds the two glyphs together: the cell at the cursor
shows the new glyph alone exactly when it was black where the new glyph has no
pixel (`BlackAround`).  A backspace blackens its cell first, and output that only
moves forward finds its cells blank (`putc32_replaces`); a carriage return to a row
that has text on it does not.

* `Painted`, `Overlays`, `drawchar_overlays` — memory with one colour painted over it, and
  with the glyph drawn over it;
* `replaces_iff` — one printed character;
* `blackAround_return_iff` — a character printed over one in the first column;
* `overprint_replaces_iff` — the runs on which every printed character replaces
  what its cell showed.
-/
import GridX64.RgbDepths
import GridX64.RgbText

namespace GridX64

/-! ## Painting with one colour -/

/-- Over the first `W` pixels of every scan line, the memory `m` is `m₀` with the lit
pixels of a picture painted over it in one colour. -/
def Depth.Painted (d : Depth) (fb : Framebuffer) (W : ℕ) (color : BitVec 32) (m₀ m : Mem)
    (p : Picture) : Prop :=
  ∀ x < W, ∀ y < fb.height.toNat, ∀ i < d.bytes,
    m.byte (d.pixelAddr fb x y + i)
      = if p x y then d.encode color i else m₀.byte (d.pixelAddr fb x y + i)

variable {d : Depth} {fb : Framebuffer} {W : ℕ} {color : BitVec 32} {m₀ m : Mem} {p : Picture}

/-- Nothing is painted over the memory itself. -/
theorem Depth.painted_blank (d : Depth) (fb : Framebuffer) (W : ℕ) (color : BitVec 32) (m : Mem) :
    d.Painted fb W color m m Picture.blank :=
  fun _ _ _ _ _ _ => rfl

/-- A pixel store paints the pixel, black too. -/
theorem Depth.Painted.putpixel (h : d.Painted fb W color m₀ m p) (hfit : d.Fits fb W)
    (x y : BitVec 32) :
    d.Painted fb W color m₀ (d.putpixel fb x y color m)
      (Picture.plot fb.width fb.height x y rgbDefaultColor p) := by
  intro i hi j hj k hk
  rw [Depth.putpixel_pixel hfit x y color m hi hk, Picture.plot]
  by_cases hon : x < fb.width ∧ y < fb.height ∧ i = x.toNat ∧ j = y.toNat
  · rw [if_pos hon, if_pos hon]
    rfl
  · rw [if_neg hon, if_neg hon]
    exact h i hi j hj k hk

/-- The colour bits of a painted pixel are those of the colour. -/
theorem Depth.Painted.colour_eq (h : d.Painted fb W color m₀ m p) {x y : ℕ} (hx : x < W)
    (hy : y < fb.height.toNat) :
    d.colour fb m x y
      = if p x y then leWord (d.encode color) 0 d.colourBytes else d.colour fb m₀ x y := by
  have hbytes := h x hx y hy
  rw [d.colour_eq_leWord, d.colour_eq_leWord]
  by_cases hp : p x y = true
  · rw [if_pos hp]
    apply leWord_congr
    intro i hi
    rw [hbytes i (Nat.lt_of_lt_of_le hi d.colourBytes_le), if_pos hp, Nat.zero_add]
  · rw [if_neg hp]
    apply leWord_congr
    intro i hi
    rw [hbytes i (Nat.lt_of_lt_of_le hi d.colourBytes_le), if_neg hp]

/-! ## Drawing over what is there -/

/-- Over the first `W` pixels of every scan line, the memory `m` is `m₀` with the
lit pixels of a picture drawn over it in white. -/
def Depth.Overlays (d : Depth) (fb : Framebuffer) (W : ℕ) (m₀ m : Mem) (p : Picture) : Prop :=
  ∀ x < W, ∀ y < fb.height.toNat, ∀ i < d.bytes,
    m.byte (d.pixelAddr fb x y + i) = if p x y then 0xFF else m₀.byte (d.pixelAddr fb x y + i)

/-- Drawing is painting with white. -/
theorem Depth.overlays_iff_painted :
    d.Overlays fb W m₀ m p ↔ d.Painted fb W rgbDefaultColor m₀ m p := by
  refine forall₂_congr fun x hx => forall₂_congr fun y hy => forall₂_congr fun i hi => ?_
  rw [d.encode_white hi]

/-- A glyph in a text cell, on a black screen. -/
def Picture.glyph (cx cy : ℕ) (c : Byte) : Picture := fun i j =>
  decide (i / 8 = cx ∧ j / 16 = cy) && fontBit c (j % 16) (i % 8)

theorem Picture.glyph_inside {cx cy i j : ℕ} (hi : i < 8) (hj : j < 16) (c : Byte) :
    Picture.glyph cx cy c (8 * cx + i) (16 * cy + j) = fontBit c j i := by
  rw [Picture.glyph, decide_eq_true (by omega), Bool.true_and, Nat.mul_add_mod, Nat.mul_add_mod,
    Nat.mod_eq_of_lt hi, Nat.mod_eq_of_lt hj]

theorem Picture.glyph_outside {cx cy i j : ℕ} (h : ¬ (i / 8 = cx ∧ j / 16 = cy)) (c : Byte) :
    Picture.glyph cx cy c i j = false := by
  rw [Picture.glyph, decide_eq_false h, Bool.false_and]

/-- **The glyph loops draw the glyph over the cell** and touch no other pixel. -/
theorem drawchar_overlays (hfit : d.Fits fb W) {cx cy : BitVec 32} (hx : cx < fb.maxCols)
    (hy : cy < fb.maxRows) (c : Byte) (m : Mem) :
    d.Overlays fb W m
      (rgbDrawchar (d.putpixel fb) (cx * rgbCharWidth) (cy * rgbCharHeight) c rgbDefaultColor m)
      (Picture.glyph cx.toNat cy.toNat c) := by
  have hput : ∀ x y s p, True → d.Painted fb W rgbDefaultColor m s p →
      d.Painted fb W rgbDefaultColor m (d.putpixel fb x y rgbDefaultColor s)
        (Picture.plot fb.width fb.height x y rgbDefaultColor p) :=
    fun x y s p _ h => h.putpixel hfit x y
  have hdraw := rgbDrawchar_relates_color hput (cx * rgbCharWidth) (cy * rgbCharHeight) c
    (fun _ _ => trivial) (d.painted_blank fb W rgbDefaultColor m)
  rw [Depth.overlays_iff_painted]
  convert hdraw using 1
  funext i j
  rw [rgbDrawchar_picture hx hy, Picture.glyph]
  by_cases hcell : j / 16 = cy.toNat ∧ i / 8 = cx.toNat
  · cases fontBit c (j % 16) (i % 8) <;> simp [hcell, Picture.blank]
  · rw [decide_eq_false (fun hc => hcell hc.symm), if_neg (fun hc => hcell hc.1)]
    rfl

/-! ## One printed character -/

/-- A call that does not scroll has left the cursor above the bottom of the text area. -/
theorem rgbSettle_lt_of_count {fb : Framebuffer} {x y : BitVec 32}
    (h : (rgbSettle fb (fun n => n + 1) { screen := 0, cursorX := x, cursorY := y }).screen = 0) :
    y < fb.maxRows := by
  rw [rgbSettle] at h
  split_ifs at h with hlow
  exact BitVec.not_le.mp hlow

/-- A call that does not scroll leaves on the surface what was drawn before it. -/
theorem rgbSettle_screen_of_count {σ : Type*} {fb : Framebuffer} {x y : BitVec 32}
    (h : (rgbSettle fb (fun n => n + 1) { screen := 0, cursorX := x, cursorY := y }).screen = 0)
    (scroll : σ → σ) (p : σ) :
    (rgbSettle fb scroll { screen := p, cursorX := x, cursorY := y }).screen = p := by
  rw [rgbSettle_of_lt fb scroll p x (rgbSettle_lt_of_count h)]

/-- Printing a character that does not scroll draws it at the cursor, and no more. -/
theorem rgbPutc_screen_of_printable {σ : Type*} {put : BitVec 32 → BitVec 32 → BitVec 32 → σ → σ}
    {scroll : σ → σ} {c : Byte} {s : RgbState σ} (hc : IsPrintable c)
    (hscroll : scrollCalls fb c s = 0) :
    (rgbPutc fb put scroll c s).screen
      = rgbDrawchar put (s.cursorX * rgbCharWidth) (s.cursorY * rgbCharHeight) c rgbDefaultColor
        s.screen := by
  obtain ⟨hn, hr, hb⟩ := hc.ne_control
  rw [scrollCalls, rgbPutc, if_neg hn, if_neg hr, if_neg hb, if_pos hc] at hscroll
  rw [rgbPutc, if_neg hn, if_neg hr, if_neg hb, if_pos hc]
  simp only [rgbDrawchar_ignore] at hscroll
  split_ifs at hscroll ⊢
  · exact rgbSettle_screen_of_count hscroll scroll _
  · exact rgbSettle_screen_of_count hscroll scroll _

/-- The cell at the cursor of `s` shows the glyph of `c` in `s'`, white on black,
and no other pixel of the screen has changed. -/
structure Replaces (fb : Framebuffer) (c : Byte) (s s' : RgbState Mem) : Prop where
  glyph : ∀ j < 16, ∀ i < 8,
    Depth.bpp32.colour fb s'.screen (8 * s.cursorX.toNat + i) (16 * s.cursorY.toNat + j)
      = if fontBit c j i then 0xFFFFFF else 0
  frame : ∀ x < fb.width.toNat, ∀ y < fb.height.toNat,
    ¬ (x / 8 = s.cursorX.toNat ∧ y / 16 = s.cursorY.toNat) →
    ∀ k < 4, s'.screen.byte (Depth.bpp32.pixelAddr fb x y + k)
      = s.screen.byte (Depth.bpp32.pixelAddr fb x y + k)

/-- The cell at the cursor is black where the glyph of `c` has no pixel. -/
def BlackAround (fb : Framebuffer) (c : Byte) (s : RgbState Mem) : Prop :=
  ∀ j < 16, ∀ i < 8, fontBit c j i = false →
    Depth.bpp32.colour fb s.screen (8 * s.cursorX.toNat + i) (16 * s.cursorY.toNat + j) = 0

/-- The colour bits of a 32-bit pixel with the lit pixels of a picture over it. -/
theorem Depth.Overlays.colour_eq (h : Depth.bpp32.Overlays fb W m₀ m p) {x y : ℕ} (hx : x < W)
    (hy : y < fb.height.toNat) :
    Depth.bpp32.colour fb m x y = if p x y then 0xFFFFFF else Depth.bpp32.colour fb m₀ x y := by
  have hwhite : leWord (Depth.bpp32.encode rgbDefaultColor) 0 Depth.bpp32.colourBytes = 0xFFFFFF := by
    decide
  rw [(Depth.overlays_iff_painted.mp h).colour_eq hx hy, hwhite]

/-- **A printed character replaces what its cell showed exactly when the cell was
black around the new glyph.** -/
theorem replaces_iff (hfit : Depth.bpp32.Fits fb W) {c : Byte} (hc : IsPrintable c)
    {s : RgbState Mem} (hs : s.InText fb) (hscroll : scrollCalls fb c s = 0) :
    Replaces fb c s (rgbPutc32 fb c s) ↔ BlackAround fb c s := by
  obtain ⟨hx, hy⟩ := hs
  obtain ⟨-, hxw⟩ := cell_column hx
  obtain ⟨-, hyh⟩ := cell_row hy
  have hW := hfit.width_le
  have hover := drawchar_overlays hfit hx hy c s.screen
  have hscreen : (rgbPutc32 fb c s).screen
      = rgbDrawchar (Depth.bpp32.putpixel fb) (s.cursorX * rgbCharWidth)
          (s.cursorY * rgbCharHeight) c rgbDefaultColor s.screen :=
    rgbPutc_screen_of_printable hc hscroll
  rw [← hscreen] at hover
  -- a pixel of the cell after the call
  have hpixel : ∀ j < 16, ∀ i < 8,
      Depth.bpp32.colour fb (rgbPutc32 fb c s).screen (8 * s.cursorX.toNat + i)
          (16 * s.cursorY.toNat + j)
        = if fontBit c j i then 0xFFFFFF
          else Depth.bpp32.colour fb s.screen (8 * s.cursorX.toNat + i)
            (16 * s.cursorY.toNat + j) := by
    intro j hj i hi
    rw [hover.colour_eq (by omega) (by omega), Picture.glyph_inside hi hj]
  constructor
  · intro h j hj i hi hclear
    -- a clear bit leaves the pixel as it was, and the glyph makes it black
    have hglyph := h.glyph j hj i hi
    rw [hpixel j hj i hi, hclear] at hglyph
    exact hglyph
  · intro h
    constructor
    · intro j hj i hi
      rw [hpixel j hj i hi]
      rcases hbit : fontBit c j i with _ | _
      · exact h j hj i hi hbit
      · rfl
    · intro x hxs y hys hout k hk
      rw [hover x (by omega) y hys k hk, Picture.glyph_outside hout]
      rfl

/-! ## Output that only moves forward -/

/-- Where the framebuffer renders a page the cell under the cursor is black. -/
theorem Renders.black_ahead {s : RgbState Mem} {p : TextPage Byte} (h : Renders fb W s p)
    (hfit : Depth.bpp32.Fits fb W) : s.InText fb ∧ ∀ c, BlackAround fb c s := by
  obtain ⟨t, htext, hshow, hx, hy⟩ := h
  have hpx := htext.cursorX
  have hpy := htext.cursorY
  have htop := htext.top_eq
  have hxlt := htext.window.x_lt
  have hylt := htext.window.y_lt
  have hin : s.InText fb := ⟨by rw [BitVec.lt_def, hx]; omega, by rw [BitVec.lt_def, hy]; omega⟩
  refine ⟨hin, fun c j hj i hi _ => ?_⟩
  obtain ⟨-, hxw⟩ := cell_column hin.1
  obtain ⟨-, hyh⟩ := cell_row hin.2
  have hW := hfit.width_le
  have hblank : p.cell p.y p.x = chSpace := htext.ahead p.y p.x hxlt (Or.inr ⟨rfl, Nat.le_refl _⟩)
  rw [hshow.colour_eq (by omega) (by omega), htext.screen, TextPage.picture, htop, Nat.zero_add,
    hx, hy, hpx, hpy, show (16 * p.y + j) / 16 = p.y by omega,
    show (8 * p.x + i) / 8 = p.x by omega, hblank, fontBit_space (Nat.mod_lt _ (by omega)),
    Bool.and_false]
  rfl

/-- **Without a carriage return printing replaces**: from a clear, as long as the
cursor does not reach `max_rows`, every printed character shows its own glyph. -/
theorem putc32_replaces (fb : Framebuffer) (W : ℕ) (hwidth : 8 ≤ fb.width)
    (hheight : 16 ≤ fb.height) (hpitch : fb.pitch.toNat = 4 * W) (hW : fb.width.toNat ≤ W)
    (hsize : fb.size < 2 ^ 32) (s : RgbState Mem) (cs : List Byte) (hreturn : chReturn ∉ cs)
    (hrows : EveryStep (fun s c => rgbPutc32 fb c s) (fun _ _ s' => s'.cursorY ≠ fb.maxRows)
      (rgbClear32 fb s) cs) :
    EveryStep (fun s c => rgbPutc32 fb c s) (fun s c s' => IsPrintable c → Replaces fb c s s')
      (rgbClear32 fb s) cs := by
  have hfit := fits_bpp32 hsize hpitch.ge hW
  apply hrows.imp (fun s => ∃ p, Renders fb W s p)
  · exact ⟨_, renders_clear hwidth hheight hfit hpitch s⟩
  · rintro s ⟨p, h⟩ c hc hne
    refine ⟨fun hprint => ?_, _, h.putc hheight hfit (fun heq => hreturn (heq ▸ hc)) hne⟩
    obtain ⟨hin, hblack⟩ := h.black_ahead hfit
    -- the cursor stays above the bottom, so nothing scrolls
    have hstay : (rgbCursor fb c s.cursorX s.cursorY).2 < fb.maxRows := by
      apply rgbCursor_lt_of_ne hin.2
      rw [rgbPutc32, rgbPutc_cursorY] at hne
      exact hne
    exact (replaces_iff hfit hprint hin (scrollCalls_eq_zero fb c hstay)).mpr (hblack c)

/-! ## Runs -/

/-- `P` at the calls that print a character in the text area without scrolling. -/
def AtPrints (fb : Framebuffer) (P : Byte → RgbState Mem → RgbState Mem → Prop)
    (s : RgbState Mem) (op : ScreenOp) (s' : RgbState Mem) : Prop :=
  ∀ c, op = .putc c → IsPrintable c → s.InText fb → scrollCalls fb c s = 0 → P c s s'

/-- A carriage return in the text area moves the cursor and nothing else. -/
theorem rgbPutc_return {σ : Type*} {put : BitVec 32 → BitVec 32 → BitVec 32 → σ → σ}
    {scroll : σ → σ} {s : RgbState σ} (hy : s.cursorY < fb.maxRows) :
    rgbPutc fb put scroll chReturn s = { s with cursorX := 0 } := by
  rw [rgbPutc, if_neg (by decide), if_pos rfl, rgbSettle_of_lt fb scroll _ _ hy]

/-- After a carriage return to a cell that shows `c`, the cell is black around `c'`
exactly when the glyph of `c'` covers that of `c`. -/
theorem blackAround_return_iff {c c' : Byte} {s s' : RgbState Mem} (h : Replaces fb c s s')
    (hx : s.cursorX = 0) (hy : s'.cursorY = s.cursorY) (hrow : s'.cursorY < fb.maxRows) :
    BlackAround fb c' (rgbPutc32 fb chReturn s')
      ↔ ∀ j < 16, ∀ i < 8, fontBit c' j i = false → fontBit c j i = false := by
  have hpixel := h.glyph
  rw [hx, ← hy] at hpixel
  rw [rgbPutc32, rgbPutc_return hrow]
  refine forall₂_congr fun j hj => forall₂_congr fun i hi => imp_congr_right fun _ => ?_
  show Depth.bpp32.colour fb s'.screen (8 * (0 : BitVec 32).toNat + i) (16 * s'.cursorY.toNat + j) = 0
    ↔ _
  rw [hpixel j hj i hi]
  cases fontBit c j i <;> simp

/-- **The runs on which printing over a character replaces it** are those on which
every printed cell is black around the glyph it receives. -/
theorem overprint_replaces_iff (fb : Framebuffer) (hpitch : 4 * fb.width.toNat ≤ fb.pitch.toNat)
    (hsize : fb.size < 2 ^ 32) (s : RgbState Mem) (ops : List ScreenOp) :
    EveryStep (fun s op => Depth.bpp32.step fb op s) (AtPrints fb (Replaces fb)) s ops
      ↔ EveryStep (fun s op => Depth.bpp32.step fb op s)
          (AtPrints fb (fun c s _ => BlackAround fb c s)) s ops := by
  have hfit := fits_bpp32 hsize hpitch le_rfl
  refine everyStep_iff (fun _ => True) trivial (fun s _ op => ?_) (fun _ _ _ _ => trivial)
  constructor
  · rintro h c rfl hc hin hscroll
    exact (replaces_iff hfit hc hin hscroll).mp (h c rfl hc hin hscroll)
  · rintro h c rfl hc hin hscroll
    exact (replaces_iff hfit hc hin hscroll).mpr (h c rfl hc hin hscroll)

/-- A letter over itself, on a 640x480 screen. -/
theorem overprint_replaces_same_letter :
    EveryStep (fun s op => Depth.bpp32.step mode640x480 op s)
      (AtPrints mode640x480 (Replaces mode640x480)) blankScreen
      [.clear, .putc 65, .putc chReturn, .putc 65] := by
  refine (overprint_replaces_iff mode640x480 (by decide) (by decide) _ _).mpr ?_
  have hfit : Depth.bpp32.Fits mode640x480 640 := fits_bpp32 (by decide) (by decide) (by decide)
  have hclear := (renders_clear (by decide) (by decide) hfit (by decide) blankScreen).black_ahead hfit
  have hfirst := (replaces_iff hfit (by decide) hclear.1 (by decide +kernel)).mpr (hclear.2 65)
  refine ⟨fun c hop => (nomatch hop), ?_, ?_, ?_, trivial⟩
  · rintro c ⟨⟩ - - -
    exact hclear.2 65
  · rintro c ⟨⟩ hprint
    exact absurd hprint (by decide)
  · rintro c ⟨⟩ - - -
    exact (blackAround_return_iff hfirst rfl (by decide +kernel) (by decide +kernel)).mpr
      (fun j _ i _ h => h)

/-- A `B` printed over an `A` keeps the left leg of the `A`. -/
theorem overprint_keeps_old_pixels :
    ¬ ∀ fb : Framebuffer, 8 ≤ fb.width → 16 ≤ fb.height →
      4 * fb.width.toNat ≤ fb.pitch.toNat → fb.size < 2 ^ 32 →
      ∀ (s : RgbState Mem) (ops : List ScreenOp),
        EveryStep (fun s op => Depth.bpp32.step fb op s) (AtPrints fb (Replaces fb)) s ops := by
  intro hall
  have hrun := hall mode640x480 (by decide) (by decide) (by decide) (by decide) blankScreen
    [.clear, .putc 65, .putc chReturn, .putc 66]
  have hA := hrun.2.1 65 rfl (by decide) (by decide) (by decide +kernel)
  have hB := hrun.2.2.2.1 66 rfl (by decide) (by decide +kernel) (by decide +kernel)
  have hfit : Depth.bpp32.Fits mode640x480 640 := fits_bpp32 (by decide) (by decide) (by decide)
  -- bit 0 of scan line 5 is set in `A` and clear in `B`
  have hblack := (replaces_iff hfit (by decide) (by decide +kernel) (by decide +kernel)).mp hB
  have hcover := (blackAround_return_iff hA rfl (by decide +kernel) (by decide +kernel)).mp hblack
  exact absurd (hcover 5 (by decide) 0 (by decide) (by decide)) (by decide)

end GridX64
