/-
# The three colour depths side by side

The 16-, 24- and 32-bit drivers run on the same operations, each on a framebuffer
of its own with the same visible size.  As long as they agree on the cursor they
show the same picture (`AllShow`), and every operation keeps that, except one:
`rgb_clear16` and `rgb_clear24` leave the cursor alone where `rgb_clear32` moves
it home.  So the depths are one terminal exactly on the runs that clear only with
the cursor already home (`depths_agree_iff`).
-/
import GridX64.RgbPicture

namespace GridX64

/-! ## The operations -/

/-- One operation on the driver of a depth. -/
def Depth.step (d : Depth) (fb : Framebuffer) (op : ScreenOp) (s : RgbState Mem) : RgbState Mem :=
  match op with
  | .clear => d.clear fb s
  | .scroll => { s with screen := rgbScroll fb s.screen }
  | .putc c => d.putc fb c s

/-- The same operation on all three drivers. -/
def stepAll (fb : Depth → Framebuffer) (s : Depth → RgbState Mem) (op : ScreenOp) :
    Depth → RgbState Mem :=
  fun d => d.step (fb d) op (s d)

/-- The three cursors are equal, and a pixel on the screen is black in one depth
exactly when it is in the others. -/
def Agree (fb : Depth → Framebuffer) (w h : BitVec 32) (s : Depth → RgbState Mem) : Prop :=
  (∀ d d', (s d).cursorX = (s d').cursorX ∧ (s d).cursorY = (s d').cursorY) ∧
    ∀ x < w.toNat, ∀ y < h.toNat, ∀ d d' : Depth,
      (d.colour (fb d) (s d).screen x y ≠ 0 ↔ d'.colour (fb d') (s d').screen x y ≠ 0)

/-- Every pixel on the screen is black in every depth. -/
def AllBlack (fb : Depth → Framebuffer) (w h : BitVec 32) (s : Depth → RgbState Mem) : Prop :=
  ∀ x < w.toNat, ∀ y < h.toNat, ∀ d : Depth, d.colour (fb d) (s d).screen x y = 0

/-- The cursor is at the top left corner in every depth. -/
def AllHome (s : Depth → RgbState Mem) : Prop :=
  ∀ d, (s d).cursorX = 0 ∧ (s d).cursorY = 0

/-! ## One step of the three drivers -/

/-- The geometry that the three framebuffers share, and what each needs of its own:
`w` by `h` pixels, at least one text row, whole pixels in a scan line, and offsets
below `2^32`. -/
structure SameScreen (fb : Depth → Framebuffer) (w h : BitVec 32) : Prop where
  width : ∀ d, (fb d).width = w
  height : ∀ d, (fb d).height = h
  row : 16 ≤ h
  line : ∀ d, w.toNat * d.bytes ≤ (fb d).pitch.toNat
  align : ∀ d, d.alignment ∣ (fb d).pitch.toNat
  size : ∀ d, (fb d).size < 2 ^ 32

/-- The invariant: one picture on all three screens, and one cursor. -/
def AllShow (fb : Depth → Framebuffer) (w : BitVec 32) (s : Depth → RgbState Mem) : Prop :=
  ∃ t : RgbState Picture, ∀ d, d.Shows (fb d) w.toNat (s d).screen t.screen ∧
    (s d).cursorX = t.cursorX ∧ (s d).cursorY = t.cursorY

variable {fb : Depth → Framebuffer} {w h : BitVec 32} {s : Depth → RgbState Mem}

theorem SameScreen.fits (hfb : SameScreen fb w h) (d : Depth) : d.Fits (fb d) w.toNat :=
  { size_lt := hfb.size d
    line := hfb.line d
    width_le := by rw [hfb.width d] }

theorem SameScreen.row_le (hfb : SameScreen fb w h) (d : Depth) : 16 ≤ (fb d).height := by
  rw [hfb.height d]
  exact hfb.row

/-- One picture and one cursor make the drivers agree. -/
theorem AllShow.agree (hfb : SameScreen fb w h) (hs : AllShow fb w s) : Agree fb w h s := by
  obtain ⟨t, ht⟩ := hs
  refine ⟨fun d d' => ?_, fun x hx y hy d d' => ?_⟩
  · obtain ⟨-, hx, hy⟩ := ht d
    obtain ⟨-, hx', hy'⟩ := ht d'
    exact ⟨hx.trans hx'.symm, hy.trans hy'.symm⟩
  · have hlit : ∀ d : Depth, d.colour (fb d) (s d).screen x y ≠ 0 ↔ t.screen x y = true := fun d =>
      (ht d).1.colour_ne_zero_iff hx (by rw [hfb.height d]; exact hy)
    rw [hlit d, hlit d']

/-- **One step keeps the picture and the cursor common**, if a clear only comes
with the cursor at home. -/
theorem AllShow.step (hfb : SameScreen fb w h) (hs : AllShow fb w s) {op : ScreenOp}
    (hop : op = .clear → AllHome s) : AllShow fb w (stepAll fb s op) := by
  obtain ⟨t, ht⟩ := hs
  cases op with
  | clear =>
      refine ⟨{ screen := Picture.blank, cursorX := 0, cursorY := 0 }, fun d => ?_⟩
      refine ⟨shows_clear (hfb.fits d) (hfb.align d) (s d), ?_⟩
      -- only the 32-bit clear moves the cursor, and it is home already
      have hhome := hop rfl d
      cases d with
      | bpp16 => exact hhome
      | bpp24 => exact hhome
      | bpp32 => exact ⟨rfl, rfl⟩
  | scroll =>
      refine ⟨{ t with screen := Picture.scroll h t.screen }, fun d => ?_⟩
      obtain ⟨hshow, hx, hy⟩ := ht d
      refine ⟨?_, hx, hy⟩
      rw [← hfb.height d]
      exact shows_scroll (hfb.fits d) (hfb.row_le d) hshow
  | putc c =>
      refine ⟨picturePutc (fb .bpp32) c t, fun d => ?_⟩
      obtain ⟨hshow, hx, hy⟩ := ht d
      have hw : (fb d).width = (fb .bpp32).width := by rw [hfb.width, hfb.width]
      have hh : (fb d).height = (fb .bpp32).height := by rw [hfb.height, hfb.height]
      refine ⟨shows_putc (hfb.fits d) (hfb.row_le d) hw hh c hshow hx hy, ?_⟩
      change (d.putc (fb d) c (s d)).cursorX = _ ∧ (d.putc (fb d) c (s d)).cursorY = _
      rw [d.putc_eq]
      exact rgbPutc_cursor_eq hw c hx hy

/-- A clear blackens all three screens. -/
theorem allBlack_clear (hfb : SameScreen fb w h) (s : Depth → RgbState Mem) :
    AllBlack fb w h (stepAll fb s .clear) := by
  intro x hx y hy d
  have hshow := shows_clear (hfb.fits d) (hfb.align d) (s d)
  by_contra hne
  have hlit := (hshow.colour_ne_zero_iff hx (by rw [hfb.height d]; exact hy)).mp hne
  exact absurd hlit Bool.false_ne_true

/-! ## Runs -/

/-- The 640x480 mode of a depth, with no padding at the end of a scan line. -/
def modeOf (d : Depth) : Framebuffer :=
  { mode640x480 with pitch := 640 * BitVec.ofNat 32 d.bytes }

theorem sameScreen_modeOf : SameScreen modeOf 640 480 where
  width := fun _ => rfl
  height := fun _ => rfl
  row := by decide
  line := fun d => by cases d <;> decide
  align := fun d => by cases d <;> decide
  size := fun d => by cases d <;> decide

/-- A machine at boot: black memory and the cursor at home. -/
def blankScreen : RgbState Mem :=
  { screen := { byte := fun _ => 0, touched := [] }, cursorX := 0, cursorY := 0 }

theorem allBlack_blankScreen : AllBlack modeOf 640 480 (fun _ => blankScreen) :=
  fun x _ y _ d => (d.colour_eq_zero_iff (modeOf d) blankScreen.screen x y).mpr (fun _ _ => rfl)

/-- **The colour depths are the same terminal exactly on the runs that clear with
the cursor at home.** -/
theorem depths_agree_iff (hfb : SameScreen fb w h) (hblack : AllBlack fb w h s)
    (hcursor : ∀ d d', (s d).cursorX = (s d').cursorX ∧ (s d).cursorY = (s d').cursorY)
    (ops : List ScreenOp) :
    EveryStep (stepAll fb) (fun _ op s' => Agree fb w h s' ∧ (op = .clear → AllBlack fb w h s'))
        s ops
      ↔ EveryStep (stepAll fb) (fun s op _ => op = .clear → AllHome s) s ops := by
  refine everyStep_iff (AllShow fb w) ?_ ?_ ?_
  · refine ⟨⟨Picture.blank, (s .bpp32).cursorX, (s .bpp32).cursorY⟩,
      fun d => ⟨?_, hcursor d .bpp32⟩⟩
    exact Depth.shows_blank_of_black (fun x hx y hy => hblack x hx y (by rwa [hfb.height d] at hy) d)
  · intro s hs op
    constructor
    · rintro ⟨⟨hcur, -⟩, -⟩ rfl
      obtain ⟨t, ht⟩ := hs
      -- the 32-bit cursor is home after the clear, the others did not move
      obtain ⟨hx, hy⟩ := hcur .bpp16 .bpp32
      change (s .bpp16).cursorX = 0 at hx
      change (s .bpp16).cursorY = 0 at hy
      intro d
      rw [(ht d).2.1, (ht d).2.2, ← (ht .bpp16).2.1, ← (ht .bpp16).2.2]
      exact ⟨hx, hy⟩
    · intro hop
      refine ⟨(hs.step hfb hop).agree hfb, ?_⟩
      rintro rfl
      exact allBlack_clear hfb s
  · intro s hs op hop
    exact hs.step hfb hop

/-- From a clear screen, printing a line, scrolling and printing again keeps the
three 640x480 drivers together. -/
theorem depths_agree_640x480 :
    EveryStep (stepAll modeOf)
      (fun _ op s' => Agree modeOf 640 480 s' ∧ (op = .clear → AllBlack modeOf 640 480 s'))
      (fun _ => blankScreen) [.clear, .putc 65, .putc chNewline, .scroll, .putc 66] := by
  refine (depths_agree_iff sameScreen_modeOf allBlack_blankScreen
    (fun _ _ => ⟨rfl, rfl⟩) _).mpr ?_
  refine ⟨fun _ _ => ⟨rfl, rfl⟩, ?_, ?_, ?_, ?_, trivial⟩ <;> exact fun h => nomatch h

/-- A clear after a newline parts the 16-bit cursor, still on row 1, from the
32-bit one, back at the top. -/
theorem clear_parts_depths :
    ¬ ∀ (fb : Depth → Framebuffer) (w h : BitVec 32) (s : Depth → RgbState Mem),
      SameScreen fb w h → AllBlack fb w h s →
      (∀ d d', (s d).cursorX = (s d').cursorX ∧ (s d).cursorY = (s d').cursorY) →
      ∀ ops, EveryStep (stepAll fb)
        (fun _ op s' => Agree fb w h s' ∧ (op = .clear → AllBlack fb w h s')) s ops := by
  intro hall
  have hrun := hall modeOf 640 480 (fun _ => blankScreen) sameScreen_modeOf allBlack_blankScreen
    (fun _ _ => ⟨rfl, rfl⟩) [.putc chNewline, .clear]
  have hrow := (hrun.2.1.1.1 .bpp16 .bpp32).2
  revert hrow
  decide +kernel

end GridX64
