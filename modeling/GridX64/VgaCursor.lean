/-
# The hardware cursor of the VGA console

The CRT controller behind ports `0x3D4` and `0x3D5` is an index register and the
data registers it selects.  Replaying the driver's port writes gives the contents
of the controller, and `InStep` says that registers `0x0E` and `0x0F` hold the
high and low byte of the cursor position.

* `updateCursor_inStep` — `update_cursor` puts the controller in step;
* `vgaPutc_inStep` — so every path of `vga_putc` that ends in it does;
* `vgaPutc_backspace_inStep_iff` — the backspace path returns before it, and leaves
  the controller behind exactly when it moves the cursor;
* `vga_cursor_inStep_iff` — the runs from a clear that stay in step.
-/
import GridX64.Rgb
import GridX64.Vga
import GridX64.Runs

namespace GridX64

/-! ## The controller -/

/-- The CRT controller: the index register and the registers it selects. -/
structure Crtc where
  index : Byte
  reg : Byte → Byte

/-- A byte written to a port: `0x3D4` selects a register, `0x3D5` sets it. -/
def Crtc.write (w : BitVec 16 × Byte) (c : Crtc) : Crtc :=
  if w.1 = 0x3D4 then { c with index := w.2 }
  else if w.1 = 0x3D5 then { c with reg := Function.update c.reg c.index w.2 }
  else c

/-- The controller after the driver's port writes, from its contents `c` before. -/
def VgaState.crtc (c : Crtc) (s : VgaState) : Crtc := s.ports.foldr Crtc.write c

/-- `cursor_y * VGA_MAX_COLS + cursor_x`. -/
def VgaState.cursorPos (s : VgaState) : ℤ := s.cursorY * vgaMaxCols + s.cursorX

/-- Registers `0x0E` and `0x0F` hold the high and low byte of the cursor position. -/
def InStep (c : Crtc) (s : VgaState) : Prop :=
  (s.crtc c).reg 0x0E = BitVec.ofInt 8 (s.cursorPos / 256) ∧
    (s.crtc c).reg 0x0F = BitVec.ofInt 8 s.cursorPos

/-- One call of the driver. -/
def vgaStep (s : VgaState) : ScreenOp → VgaState
  | .clear => vgaClear s
  | .scroll => vgaScroll s
  | .putc c => vgaPutc c s

/-- The cursor variables point to a cell of the screen. -/
structure OnScreen (s : VgaState) : Prop where
  x_nonneg : 0 ≤ s.cursorX
  x_lt : s.cursorX < 80
  y_nonneg : 0 ≤ s.cursorY
  y_lt : s.cursorY < 25

/-! ## One call -/

/-- **`update_cursor` puts the controller in step**, whatever it held before. -/
theorem updateCursor_inStep (c : Crtc) (s : VgaState) : InStep c (updateCursor s) := by
  constructor
  · rfl
  · rfl

theorem OnScreen.updateCursor {s : VgaState} (h : OnScreen s) : OnScreen (updateCursor s) :=
  { h with }

/-- A clear ends in `update_cursor` with the cursor at the top left. -/
theorem vgaClear_inStep (c : Crtc) (s : VgaState) :
    InStep c (vgaClear s) ∧ OnScreen (vgaClear s) := by
  rw [vgaClear]
  constructor
  · apply updateCursor_inStep
  · apply OnScreen.updateCursor
    constructor <;> simp

/-- A scroll ends in `update_cursor` with the cursor at the bottom left. -/
theorem vgaScroll_inStep (c : Crtc) (s : VgaState) :
    InStep c (vgaScroll s) ∧ OnScreen (vgaScroll s) := by
  rw [vgaScroll]
  constructor
  · apply updateCursor_inStep
  · apply OnScreen.updateCursor
    constructor <;> simp

/-- The end of `vga_putc`, reached with the cursor at most one row too low. -/
theorem vgaSettle_inStep (c : Crtc) (s : VgaState) (hx : 0 ≤ s.cursorX ∧ s.cursorX < 80)
    (hy : 0 ≤ s.cursorY) : InStep c (vgaSettle s) ∧ OnScreen (vgaSettle s) := by
  rw [vgaSettle]
  by_cases hlow : s.cursorY ≥ vgaMaxRows
  · rw [if_pos hlow]
    apply vgaScroll_inStep
  · rw [if_neg hlow]
    have hyr : s.cursorY < 25 := not_le.mp hlow
    constructor
    · apply updateCursor_inStep
    · apply OnScreen.updateCursor
      exact ⟨hx.1, hx.2, hy, hyr⟩

/-- **A character other than `'\b'` ends in step.** -/
theorem vgaPutc_inStep (c : Crtc) {s : VgaState} (h : OnScreen s) {ch : Byte}
    (hch : ch ≠ chBackspace) : InStep c (vgaPutc ch s) ∧ OnScreen (vgaPutc ch s) := by
  obtain ⟨hx0, hx, hy0, hy⟩ := h
  rw [vgaPutc]
  by_cases hn : ch = chNewline
  · rw [if_pos hn]
    apply vgaSettle_inStep
    · simp
    · simp only
      omega
  rw [if_neg hn]
  by_cases hr : ch = chReturn
  · rw [if_pos hr]
    apply vgaSettle_inStep
    · simp
    · exact hy0
  rw [if_neg hr, if_neg hch]
  by_cases hp : IsPrintable ch
  · rw [if_pos hp]
    -- the store leaves the cursor where it was
    have hx' : (vgaStoreAtCursor ch s).cursorX = s.cursorX := rfl
    have hy' : (vgaStoreAtCursor ch s).cursorY = s.cursorY := rfl
    by_cases hlast : (vgaStoreAtCursor ch s).cursorX + 1 ≥ vgaMaxCols
    · rw [if_pos hlast]
      apply vgaSettle_inStep
      · simp
      · simp only
        omega
    · rw [if_neg hlast]
      have hlt : (vgaStoreAtCursor ch s).cursorX + 1 < 80 := not_le.mp hlast
      apply vgaSettle_inStep
      · simp only
        omega
      · exact hy0
  · rw [if_neg hp]
    apply vgaSettle_inStep
    · exact ⟨hx0, hx⟩
    · exact hy0

/-- Two positions one apart differ in their low byte. -/
theorem ofInt_pred_ne (k : ℤ) : BitVec.ofInt 8 k ≠ BitVec.ofInt 8 (k - 1) := by
  intro h
  have hmod := congrArg BitVec.toNat h
  rw [BitVec.toNat_ofInt, BitVec.toNat_ofInt] at hmod
  norm_num at hmod
  omega

/-- **A backspace from a state in step stays in step exactly at the top left.**
Elsewhere the cursor moves back by one position and no port is written. -/
theorem vgaPutc_backspace_inStep_iff (c : Crtc) {s : VgaState} (hs : InStep c s)
    (h : OnScreen s) :
    InStep c (vgaPutc chBackspace s) ↔ s.cursorX = 0 ∧ s.cursorY = 0 := by
  obtain ⟨hx0, hx, hy0, hy⟩ := h
  -- the registers still hold the old position
  have behind : ∀ t : VgaState, t.ports = s.ports → t.cursorPos = s.cursorPos - 1 →
      ¬ InStep c t := by
    intro t hports hpos ht
    have hlow := ht.2
    rw [VgaState.crtc, hports, ← VgaState.crtc, hs.2, hpos] at hlow
    exact ofInt_pred_ne _ hlow
  rw [vgaPutc, if_neg (by decide), if_neg (by decide), if_pos rfl]
  by_cases hcol : s.cursorX > 0
  · rw [if_pos hcol]
    constructor
    · intro ht
      refine absurd ht (behind _ rfl ?_)
      simp only [VgaState.cursorPos, vgaStoreAtCursor, VgaState.store]
      omega
    · rintro ⟨hzero, -⟩
      omega
  rw [if_neg hcol]
  by_cases hrow : s.cursorY > 0
  · rw [if_pos hrow]
    constructor
    · intro ht
      refine absurd ht (behind _ rfl ?_)
      simp only [VgaState.cursorPos, vgaStoreAtCursor, VgaState.store, vgaMaxCols]
      omega
    · rintro ⟨-, hzero⟩
      omega
  · rw [if_neg hrow]
    exact ⟨fun _ => ⟨by omega, by omega⟩, fun _ => hs⟩

/-! ## Runs from a clear -/

/-- **The hardware cursor follows exactly the runs without an effective backspace.**
After a clear every call leaves the controller in step if and only if every
backspace is given with the cursor at the top left, where it does nothing. -/
theorem vga_cursor_inStep_iff (c : Crtc) (s : VgaState) (ops : List ScreenOp) :
    (InStep c (vgaClear s) ∧ EveryStep vgaStep (fun _ _ t => InStep c t) (vgaClear s) ops)
      ↔ EveryStep vgaStep
          (fun s op _ => op = .putc chBackspace → s.cursorX = 0 ∧ s.cursorY = 0)
          (vgaClear s) ops := by
  rw [and_iff_right (vgaClear_inStep c s).1]
  apply everyStep_iff (fun s => InStep c s ∧ OnScreen s) (vgaClear_inStep c s)
  · rintro s ⟨hs, hon⟩ op
    rcases op with _ | _ | ch
    · simp [vgaStep, vgaClear_inStep]
    · simp [vgaStep, vgaScroll_inStep]
    · by_cases hch : ch = chBackspace
      · rw [hch, vgaStep, vgaPutc_backspace_inStep_iff c hs hon]
        simp
      · constructor
        · intro _ hop
          exact absurd (ScreenOp.putc.inj hop) hch
        · intro _
          exact (vgaPutc_inStep c hon hch).1
  · rintro s ⟨hs, hon⟩ op hop
    rcases op with _ | _ | ch
    · exact vgaClear_inStep c s
    · exact vgaScroll_inStep c s
    · by_cases hch : ch = chBackspace
      · -- at the top left nothing happens
        obtain ⟨hx, hy⟩ := hop (by rw [hch])
        have hstay : vgaPutc chBackspace s = s := by
          rw [vgaPutc, if_neg (by decide), if_neg (by decide), if_pos rfl, if_neg (by omega),
            if_neg (by omega)]
        rw [vgaStep, hch, hstay]
        exact ⟨hs, hon⟩
      · exact vgaPutc_inStep c hon hch

/-- After `'A'` and `'\b'` the cursor is back at the top left and the controller
still holds position 1. -/
theorem vga_cursor_behind_after_backspace :
    ¬ ∀ (c : Crtc) (s : VgaState) (ops : List ScreenOp), InStep c (vgaClear s) ∧
      EveryStep vgaStep (fun _ _ t => InStep c t) (vgaClear s) ops := by
  intro hall
  let crtc : Crtc := ⟨0, fun _ => 0⟩
  let s : VgaState := ⟨fun _ => 0, 0x07, 0, 0, [], []⟩
  obtain ⟨-, hA, hback, -⟩ := hall crtc s [.putc 0x41, .putc chBackspace]
  have hon : OnScreen (vgaStep (vgaClear s) (.putc 0x41)) :=
    (vgaPutc_inStep crtc (vgaClear_inStep crtc s).2 (by decide)).2
  have hcol : (vgaStep (vgaClear s) (.putc 0x41)).cursorX = 1 := rfl
  have hzero := ((vgaPutc_backspace_inStep_iff crtc hA hon).mp hback).1
  rw [hcol] at hzero
  exact one_ne_zero hzero

end GridX64
