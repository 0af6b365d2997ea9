/-
# A text terminal as a window on an unbounded page

The page has rows without end and `cols` columns; the terminal shows the `rows`
rows from `top` on and has a cursor.  Keys print, move the cursor or erase, and
the window follows the cursor down one row at a time.

This is what a text console is for, with no memory, pixels or colours in it.
`InWindow` keeps the cursor on the visible part, `BlankBelow` says that no row
below the window has been written, and `BlankAhead` that nothing at or after the
cursor, in reading order, has been; every key keeps the first two, and every key
but a carriage return the third.
-/
import Mathlib.Tactic.Common

namespace GridX64

/-- The keys of a terminal whose characters are of type `α`. -/
inductive Key (α : Type*)
  | print (a : α)
  | newline
  | carriageReturn
  | backspace
  | ignored
  deriving DecidableEq, Repr

/-- A page of characters, the first visible row and the cursor. -/
structure TextPage (α : Type*) where
  cell : ℕ → ℕ → α
  top : ℕ
  x : ℕ
  y : ℕ

namespace TextPage

variable {α : Type*}

/-! ## The terminal -/

/-- The page of blanks `b`, with the cursor at the top left. -/
def blank (b : α) : TextPage α := { cell := fun _ _ => b, top := 0, x := 0, y := 0 }

/-- Write `a` in the cell under the cursor. -/
def write (a : α) (p : TextPage α) : TextPage α :=
  { p with cell := fun i j => if i = p.y ∧ j = p.x then a else p.cell i j }

/-- Move the cursor right, to the start of the next row after the last column. -/
def advance (cols : ℕ) (p : TextPage α) : TextPage α :=
  if p.x + 1 < cols then { p with x := p.x + 1 } else { p with x := 0, y := p.y + 1 }

/-- Step back one cell and blank it; at the top left of the window do nothing. -/
def erase (cols : ℕ) (b : α) (p : TextPage α) : TextPage α :=
  if 0 < p.x then write b { p with x := p.x - 1 }
  else if p.top < p.y then write b { p with x := cols - 1, y := p.y - 1 }
  else p

/-- Follow a cursor that has left the window at the bottom. -/
def follow (rows : ℕ) (p : TextPage α) : TextPage α :=
  if p.y = p.top + rows then { p with top := p.top + 1 } else p

/-- One key on a window of `cols` by `rows` cells with blanks `b`. -/
def press (cols rows : ℕ) (b : α) (k : Key α) (p : TextPage α) : TextPage α :=
  follow rows <|
    match k with
    | .print a => advance cols (write a p)
    | .newline => { p with x := 0, y := p.y + 1 }
    | .carriageReturn => { p with x := 0 }
    | .backspace => erase cols b p
    | .ignored => p

/-! ## Invariants -/

/-- The cursor is on a visible cell. -/
structure InWindow (cols rows : ℕ) (p : TextPage α) : Prop where
  x_lt : p.x < cols
  top_le : p.top ≤ p.y
  y_lt : p.y < p.top + rows

/-- No row below the window has been written. -/
def BlankBelow (rows : ℕ) (b : α) (p : TextPage α) : Prop :=
  ∀ i j, p.top + rows ≤ i → p.cell i j = b

/-- No cell at or after the cursor, in reading order, has been written. -/
def BlankAhead (cols : ℕ) (b : α) (p : TextPage α) : Prop :=
  ∀ i j, j < cols → (p.y < i ∨ (p.y = i ∧ p.x ≤ j)) → p.cell i j = b

variable {cols rows : ℕ} {b : α} {p : TextPage α}

theorem inWindow_blank (b : α) (hcols : 0 < cols) (hrows : 0 < rows) :
    (blank b).InWindow cols rows :=
  { x_lt := hcols
    top_le := Nat.le_refl 0
    y_lt := by simpa [blank] using hrows }

theorem blankBelow_blank (rows : ℕ) (b : α) : (blank b).BlankBelow rows b :=
  fun _ _ _ => rfl

theorem blankAhead_blank (cols : ℕ) (b : α) : (blank b).BlankAhead cols b :=
  fun _ _ _ _ => rfl

/-- Following a cursor at most one row below the window brings it back in. -/
theorem inWindow_follow (hx : p.x < cols) (htop : p.top ≤ p.y) (hy : p.y ≤ p.top + rows)
    (hrows : 0 < rows) : (follow rows p).InWindow cols rows := by
  rw [follow]
  split_ifs with h
  · exact ⟨hx, by simp only; omega, by simp only; omega⟩
  · exact ⟨hx, htop, by omega⟩

/-- **Every key keeps the cursor in the window.** -/
theorem InWindow.press (h : p.InWindow cols rows) (b : α) (k : Key α) :
    (p.press cols rows b k).InWindow cols rows := by
  obtain ⟨hx, htop, hy⟩ := h
  have hrows : 0 < rows := by omega
  cases k with
  | print a =>
      show (follow rows (advance cols (write a p))).InWindow cols rows
      rw [advance]
      split_ifs with hlast
      · exact inWindow_follow hlast htop (Nat.le_of_lt hy) hrows
      · exact inWindow_follow (Nat.zero_lt_of_lt hx) (Nat.le_succ_of_le htop) hy hrows
  | newline => exact inWindow_follow (Nat.zero_lt_of_lt hx) (Nat.le_succ_of_le htop) hy hrows
  | carriageReturn => exact inWindow_follow (Nat.zero_lt_of_lt hx) htop (Nat.le_of_lt hy) hrows
  | backspace =>
      show (follow rows (erase cols b p)).InWindow cols rows
      rw [erase]
      split_ifs with hx0 hup
      · exact inWindow_follow (Nat.lt_of_le_of_lt (Nat.sub_le _ _) hx) htop (Nat.le_of_lt hy) hrows
      · refine inWindow_follow (Nat.sub_lt (Nat.zero_lt_of_lt hx) Nat.one_pos) ?_ ?_ hrows
        · exact Nat.le_sub_one_of_lt hup
        · exact Nat.le_trans (Nat.sub_le _ _) (Nat.le_of_lt hy)
      · exact inWindow_follow hx htop (Nat.le_of_lt hy) hrows
  | ignored => exact inWindow_follow hx htop (Nat.le_of_lt hy) hrows

@[simp] theorem follow_cell (rows : ℕ) (p : TextPage α) : (follow rows p).cell = p.cell := by
  rw [follow]
  split_ifs <;> rfl

@[simp] theorem follow_x (rows : ℕ) (p : TextPage α) : (follow rows p).x = p.x := by
  rw [follow]
  split_ifs <;> rfl

@[simp] theorem follow_y (rows : ℕ) (p : TextPage α) : (follow rows p).y = p.y := by
  rw [follow]
  split_ifs <;> rfl

@[simp] theorem advance_cell (cols : ℕ) (p : TextPage α) : (advance cols p).cell = p.cell := by
  rw [advance]
  split_ifs <;> rfl

@[simp] theorem advance_top (cols : ℕ) (p : TextPage α) : (advance cols p).top = p.top := by
  rw [advance]
  split_ifs <;> rfl

theorem follow_of_lt (h : p.y < p.top + rows) : follow rows p = p := by
  rw [follow, if_neg (by omega)]

/-- The window never moves up. -/
theorem le_follow_top (rows : ℕ) (p : TextPage α) : p.top ≤ (follow rows p).top := by
  rw [follow]
  split_ifs
  · exact Nat.le_succ p.top
  · exact Nat.le_refl p.top

@[simp] theorem erase_top (cols : ℕ) (b : α) (p : TextPage α) : (erase cols b p).top = p.top := by
  rw [erase]
  split_ifs <;> rfl

/-- No key moves the window up. -/
theorem le_press_top (cols rows : ℕ) (b : α) (k : Key α) (p : TextPage α) :
    p.top ≤ (p.press cols rows b k).top := by
  cases k with
  | print a =>
      have h := le_follow_top rows (advance cols (write a p))
      rwa [advance_top] at h
  | newline => exact le_follow_top rows { p with x := 0, y := p.y + 1 }
  | carriageReturn => exact le_follow_top rows { p with x := 0 }
  | backspace =>
      have h := le_follow_top rows (erase cols b p)
      rwa [erase_top] at h
  | ignored => exact le_follow_top rows p

/-- Following the cursor hides rows, so what is below stays blank. -/
theorem BlankBelow.follow (h : p.BlankBelow rows b) : (follow rows p).BlankBelow rows b := by
  intro i j hi
  have htop := le_follow_top rows p
  rw [follow_cell]
  exact h i j (by omega)

/-- A write inside the window leaves the rows below it blank. -/
theorem BlankBelow.write (h : p.BlankBelow rows b) (hy : p.y < p.top + rows) (a : α) :
    (write a p).BlankBelow rows b := by
  intro i j hi
  have hi' : p.top + rows ≤ i := hi
  show (if i = p.y ∧ j = p.x then a else p.cell i j) = b
  rw [if_neg (by omega)]
  exact h i j hi'

/-- **Every key leaves the rows below the window blank.** -/
theorem BlankBelow.press (h : p.BlankBelow rows b) (hwin : p.InWindow cols rows) (k : Key α) :
    (p.press cols rows b k).BlankBelow rows b := by
  refine BlankBelow.follow ?_
  cases k with
  | print a =>
      have hw := h.write hwin.y_lt a
      intro i j hi
      rw [advance_cell]
      exact hw i j (by rwa [advance_top] at hi)
  | newline => exact h
  | carriageReturn => exact h
  | backspace =>
      show (erase cols b p).BlankBelow rows b
      rw [erase]
      split_ifs with hx hup
      · exact BlankBelow.write (p := { p with x := p.x - 1 }) h hwin.y_lt b
      · exact BlankBelow.write (p := { p with x := cols - 1, y := p.y - 1 }) h
          (Nat.lt_of_le_of_lt (Nat.sub_le _ _) hwin.y_lt) b
      · exact h
  | ignored => exact h

/-- What is ahead of the cursor does not depend on the window. -/
theorem BlankAhead.follow (h : p.BlankAhead cols b) (rows : ℕ) :
    (follow rows p).BlankAhead cols b := by
  intro i j hj hahead
  rw [follow_x, follow_y] at hahead
  rw [follow_cell]
  exact h i j hj hahead

/-- Printing leaves the written cell behind the cursor. -/
theorem BlankAhead.advance_write (h : p.BlankAhead cols b) (a : α) :
    (advance cols (write a p)).BlankAhead cols b := by
  intro i j hj hahead
  rw [advance_cell]
  show (if i = p.y ∧ j = p.x then a else p.cell i j) = b
  rw [advance] at hahead
  split_ifs at hahead with hlast
  · have hcur : p.y < i ∨ (p.y = i ∧ p.x + 1 ≤ j) := hahead
    rw [if_neg (by omega)]
    exact h i j hj (by omega)
  · have hcur : p.y + 1 < i ∨ (p.y + 1 = i ∧ 0 ≤ j) := hahead
    rw [if_neg (by omega)]
    exact h i j hj (by omega)

/-- A backspace blanks the one cell that it puts ahead of the cursor again. -/
theorem BlankAhead.erase (h : p.BlankAhead cols b) : (erase cols b p).BlankAhead cols b := by
  intro i j hj hahead
  rw [TextPage.erase] at hahead ⊢
  split_ifs at hahead ⊢ with hx0 hup
  · have hcur : p.y < i ∨ (p.y = i ∧ p.x - 1 ≤ j) := hahead
    show (if i = p.y ∧ j = p.x - 1 then b else p.cell i j) = b
    split_ifs with hcell
    · rfl
    · exact h i j hj (by omega)
  · have hcur : p.y - 1 < i ∨ (p.y - 1 = i ∧ cols - 1 ≤ j) := hahead
    show (if i = p.y - 1 ∧ j = cols - 1 then b else p.cell i j) = b
    split_ifs with hcell
    · rfl
    · exact h i j hj (by omega)
  · exact h i j hj hahead

/-- **Every key but a carriage return leaves everything ahead of the cursor blank.** -/
theorem BlankAhead.press (h : p.BlankAhead cols b) {k : Key α} (hk : k ≠ .carriageReturn) :
    (p.press cols rows b k).BlankAhead cols b := by
  refine BlankAhead.follow ?_ rows
  cases k with
  | print a => exact h.advance_write a
  | newline =>
      intro i j hj hahead
      have hcur : p.y + 1 < i ∨ (p.y + 1 = i ∧ 0 ≤ j) := hahead
      exact h i j hj (by omega)
  | carriageReturn => exact absurd rfl hk
  | backspace => exact h.erase
  | ignored => exact h

end TextPage

end GridX64
