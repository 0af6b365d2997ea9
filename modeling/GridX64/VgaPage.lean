/-
# The VGA console is a window on an unbounded page

The reference is `TextPage` at 80 columns and 25 rows.  `VgaShows` relates a driver
state to a page: the cell memory holds the visible rows, the cursor variables are
the page's cursor relative to the window, and what is below the window is blank,
which is what the row that `vga_scroll` blanks stands for.

* `vgaScroll_shows` — the overlapping row copy shifts the window by one row;
* `VgaShows.putc` — one character keeps the relation;
* `vga_shows_page` — so does every run from a clear.
-/
import GridX64.Vga
import GridX64.Runs

namespace GridX64

/-! ## The loops -/

@[simp] theorem VgaState.store_memory (s : VgaState) (i : ℤ) (v : BitVec 16) (k : ℤ) :
    (s.store i v).memory k = if k = i then v else s.memory k := by
  rw [VgaState.store]
  exact Function.update_apply s.memory i v k

/-- A run of stores: only the cell memory and the list of stored indices may have
changed, and every new index is a cell of the screen. -/
structure StoresOnly (s t : VgaState) : Prop where
  colorAttr : t.colorAttr = s.colorAttr
  cursorX : t.cursorX = s.cursorX
  cursorY : t.cursorY = s.cursorY
  stores : ∀ k ∈ t.stores, k ∈ s.stores ∨ (0 ≤ k ∧ k < 2000)

theorem StoresOnly.refl (s : VgaState) : StoresOnly s s :=
  ⟨rfl, rfl, rfl, fun _ hk => Or.inl hk⟩

theorem StoresOnly.store {s t : VgaState} (h : StoresOnly s t) {i : ℤ} (hi : 0 ≤ i ∧ i < 2000)
    (v : BitVec 16) : StoresOnly s (t.store i v) := by
  refine ⟨h.colorAttr, h.cursorX, h.cursorY, fun k hk => ?_⟩
  rcases List.mem_cons.mp hk with rfl | hk
  · exact Or.inr hi
  · exact h.stores k hk

/-- Storing one value in the `n` cells from `base` on. -/
theorem fill_cells (s : VgaState) (base n : ℕ) (v : VgaState → BitVec 16)
    (hv : ∀ t, t.colorAttr = s.colorAttr → v t = v s) (hn : base + n ≤ 2000) :
    let t := forUp n (fun k t => t.store ((base + k : ℕ) : ℤ) (v t)) s
    StoresOnly s t ∧ ∀ k : ℤ, t.memory k = if base ≤ k ∧ k < base + n then v s else s.memory k := by
  refine forUp_induction (fun i (t : VgaState) => StoresOnly s t ∧ ∀ k : ℤ, t.memory k
    = if base ≤ k ∧ k < base + i then v s else s.memory k) ?_ ?_
  · exact ⟨StoresOnly.refl s, fun k => by rw [if_neg (by omega)]⟩
  · rintro i hi t ⟨hst, hmem⟩
    refine ⟨hst.store (by omega) _, fun k => ?_⟩
    rw [VgaState.store_memory, hv t hst.colorAttr, hmem]
    by_cases hk : k = ((base + i : ℕ) : ℤ)
    · rw [if_pos hk, if_pos (by omega)]
    · rw [if_neg hk]
      by_cases hin : base ≤ k ∧ k < base + i
      · rw [if_pos hin, if_pos (by omega)]
      · rw [if_neg hin, if_neg (by omega)]

/-- The row copy: each cell is read before it is overwritten. -/
theorem vgaCopyRows_spec (s : VgaState) :
    StoresOnly s (vgaCopyRows s) ∧ ∀ k : ℤ, (vgaCopyRows s).memory k
      = if 0 ≤ k ∧ k < 1920 then s.memory (k + 80) else s.memory k := by
  refine forUp_induction (fun i (t : VgaState) => StoresOnly s t ∧ ∀ k : ℤ, t.memory k
    = if 0 ≤ k ∧ k < i then s.memory (k + 80) else s.memory k) ?_ ?_
  · exact ⟨StoresOnly.refl s, fun k => by rw [if_neg (by omega)]⟩
  · rintro i hi t ⟨hst, hmem⟩
    have hi' : i < 1920 := hi
    refine ⟨hst.store (by omega) _, fun k => ?_⟩
    rw [VgaState.store_memory, hmem, hmem]
    by_cases hk : k = (i : ℤ)
    · rw [if_pos hk, if_neg (by omega), if_pos (by omega), hk]
      rfl
    · rw [if_neg hk]
      by_cases hin : 0 ≤ k ∧ k < i
      · rw [if_pos hin, if_pos (by omega)]
      · rw [if_neg hin, if_neg (by omega)]

/-- The last row is filled with blanks. -/
theorem vgaBlankLastRow_spec (s : VgaState) :
    StoresOnly s (vgaBlankLastRow s) ∧ ∀ k : ℤ, (vgaBlankLastRow s).memory k
      = if 1920 ≤ k ∧ k < 2000 then vgaEntry chSpace s.colorAttr else s.memory k :=
  fill_cells s 1920 80 (fun t => vgaEntry chSpace t.colorAttr) (fun t ht => by rw [ht]) (by omega)

/-- A clear fills the whole screen with blanks. -/
theorem vgaFillScreen_spec (s : VgaState) :
    StoresOnly s (vgaFillScreen s) ∧ ∀ k : ℤ, (vgaFillScreen s).memory k
      = if 0 ≤ k ∧ k < 2000 then vgaEntry chSpace s.colorAttr else s.memory k := by
  have h := fill_cells s 0 2000 (fun _ => vgaEntry chSpace s.colorAttr) (fun _ _ => rfl) (by omega)
  simp only [Nat.zero_add] at h
  exact h

/-! ## The relation -/

/-- The reference terminal: 80 columns and 25 rows of text, blank cells spaces. -/
abbrev pagePress (p : TextPage Byte) (c : Byte) : TextPage Byte :=
  p.press 80 25 chSpace (keyOf c)

/-- The cell memory holds the visible rows of the page, and the cursor variables
point into the window.  `stores₀` are the indices stored to before the run. -/
structure VgaCells (stores₀ : List ℤ) (attr : Byte) (s : VgaState) (p : TextPage Byte) : Prop where
  attr_eq : s.colorAttr = attr
  cells : ∀ i < 25, ∀ j < 80, s.memory (80 * i + j : ℕ) = vgaEntry (p.cell (p.top + i) j) attr
  cursorX : s.cursorX = p.x
  cursorY : s.cursorY = p.y - p.top
  stores : ∀ k ∈ s.stores, k ∈ stores₀ ∨ (0 ≤ k ∧ k < 2000)

/-- The driver shows the window of the page. -/
structure VgaShows (stores₀ : List ℤ) (attr : Byte) (s : VgaState) (p : TextPage Byte) : Prop
    extends VgaCells stores₀ attr s p where
  window : p.InWindow 80 25
  below : p.BlankBelow 25 chSpace

variable {stores₀ : List ℤ} {attr : Byte} {s t : VgaState} {p : TextPage Byte}

theorem StoresOnly.trans_stores (h : StoresOnly s t)
    (hs : ∀ k ∈ s.stores, k ∈ stores₀ ∨ (0 ≤ k ∧ k < 2000)) :
    ∀ k ∈ t.stores, k ∈ stores₀ ∨ (0 ≤ k ∧ k < 2000) := by
  intro k hk
  rcases h.stores k hk with hk | hk
  · exact hs k hk
  · exact Or.inr hk

/-- **The scroll shifts the window by one row.**  The row that comes into view is
blank because nothing below the window has been written. -/
theorem vgaScroll_shows (h : VgaCells stores₀ attr s p) (hbelow : p.BlankBelow 25 chSpace)
    (hx : p.x = 0) (hy : p.y = p.top + 25) :
    VgaCells stores₀ attr (vgaScroll s) { p with top := p.top + 1 } := by
  obtain ⟨hcopy, hcopied⟩ := vgaCopyRows_spec s
  obtain ⟨hfill, hfilled⟩ := vgaBlankLastRow_spec (vgaCopyRows s)
  have hattr := hcopy.colorAttr.trans h.attr_eq
  rw [vgaScroll]
  generalize vgaBlankLastRow (vgaCopyRows s) = r at hfill hfilled ⊢
  refine ⟨hfill.colorAttr.trans hattr, fun i hi j hj => ?_, ?_, ?_, ?_⟩
  · have hcell : p.top + 1 + i = p.top + (i + 1) := by omega
    simp only [updateCursor_memory, hfilled]
    rcases Nat.lt_or_ge i 24 with hlt | hge
    · -- a row that was visible: one row down before the copy
      have hdown : ((80 * i + j : ℕ) : ℤ) + 80 = ((80 * (i + 1) + j : ℕ) : ℤ) := by omega
      rw [if_neg (by omega), hcopied, if_pos (by omega), hcell, hdown,
        h.cells (i + 1) (by omega) j hj]
    · rw [if_pos (by omega), hattr, hcell, hbelow _ _ (by omega)]
  · exact (congrArg Nat.cast hx).symm
  · show (25 : ℤ) - 1 = (p.y : ℤ) - ((p.top + 1 : ℕ) : ℤ)
    omega
  · exact hfill.trans_stores (hcopy.trans_stores h.stores)

/-- The end of `vga_putc` follows the cursor down, if it is at most one row below
the window and then at the start of that row. -/
theorem vgaSettle_shows (h : VgaCells stores₀ attr s p) (hbelow : p.BlankBelow 25 chSpace)
    (hy : p.y ≤ p.top + 25) (hx : p.y = p.top + 25 → p.x = 0) :
    VgaCells stores₀ attr (vgaSettle s) (p.follow 25) := by
  have hcy := h.cursorY
  rw [vgaSettle, TextPage.follow]
  by_cases hdown : p.y = p.top + 25
  · rw [if_pos hdown, if_pos (by simp only [vgaMaxRows]; omega)]
    exact vgaScroll_shows h hbelow (hx hdown) hdown
  · rw [if_neg hdown, if_neg (by simp only [vgaMaxRows]; omega)]
    exact { h with }

/-- A store under the cursor writes the page's cell. -/
theorem vgaStoreAtCursor_cells (h : VgaCells stores₀ attr s p) (hwin : p.InWindow 80 25)
    (c : Byte) : VgaCells stores₀ attr (vgaStoreAtCursor c s) (p.write c) := by
  obtain ⟨hx, htop, hy⟩ := hwin
  have hcx := h.cursorX
  have hcy := h.cursorY
  have hindex : s.cursorY * vgaMaxCols + s.cursorX = 80 * s.cursorY + s.cursorX := by
    simp only [vgaMaxCols]
    omega
  refine ⟨h.attr_eq, fun i hi j hj => ?_, hcx, hcy, fun k hk => ?_⟩
  · rw [vgaStoreAtCursor, VgaState.store_memory, h.attr_eq, hindex]
    show _ = vgaEntry (if p.top + i = p.y ∧ j = p.x then c else p.cell (p.top + i) j) attr
    by_cases hcell : p.top + i = p.y ∧ j = p.x
    · rw [if_pos (by omega), if_pos hcell]
    · rw [if_neg (by omega), if_neg hcell, h.cells i hi j hj]
  · rw [vgaStoreAtCursor, hindex] at hk
    rcases List.mem_cons.mp hk with rfl | hk
    · right
      omega
    · exact h.stores k hk

/-- **One character keeps the relation.** -/
theorem VgaShows.putc (h : VgaShows stores₀ attr s p) (c : Byte) :
    VgaShows stores₀ attr (vgaPutc c s) (pagePress p c) := by
  refine { window := h.window.press chSpace (keyOf c)
           below := h.below.press h.window (keyOf c)
           toVgaCells := ?_ }
  obtain ⟨hcells, hwin, hbelow⟩ := h
  obtain ⟨hx, htop, hy⟩ := hwin
  have hcx := hcells.cursorX
  have hcy := hcells.cursorY
  rw [pagePress, keyOf, vgaPutc]
  split_ifs with hn hr hb hx0 hy0 hp
  · -- a newline may go one row below the window, at column 0
    refine vgaSettle_shows (p := { p with x := 0, y := p.y + 1 }) ?_ hbelow hy (fun _ => rfl)
    exact { hcells with cursorX := rfl, cursorY := by simp only; omega }
  · refine vgaSettle_shows (p := { p with x := 0 }) ?_ hbelow (Nat.le_of_lt hy) (fun _ => rfl)
    exact { hcells with cursorX := rfl }
  · -- a backspace inside a row
    show VgaCells stores₀ attr _ (TextPage.follow 25 (TextPage.erase 80 chSpace p))
    rw [TextPage.erase, if_pos (by omega),
      TextPage.follow_of_lt (p := TextPage.write chSpace { p with x := p.x - 1 }) hy]
    refine vgaStoreAtCursor_cells (p := { p with x := p.x - 1 }) ?_ ?_ chSpace
    · exact { hcells with cursorX := by simp only; omega }
    · exact ⟨by simp only; omega, htop, hy⟩
  · -- a backspace to the end of the row above
    show VgaCells stores₀ attr _ (TextPage.follow 25 (TextPage.erase 80 chSpace p))
    have hup : p.y - 1 < p.top + 25 := by omega
    rw [TextPage.erase, if_neg (by omega), if_pos (by omega),
      TextPage.follow_of_lt (p := TextPage.write chSpace { p with x := 80 - 1, y := p.y - 1 }) hup]
    refine vgaStoreAtCursor_cells (p := { p with x := 80 - 1, y := p.y - 1 }) ?_ ?_ chSpace
    · exact { hcells with cursorX := rfl, cursorY := by simp only; omega }
    · exact ⟨by simp only; omega, by simp only; omega, hup⟩
  · -- a backspace at the top left
    show VgaCells stores₀ attr _ (TextPage.follow 25 (TextPage.erase 80 chSpace p))
    rw [TextPage.erase, if_neg (by omega), if_neg (by omega), TextPage.follow_of_lt hy]
    exact hcells
  · -- a printable character, inside a row or in its last column
    have hw := vgaStoreAtCursor_cells hcells ⟨hx, htop, hy⟩ c
    have hbelow' := hbelow.write hy c
    show VgaCells stores₀ attr
      (if s.cursorX + 1 ≥ ((80 : ℕ) : ℤ) then _ else _)
      (TextPage.follow 25 (TextPage.advance 80 (p.write c)))
    rw [TextPage.advance]
    have hx' : (p.write c).x = p.x := rfl
    by_cases hlast : (p.write c).x + 1 < 80
    · rw [if_neg (by omega), if_pos hlast]
      refine vgaSettle_shows (p := { p.write c with x := p.x + 1 }) ?_ hbelow' (Nat.le_of_lt hy)
        (fun h => absurd h (Nat.ne_of_lt hy))
      exact { hw with cursorX := by simp only [vgaStoreAtCursor, VgaState.store]; omega }
    · rw [if_pos (by omega), if_neg hlast]
      refine vgaSettle_shows (p := { p.write c with x := 0, y := p.y + 1 }) ?_ hbelow' hy
        (fun _ => rfl)
      exact { hw with
        cursorX := rfl
        cursorY := by simp only [vgaStoreAtCursor, VgaState.store, TextPage.write]; omega }
  · exact vgaSettle_shows hcells hbelow (Nat.le_of_lt hy) (fun h => absurd h (Nat.ne_of_lt hy))

/-- A clear shows the blank page. -/
theorem vgaClear_shows (s : VgaState) :
    VgaShows s.stores s.colorAttr (vgaClear s) (TextPage.blank chSpace) := by
  obtain ⟨hst, hmem⟩ := vgaFillScreen_spec s
  rw [vgaClear]
  generalize vgaFillScreen s = r at hst hmem ⊢
  refine { attr_eq := hst.colorAttr
           cells := fun i hi j hj => ?_
           cursorX := rfl
           cursorY := rfl
           stores := hst.stores
           window := TextPage.inWindow_blank chSpace (by omega) (by omega)
           below := TextPage.blankBelow_blank 25 chSpace }
  rw [updateCursor_memory, hmem, if_pos (by omega)]
  rfl

/-- **The VGA console is a 25-row window on an unbounded page.** -/
theorem vga_shows_page (s : VgaState) (cs : List Byte) :
    let t := run (fun s c => vgaPutc c s) (vgaClear s) cs
    let p := run pagePress (TextPage.blank chSpace) cs
    (∀ i < 25, ∀ j < 80, t.memory (80 * i + j : ℕ) = vgaEntry (p.cell (p.top + i) j) s.colorAttr) ∧
      t.cursorX = p.x ∧ p.x < 80 ∧
      t.cursorY = p.y - p.top ∧ 0 ≤ t.cursorY ∧ t.cursorY < 25 ∧
      ∀ k ∈ t.stores, k ∈ s.stores ∨ (0 ≤ k ∧ k < 2000) := by
  intro t p
  have h : VgaShows s.stores s.colorAttr t p :=
    run_relates (VgaShows s.stores s.colorAttr) (vgaClear_shows s) (fun _ _ h c _ => h.putc c)
  have htop := h.window.top_le
  have hy := h.window.y_lt
  have hcy := h.cursorY
  exact ⟨h.cells, h.cursorX, h.window.x_lt, hcy, by omega, by omega, h.stores⟩

end GridX64
