/-
# What the pixel, scroll and clear operations do to memory

The framebuffer is `height` scan lines of `pitch` bytes from `addr` on, and the
pixel `(x, y)` of a depth with `k` bytes a pixel starts at offset
`y * pitch + x * k`.  Under `Depth.Fits` (the buffer is below 4 GiB and a scan
line holds `W ≥ width` pixels) the 32-bit products of the code are exact and the
byte ranges of different pixels are disjoint.

* `Depth.putpixel_byte`, `Depth.putpixel_pixel` — a pixel store, byte by byte and pixel
  by pixel;
* `rgbScroll_byte` — the scroll, byte by byte;
* `Depth.clear_byte` — the clears, byte by byte;
* `Depth.putpixel_touchesOnly`, `rgbScroll_touchesOnly`, `Depth.clear_touchesOnly` —
  none of them reads or writes outside the framebuffer.
-/
import GridX64.Rgb

namespace GridX64

/-- `pitch * height`: the bytes of the framebuffer. -/
def Framebuffer.size (fb : Framebuffer) : ℕ := fb.pitch.toNat * fb.height.toNat

/-- Bytes a pixel. -/
def Depth.bytes : Depth → ℕ
  | bpp16 => 2
  | bpp24 => 3
  | bpp32 => 4

/-- How many of a pixel's bytes, from the lowest address on, carry colour: the top
byte of a 32-bit pixel does not. -/
def Depth.colourBytes : Depth → ℕ
  | bpp16 => 2
  | bpp24 => 3
  | bpp32 => 3

theorem Depth.colourBytes_le (d : Depth) : d.colourBytes ≤ d.bytes := by
  cases d <;> decide

/-- The address of the first byte of pixel `(x, y)`. -/
def Depth.pixelAddr (d : Depth) (fb : Framebuffer) (x y : ℕ) : ℕ :=
  fb.addr + y * fb.pitch.toNat + x * d.bytes

/-- A framebuffer whose offsets fit 32 bits and whose scan lines hold `W` pixels
of the depth, the visible ones among them. -/
structure Depth.Fits (d : Depth) (fb : Framebuffer) (W : ℕ) : Prop where
  size_lt : fb.size < 2 ^ 32
  line : W * d.bytes ≤ fb.pitch.toNat
  width_le : fb.width.toNat ≤ W

/-- A framebuffer of the 32-bit driver with `W` pixels or more in a scan line. -/
theorem fits_bpp32 {fb : Framebuffer} {W : ℕ} (hsize : fb.size < 2 ^ 32)
    (hline : 4 * W ≤ fb.pitch.toNat) (hwidth : fb.width.toNat ≤ W) : Depth.bpp32.Fits fb W where
  size_lt := hsize
  line := by rw [Depth.bytes, Nat.mul_comm]; exact hline
  width_le := hwidth

/-! ## Offsets -/

/-- The 32-bit product of a row number and the pitch is exact. -/
theorem row_offset_toNat {fb : Framebuffer} (hsize : fb.size < 2 ^ 32) {y : BitVec 32}
    (hy : y < fb.height) : (y * fb.pitch).toNat = y.toNat * fb.pitch.toNat := by
  have hle : y.toNat * fb.pitch.toNat ≤ fb.height.toNat * fb.pitch.toNat :=
    Nat.mul_le_mul_right _ (Nat.le_of_lt hy)
  rw [Framebuffer.size, Nat.mul_comm] at hsize
  rw [BitVec.toNat_mul]
  exact Nat.mod_eq_of_lt (lt_of_le_of_lt hle hsize)

/-- A row offset and a column offset inside the scan line stay below the next row. -/
theorem row_lt_next {P y y' c : ℕ} (hy : y < y') (hc : c < P) : y * P + c < y' * P := by
  have h : (y + 1) * P ≤ y' * P := Nat.mul_le_mul_right P hy
  rw [Nat.add_mul, Nat.one_mul] at h
  omega

/-- A pixel's bytes lie inside its scan line. -/
theorem column_offset_lt {W k P x i : ℕ} (hline : W * k ≤ P) (hx : x < W) (hi : i < k) :
    x * k + i < P := by
  have h : (x + 1) * k ≤ W * k := Nat.mul_le_mul_right k hx
  rw [Nat.add_mul, Nat.one_mul] at h
  omega

variable {d : Depth} {fb : Framebuffer} {W : ℕ}

/-- A pixel's bytes lie inside the framebuffer. -/
theorem Depth.pixelAddr_add_lt (hfit : d.Fits fb W) {x y i : ℕ} (hx : x < W)
    (hy : y < fb.height.toNat) (hi : i < d.bytes) :
    d.pixelAddr fb x y + i < fb.addr + fb.size := by
  have hc := column_offset_lt hfit.line hx hi
  have hrow := row_lt_next hy hc
  rw [Depth.pixelAddr, Framebuffer.size, Nat.mul_comm fb.pitch.toNat]
  omega

/-- The bytes of different pixels are at different addresses. -/
theorem Depth.pixelAddr_disjoint (hfit : d.Fits fb W) {x y x' y' i : ℕ} (hx : x < W)
    (hx' : x' < W) (hi : i < d.bytes) (hne : ¬ (x = x' ∧ y = y')) :
    d.pixelAddr fb x y + i < d.pixelAddr fb x' y' ∨
      d.pixelAddr fb x' y' + d.bytes ≤ d.pixelAddr fb x y + i := by
  rw [Depth.pixelAddr, Depth.pixelAddr]
  have hc := column_offset_lt hfit.line hx hi
  have hc' := column_offset_lt hfit.line hx' hi
  rcases Nat.lt_trichotomy y y' with h | h | h
  · have := row_lt_next h hc
    omega
  · subst h
    rcases Nat.lt_or_gt_of_ne (fun hxx => hne ⟨hxx, rfl⟩) with hlt | hlt
    · have := Nat.mul_le_mul_right d.bytes (Nat.succ_le_of_lt hlt)
      rw [Nat.succ_mul] at this
      omega
    · have := Nat.mul_le_mul_right d.bytes (Nat.succ_le_of_lt hlt)
      rw [Nat.succ_mul] at this
      omega
  · have hlast := column_offset_lt (i := d.bytes - 1) hfit.line hx' (by omega)
    have := row_lt_next h hlast
    omega

/-! ## Pixels -/

/-- Off the screen a pixel store does nothing. -/
theorem Depth.putpixel_offscreen (d : Depth) (fb : Framebuffer) {x y : BitVec 32}
    (color : BitVec 32) (m : Mem) (h : x ≥ fb.width ∨ y ≥ fb.height) :
    d.putpixel fb x y color m = m := by
  cases d
  · exact if_pos h
  · exact if_pos h
  · exact if_pos h

/-- The address `rgb_putpixelN` computes is that of the pixel. -/
theorem Depth.putpixel_addr (hfit : d.Fits fb W) {x y : BitVec 32} (hx : x < fb.width)
    (hy : y < fb.height) :
    fb.addr + (y * fb.pitch).toNat + (x * BitVec.ofNat 32 d.bytes).toNat
      = d.pixelAddr fb x.toNat y.toNat := by
  have hxW : x.toNat < W := Nat.lt_of_lt_of_le hx hfit.width_le
  have hbytes : 0 < d.bytes := by cases d <;> decide
  have hcol := column_offset_lt hfit.line hxW hbytes
  have hpitch := fb.pitch.isLt
  have hk : (BitVec.ofNat 32 d.bytes).toNat = d.bytes := by cases d <;> rfl
  rw [row_offset_toNat hfit.size_lt hy, BitVec.toNat_mul, hk, Nat.mod_eq_of_lt (by omega),
    Depth.pixelAddr]

/-- The bytes that the pixel writers store for a colour. -/
def Depth.encode (color : BitVec 32) : Depth → ℕ → Byte
  | bpp16, i =>
      let r : Byte := ((color >>> 16) &&& 0xFF).setWidth 8
      let g : Byte := ((color >>> 8) &&& 0xFF).setWidth 8
      let b : Byte := (color &&& 0xFF).setWidth 8
      let rgb : BitVec 16 :=
        ((r >>> 3).setWidth 16 <<< 11) ||| ((g >>> 2).setWidth 16 <<< 5) ||| (b >>> 3).setWidth 16
      BitVec.ofNat 8 (rgb.toNat / 256 ^ i)
  | bpp24, i => ((color >>> (8 * i)) &&& 0xFF).setWidth 8
  | bpp32, i => BitVec.ofNat 8 ((0xFF000000 ||| color).toNat / 256 ^ i)

/-- **A pixel store, byte by byte.** -/
theorem Depth.putpixel_byte (hfit : d.Fits fb W) {x y : BitVec 32} (hx : x < fb.width)
    (hy : y < fb.height) (color : BitVec 32) (m : Mem) (a : ℕ) :
    (d.putpixel fb x y color m).byte a
      = if d.pixelAddr fb x.toNat y.toNat ≤ a ∧ a < d.pixelAddr fb x.toNat y.toNat + d.bytes
        then d.encode color (a - d.pixelAddr fb x.toNat y.toNat) else m.byte a := by
  have hon : ¬ (x ≥ fb.width ∨ y ≥ fb.height) := by bv_omega
  have haddr := Depth.putpixel_addr hfit hx hy
  generalize hp : d.pixelAddr fb x.toNat y.toNat = p at haddr ⊢
  cases d with
  | bpp16 =>
      change fb.addr + (y * fb.pitch).toNat + (x * 2).toNat = p at haddr
      show (rgbPutpixel16 fb x y color m).byte a = _
      rw [rgbPutpixel16, if_neg hon, haddr]
      exact Mem.storeLE_byte m p 2 _ a
  | bpp24 =>
      change fb.addr + (y * fb.pitch).toNat + (x * 3).toNat = p at haddr
      show (rgbPutpixel24 fb x y color m).byte a = _
      rw [rgbPutpixel24, if_neg hon, haddr]
      simp only [Mem.store_byte]
      -- the three stores are red, green and blue, the last one first
      by_cases hr : a = p + 2
      · rw [if_pos hr, if_pos (by simp only [Depth.bytes]; omega), hr, Nat.add_sub_cancel_left]
        rfl
      · by_cases hg : a = p + 1
        · rw [if_neg hr, if_pos hg, if_pos (by simp only [Depth.bytes]; omega), hg,
            Nat.add_sub_cancel_left]
          rfl
        · by_cases hb : a = p
          · rw [if_neg hr, if_neg hg, if_pos hb, if_pos (by simp only [Depth.bytes]; omega), hb,
              Nat.sub_self]
            rfl
          · rw [if_neg hr, if_neg hg, if_neg hb, if_neg (by simp only [Depth.bytes]; omega)]
  | bpp32 =>
      change fb.addr + (y * fb.pitch).toNat + (x * 4).toNat = p at haddr
      show (rgbPutpixel32 fb x y color m).byte a = _
      rw [rgbPutpixel32, if_neg hon, haddr]
      exact Mem.storeLE_byte m p 4 _ a

/-- **A pixel store, pixel by pixel.** -/
theorem Depth.putpixel_pixel (hfit : d.Fits fb W) (x y color : BitVec 32) (m : Mem) {i j k : ℕ}
    (hi : i < W) (hk : k < d.bytes) :
    (d.putpixel fb x y color m).byte (d.pixelAddr fb i j + k)
      = if x < fb.width ∧ y < fb.height ∧ i = x.toNat ∧ j = y.toNat then d.encode color k
        else m.byte (d.pixelAddr fb i j + k) := by
  by_cases hoff : x ≥ fb.width ∨ y ≥ fb.height
  · rw [d.putpixel_offscreen fb color m hoff, if_neg (by bv_omega)]
  · have hx : x < fb.width := by bv_omega
    have hy : y < fb.height := by bv_omega
    have hxW : x.toNat < W := Nat.lt_of_lt_of_le hx hfit.width_le
    rw [Depth.putpixel_byte hfit hx hy]
    by_cases heq : i = x.toNat ∧ j = y.toNat
    · obtain ⟨rfl, rfl⟩ := heq
      rw [if_pos (by omega), if_pos ⟨hx, hy, rfl, rfl⟩, Nat.add_sub_cancel_left]
    · have hdis := Depth.pixelAddr_disjoint hfit hi hxW hk heq
      rw [if_neg (by omega), if_neg (fun hc => heq hc.2.2)]

/-- White is all ones in every byte of a pixel, and black all zeroes in the colour
bytes: the fourth byte of a 32-bit pixel is set in both. -/
theorem Depth.encode_white (d : Depth) {i : ℕ} (hi : i < d.bytes) :
    d.encode rgbDefaultColor i = 0xFF := by
  cases d <;> rw [Depth.bytes] at hi <;> interval_cases i <;> decide

theorem Depth.encode_black (d : Depth) {i : ℕ} (hi : i < d.colourBytes) : d.encode 0 i = 0 := by
  cases d <;> rw [Depth.colourBytes] at hi <;> interval_cases i <;> decide

/-! ## Scroll -/

/-- The 32-bit sizes that `rgb_scroll` computes are exact. -/
theorem scroll_sizes {fb : Framebuffer} (hsize : fb.size < 2 ^ 32) (hheight : 16 ≤ fb.height) :
    (rgbCharHeight * fb.pitch).toNat = 16 * fb.pitch.toNat ∧
      (fb.pitch * fb.height).toNat = fb.size ∧ 16 * fb.pitch.toNat ≤ fb.size ∧
      (fb.pitch * fb.height - rgbCharHeight * fb.pitch).toNat = fb.size - 16 * fb.pitch.toNat := by
  have hh : 16 ≤ fb.height.toNat := hheight
  have hle : 16 * fb.pitch.toNat ≤ fb.size := by
    rw [Framebuffer.size, Nat.mul_comm fb.pitch.toNat]
    exact Nat.mul_le_mul_right _ hh
  have hscroll : (rgbCharHeight * fb.pitch).toNat = 16 * fb.pitch.toNat := by
    rw [BitVec.toNat_mul]
    exact Nat.mod_eq_of_lt (lt_of_le_of_lt hle hsize)
  have htotal : (fb.pitch * fb.height).toNat = fb.size := by
    rw [BitVec.toNat_mul]
    exact Nat.mod_eq_of_lt hsize
  refine ⟨hscroll, htotal, hle, ?_⟩
  rw [BitVec.toNat_sub_of_le (by rw [BitVec.le_def, hscroll, htotal]; exact hle), hscroll, htotal]

/-- **The scroll, byte by byte**: the framebuffer moves down in memory by sixteen
scan lines, the last sixteen become zero, and nothing outside it changes. -/
theorem rgbScroll_byte {fb : Framebuffer} (hsize : fb.size < 2 ^ 32) (hheight : 16 ≤ fb.height)
    (m : Mem) (a : ℕ) :
    (rgbScroll fb m).byte a
      = if fb.addr ≤ a ∧ a < fb.addr + fb.size then
          if a + 16 * fb.pitch.toNat < fb.addr + fb.size then m.byte (a + 16 * fb.pitch.toNat)
          else 0
        else m.byte a := by
  obtain ⟨hscroll, htotal, hle, hrest⟩ := scroll_sizes hsize hheight
  show (memset _ _ _ (memmove _ _ _ m).2).2.byte a = _
  rw [memset_byte, memmove_byte, hscroll, htotal, hrest]
  by_cases hin : fb.addr ≤ a ∧ a < fb.addr + fb.size
  · rw [if_pos hin]
    by_cases hkeep : a + 16 * fb.pitch.toNat < fb.addr + fb.size
    · rw [if_pos hkeep, if_neg (by omega), if_pos (by omega)]
      congr 1
      omega
    · rw [if_neg hkeep, if_pos (by omega)]
  · rw [if_neg hin, if_neg (by omega), if_neg (by omega)]

/-! ## Clear -/

/-- A loop that stores `k` zero bytes at a time from `base` on. -/
theorem forUp_storeLE_zero_byte (base k n : ℕ) (m : Mem) (a : ℕ) :
    (forUp n (fun i m => m.storeLE (base + k * i) k 0) m).byte a
      = if base ≤ a ∧ a < base + k * n then 0 else m.byte a := by
  refine forUp_induction (fun i (t : Mem) => t.byte a
    = if base ≤ a ∧ a < base + k * i then 0 else m.byte a) ?_ ?_
  · rw [if_neg (by omega)]
  · intro i _ t ht
    have hk : k * (i + 1) = k * i + k := Nat.mul_succ k i
    rw [Mem.storeLE_byte, ht, Nat.zero_div]
    by_cases hnew : base + k * i ≤ a ∧ a < base + k * i + k
    · rw [if_pos hnew, if_pos (by omega)]
      rfl
    · rw [if_neg hnew]
      by_cases hold : base ≤ a ∧ a < base + k * i
      · rw [if_pos hold, if_pos (by omega)]
      · rw [if_neg hold, if_neg (by omega)]

/-- What the pitch of a depth is a multiple of: the 16- and 32-bit clears step
through the buffer in whole pixels. -/
def Depth.alignment : Depth → ℕ
  | bpp16 => 2
  | bpp24 => 1
  | bpp32 => 4

/-- The number of words that the 16- and 32-bit clears store. -/
theorem clear_words {fb : Framebuffer} (hsize : fb.size < 2 ^ 32) {k : BitVec 32}
    (hk : k.toNat ∣ fb.pitch.toNat) :
    k.toNat * (fb.pitch / k * fb.height).toNat = fb.size := by
  have hdiv : (fb.pitch / k).toNat = fb.pitch.toNat / k.toNat := BitVec.toNat_udiv
  have hle : fb.pitch.toNat / k.toNat * fb.height.toNat ≤ fb.size :=
    Nat.mul_le_mul_right _ (Nat.div_le_self _ _)
  rw [BitVec.toNat_mul, hdiv, Nat.mod_eq_of_lt (lt_of_le_of_lt hle hsize), ← Nat.mul_assoc,
    Nat.mul_div_cancel' hk, Framebuffer.size]

/-- The rows that the 24-bit clear has zeroed after `n` scan lines. -/
theorem clear_rows_byte {fb : Framebuffer} (hsize : fb.size < 2 ^ 32) {n : ℕ}
    (hn : n ≤ fb.height.toNat) (m : Mem) (a : ℕ) :
    (forUp n (fun y m =>
        (memset (fb.addr + (BitVec.ofNat 32 y * fb.pitch).toNat) 0 fb.pitch.toNat m).2) m).byte a
      = if fb.addr ≤ a ∧ a < fb.addr + n * fb.pitch.toNat then 0 else m.byte a := by
  refine forUp_induction (fun i (t : Mem) => t.byte a
    = if fb.addr ≤ a ∧ a < fb.addr + i * fb.pitch.toNat then 0 else m.byte a) ?_ ?_
  · rw [if_neg (by omega)]
  · intro y hy t ht
    have hyh : y < fb.height.toNat := Nat.lt_of_lt_of_le hy hn
    have hy32 : (BitVec.ofNat 32 y).toNat = y :=
      Nat.mod_eq_of_lt (Nat.lt_trans hyh fb.height.isLt)
    have hrow : (BitVec.ofNat 32 y * fb.pitch).toNat = y * fb.pitch.toNat := by
      rw [row_offset_toNat hsize (by rw [BitVec.lt_def, hy32]; exact hyh), hy32]
    have hnext : (y + 1) * fb.pitch.toNat = y * fb.pitch.toNat + fb.pitch.toNat :=
      Nat.succ_mul y _
    rw [memset_byte, hrow, ht]
    by_cases hnew : fb.addr + y * fb.pitch.toNat ≤ a
        ∧ a < fb.addr + y * fb.pitch.toNat + fb.pitch.toNat
    · rw [if_pos hnew, if_pos (by omega)]
    · rw [if_neg hnew]
      by_cases hold : fb.addr ≤ a ∧ a < fb.addr + y * fb.pitch.toNat
      · rw [if_pos hold, if_pos (by omega)]
      · rw [if_neg hold, if_neg (by omega)]

/-- **The clears, byte by byte**: the framebuffer becomes zero and nothing outside
it changes. -/
theorem Depth.clear_byte (d : Depth) {fb : Framebuffer} (hsize : fb.size < 2 ^ 32)
    (halign : d.alignment ∣ fb.pitch.toNat) (s : RgbState Mem) (a : ℕ) :
    (d.clear fb s).screen.byte a
      = if fb.addr ≤ a ∧ a < fb.addr + fb.size then 0 else s.screen.byte a := by
  cases d with
  | bpp16 =>
      have hwords : 2 * (fb.pitch / 2 * fb.height).toNat = fb.size :=
        clear_words (k := 2) hsize halign
      show (forUp _ _ s.screen).byte a = _
      rw [forUp_storeLE_zero_byte, hwords]
  | bpp24 =>
      show (forUp _ _ s.screen).byte a = _
      rw [clear_rows_byte hsize le_rfl, Framebuffer.size, Nat.mul_comm fb.pitch.toNat]
  | bpp32 =>
      have hwords : 4 * (fb.pitch / 4 * fb.height).toNat = fb.size :=
        clear_words (k := 4) hsize halign
      show (forUp _ _ s.screen).byte a = _
      rw [forUp_storeLE_zero_byte, hwords]

/-! ## Footprints -/

/-- An address of the framebuffer. -/
def Framebuffer.Inside (fb : Framebuffer) (a : ℕ) : Prop := fb.addr ≤ a ∧ a < fb.addr + fb.size

theorem Depth.inside_pixel (hfit : d.Fits fb W) {x y i : ℕ} (hx : x < W) (hy : y < fb.height.toNat)
    (hi : i < d.bytes) : fb.Inside (d.pixelAddr fb x y + i) := by
  refine ⟨?_, Depth.pixelAddr_add_lt hfit hx hy hi⟩
  rw [Depth.pixelAddr]
  omega

variable {m₀ m : Mem}

/-- A pixel store touches the framebuffer only, on or off the screen. -/
theorem Depth.putpixel_touchesOnly (hfit : d.Fits fb W) (x y color : BitVec 32)
    (h : Mem.TouchesOnly fb.Inside m₀ m) :
    Mem.TouchesOnly fb.Inside m₀ (d.putpixel fb x y color m) := by
  by_cases hoff : x ≥ fb.width ∨ y ≥ fb.height
  · rw [d.putpixel_offscreen fb color m hoff]
    exact h
  · have hx : x < fb.width := by bv_omega
    have hy : y < fb.height := by bv_omega
    have hxW : x.toNat < W := Nat.lt_of_lt_of_le hx hfit.width_le
    have hin : ∀ i < d.bytes, fb.Inside (d.pixelAddr fb x.toNat y.toNat + i) :=
      fun i hi => d.inside_pixel hfit hxW hy hi
    have haddr := Depth.putpixel_addr hfit hx hy
    generalize d.pixelAddr fb x.toNat y.toNat = p at haddr hin
    cases d with
    | bpp16 =>
        change fb.addr + (y * fb.pitch).toNat + (x * 2).toNat = p at haddr
        show Mem.TouchesOnly fb.Inside m₀ (rgbPutpixel16 fb x y color m)
        rw [rgbPutpixel16, if_neg hoff, haddr]
        exact h.storeLE 2 _ hin
    | bpp24 =>
        change fb.addr + (y * fb.pitch).toNat + (x * 3).toNat = p at haddr
        show Mem.TouchesOnly fb.Inside m₀ (rgbPutpixel24 fb x y color m)
        rw [rgbPutpixel24, if_neg hoff, haddr]
        exact ((h.store _ (hin 0 (by decide))).store _ (hin 1 (by decide))).store _
          (hin 2 (by decide))
    | bpp32 =>
        change fb.addr + (y * fb.pitch).toNat + (x * 4).toNat = p at haddr
        show Mem.TouchesOnly fb.Inside m₀ (rgbPutpixel32 fb x y color m)
        rw [rgbPutpixel32, if_neg hoff, haddr]
        exact h.storeLE 4 _ hin

/-- `rgb_scroll` touches the framebuffer only. -/
theorem rgbScroll_touchesOnly (hsize : fb.size < 2 ^ 32) (hheight : 16 ≤ fb.height)
    (h : Mem.TouchesOnly fb.Inside m₀ m) :
    Mem.TouchesOnly fb.Inside m₀ (rgbScroll fb m) := by
  obtain ⟨hscroll, htotal, hle, hrest⟩ := scroll_sizes hsize hheight
  show Mem.TouchesOnly fb.Inside m₀ (memset _ _ _ (memmove _ _ _ m).2).2
  rw [hscroll, htotal, hrest]
  refine memset_touchesOnly _ 0 _ (memmove_touchesOnly h ?_ ?_) ?_
  · exact fun i hi => ⟨by omega, by omega⟩
  · exact fun i hi => ⟨by omega, by omega⟩
  · exact fun i hi => ⟨by omega, by omega⟩

/-- The clears touch the framebuffer only. -/
theorem Depth.clear_touchesOnly (d : Depth) (hsize : fb.size < 2 ^ 32)
    (halign : d.alignment ∣ fb.pitch.toNat) {s : RgbState Mem}
    (h : Mem.TouchesOnly fb.Inside m₀ s.screen) :
    Mem.TouchesOnly fb.Inside m₀ (d.clear fb s).screen := by
  -- the words that the 16- and 32-bit clears store
  have hword : ∀ k n i j, k * n = fb.size → i < n → j < k → fb.Inside (fb.addr + k * i + j) := by
    intro k n i j hkn hi hj
    have hnext : k * (i + 1) ≤ k * n := Nat.mul_le_mul_left k hi
    rw [Nat.mul_succ] at hnext
    exact ⟨by omega, by omega⟩
  cases d with
  | bpp16 =>
      have hwords : 2 * (fb.pitch / 2 * fb.height).toNat = fb.size :=
        clear_words (k := 2) hsize halign
      exact forUp_preserves (I := Mem.TouchesOnly fb.Inside m₀) h
        (fun i hi _ ht => ht.storeLE 2 0 (fun j hj => hword 2 _ i j hwords hi hj))
  | bpp24 =>
      refine forUp_preserves (I := Mem.TouchesOnly fb.Inside m₀) h (fun y hy t ht => ?_)
      have hy32 : (BitVec.ofNat 32 y).toNat = y :=
        Nat.mod_eq_of_lt (Nat.lt_trans hy fb.height.isLt)
      have hrow : (BitVec.ofNat 32 y * fb.pitch).toNat = y * fb.pitch.toNat := by
        rw [row_offset_toNat hsize (by rw [BitVec.lt_def, hy32]; exact hy), hy32]
      refine memset_touchesOnly _ 0 _ ht (fun i hi => ?_)
      have hnext := row_lt_next hy hi
      rw [hrow, Framebuffer.Inside, Framebuffer.size, Nat.mul_comm fb.pitch.toNat]
      exact ⟨by omega, by omega⟩
  | bpp32 =>
      have hwords : 4 * (fb.pitch / 4 * fb.height).toNat = fb.size :=
        clear_words (k := 4) hsize halign
      exact forUp_preserves (I := Mem.TouchesOnly fb.Inside m₀) h
        (fun i hi _ ht => ht.storeLE 4 0 (fun j hj => hword 4 _ i j hwords hi hj))

end GridX64
