/-
# Strings of the kernel library (src/lib/string.c)

Strings are read through a partial memory `rd : ℕ → Option Byte`: a read of an
address that holds nothing is stuck.  `StringAt rd p bs` says that the bytes `bs`
and a terminating NUL stand at `p`, so that a function that returns on it has read
no further.

`itoa` is modelled as the bytes that it stores in `str`, terminator included; the
digits go through a `temp` of 33 bytes, and a store past its end is stuck.  An
`int` is a 32-bit word, and negating the least one wraps.
-/
import GridX64.Numerals

namespace GridX64

/-! ## Strings in memory -/

/-- The characters of a string literal, without the terminator. -/
def chars (s : String) : List Byte := s.toList.map (fun c => BitVec.ofNat 8 c.toNat)

/-- The NUL-terminated string `bs` stands at `p`. -/
def StringAt (rd : ℕ → Option Byte) : ℕ → List Byte → Prop
  | p, [] => rd p = some 0
  | p, b :: bs => rd p = some b ∧ b ≠ 0 ∧ StringAt rd (p + 1) bs

instance decidableStringAt (rd : ℕ → Option Byte) : (p : ℕ) → (bs : List Byte) →
    Decidable (StringAt rd p bs)
  | p, [] => inferInstanceAs (Decidable (rd p = some 0))
  | p, b :: bs =>
      have := decidableStringAt rd (p + 1) bs
      inferInstanceAs (Decidable (rd p = some b ∧ b ≠ 0 ∧ StringAt rd (p + 1) bs))

/-- `strlen`, reading from `s` on at most `fuel` bytes: the distance to the first NUL. -/
def strlen (rd : ℕ → Option Byte) (fuel s : ℕ) : Option ℕ :=
  match fuel with
  | 0 => none
  | fuel + 1 => do
      let c ← rd s
      if c = 0 then return 0
      else
        let n ← strlen rd fuel (s + 1)
        return n + 1

theorem strlen_eq {rd : ℕ → Option Byte} {p : ℕ} {bs : List Byte} (h : StringAt rd p bs) {fuel : ℕ}
    (hfuel : bs.length < fuel) : strlen rd fuel p = some bs.length := by
  induction bs generalizing p fuel with
  | nil =>
      obtain ⟨fuel, rfl⟩ := Nat.exists_eq_succ_of_ne_zero (Nat.ne_of_gt hfuel)
      have h0 : rd p = some 0 := h
      simp [strlen, h0]
  | cons b bs ih =>
      obtain ⟨fuel, rfl⟩ := Nat.exists_eq_succ_of_ne_zero (show fuel ≠ 0 by omega)
      obtain ⟨hb, hne, hrest⟩ := h
      rw [List.length_cons] at hfuel
      have hrec := ih hrest (show bs.length < fuel by omega)
      simp only [strlen, hb, Option.bind_eq_bind, Option.bind_some, if_neg hne, hrec,
        List.length_cons]
      rfl

/-- The bytes of an array, read by index. -/
def ofBytes (bs : List Byte) (i : ℕ) : Option Byte := bs[i]?

/-- A string that ends an array stands at its offset. -/
theorem stringAt_ofBytes {bs : List Byte} (hbs : 0 ∉ bs) (pre : List Byte) :
    StringAt (ofBytes (pre ++ bs ++ [0])) pre.length bs := by
  induction bs generalizing pre with
  | nil => simp [StringAt, ofBytes]
  | cons b bs ih =>
      rw [List.mem_cons, not_or] at hbs
      refine ⟨?_, Ne.symm hbs.1, ?_⟩
      · simp [ofBytes]
      · have h := ih hbs.2 (pre ++ [b])
        rwa [List.length_append, List.length_singleton, List.append_assoc pre,
          List.singleton_append] at h

/-! ## itoa -/

/-- `'-'`. -/
abbrev chMinus : Byte := 45

/-- `(digit < 10) ? ('0' + digit) : ('a' + digit - 10)`, for the `int` digit. -/
def itoaDigit (digit : BitVec 32) : Byte :=
  if digit.toInt < 10 then (48 + digit).setWidth 8 else (97 + digit - 10).setWidth 8

/-- The loop `while (uval > 0)`: append the digits of `uval` to `temp`, which has
room for `room` more. -/
def itoaLoop (base : BitVec 32) : ℕ → BitVec 32 → List Byte → Option (List Byte)
  | 0, uval, temp => if uval > 0 then none else some temp
  | room + 1, uval, temp =>
      if uval > 0 then itoaLoop base room (uval / base) (temp ++ [itoaDigit (uval % base)])
      else some temp

/-- `itoa`: the bytes stored from `str` on. -/
def itoa (value base : BitVec 32) : Option (List Byte) :=
  if base.toInt < 2 ∨ base.toInt > 36 then some [0]
  else do
    let uval := if base = 10 ∧ value.toInt < 0 then -value else value
    let temp : List Byte := if uval = 0 then [48] else []
    let temp ← itoaLoop base (33 - temp.length) uval temp
    let sign := if base = 10 ∧ value.toInt < 0 then [chMinus] else []
    return sign ++ temp.reverse ++ [0]

/-! ## What itoa writes -/

theorem itoaDigit_eq {d : BitVec 32} (hd : d.toNat < 36) : itoaDigit d = digitByte d.toNat := by
  have hint : d.toInt = d.toNat := BitVec.toInt_eq_toNat_of_lt (by omega)
  have hofNat : d = BitVec.ofNat 32 d.toNat := by simp
  rw [itoaDigit, hint]
  generalize d.toNat = k at hd hofNat ⊢
  subst hofNat
  interval_cases k <;> rfl

/-- A 32-bit word has at most 32 digits, in any base. -/
theorem length_numeral_word {b : ℕ} (hb : 2 ≤ b) (v : BitVec 32) : (numeral b v.toNat).length ≤ 32 := by
  apply length_numeral_le (by omega) (by omega)
  calc v.toNat < 2 ^ 32 := v.isLt
    _ ≤ b ^ 32 := Nat.pow_le_pow_left hb 32

/-- The loop appends the digits, least significant first. -/
theorem itoaLoop_eq {base : BitVec 32} (hb : 1 < base.toNat) (hb' : base.toNat ≤ 36) {room : ℕ}
    {uval : BitVec 32} (hroom : (Nat.digits base.toNat uval.toNat).length ≤ room) (temp : List Byte) :
    itoaLoop base room uval temp
      = some (temp ++ (Nat.digits base.toNat uval.toNat).map digitByte) := by
  induction room generalizing uval temp with
  | zero =>
      have hnil := List.eq_nil_of_length_eq_zero (Nat.le_zero.mp hroom)
      have hzero : uval.toNat = 0 := Nat.digits_eq_nil_iff_eq_zero.mp hnil
      rw [itoaLoop, if_neg (by bv_omega), hnil, List.map_nil, List.append_nil]
  | succ room ih =>
      rw [itoaLoop]
      by_cases hpos : uval > 0
      · have hpos' : 0 < uval.toNat := hpos
        have hmod : (uval % base).toNat = uval.toNat % base.toNat := BitVec.toNat_umod
        have hdiv : (uval / base).toNat = uval.toNat / base.toNat := BitVec.toNat_udiv
        have hlt : uval.toNat % base.toNat < base.toNat := Nat.mod_lt _ (by omega)
        rw [Nat.digits_def' hb hpos'] at hroom ⊢
        rw [List.length_cons] at hroom
        rw [if_pos hpos, ih (by rw [hdiv]; omega), itoaDigit_eq (by omega), hmod, hdiv,
          List.map_cons, List.append_assoc, List.singleton_append]
      · have hzero : uval.toNat = 0 := by bv_omega
        rw [if_neg hpos, hzero, Nat.digits_zero, List.map_nil, List.append_nil]

/-- `temp` holds the numeral, last digit first; it never needs more than 33 bytes. -/
theorem itoaLoop_numeral {base : BitVec 32} (hb : 2 ≤ base.toNat) (hb' : base.toNat ≤ 36)
    (uval : BitVec 32) :
    itoaLoop base (33 - (if uval = 0 then [48] else [] : List Byte).length) uval
        (if uval = 0 then [48] else [])
      = some (numeral base.toNat uval.toNat).reverse := by
  rw [numeral]
  by_cases hzero : uval = 0
  · subst hzero
    rfl
  · have hne : uval.toNat ≠ 0 := by bv_omega
    have hlen : (Nat.digits base.toNat uval.toNat).length ≤ 33 := by
      rw [Nat.digits_length_le_iff (by omega)]
      calc uval.toNat < 2 ^ 33 := by omega
        _ ≤ base.toNat ^ 33 := Nat.pow_le_pow_left hb 33
    rw [if_neg hzero, if_neg hne, List.length_nil, itoaLoop_eq (by omega) hb' hlen,
      List.nil_append, List.reverse_reverse]

/-- The magnitude of a negative number, the least one included: its negation wraps to
itself, which is its magnitude as an unsigned word. -/
theorem toNat_neg_of_neg {value : BitVec 32} (hneg : value.toInt < 0) :
    (-value).toNat = value.toInt.natAbs := by
  have hint := BitVec.toInt_eq_toNat_cond value
  rw [BitVec.toNat_neg]
  omega

/-- The text of a number: a sign for a negative decimal, the digits of the
magnitude. -/
def itoaText (value base : BitVec 32) : List Byte :=
  if base = 10 ∧ value.toInt < 0 then chMinus :: numeral 10 (-value).toNat
  else numeral base.toNat value.toNat

/-- **itoa writes the numeral and the terminator.** -/
theorem itoa_eq (value : BitVec 32) {base : BitVec 32} (hb : 2 ≤ base.toNat)
    (hb' : base.toNat ≤ 36) : itoa value base = some (itoaText value base ++ [0]) := by
  have hint : base.toInt = base.toNat := BitVec.toInt_eq_toNat_of_lt (by omega)
  rw [itoa, if_neg (by omega), itoaText]
  by_cases hneg : base = 10 ∧ value.toInt < 0
  · simp only [if_pos hneg, itoaLoop_numeral hb hb', Option.bind_eq_bind, Option.bind_some,
      List.reverse_reverse]
    rw [hneg.1]
    rfl
  · simp only [if_neg hneg, itoaLoop_numeral hb hb', Option.bind_eq_bind, Option.bind_some,
      List.reverse_reverse]
    rfl

end GridX64
