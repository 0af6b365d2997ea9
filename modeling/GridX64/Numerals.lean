/-
# Numerals

The text of a number in a base up to 36, with the digits `0-9a-z`, left padding
with zeros, and the reading of such a text as a number.  `numeral` is Mathlib's
`Nat.digits`, most significant digit first; `readNumeral_padLeft_numeral` is the
round trip, and `readInt_signed` is the one for a numeral behind an optional sign.
Nothing here mentions the program.
-/
import GridX64.ByteMemory
import Mathlib.Data.Nat.Digits.Lemmas

namespace GridX64

/-! ## Writing -/

/-- The character of a digit: `0`–`9`, then `a`–`z`. -/
def digitByte (d : ℕ) : Byte := if d < 10 then BitVec.ofNat 8 (48 + d) else BitVec.ofNat 8 (87 + d)

/-- `v` in base `b`, most significant digit first, at least one digit. -/
def numeral (b v : ℕ) : List Byte :=
  if v = 0 then [digitByte 0] else ((Nat.digits b v).map digitByte).reverse

/-- Pad with zeros on the left to at least `n` characters. -/
def padLeft (n : ℕ) (ds : List Byte) : List Byte :=
  List.replicate (n - ds.length) (digitByte 0) ++ ds

/-! ## Reading -/

/-- The value of a digit character. -/
def digitValue (c : Byte) : Option ℕ :=
  if 48 ≤ c.toNat ∧ c.toNat ≤ 57 then some (c.toNat - 48)
  else if 97 ≤ c.toNat ∧ c.toNat ≤ 122 then some (c.toNat - 87)
  else none

/-- Read digits of base `b` after a number `v`. -/
def readFrom (b : ℕ) : ℕ → List Byte → Option ℕ
  | v, [] => some v
  | v, c :: cs =>
      match digitValue c with
      | some d => if d < b then readFrom b (v * b + d) cs else none
      | none => none

/-- Read a numeral of base `b`. -/
def readNumeral (b : ℕ) (cs : List Byte) : Option ℕ :=
  if cs = [] then none else readFrom b 0 cs

/-! ## Digits -/

theorem digitValue_digitByte {d : ℕ} (hd : d < 36) : digitValue (digitByte d) = some d := by
  interval_cases d <;> rfl

/-- A digit is none of the characters below `'0'`: not NUL, a sign or a space. -/
theorem le_digitByte {d : ℕ} (hd : d < 36) : 48 ≤ (digitByte d).toNat := by
  interval_cases d <;> decide

/-- Every character of a numeral is a digit of its base. -/
theorem mem_numeral {b v : ℕ} (hb : 1 < b) {c : Byte} (hc : c ∈ numeral b v) :
    ∃ d < b, c = digitByte d := by
  rw [numeral] at hc
  split_ifs at hc
  · exact ⟨0, by omega, List.mem_singleton.mp hc⟩
  · rw [List.mem_reverse, List.mem_map] at hc
    obtain ⟨d, hd, rfl⟩ := hc
    exact ⟨d, Nat.digits_lt_base hb hd, rfl⟩

/-- A numeral contains no NUL. -/
theorem zero_notMem_numeral {b v : ℕ} (hb : 1 < b) (hb' : b ≤ 36) : 0 ∉ numeral b v := by
  intro h
  obtain ⟨d, hd, h0⟩ := mem_numeral hb h
  have hle := le_digitByte (show d < 36 by omega)
  rw [← h0] at hle
  exact absurd hle (by decide)

theorem mem_padLeft {n : ℕ} {ds : List Byte} {c : Byte} (hc : c ∈ padLeft n ds) :
    c = digitByte 0 ∨ c ∈ ds := by
  rw [padLeft, List.mem_append] at hc
  exact hc.imp List.eq_of_mem_replicate id

theorem numeral_ne_nil (b v : ℕ) : numeral b v ≠ [] := by
  rw [numeral]
  split_ifs with hv
  · exact List.cons_ne_nil _ _
  · rw [Ne, List.reverse_eq_nil_iff, List.map_eq_nil_iff, Nat.digits_eq_nil_iff_eq_zero]
    exact hv

/-- A number below `b ^ k` has at most `k` digits. -/
theorem length_numeral_le {b v k : ℕ} (hb : 1 < b) (hk : 0 < k) (hv : v < b ^ k) :
    (numeral b v).length ≤ k := by
  rw [numeral]
  split_ifs
  · exact hk
  · rw [List.length_reverse, List.length_map, Nat.digits_length_le_iff hb]
    exact hv

/-! ## Round trip -/

theorem readFrom_append (b v : ℕ) (xs ys : List Byte) :
    readFrom b v (xs ++ ys) = (readFrom b v xs).bind (fun w => readFrom b w ys) := by
  induction xs generalizing v with
  | nil => rfl
  | cons c cs ih =>
      rw [List.cons_append, readFrom, readFrom]
      cases digitValue c with
      | none => rfl
      | some d =>
          simp only
          split_ifs
          · exact ih _
          · rfl

/-- Reading the digits of a number after `v`. -/
theorem readFrom_digits {b : ℕ} (hb : b ≤ 36) (v : ℕ) {ds : List ℕ} (hds : ∀ d ∈ ds, d < b) :
    readFrom b v (ds.map digitByte).reverse = some (v * b ^ ds.length + Nat.ofDigits b ds) := by
  induction ds with
  | nil => simp [readFrom]
  | cons d ds ih =>
      have hd : d < b := hds d List.mem_cons_self
      have htail := ih (fun e he => hds e (List.mem_cons_of_mem d he))
      rw [List.map_cons, List.reverse_cons, readFrom_append, htail, Option.bind_some, readFrom,
        digitValue_digitByte (by omega)]
      simp only [hd, if_true, readFrom]
      rw [Nat.ofDigits_cons, List.length_cons, pow_succ]
      congr 1
      ring

/-- Leading zeros do not change the number read. -/
theorem readFrom_zeros {b : ℕ} (hb : 0 < b) (n : ℕ) (cs : List Byte) :
    readFrom b 0 (List.replicate n (digitByte 0) ++ cs) = readFrom b 0 cs := by
  induction n with
  | zero => rfl
  | succ n ih =>
      rw [List.replicate_succ, List.cons_append, readFrom, digitValue_digitByte (by omega)]
      simpa only [hb, if_true, Nat.zero_mul, Nat.add_zero] using ih

/-- **A padded numeral reads back as the number.** -/
theorem readNumeral_padLeft_numeral {b : ℕ} (hb : 1 < b) (hb' : b ≤ 36) (n v : ℕ) :
    readNumeral b (padLeft n (numeral b v)) = some v := by
  have hne : padLeft n (numeral b v) ≠ [] :=
    List.append_ne_nil_of_right_ne_nil _ (numeral_ne_nil b v)
  rw [readNumeral, if_neg hne, padLeft, readFrom_zeros (by omega), numeral]
  split_ifs with hv
  · rw [hv, readFrom, digitValue_digitByte (by omega)]
    simp only [show 0 < b by omega, if_true, Nat.zero_mul, Nat.add_zero, readFrom]
  · rw [readFrom_digits hb' 0 (fun d hd => Nat.digits_lt_base hb hd), Nat.ofDigits_digits,
      Nat.zero_mul, Nat.zero_add]

/-- A numeral has no leading zero, apart from that of zero. -/
theorem numeral_head_zero {b v : ℕ} (hb : 1 < b) (hb' : b ≤ 36)
    (h : (numeral b v).head? = some (digitByte 0)) : numeral b v = [digitByte 0] := by
  by_cases hv : v = 0
  · rw [numeral, if_pos hv]
  · -- the head is the most significant digit
    have hne : Nat.digits b v ≠ [] := Nat.digits_ne_nil_iff_ne_zero.mpr hv
    have hlast : (Nat.digits b v).getLast hne ≠ 0 := Nat.getLast_digit_ne_zero b hv
    have hlt : (Nat.digits b v).getLast hne < b := Nat.digits_lt_base hb (List.getLast_mem hne)
    rw [numeral, if_neg hv, List.head?_reverse, List.getLast?_map, List.getLast?_eq_some_getLast hne,
      Option.map_some, Option.some.injEq] at h
    have hvalue := congrArg digitValue h
    rw [digitValue_digitByte (by omega), digitValue_digitByte (by omega), Option.some.injEq] at hvalue
    exact absurd hvalue hlast

/-! ## Signs -/

/-- `'-'`. -/
abbrev minusByte : Byte := 45

theorem digitByte_ne_minus {d : ℕ} (hd : d < 36) : digitByte d ≠ minusByte := by
  intro h
  have hle := le_digitByte hd
  rw [h] at hle
  exact absurd hle (by decide)

/-- Read a numeral of base `b` behind an optional sign. -/
def readInt (b : ℕ) : List Byte → Option ℤ
  | [] => none
  | c :: cs =>
      if c = minusByte then (readNumeral b cs).map (fun n => -(n : ℤ))
      else (readNumeral b (c :: cs)).map (fun n => (n : ℤ))

/-- A padded numeral behind an optional sign. -/
def signed (negative : Bool) (n b v : ℕ) : List Byte :=
  (if negative then [minusByte] else []) ++ padLeft n (numeral b v)

/-- Every character of a padded numeral is a digit of its base. -/
theorem mem_padLeft_numeral {b v n : ℕ} (hb : 1 < b) {c : Byte} (hc : c ∈ padLeft n (numeral b v)) :
    ∃ d < b, c = digitByte d := by
  rcases mem_padLeft hc with hzero | hdigit
  · exact ⟨0, by omega, hzero⟩
  · exact mem_numeral hb hdigit

/-- **A signed numeral reads back as the number.** -/
theorem readInt_signed {b : ℕ} (hb : 1 < b) (hb' : b ≤ 36) (negative : Bool) (n v : ℕ) :
    readInt b (signed negative n b v) = some (if negative then -(v : ℤ) else v) := by
  have hread := readNumeral_padLeft_numeral hb hb' n v
  rw [signed]
  cases negative with
  | true =>
      rw [if_pos rfl, if_pos rfl, List.singleton_append, readInt, if_pos rfl, hread]
      rfl
  | false =>
      rcases hpad : padLeft n (numeral b v) with _ | ⟨c, cs⟩
      · rw [hpad] at hread
        exact absurd hread (by simp [readNumeral])
      · -- the first digit is not a sign
        obtain ⟨d, hd, hc⟩ := mem_padLeft_numeral (n := n) hb (hpad ▸ List.mem_cons_self)
        have hdigit : c ≠ minusByte := by
          rw [hc]
          exact digitByte_ne_minus (by omega)
        rw [hpad] at hread
        show readInt b (c :: cs) = _
        rw [readInt, if_neg hdigit, hread]
        rfl

end GridX64
