/-
# itoa as an encoder

`itoa` writes a canonical text, from which the number can be read back, so different
numbers have different texts.

* `Canonical` — what the text of a number is made of, how long it is, and what it reads
  back as;
* `itoa_canonical` — in every base from 2 to 36 every number has such a text, and no two
  numbers have the same.
-/
import GridX64.LibString

namespace GridX64

/-! ## The parts of itoa -/

/-- What `itoa` leaves in `temp`: the digits, last digit first. -/
def itoaTemp (value base : BitVec 32) : Option (List Byte) :=
  let uval := if base = 10 ∧ value.toInt < 0 then -value else value
  let temp : List Byte := if uval = 0 then [48] else []
  itoaLoop base (33 - temp.length) uval temp

/-- The sign that `itoa` stores. -/
def itoaSign (value base : BitVec 32) : List Byte :=
  if base = 10 ∧ value.toInt < 0 then [chMinus] else []

/-- The number that the text of `itoa` stands for: the `int` in base 10, the unsigned
word in the others. -/
def itoaValue (value base : BitVec 32) : ℤ := if base = 10 then value.toInt else value.toNat

/-- `itoa` stores the sign, the digits of `temp` from the last to the first, and the
terminator. -/
theorem itoa_eq_temp {value base : BitVec 32} (hbase : ¬ (base.toInt < 2 ∨ base.toInt > 36)) :
    itoa value base
      = (itoaTemp value base).map (fun temp => itoaSign value base ++ temp.reverse ++ [0]) := by
  rw [itoa, if_neg hbase, Option.map_eq_bind]
  rfl

/-! ## The text -/

/-- The text of a number consists of the sign and `digits`: at most 32 bytes of `temp`
and 33 of `str` are written, the only NUL is the last byte, the digits are digits of the
base without a leading zero, and the text reads back as the number. -/
structure Canonical (value base : BitVec 32) (digits : List Byte) : Prop where
  temp : itoaTemp value base = some digits.reverse
  temp_le : digits.reverse.length ≤ 32
  str : itoa value base = some (itoaSign value base ++ digits ++ [0])
  str_le : (itoaSign value base ++ digits ++ [0]).length ≤ 33
  terminated : 0 ∉ itoaSign value base ++ digits
  below : ∀ c ∈ digits, ∃ d < base.toNat, c = digitByte d
  nonempty : digits ≠ []
  leading : digits.head? = some (digitByte 0) → digits = [digitByte 0]
  reads : readInt base.toNat (itoaSign value base ++ digits) = some (itoaValue value base)

/-- The magnitude of which `itoa` writes the digits. -/
def itoaMagnitude (value base : BitVec 32) : ℕ :=
  if base = 10 ∧ value.toInt < 0 then (-value).toNat else value.toNat

section Base

variable {base : BitVec 32}

/-- The sign and the magnitude are those of the number. -/
theorem itoaValue_eq (value base : BitVec 32) :
    (if base = 10 ∧ value.toInt < 0 then -(itoaMagnitude value base : ℤ)
      else itoaMagnitude value base) = itoaValue value base := by
  have hint := BitVec.toInt_eq_toNat_cond value
  rw [itoaMagnitude, itoaValue]
  by_cases hten : base = 10
  · by_cases hneg : value.toInt < 0
    · rw [if_pos ⟨hten, hneg⟩, if_pos ⟨hten, hneg⟩, if_pos hten, toNat_neg_of_neg hneg]
      omega
    · rw [if_neg (fun h => hneg h.2), if_neg (fun h => hneg h.2), if_pos hten]
      omega
  · rw [if_neg (fun h => hten h.1), if_neg (fun h => hten h.1), if_neg hten]

/-- `temp` holds the numeral of the magnitude. -/
theorem itoaTemp_eq (value : BitVec 32) (hb : 2 ≤ base.toNat) (hb' : base.toNat ≤ 36) :
    itoaTemp value base = some (numeral base.toNat (itoaMagnitude value base)).reverse := by
  rw [itoaTemp, itoaLoop_numeral hb hb', itoaMagnitude]
  split_ifs <;> rfl

/-- The text in `str` without the terminator. -/
theorem itoa_text (value : BitVec 32) (base : BitVec 32) :
    itoaSign value base ++ numeral base.toNat (itoaMagnitude value base)
      = signed (decide (base = 10 ∧ value.toInt < 0)) 0 base.toNat (itoaMagnitude value base) := by
  rw [itoaSign, signed, padLeft, Nat.zero_sub, List.replicate_zero, List.nil_append]
  by_cases hneg : base = 10 ∧ value.toInt < 0
  · rw [if_pos hneg, decide_eq_true hneg, if_pos rfl]
  · rw [if_neg hneg, decide_eq_false hneg, if_neg (by decide)]

/-- The magnitude has at most 32 digits, and at most 31 behind a sign. -/
theorem length_numeral_magnitude (value : BitVec 32) (hb : 2 ≤ base.toNat) :
    (itoaSign value base).length + (numeral base.toNat (itoaMagnitude value base)).length ≤ 32 := by
  rw [itoaSign, itoaMagnitude]
  by_cases hneg : base = 10 ∧ value.toInt < 0
  · have hlen : (numeral 10 (-value).toNat).length ≤ 10 :=
      length_numeral_le (by omega) (by omega) (by omega)
    rw [if_pos hneg, if_pos hneg, hneg.1]
    show 1 + (numeral 10 (-value).toNat).length ≤ 32
    omega
  · have hlen := length_numeral_word hb value
    rw [if_neg hneg, if_neg hneg, List.length_nil]
    omega

/-- Every number has a canonical text. -/
theorem canonical_numeral (value : BitVec 32) (hb : 2 ≤ base.toNat) (hb' : base.toNat ≤ 36) :
    Canonical value base (numeral base.toNat (itoaMagnitude value base)) := by
  have hint : base.toInt = base.toNat := BitVec.toInt_eq_toNat_of_lt (by omega)
  have htemp := itoaTemp_eq value hb hb'
  have hlen := length_numeral_magnitude value hb
  constructor
  · exact htemp
  · rw [List.length_reverse]
    omega
  · rw [itoa_eq_temp (by omega), htemp, Option.map_some, List.reverse_reverse]
  · rw [List.length_append, List.length_append, List.length_singleton]
    omega
  · intro hnul
    rcases List.mem_append.mp hnul with hsign | hdigit
    · rw [itoaSign] at hsign
      split_ifs at hsign
      · exact absurd (List.mem_singleton.mp hsign) (by decide)
      · exact absurd hsign List.not_mem_nil
    · exact zero_notMem_numeral (by omega) hb' hdigit
  · intro c hc
    exact mem_numeral (by omega) hc
  · exact numeral_ne_nil _ _
  · exact numeral_head_zero (by omega) hb'
  · rw [itoa_text, readInt_signed (by omega) hb', ← itoaValue_eq]
    simp only [decide_eq_true_eq]

end Base

/-- **`itoa` is an exact, bounded and canonical encoder**: in every base from 2 to 36
every number has a canonical text, and different numbers have different texts. -/
theorem itoa_canonical (base : BitVec 32) (hb : 2 ≤ base.toNat) (hb' : base.toNat ≤ 36) :
    (∀ value, ∃ digits, Canonical value base digits) ∧
      Function.Injective (fun value => itoa value base) := by
  constructor
  · intro value
    exact ⟨_, canonical_numeral value hb hb'⟩
  · intro v w hvw
    -- the same text reads back as one number
    have hv := canonical_numeral v hb hb'
    have hw := canonical_numeral w hb hb'
    have htext : itoa v base = itoa w base := hvw
    rw [hv.str, hw.str, Option.some.injEq] at htext
    have hread := hv.reads
    rw [List.append_cancel_right htext, hw.reads, Option.some.injEq, itoaValue, itoaValue] at hread
    split_ifs at hread
    · exact (BitVec.toInt_inj.mp hread).symm
    · exact (BitVec.toNat_inj.mp (Int.ofNat_inj.mp hread)).symm

/-- Base 10, in which the least number has a text of its own. -/
theorem itoa_canonical_decimal :
    (∃ digits, Canonical 0x80000000 10 digits) ∧ itoa 0x80000000 10 ≠ itoa 0x7FFFFFFF 10 := by
  have h := itoa_canonical 10 (by decide) (by decide)
  exact ⟨h.1 0x80000000, h.2.ne (by decide)⟩

end GridX64
