/-
# The field width of a number

A field of `N` characters holds the text of a number padded to `N` characters, sign
included.  `print_number` pads the digits instead, after it has printed the sign, so a
negative number with fewer digits than `N` comes out one character too wide.

* `Emits` — what `console_printf` prints for one argument;
* `respectsWidth_decimal_iff`, `respectsWidth_hex` — `%Nd` and `%Nx`;
* `field_width_iff` — the numbers and widths for which the width is respected.
-/
import GridX64.PrintfExpand

namespace GridX64

/-! ## Lengths -/

theorem length_padLeft (n : ℕ) (ds : List Byte) : (padLeft n ds).length = max n ds.length := by
  rw [padLeft, List.length_append, List.length_replicate]
  omega

theorem length_signed (negative : Bool) (n b v : ℕ) :
    (signed negative n b v).length = negative.toNat + max n (numeral b v).length := by
  rw [signed, List.length_append, length_padLeft]
  cases negative <;> rfl

/-- Padding behind a sign is padding of the whole text, unless there are a sign and
fewer digits than the field is wide. -/
theorem length_signed_eq_iff (negative : Bool) (n b v : ℕ) :
    (signed negative n b v).length = max n (signed negative 0 b v).length
      ↔ ¬ (negative = true ∧ (numeral b v).length < n) := by
  rw [length_signed, length_signed]
  cases negative with
  | true => simp only [Bool.toNat_true, true_and]; omega
  | false => simp only [Bool.toNat_false]; simp

/-! ## What a directive emits -/

namespace FormatItem

theorem decimal_isSpec : (100 : Byte) ≠ 0 ∧ ¬ IsDigitChar 100 := by decide

theorem hex_isSpec : (120 : Byte) ≠ 0 ∧ ¬ IsDigitChar 120 := by decide

/-- `%Nd`, the width given by its digits. -/
def decimalField (digits : List (Fin 10)) (hwidth : fieldWidth digits < 2 ^ 31) : FormatItem :=
  directive digits 100 hwidth decimal_isSpec

/-- `%Nx`. -/
def hexField (digits : List (Fin 10)) (hwidth : fieldWidth digits < 2 ^ 31) : FormatItem :=
  directive digits 120 hwidth hex_isSpec

/-- `%x`. -/
def hexPlain : FormatItem := bare 120 hex_isSpec

theorem decimalText_eq_signed (n : ℕ) (v : BitVec 32) :
    decimalText n v = signed (decide (v.toInt < 0)) n 10 v.toInt.natAbs := by
  rw [decimalText, signed]
  by_cases hneg : v.toInt < 0
  · rw [if_pos hneg, decide_eq_true hneg, if_pos rfl]
  · rw [if_neg hneg, decide_eq_false hneg, if_neg (by decide)]

theorem hexText_eq_signed (n : ℕ) (v : BitVec 32) : hexText n v = signed false n 16 v.toNat := rfl

end FormatItem

/-- `console_printf` with the format at `p` and one argument prints `text`. -/
def Emits (rd : ℕ → Option Byte) (p : ℕ) (a : BitVec 64) (text : List Byte) : Prop :=
  ∃ N, ∀ fuel ≥ N,
    (consolePrintf rd record fuel { fmt := p, args := [a], sink := [] }).map PrintfState.sink
      = some text

section Emits

variable {rd : ℕ → Option Byte} {p q : ℕ} {a : BitVec 64}

/-- It prints one text. -/
theorem Emits.unique {text text' : List Byte} (h : Emits rd p a text) (h' : Emits rd p a text') :
    text = text' := by
  obtain ⟨N, hN⟩ := h
  obtain ⟨N', hN'⟩ := h'
  have hboth := (hN (max N N') (le_max_left N N')).symm.trans (hN' (max N N') (le_max_right N N'))
  exact Option.some.inj hboth

theorem emits_item {item : FormatItem} (hitem : item.argKind = some .int)
    (hfmt : StringAt rd p item.bytes) : Emits rd p a (item.expand (.int a)) := by
  have hargs : ArgsFor rd [item] [.int a] := by
    simp only [ArgsFor, hitem]
    exact ⟨trivial, trivial⟩
  have hbytes : formatBytes [item] = item.bytes := List.append_nil _
  obtain ⟨N, hN⟩ := consolePrintf_items record [item] hargs (by rw [hbytes]; exact hfmt) [] []
  refine ⟨N, fun fuel hfuel => ?_⟩
  have hrun := hN fuel hfuel
  simp only [expandAll, hitem, List.append_nil, run_record, List.nil_append] at hrun
  exact congrArg (Option.map PrintfState.sink) hrun

/-- The text of the format at `p` has as many characters as the field is wide, or as the
text of the format at `q` if that is longer, and reads back as `v`. -/
def RespectsWidth (rd : ℕ → Option Byte) (p q : ℕ) (a : BitVec 64) (n base : ℕ) (v : ℤ) : Prop :=
  ∃ text bare, Emits rd p a text ∧ Emits rd q a bare ∧ text.length = max n bare.length ∧
    readInt base text = some v

theorem respectsWidth_iff {text bare : List Byte} (htext : Emits rd p a text)
    (hbare : Emits rd q a bare) {n base : ℕ} {v : ℤ} (hread : readInt base text = some v) :
    RespectsWidth rd p q a n base v ↔ text.length = max n bare.length := by
  constructor
  · rintro ⟨text', bare', htext', hbare', hlen, -⟩
    rw [htext.unique htext', hbare.unique hbare']
    exact hlen
  · intro hlen
    exact ⟨text, bare, htext, hbare, hlen, hread⟩

/-- **`%Nd` respects its width** unless the number is negative and has fewer digits. -/
theorem respectsWidth_decimal_iff {digits : List (Fin 10)} {hwidth : fieldWidth digits < 2 ^ 31}
    (hfmt : StringAt rd p (FormatItem.decimalField digits hwidth).bytes)
    (hbare : StringAt rd q FormatItem.decimal.bytes) :
    RespectsWidth rd p q a (fieldWidth digits) 10 (a.setWidth 32).toInt
      ↔ ¬ ((a.setWidth 32).toInt < 0 ∧
          (numeral 10 (a.setWidth 32).toInt.natAbs).length < fieldWidth digits) := by
  have htext : Emits rd p a (FormatItem.decimalText (fieldWidth digits) (a.setWidth 32)) :=
    emits_item rfl hfmt
  have hplain : Emits rd q a (FormatItem.decimalText 0 (a.setWidth 32)) := emits_item rfl hbare
  rw [FormatItem.decimalText_eq_signed] at htext hplain
  have hread := readInt_signed (b := 10) (by omega) (by omega) (decide ((a.setWidth 32).toInt < 0))
    (fieldWidth digits) (a.setWidth 32).toInt.natAbs
  have hvalue : (if decide ((a.setWidth 32).toInt < 0) then -((a.setWidth 32).toInt.natAbs : ℤ)
      else (a.setWidth 32).toInt.natAbs) = (a.setWidth 32).toInt := by
    by_cases hneg : (a.setWidth 32).toInt < 0
    · rw [if_pos (decide_eq_true hneg)]
      omega
    · rw [if_neg (by simpa using hneg)]
      omega
  rw [hvalue] at hread
  rw [respectsWidth_iff htext hplain hread, length_signed_eq_iff, decide_eq_true_iff]

/-- **`%Nx` respects its width**: there is no sign in front of the digits. -/
theorem respectsWidth_hex {digits : List (Fin 10)} {hwidth : fieldWidth digits < 2 ^ 31}
    (hfmt : StringAt rd p (FormatItem.hexField digits hwidth).bytes)
    (hbare : StringAt rd q FormatItem.hexPlain.bytes) :
    RespectsWidth rd p q a (fieldWidth digits) 16 (a.setWidth 32).toNat := by
  have htext : Emits rd p a (FormatItem.hexText (fieldWidth digits) (a.setWidth 32)) :=
    emits_item rfl hfmt
  have hplain : Emits rd q a (FormatItem.hexText 0 (a.setWidth 32)) := emits_item rfl hbare
  rw [FormatItem.hexText_eq_signed] at htext hplain
  have hread := readInt_signed (b := 16) (by omega) (by omega) false (fieldWidth digits)
    (a.setWidth 32).toNat
  rw [if_neg Bool.false_ne_true] at hread
  rw [respectsWidth_iff htext hplain hread, length_signed_eq_iff]
  rintro ⟨hsign, -⟩
  exact absurd hsign (by decide)

/-- **The field width is respected** in both directives exactly when the number is not
negative or fills the field with its digits. -/
theorem field_width_iff (rd : ℕ → Option Byte) (digits : List (Fin 10))
    (hwidth : fieldWidth digits < 2 ^ 31) (p q p' q' : ℕ)
    (hd : StringAt rd p (FormatItem.decimalField digits hwidth).bytes)
    (hdbare : StringAt rd q FormatItem.decimal.bytes)
    (hx : StringAt rd p' (FormatItem.hexField digits hwidth).bytes)
    (hxbare : StringAt rd q' FormatItem.hexPlain.bytes) (a : BitVec 64) :
    (RespectsWidth rd p q a (fieldWidth digits) 10 (a.setWidth 32).toInt ∧
        RespectsWidth rd p' q' a (fieldWidth digits) 16 (a.setWidth 32).toNat)
      ↔ 0 ≤ (a.setWidth 32).toInt ∨
          fieldWidth digits ≤ (numeral 10 (a.setWidth 32).toInt.natAbs).length := by
  rw [and_iff_left (respectsWidth_hex hx hxbare), respectsWidth_decimal_iff hd hdbare]
  omega

end Emits

/-- The formats `"%3d"`, `"%d"`, `"%3x"` and `"%x"`. -/
def fieldFormats : ℕ → Option Byte :=
  ofBytes (chars "%3d" ++ [0] ++ chars "%d" ++ [0] ++ chars "%3x" ++ [0] ++ chars "%x" ++ [0])

/-- `-123` fills a field of three digits. -/
theorem field_width_minus_123 :
    RespectsWidth fieldFormats 0 4 (BitVec.ofInt 64 (-123)) (fieldWidth [3]) 10 (-123) :=
  ((field_width_iff fieldFormats [3] (by decide) 0 4 7 11 (by decide) (by decide) (by decide)
    (by decide) (BitVec.ofInt 64 (-123))).mpr (Or.inr (by decide))).1

/-- `"%3d"` prints `-7` as `"-007"`. -/
theorem field_width_minus_7 :
    (consolePrintf fieldFormats record 9
        { fmt := 0, args := [BitVec.ofInt 64 (-7)], sink := [] }).map PrintfState.sink
        = some (chars "-007") ∧
      ¬ ∀ (rd : ℕ → Option Byte) (digits : List (Fin 10)) (hwidth : fieldWidth digits < 2 ^ 31)
        (p q : ℕ) (a : BitVec 64), StringAt rd p (FormatItem.decimalField digits hwidth).bytes →
        StringAt rd q FormatItem.decimal.bytes →
        RespectsWidth rd p q a (fieldWidth digits) 10 (a.setWidth 32).toInt := by
  constructor
  · decide +kernel
  · intro h
    have hfmt : StringAt fieldFormats 0 (FormatItem.decimalField [3] (by decide)).bytes := by decide
    have hbare : StringAt fieldFormats 4 FormatItem.decimal.bytes := by decide
    have hrespects := h fieldFormats [3] (by decide) 0 4 (BitVec.ofInt 64 (-7)) hfmt hbare
    exact absurd ((respectsWidth_decimal_iff hfmt hbare).mp hrespects) (by decide)

end GridX64
