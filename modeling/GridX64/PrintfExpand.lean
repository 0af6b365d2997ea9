/-
# console_printf emits the expansion of its format

One lemma for each function: the characters that `console_puts`, `print_number`,
the width loop and the `switch` pass to `console_putc`, as `run putc` over a list.
`consolePrintf_items` puts them together by induction on the items of the format.
-/
import GridX64.Printf

namespace GridX64

variable {σ : Type} {rd : ℕ → Option Byte} {putc : σ → Byte → σ}

/-! ## Strings and numbers -/

theorem consolePuts_eq {p : ℕ} {bs : List Byte} (h : StringAt rd p bs) {fuel : ℕ}
    (hfuel : bs.length < fuel) (s : σ) :
    consolePuts rd putc fuel p s = some (run putc s bs) := by
  induction bs generalizing p fuel s with
  | nil =>
      obtain ⟨fuel, rfl⟩ := Nat.exists_eq_succ_of_ne_zero (Nat.ne_of_gt hfuel)
      have h0 : rd p = some 0 := h
      simp [consolePuts, h0]
  | cons b bs ih =>
      obtain ⟨fuel, rfl⟩ := Nat.exists_eq_succ_of_ne_zero (show fuel ≠ 0 by omega)
      obtain ⟨hb, hne, hrest⟩ := h
      rw [List.length_cons] at hfuel
      have hrec := ih hrest (show bs.length < fuel by omega) (putc s b)
      simp only [consolePuts, hb, Option.bind_eq_bind, Option.bind_some, if_neg hne, hrec, run_cons]

/-- The padding loops print zeros. -/
theorem forUp_putc (putc : σ → Byte → σ) (n : ℕ) (c : Byte) (s : σ) :
    forUp n (fun _ s => putc s c) s = run putc s (List.replicate n c) := by
  induction n with
  | zero => rfl
  | succ n ih => rw [forUp, ih, List.replicate_succ', run_append, run_cons, run_nil]

/-- Padding and printing the digits that end the buffer. -/
theorem printDigits (putc : σ → Byte → σ) (pre : List Byte) {ds : List Byte} (hds : 0 ∉ ds) (hlen : ds.length < 33)
    (width : BitVec 32) {n : ℕ} (hwidth : width.toInt.toNat = n) (s : σ) :
    (do
      let len ← strlen (ofBytes (pre ++ ds ++ [0])) 33 pre.length
      let s := forUp (width.toInt - len).toNat (fun _ s => putc s chZero) s
      consolePuts (ofBytes (pre ++ ds ++ [0])) putc 33 pre.length s)
      = some (run putc s (padLeft n ds)) := by
  have hstr := stringAt_ofBytes hds pre
  have hpad : (width.toInt - (ds.length : ℤ)).toNat = n - ds.length := by omega
  rw [strlen_eq hstr hlen]
  simp only [Option.bind_eq_bind, Option.bind_some]
  rw [hpad, forUp_putc, consolePuts_eq hstr hlen, ← run_append]
  rfl

/-- The first character of a numeral is not a sign. -/
theorem numeral_head {b v : ℕ} (hb : 1 < b) (hb' : b ≤ 36) :
    ∃ c, ofBytes (numeral b v ++ [0]) 0 = some c ∧ c ≠ chMinus := by
  obtain ⟨c, cs, hcs⟩ := List.exists_cons_of_ne_nil (numeral_ne_nil b v)
  refine ⟨c, by rw [hcs]; rfl, ?_⟩
  obtain ⟨d, hd, hc⟩ := mem_numeral (b := b) (v := v) hb (hcs ▸ List.mem_cons_self)
  rw [hc]
  exact digitByte_ne_minus (by omega)

/-- **`print_number`**: the sign of a negative decimal, then the digits of the magnitude
padded with zeros. -/
theorem printNumber_eq (value base : BitVec 32) {width : BitVec 32} {n : ℕ}
    (hb : 2 ≤ base.toNat) (hb' : base.toNat ≤ 36) (hwidth : width.toInt.toNat = n) (s : σ) :
    printNumber putc value base width s
      = some (run putc s (if base = 10 ∧ value.toInt < 0
          then chMinus :: padLeft n (numeral 10 (-value).toNat)
          else padLeft n (numeral base.toNat value.toNat))) := by
  rw [printNumber, itoa_eq value hb hb', Option.bind_eq_bind, Option.bind_some, itoaText]
  by_cases hneg : base = 10 ∧ value.toInt < 0
  · have hlen : (numeral 10 (-value).toNat).length < 33 :=
      Nat.lt_succ_of_le (length_numeral_word (by omega) (-value))
    have hnul : 0 ∉ numeral 10 (-value).toNat := zero_notMem_numeral (by omega) (by omega)
    have hprint := printDigits putc [chMinus] hnul hlen width hwidth
      (putc s chMinus)
    rw [if_pos hneg, if_pos hneg, run_cons]
    exact hprint
  · have hlen : (numeral base.toNat value.toNat).length < 33 :=
      Nat.lt_succ_of_le (length_numeral_word hb value)
    have hnul : 0 ∉ numeral base.toNat value.toNat := zero_notMem_numeral (by omega) hb'
    have hprint := printDigits putc [] hnul hlen width hwidth s
    obtain ⟨c, hc, hminus⟩ := numeral_head (b := base.toNat) (v := value.toNat) (by omega) hb'
    rw [if_neg hneg, if_neg hneg, hc, Option.bind_eq_bind, Option.bind_some, if_neg hminus]
    exact hprint

theorem printNumber_decimal (putc : σ → Byte → σ) (value : BitVec 32) {width : BitVec 32} {n : ℕ}
    (hwidth : width.toInt.toNat = n) (s : σ) :
    printNumber putc value 10 width s = some (run putc s (FormatItem.decimalText n value)) := by
  rw [printNumber_eq value 10 (by decide) (by decide) hwidth s, FormatItem.decimalText]
  have hint := BitVec.toInt_eq_toNat_cond value
  by_cases hneg : value.toInt < 0
  · rw [if_pos ⟨rfl, hneg⟩, if_pos hneg, toNat_neg_of_neg hneg, List.singleton_append]
  · have hmag : value.toNat = value.toInt.natAbs := by omega
    rw [if_neg (fun h => hneg h.2), if_neg hneg, hmag, List.nil_append]
    rfl

theorem printNumber_hex (putc : σ → Byte → σ) (value : BitVec 32) {width : BitVec 32} {n : ℕ}
    (hwidth : width.toInt.toNat = n) (s : σ) :
    printNumber putc value 16 width s = some (run putc s (FormatItem.hexText n value)) := by
  rw [printNumber_eq value 16 (by decide) (by decide) hwidth s,
    if_neg (fun h => absurd h.1 (by decide))]
  rfl

/-! ## Field widths -/

theorem isDigitChar_digitByte (d : Fin 10) : IsDigitChar (digitByte d.val) := by
  revert d
  decide

/-- One digit of the field width, in 32-bit arithmetic. -/
theorem width_step (n : ℕ) (d : Fin 10) :
    BitVec.ofNat 32 n * 10 + BitVec.ofInt 32 ((digitByte d.val).toInt - 48)
      = BitVec.ofNat 32 (n * 10 + d.val) := by
  have hd : BitVec.ofInt 32 ((digitByte d.val).toInt - 48) = BitVec.ofNat 32 d.val := by
    revert d
    decide
  rw [hd, BitVec.ofNat_add, BitVec.ofNat_mul]
  rfl

/-- Two strings one after the other. -/
theorem StringAt.append {p : ℕ} {as bs : List Byte} (h : StringAt rd p (as ++ bs)) :
    StringAt rd (p + as.length) bs := by
  induction as generalizing p with
  | nil => exact h
  | cons a as ih =>
      rw [List.length_cons, show p + (as.length + 1) = p + 1 + as.length by omega]
      exact ih h.2.2

/-- The width loop reads the digits and stops at the specifier. -/
theorem scanWidth_eq {p : ℕ} {digits : List (Fin 10)} {spec : Byte} {rest : List Byte}
    (h : StringAt rd p (digits.map (fun d : Fin 10 => digitByte d.val) ++ spec :: rest))
    (hspec : ¬ IsDigitChar spec) {fuel : ℕ} (hfuel : digits.length < fuel) (n : ℕ) :
    scanWidth rd fuel p (BitVec.ofNat 32 n)
      = some (BitVec.ofNat 32 (digits.foldl (fun n (d : Fin 10) => n * 10 + d.val) n), p + digits.length) := by
  induction digits generalizing p fuel n with
  | nil =>
      obtain ⟨fuel, rfl⟩ := Nat.exists_eq_succ_of_ne_zero (Nat.ne_of_gt hfuel)
      have h0 : rd p = some spec := h.1
      simp only [scanWidth, h0, Option.bind_eq_bind, Option.bind_some, if_neg hspec]
      rfl
  | cons d digits ih =>
      obtain ⟨fuel, rfl⟩ := Nat.exists_eq_succ_of_ne_zero (show fuel ≠ 0 by omega)
      obtain ⟨hd, -, hrest⟩ := h
      rw [List.length_cons] at hfuel
      have hrec := ih hrest (show digits.length < fuel by omega) (n * 10 + d.val)
      simp only [scanWidth, hd, Option.bind_eq_bind, Option.bind_some,
        if_pos (isDigitChar_digitByte d), width_step, hrec, List.foldl_cons, List.length_cons]
      rw [show p + 1 + digits.length = p + (digits.length + 1) by omega]

/-! ## Directives -/

section Directive

variable {digits : List (Fin 10)} {spec : Byte} {hwidth : fieldWidth digits < 2 ^ 31}
  {hspec : spec ≠ 0 ∧ ¬ IsDigitChar spec}

/-- The `switch` on a specifier that consumes no argument. -/
theorem printfSpec_plain (hkind : (FormatItem.directive digits spec hwidth hspec).argKind = none)
    (fuel : ℕ) (width : BitVec 32) (st : PrintfState σ) :
    printfSpec rd putc fuel spec width st
      = some { st with
          sink := run putc st.sink (FormatItem.directive digits spec hwidth hspec).plain } := by
  rw [FormatItem.argKind] at hkind
  split_ifs at hkind with hint hstring
  rw [not_or, not_or] at hint
  rw [printfSpec, if_neg hint.1, if_neg hstring, if_neg hint.2.1, if_neg hint.2.2,
    FormatItem.plain]
  split_ifs <;> rfl

/-- A field width that fits an `int` is not negative. -/
theorem toInt_fieldWidth (hwidth : fieldWidth digits < 2 ^ 31) :
    (BitVec.ofNat 32 (fieldWidth digits)).toInt.toNat = fieldWidth digits := by
  have hnat : (BitVec.ofNat 32 (fieldWidth digits)).toNat = fieldWidth digits :=
    Nat.mod_eq_of_lt (by omega)
  rw [BitVec.toInt_eq_toNat_of_lt (by omega), hnat, Int.toNat_natCast]

/-- The specifiers that consume an argument of a kind. -/
theorem spec_of_argKind {kind : ArgKind}
    (hkind : (FormatItem.directive digits spec hwidth hspec).argKind = some kind) :
    (kind = .int ∧ (spec = 99 ∨ spec = 100 ∨ spec = 120)) ∨ (kind = .string ∧ spec = 115) := by
  rw [FormatItem.argKind] at hkind
  split_ifs at hkind with hint hstring
  · exact Or.inl ⟨(Option.some.inj hkind).symm, hint⟩
  · exact Or.inr ⟨(Option.some.inj hkind).symm, hstring⟩

/-- The `switch` on a specifier that consumes an argument. -/
theorem printfSpec_arg (putc : σ → Byte → σ) {kind : ArgKind} {arg : PrintfArg}
    (hkind : (FormatItem.directive digits spec hwidth hspec).argKind = some kind)
    (harg : arg.HasKind rd kind) (fmt : ℕ) (slots : List (BitVec 64)) (s : σ) :
    ∃ N, ∀ fuel ≥ N,
      printfSpec rd putc fuel spec (BitVec.ofNat 32 (fieldWidth digits))
          { fmt := fmt, args := arg.slot :: slots, sink := s }
        = some { fmt := fmt, args := slots,
                 sink := run putc s ((FormatItem.directive digits spec hwidth hspec).expand arg) } := by
  have hint := toInt_fieldWidth hwidth
  rcases spec_of_argKind hkind with ⟨rfl, hspecs⟩ | ⟨rfl, rfl⟩
  · cases arg with
    | string a bs => exact absurd harg id
    | int a =>
        refine ⟨0, fun fuel _ => ?_⟩
        have hnum := printNumber_decimal putc (a.setWidth 32) hint s
        have hhex := printNumber_hex putc (a.setWidth 32) hint s
        rcases hspecs with rfl | rfl | rfl
        · -- `%c` takes a byte of an `int`
          have hlow : (a.setWidth 32).setWidth 8 = a.setWidth 8 :=
            BitVec.setWidth_setWidth_of_le a (by omega)
          show some (PrintfState.mk fmt slots (putc s ((a.setWidth 32).setWidth 8))) = _
          rw [hlow]
          rfl
        · -- `%d`
          show ((printNumber putc (a.setWidth 32) 10 _ s).bind fun sink =>
            some (PrintfState.mk fmt slots sink)) = _
          rw [hnum]
          rfl
        · -- `%x`
          show ((printNumber putc (a.setWidth 32) 16 _ s).bind fun sink =>
            some (PrintfState.mk fmt slots sink)) = _
          rw [hhex]
          rfl
  · cases arg with
    | int a => exact absurd harg id
    | string a bs =>
        refine ⟨bs.length + 1, fun fuel hfuel => ?_⟩
        show ((consolePuts rd putc fuel a.toNat s).bind fun sink =>
          some (PrintfState.mk fmt slots sink)) = _
        rw [consolePuts_eq harg hfuel]
        rfl

end Directive

/-! ## Formats -/

/-- A literal passes through. -/
theorem consolePrintf_literal {st : PrintfState σ} {c : Byte} (hc : c ≠ 0 ∧ c ≠ chPercent)
    (hread : rd st.fmt = some c) (fuel : ℕ) :
    consolePrintf rd putc (fuel + 1) st
      = consolePrintf rd putc fuel { st with fmt := st.fmt + 1, sink := putc st.sink c } := by
  simp only [consolePrintf, hread, Option.bind_eq_bind, Option.bind_some, if_neg hc.1,
    if_pos hc.2]

/-- A directive scans its width and its specifier, and switches on it. -/
theorem consolePrintf_directive {st : PrintfState σ} {digits : List (Fin 10)} {spec : Byte}
    {hwidth : fieldWidth digits < 2 ^ 31} {hspec : spec ≠ 0 ∧ ¬ IsDigitChar spec}
    {rest : List Byte}
    (h : StringAt rd st.fmt ((FormatItem.directive digits spec hwidth hspec).bytes ++ rest))
    {fuel : ℕ} (hfuel : digits.length < fuel) :
    consolePrintf rd putc (fuel + 1) st
      = (printfSpec rd putc fuel spec (BitVec.ofNat 32 (fieldWidth digits))
          { st with fmt := st.fmt + digits.length + 2 }).bind (consolePrintf rd putc fuel) := by
  have hbytes : (FormatItem.directive digits spec hwidth hspec).bytes ++ rest
      = chPercent :: (digits.map (fun d : Fin 10 => digitByte d.val) ++ spec :: rest) := by
    simp [FormatItem.bytes]
  rw [hbytes] at h
  obtain ⟨hpercent, -, htail⟩ := h
  have hscan := scanWidth_eq htail hspec.2 hfuel 0
  have hread : rd (st.fmt + 1 + digits.length) = some spec := by
    have hspecAt := htail.append
    rw [List.length_map] at hspecAt
    exact hspecAt.1
  have hzero : (BitVec.ofNat 32 0) = 0 := rfl
  rw [hzero] at hscan
  have hfmt : st.fmt + 1 + digits.length + 1 = st.fmt + digits.length + 2 := by omega
  simp only [consolePrintf, hpercent, Option.bind_eq_bind, Option.bind_some,
    if_neg (show chPercent ≠ 0 by decide), ne_eq, not_true_eq_false, if_false, hscan, hread, hfmt]
  rfl

/-- **The run of `console_printf` on a format**: the expansion passes to
`console_putc`, the arguments of the format are consumed, and the scan ends after
the terminating NUL. -/
theorem consolePrintf_items (putc : σ → Byte → σ) (items : List FormatItem) {args : List PrintfArg}
    (hargs : ArgsFor rd items args) {p : ℕ} (hfmt : StringAt rd p (formatBytes items))
    (slots : List (BitVec 64)) (s : σ) :
    ∃ N, ∀ fuel ≥ N,
      consolePrintf rd putc fuel
          { fmt := p, args := args.map PrintfArg.slot ++ slots, sink := s }
        = some { fmt := p + (formatBytes items).length + 1, args := slots,
                 sink := run putc s (expandAll items args) } := by
  -- the fuel of a format is one round for each item, and what the item itself needs
  induction items generalizing args p s with
  | nil =>
      have hnil : args = [] := hargs
      subst hnil
      refine ⟨1, fun fuel hfuel => ?_⟩
      obtain ⟨fuel, rfl⟩ := Nat.exists_eq_succ_of_ne_zero (Nat.ne_of_gt hfuel)
      have h0 : rd p = some 0 := hfmt
      simp only [consolePrintf, h0, Option.bind_eq_bind, Option.bind_some]
      rfl
  | cons item items ih =>
      have hbytes : formatBytes (item :: items) = item.bytes ++ formatBytes items := rfl
      rw [hbytes] at hfmt
      have hrest := hfmt.append
      have hlen : p + (formatBytes (item :: items)).length + 1
          = p + item.bytes.length + (formatBytes items).length + 1 := by
        rw [hbytes, List.length_append]
        omega
      rw [hlen]
      cases item with
      | literal c hc =>
          obtain ⟨N, hN⟩ := ih hargs hrest (putc s c)
          refine ⟨N + 1, fun fuel hfuel => ?_⟩
          obtain ⟨fuel, rfl⟩ := Nat.exists_eq_succ_of_ne_zero (show fuel ≠ 0 by omega)
          rw [consolePrintf_literal hc hfmt.1]
          exact hN fuel (by omega)
      | directive digits spec hwidth hspec =>
          have hdir : (FormatItem.directive digits spec hwidth hspec).bytes.length
              = digits.length + 2 := by
            simp [FormatItem.bytes]
          rw [hdir] at hrest ⊢
          cases hkind : (FormatItem.directive digits spec hwidth hspec).argKind with
          | none =>
              simp only [ArgsFor, hkind] at hargs
              simp only [expandAll, hkind]
              obtain ⟨N, hN⟩ := ih hargs hrest
                (run putc s (FormatItem.directive digits spec hwidth hspec).plain)
              refine ⟨max N digits.length + 2, fun fuel hfuel => ?_⟩
              obtain ⟨fuel, rfl⟩ := Nat.exists_eq_succ_of_ne_zero (show fuel ≠ 0 by omega)
              rw [consolePrintf_directive hfmt (by omega), printfSpec_plain hkind,
                Option.bind_some, run_append]
              exact hN fuel (by omega)
          | some kind =>
              cases args with
              | nil =>
                  simp only [ArgsFor, hkind] at hargs
              | cons arg args =>
                  simp only [ArgsFor, hkind] at hargs
                  simp only [expandAll, hkind]
                  obtain ⟨harg, hargs⟩ := hargs
                  obtain ⟨N₁, hN₁⟩ := printfSpec_arg putc hkind harg
                    (p + digits.length + 2) (args.map PrintfArg.slot ++ slots) s
                  obtain ⟨N₂, hN₂⟩ := ih hargs hrest
                    (run putc s ((FormatItem.directive digits spec hwidth hspec).expand arg))
                  refine ⟨max (max N₁ N₂) digits.length + 2, fun fuel hfuel => ?_⟩
                  obtain ⟨fuel, rfl⟩ := Nat.exists_eq_succ_of_ne_zero (show fuel ≠ 0 by omega)
                  have hswitch := hN₁ fuel (by omega)
                  rw [consolePrintf_directive hfmt (by omega)]
                  simp only [List.map_cons, List.cons_append]
                  rw [hswitch, Option.bind_some, run_append]
                  exact hN₂ fuel (by omega)

/-! ## Texts inside a format -/

section Literals

variable {cs : List Byte} (hcs : ∀ c ∈ cs, c ≠ 0 ∧ c ≠ chPercent) (items : List FormatItem)
  (args : List PrintfArg)

/-- A text consumes no argument. -/
theorem argsFor_literals : ArgsFor rd (literals cs hcs ++ items) args ↔ ArgsFor rd items args := by
  induction cs with
  | nil => rfl
  | cons c cs ih => exact ih (fun d hd => hcs d (List.mem_cons_of_mem c hd))

/-- A text expands to itself. -/
theorem expandAll_literals :
    expandAll (literals cs hcs ++ items) args = cs ++ expandAll items args := by
  induction cs with
  | nil => rfl
  | cons c cs ih =>
      have hcs' := ih (fun d hd => hcs d (List.mem_cons_of_mem c hd))
      exact congrArg (List.cons c) hcs'

end Literals

/-! ## The bytes printed -/

/-- The sink that records the bytes passed to `console_putc`. -/
def record (out : List Byte) (c : Byte) : List Byte := out ++ [c]

theorem run_record (out bs : List Byte) : run record out bs = out ++ bs := by
  induction bs generalizing out with
  | nil => rw [run_nil, List.append_nil]
  | cons b bs ih => rw [run_cons, ih, record, List.append_assoc, List.singleton_append]

/-- **`console_printf` emits exactly the expansion of its format**, and consumes
exactly the arguments of its items. -/
theorem consolePrintf_expands (rd : ℕ → Option Byte) (items : List FormatItem)
    (args : List PrintfArg) (hargs : ArgsFor rd items args) (p : ℕ)
    (hfmt : StringAt rd p (formatBytes items)) (slots : List (BitVec 64)) :
    ∃ N, ∀ fuel ≥ N,
      consolePrintf rd record fuel { fmt := p, args := args.map PrintfArg.slot ++ slots, sink := [] }
        = some { fmt := p + (formatBytes items).length + 1, args := slots,
                 sink := expandAll items args } := by
  have h := consolePrintf_items record items hargs hfmt slots []
  rwa [run_record, List.nil_append] at h

/-- The items of `"a%d%s%08x%q%%"`. -/
def sampleItems : List FormatItem :=
  [.literal 97 (by decide), .decimal, .bare 115 (by decide), .hex08, .bare 113 (by decide),
    .bare 37 (by decide)]

/-- The format at 0 and the string `"hi"` at 14. -/
def sampleMemory : ℕ → Option Byte := ofBytes (formatBytes sampleItems ++ [0] ++ [104, 105, 0])

/-- `"a%d%s%08x%q%%"` with `-7`, `"hi"` and `0xab` prints `"a-7hi000000ab%q%"`. -/
theorem consolePrintf_expands_sample :
    ∃ N, ∀ fuel ≥ N,
      consolePrintf sampleMemory record fuel { fmt := 0, args := [0xFFFFFFF9, 14, 0xAB], sink := [] }
        = some { fmt := 14, args := [], sink := chars "a-7hi000000ab%q%" } := by
  have hstring : StringAt sampleMemory 14 [104, 105] := by decide
  have h := consolePrintf_expands sampleMemory sampleItems
    [.int 0xFFFFFFF9, .string 14 [104, 105], .int 0xAB]
    ⟨trivial, hstring, trivial, rfl⟩ 0 (by decide) []
  have htext : expandAll sampleItems [.int 0xFFFFFFF9, .string 14 [104, 105], .int 0xAB]
      = chars "a-7hi000000ab%q%" := by
    decide +kernel
  rwa [htext] at h

end GridX64
