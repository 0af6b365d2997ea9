/-
# Signed overflow in number formatting

`console_printf`, `print_number` and `itoa` once more, with every `int` operation
evaluated exactly and checked.  A call either computes in range, and is then the call of
the model with wrapping words, or it overflows.

* `itoaChecked_eq`, `printNumberChecked_eq` — only the negation of the least `int`
  overflows;
* `directiveChecked_eq`, `consolePrintfChecked_eq` — only that and a field width from
  2^31 on;
* `printf_overflow_iff` — so a format is printed without overflow exactly when it has
  neither.
-/
import GridX64.CheckedInt
import GridX64.PrintfBounds

namespace GridX64

/-! ## itoa -/

/-- `(digit < 10) ? ('0' + digit) : ('a' + digit - 10)`, checked. -/
def itoaDigitChecked (digit : ℤ) : Except IntFault Byte :=
  if digit < 10 then (checkInt (48 + digit)).map (BitVec.ofInt 8)
  else do
    let c ← checkInt (97 + digit)
    (checkInt (c - 10)).map (BitVec.ofInt 8)

/-- The loop `while (uval > 0)`, checked; `i` is the index into `temp`. -/
def itoaLoopChecked (base : BitVec 32) :
    ℕ → BitVec 32 → ℤ → List Byte → Except IntFault (ℤ × List Byte)
  | 0, uval, i, temp => if uval > 0 then .error .stuck else .ok (i, temp)
  | room + 1, uval, i, temp =>
      if uval > 0 then do
        let c ← itoaDigitChecked (uval % base).toInt
        let i ← checkInt (i + 1)
        itoaLoopChecked base room (uval / base) i (temp ++ [c])
      else .ok (i, temp)

/-- The loop `for (int k = i - 1; k >= 0; k--) str[j++] = temp[k]`, checked. -/
def itoaCopyChecked (temp : List Byte) : ℕ → ℤ → ℤ → List Byte → Except IntFault (List Byte)
  | 0, k, _, str => if 0 ≤ k then .error .stuck else .ok str
  | room + 1, k, j, str =>
      if 0 ≤ k then do
        let c ← orStuck temp[k.toNat]?
        let j ← checkInt (j + 1)
        let k ← checkInt (k - 1)
        itoaCopyChecked temp room k j (str ++ [c])
      else .ok str

/-- `uval = (base == 10 && value < 0) ? -value : value`, the negation checked. -/
def itoaUvalChecked (value base : BitVec 32) : Except IntFault (BitVec 32) :=
  if base = 10 ∧ value.toInt < 0 then (checkInt (-value.toInt)).map (BitVec.ofInt 32) else .ok value

/-- `if (uval == 0) temp[i++] = '0'`, checked. -/
def itoaZeroChecked (uval : BitVec 32) : Except IntFault (ℤ × List Byte) :=
  if uval = 0 then (checkInt (0 + 1)).map (fun i => (i, [48])) else .ok (0, [])

/-- `if (base == 10 && value < 0) str[j++] = '-'`, checked. -/
def itoaSignChecked (value base : BitVec 32) : Except IntFault (ℤ × List Byte) :=
  if base = 10 ∧ value.toInt < 0 then (checkInt (0 + 1)).map (fun j => (j, [chMinus]))
  else .ok (0, [])

/-- `itoa`, checked. -/
def itoaChecked (value base : BitVec 32) : Except IntFault (List Byte) :=
  if base.toInt < 2 ∨ base.toInt > 36 then .ok [0]
  else do
    let uval ← itoaUvalChecked value base
    let (i, temp) ← itoaZeroChecked uval
    let (i, temp) ← itoaLoopChecked base (33 - temp.length) uval i temp
    let (j, str) ← itoaSignChecked value base
    let k ← checkInt (i - 1)
    let str ← itoaCopyChecked temp 33 k j str
    return str ++ [0]

theorem itoaDigitChecked_eq {d : BitVec 32} (hd : d.toNat < 36) :
    itoaDigitChecked d.toInt = .ok (itoaDigit d) := by
  have hint : d.toInt = d.toNat := BitVec.toInt_eq_toNat_of_lt (by omega)
  rw [itoaDigit_eq hd, hint]
  generalize d.toNat = k at hd
  interval_cases k <;> rfl

/-- The digit loop computes in range: an index into `temp` is at most 33. -/
theorem itoaLoopChecked_eq {base : BitVec 32} (hb : 2 ≤ base.toNat) (hb' : base.toNat ≤ 36)
    {room : ℕ} {uval : BitVec 32} {temp : List Byte} (hroom : temp.length + room ≤ 33) :
    itoaLoopChecked base room uval temp.length temp
      = (orStuck (itoaLoop base room uval temp)).map (fun temp => ((temp.length : ℤ), temp)) := by
  induction room generalizing uval temp with
  | zero =>
      rw [itoaLoopChecked, itoaLoop]
      split_ifs <;> rfl
  | succ room ih =>
      rw [itoaLoopChecked, itoaLoop]
      by_cases hpos : uval > 0
      · have hmod : (uval % base).toNat = uval.toNat % base.toNat := BitVec.toNat_umod
        have hlt : uval.toNat % base.toNat < base.toNat := Nat.mod_lt _ (by omega)
        have hnext : ((temp.length : ℤ) + 1) = (temp ++ [itoaDigit (uval % base)]).length := by
          rw [List.length_append, List.length_singleton]
          rfl
        rw [if_pos hpos, if_pos hpos, itoaDigitChecked_eq (by omega), ok_bind,
          checkInt_ok (by omega) (by omega), ok_bind, hnext]
        apply ih
        rw [List.length_append, List.length_singleton]
        omega
      · rw [if_neg hpos, if_neg hpos]
        rfl

/-- The copy loop computes in range, and reverses the first `n` bytes of `temp`. -/
theorem itoaCopyChecked_eq {temp : List Byte} {n room : ℕ} (hn : n ≤ temp.length) (hroom : n ≤ room)
    (hroom' : room ≤ 33) {j : ℤ} (hj : 0 ≤ j ∧ j ≤ 34 - room) (str : List Byte) :
    itoaCopyChecked temp room (n - 1) j str = .ok (str ++ (temp.take n).reverse) := by
  induction n generalizing room j str with
  | zero =>
      have hdone : ¬ (0 : ℤ) ≤ (0 : ℕ) - 1 := by omega
      rw [List.take_zero, List.reverse_nil, List.append_nil]
      cases room with
      | zero => rw [itoaCopyChecked, if_neg hdone]
      | succ room => rw [itoaCopyChecked, if_neg hdone]
  | succ n ih =>
      obtain ⟨room, rfl⟩ := Nat.exists_eq_succ_of_ne_zero (show room ≠ 0 by omega)
      have hk : ((n + 1 : ℕ) : ℤ) - 1 = n := by omega
      have hlast : temp.take (n + 1) = temp.take n ++ [temp[n]] :=
        (List.take_concat_get' temp n hn).symm
      rw [hk, itoaCopyChecked, if_pos (by omega), Int.toNat_natCast, List.getElem?_eq_getElem hn,
        orStuck_some, ok_bind, checkInt_ok (by omega) (by omega), ok_bind,
        checkInt_ok (by omega) (by omega), ok_bind, ih (by omega) (by omega) (by omega) (by omega),
        hlast, List.reverse_append, List.reverse_singleton, List.append_assoc]

/-- `itoa` negates the least `int`, of which there is no negation. -/
def NegatesLeast (value base : BitVec 32) : Prop := base = 10 ∧ value.toInt = -2 ^ 31

instance (value base : BitVec 32) : Decidable (NegatesLeast value base) :=
  inferInstanceAs (Decidable (_ ∧ _))

/-- The magnitude of a number other than the least is computed in range. -/
theorem itoaUvalChecked_eq {value base : BitVec 32} (h : ¬ NegatesLeast value base) :
    itoaUvalChecked value base
      = .ok (if base = 10 ∧ value.toInt < 0 then -value else value) := by
  have hlt := BitVec.toInt_lt (x := value)
  have hle := BitVec.le_toInt value
  rw [itoaUvalChecked]
  by_cases hneg : base = 10 ∧ value.toInt < 0
  · have hne : value.toInt ≠ -2 ^ 31 := fun hmin => h ⟨hneg.1, hmin⟩
    rw [if_pos hneg, if_pos hneg, checkInt_ok (by omega) (by omega), Except.map, BitVec.ofInt_neg,
      BitVec.ofInt_toInt]
  · rw [if_neg hneg, if_neg hneg]

/-- A zero has one digit, and other numbers none yet. -/
theorem itoaZeroChecked_eq (uval : BitVec 32) :
    ∃ temp : List Byte, temp = (if uval = 0 then [48] else []) ∧ temp.length ≤ 33 ∧
      itoaZeroChecked uval = .ok ((temp.length : ℤ), temp) := by
  rw [itoaZeroChecked]
  by_cases hzero : uval = 0
  · rw [if_pos hzero, if_pos hzero]
    exact ⟨_, rfl, by decide, rfl⟩
  · rw [if_neg hzero, if_neg hzero]
    exact ⟨_, rfl, by decide, rfl⟩

theorem itoaSignChecked_eq (value base : BitVec 32) :
    ∃ sign : List Byte, sign = (if base = 10 ∧ value.toInt < 0 then [chMinus] else []) ∧
      sign.length ≤ 1 ∧ itoaSignChecked value base = .ok ((sign.length : ℤ), sign) := by
  rw [itoaSignChecked]
  by_cases hneg : base = 10 ∧ value.toInt < 0
  · rw [if_pos hneg, if_pos hneg]
    exact ⟨_, rfl, by decide, rfl⟩
  · rw [if_neg hneg, if_neg hneg]
    exact ⟨_, rfl, by decide, rfl⟩

/-- **`itoa` overflows exactly when it negates the least `int`.** -/
theorem itoaChecked_eq (value : BitVec 32) {base : BitVec 32} (hb : 2 ≤ base.toNat)
    (hb' : base.toNat ≤ 36) :
    itoaChecked value base
      = if NegatesLeast value base then .error .overflow else orStuck (itoa value base) := by
  have hint : base.toInt = base.toNat := BitVec.toInt_eq_toNat_of_lt (by omega)
  have hbase : ¬ (base.toInt < 2 ∨ base.toInt > 36) := by omega
  by_cases hmin : NegatesLeast value base
  · have hneg : base = 10 ∧ value.toInt < 0 := ⟨hmin.1, by rw [hmin.2]; decide⟩
    rw [if_pos hmin, itoaChecked, if_neg hbase, itoaUvalChecked, if_pos hneg,
      checkInt_overflow (by rw [hmin.2]; decide)]
    rfl
  · rw [if_neg hmin, itoaChecked, itoa, if_neg hbase, if_neg hbase, itoaUvalChecked_eq hmin, ok_bind]
    generalize (if base = 10 ∧ value.toInt < 0 then -value else value) = uval
    have hloop := itoaLoop_numeral hb hb' uval
    obtain ⟨temp, htemp, hlen, hzero⟩ := itoaZeroChecked_eq uval
    obtain ⟨sign, hsign, hsign_le, hstr⟩ := itoaSignChecked_eq value base
    rw [← htemp] at hloop
    have hdigits : (numeral base.toNat uval.toNat).reverse.length ≤ 32 := by
      rw [List.length_reverse]
      exact length_numeral_word hb uval
    have hrange : itoaLoopChecked base (33 - temp.length) uval temp.length temp = _ :=
      itoaLoopChecked_eq hb hb' (by omega)
    rw [hloop, orStuck_some] at hrange
    simp only [hzero, hstr, ok_bind, hrange, Except.map, ← htemp, ← hsign, hloop]
    generalize (numeral base.toNat uval.toNat).reverse = digits at hdigits
    have hcopy : itoaCopyChecked digits 33 (digits.length - 1) sign.length sign = _ :=
      itoaCopyChecked_eq (le_refl _) (by omega) (le_refl 33) (by omega) sign
    rw [checkInt_ok (by omega) (by omega), ok_bind, hcopy, ok_bind, List.take_length]
    rfl

/-! ## print_number -/

section Code

variable {σ : Type} (rd : ℕ → Option Byte) (putc : σ → Byte → σ)

/-- The padding loop `for (int i = len; i < width; i++)`, checked. -/
def padZerosChecked (width : ℤ) : ℕ → ℤ → σ → Except IntFault σ
  | 0, i, s => if i < width then .error .stuck else .ok s
  | rounds + 1, i, s =>
      if i < width then do
        let s := putc s chZero
        let i ← checkInt (i + 1)
        padZerosChecked width rounds i s
      else .ok s

/-- `print_number`, checked. -/
def printNumberChecked (value base : BitVec 32) (width : ℤ) (s : σ) : Except IntFault σ := do
  let buffer ← itoaChecked value base
  let c ← orStuck (ofBytes buffer 0)
  if c = chMinus then
    let s := putc s chMinus
    let len ← orStuck (strlen (ofBytes buffer) 33 1)
    let s ← padZerosChecked putc width (width - len).toNat len s
    orStuck (consolePuts (ofBytes buffer) putc 33 1 s)
  else
    let len ← orStuck (strlen (ofBytes buffer) 33 0)
    let s ← padZerosChecked putc width (width - len).toNat len s
    orStuck (consolePuts (ofBytes buffer) putc 33 0 s)

/-! ## console_printf -/

/-- The loop that reads the field width, checked. -/
def scanWidthChecked (fuel fmt : ℕ) (width : ℤ) : Except IntFault (ℤ × ℕ) :=
  match fuel with
  | 0 => .error .stuck
  | fuel + 1 => do
      let c ← orStuck (rd fmt)
      if IsDigitChar c then
        let tens ← checkInt (width * 10)
        let digit ← checkInt (c.toInt - 48)
        let width ← checkInt (tens + digit)
        scanWidthChecked fuel (fmt + 1) width
      else .ok (width, fmt)

/-- The `switch (spec)`, checked. -/
def printfSpecChecked (fuel : ℕ) (spec : Byte) (width : ℤ) (st : PrintfState σ) :
    Except IntFault (PrintfState σ) :=
  if spec = 100 then do  -- 'd'
    let (a, args) ← orStuck (vaArg st.args)
    let sink ← printNumberChecked putc (a.setWidth 32) 10 width st.sink
    return { st with args := args, sink := sink }
  else if spec = 120 then do  -- 'x'
    let (a, args) ← orStuck (vaArg st.args)
    let sink ← printNumberChecked putc (a.setWidth 32) 16 width st.sink
    return { st with args := args, sink := sink }
  else
    -- the other cases compute no `int`
    orStuck (printfSpec rd putc fuel spec (BitVec.ofInt 32 width) st)

/-- `console_printf`, checked. -/
def consolePrintfChecked (fuel : ℕ) (st : PrintfState σ) : Except IntFault (PrintfState σ) :=
  match fuel with
  | 0 => .error .stuck
  | fuel + 1 => do
      let ch ← orStuck (rd st.fmt)
      if ch = 0 then return { st with fmt := st.fmt + 1 }
      else if ch ≠ chPercent then
        consolePrintfChecked fuel { st with fmt := st.fmt + 1, sink := putc st.sink ch }
      else
        let (width, fmt) ← scanWidthChecked rd fuel (st.fmt + 1) 0
        let spec ← orStuck (rd fmt)
        let st ← printfSpecChecked rd putc fuel spec width { st with fmt := fmt + 1 }
        consolePrintfChecked fuel st

/-- `console_printf` inside a directive, checked. -/
def directiveChecked (scanFuel fuel fmt : ℕ) (width : ℤ) (st : PrintfState σ) :
    Except IntFault (PrintfState σ) := do
  let (width, fmt) ← scanWidthChecked rd scanFuel fmt width
  let spec ← orStuck (rd fmt)
  let st ← printfSpecChecked rd putc fuel spec width { st with fmt := fmt + 1 }
  consolePrintfChecked rd putc fuel st

variable {rd putc}

/-- The padding loop computes in range: it stops at the width. -/
theorem padZerosChecked_eq {width : ℤ} (hwidth : width < 2 ^ 31) {rounds : ℕ} {i : ℤ} (hi : 0 ≤ i)
    (hrounds : rounds = (width - i).toNat) (s : σ) :
    padZerosChecked putc width rounds i s = .ok (forUp rounds (fun _ s => putc s chZero) s) := by
  rw [forUp_putc]
  induction rounds generalizing i s with
  | zero => rw [padZerosChecked, if_neg (by omega)]; rfl
  | succ rounds ih =>
      rw [padZerosChecked, if_pos (by omega)]
      simp only
      rw [checkInt_ok (by omega) (by omega), ok_bind, ih (by omega) (by omega)]
      rfl

/-- **`print_number` overflows exactly when `itoa` does.** -/
theorem printNumberChecked_eq (value : BitVec 32) {base : BitVec 32} (hb : 2 ≤ base.toNat)
    (hb' : base.toNat ≤ 36) (width : BitVec 32) (s : σ) :
    printNumberChecked putc value base width.toInt s
      = if NegatesLeast value base then .error .overflow
        else orStuck (printNumber putc value base width s) := by
  have hwidth := BitVec.toInt_lt (x := width)
  rw [printNumberChecked, itoaChecked_eq value hb hb']
  by_cases hmin : NegatesLeast value base
  · rw [if_pos hmin, if_pos hmin]
    rfl
  · have hpad : ∀ (len : ℕ) (s : σ),
        padZerosChecked putc width.toInt (width.toInt - len).toNat len s
          = .ok (forUp (width.toInt - len).toNat (fun _ s => putc s chZero) s) :=
      fun len s => padZerosChecked_eq (by omega) (by omega) rfl s
    rw [if_neg hmin, if_neg hmin, printNumber]
    rcases itoa value base with _ | buffer
    · rfl
    rcases hc : ofBytes buffer 0 with _ | c
    · simp [hc]
    simp only [hc, orStuck_some, ok_bind, Option.bind_eq_bind, Option.bind_some, hpad]
    split_ifs
    · rcases strlen (ofBytes buffer) 33 1 with _ | len <;> rfl
    · rcases strlen (ofBytes buffer) 33 0 with _ | len <;> rfl

/-- The `switch` negates the least `int`. -/
def PrintsLeast (spec : Byte) (slots : List (BitVec 64)) : Prop :=
  spec = 100 ∧ slots.head?.map (fun a => (a.setWidth 32).toInt) = some (-2 ^ 31)

instance (spec : Byte) (slots : List (BitVec 64)) : Decidable (PrintsLeast spec slots) :=
  inferInstanceAs (Decidable (_ ∧ _))

/-- **The `switch` overflows exactly when `%d` takes the least `int`.** -/
theorem printfSpecChecked_eq (fuel : ℕ) (spec : Byte) (width : BitVec 32) (st : PrintfState σ) :
    printfSpecChecked rd putc fuel spec width.toInt st
      = if PrintsLeast spec st.args then .error .overflow
        else orStuck (printfSpec rd putc fuel spec width st) := by
  obtain ⟨fmt, args, s⟩ := st
  rw [printfSpecChecked]
  by_cases hd : spec = 100
  · subst hd
    rcases args with _ | ⟨a, args⟩
    · have hnone : ¬ PrintsLeast 100 ([] : List (BitVec 64)) := by simp [PrintsLeast]
      rw [if_pos rfl, if_neg hnone]
      rfl
    · have hnum : printNumberChecked putc (a.setWidth 32) 10 width.toInt s = _ :=
        printNumberChecked_eq (a.setWidth 32) (by decide) (by decide) width s
      have hleast : NegatesLeast (a.setWidth 32) 10 ↔ PrintsLeast 100 (a :: args) := by
        rw [NegatesLeast, PrintsLeast, List.head?_cons, Option.map_some, Option.some.injEq]
        exact and_congr_left' (iff_of_true rfl rfl)
      rw [if_pos rfl]
      simp only [vaArg, orStuck_some, ok_bind, hnum]
      by_cases hmin : NegatesLeast (a.setWidth 32) 10
      · rw [if_pos hmin, if_pos (hleast.mp hmin)]
        rfl
      · rw [if_neg hmin, if_neg (fun h => hmin (hleast.mpr h))]
        show _ = orStuck ((printNumber putc (a.setWidth 32) 10 width s).bind fun sink =>
          some (PrintfState.mk fmt args sink))
        rw [orStuck_bind]
        rfl
  · have hleast : ¬ PrintsLeast spec args := fun h => hd h.1
    rw [if_neg hd, if_neg hleast]
    by_cases hx : spec = 120
    · subst hx
      rcases args with _ | ⟨a, args⟩
      · rfl
      · have hnum : printNumberChecked putc (a.setWidth 32) 16 width.toInt s = _ :=
          printNumberChecked_eq (a.setWidth 32) (by decide) (by decide) width s
        rw [if_neg (fun h : NegatesLeast (a.setWidth 32) 16 => absurd h.1 (by decide))] at hnum
        rw [if_pos rfl]
        simp only [vaArg, orStuck_some, ok_bind, hnum]
        show _ = orStuck ((printNumber putc (a.setWidth 32) 16 width s).bind fun sink =>
          some (PrintfState.mk fmt args sink))
        rw [orStuck_bind]
        rfl
    · rw [if_neg hx, BitVec.ofInt_toInt]

/-! ## One character of the format -/

/-- The terminator of a format. -/
theorem consolePrintfChecked_nul {st : PrintfState σ} (h : rd st.fmt = some 0) (fuel : ℕ) :
    consolePrintfChecked rd putc (fuel + 1) st = .ok { st with fmt := st.fmt + 1 } := by
  simp only [consolePrintfChecked, h, orStuck_some, ok_bind]
  rfl

/-- A character outside a directive. -/
theorem consolePrintfChecked_literal {st : PrintfState σ} {c : Byte} (h : rd st.fmt = some c)
    (hc : c ≠ 0) (hpercent : c ≠ chPercent) (fuel : ℕ) :
    consolePrintfChecked rd putc (fuel + 1) st
      = consolePrintfChecked rd putc fuel
          { st with fmt := st.fmt + 1, sink := putc st.sink c } := by
  simp only [consolePrintfChecked, h, orStuck_some, ok_bind, if_neg hc, if_pos hpercent]

/-- A `%` begins a directive. -/
theorem consolePrintfChecked_percent {st : PrintfState σ} (h : rd st.fmt = some chPercent)
    (fuel : ℕ) : consolePrintfChecked rd putc (fuel + 1) st
      = directiveChecked rd putc fuel fuel (st.fmt + 1) 0 st := by
  simp only [consolePrintfChecked, h, orStuck_some, ok_bind,
    if_neg (show chPercent ≠ 0 by decide), ne_eq, not_true_eq_false, if_false]
  rfl

/-- A digit inside a directive, while the width fits. -/
theorem directiveChecked_digit {fmt : ℕ} {c : Byte} (h : rd fmt = some c) (hc : IsDigitChar c)
    {width : ℤ} (hlo : 0 ≤ width) (hfits : width * 10 + (c.toInt - 48) < 2 ^ 31)
    (scanFuel fuel : ℕ) (st : PrintfState σ) :
    directiveChecked rd putc (scanFuel + 1) fuel fmt width st
      = directiveChecked rd putc scanFuel fuel (fmt + 1) (width * 10 + (c.toInt - 48)) st := by
  obtain ⟨hc0, hc9⟩ := hc
  rw [directiveChecked, directiveChecked, scanWidthChecked, h, orStuck_some, ok_bind,
    if_pos ⟨hc0, hc9⟩, checkInt_ok (by omega) (by omega), ok_bind,
    checkInt_ok (by omega) (by omega), ok_bind, checkInt_ok (by omega) hfits, ok_bind]

/-- A digit with which the width no longer fits. -/
theorem directiveChecked_overflow {fmt : ℕ} {c : Byte} (h : rd fmt = some c) (hc : IsDigitChar c)
    {width : ℤ} (hlo : 0 ≤ width) (hover : 2 ^ 31 ≤ width * 10 + (c.toInt - 48))
    (scanFuel fuel : ℕ) (st : PrintfState σ) :
    directiveChecked rd putc (scanFuel + 1) fuel fmt width st = .error .overflow := by
  obtain ⟨hc0, hc9⟩ := hc
  rw [directiveChecked, scanWidthChecked, h, orStuck_some, ok_bind, if_pos ⟨hc0, hc9⟩]
  -- the product may overflow already
  by_cases hten : width * 10 < 2 ^ 31
  · rw [checkInt_ok (by omega) hten, ok_bind, checkInt_ok (by omega) (by omega), ok_bind,
      checkInt_overflow hover]
    rfl
  · rw [checkInt_overflow (not_lt.mp hten)]
    rfl

/-- The specifier of a directive. -/
theorem directiveChecked_spec {fmt : ℕ} {c : Byte} (h : rd fmt = some c) (hc : ¬ IsDigitChar c)
    (scanFuel fuel : ℕ) (width : ℤ) (st : PrintfState σ) :
    directiveChecked rd putc (scanFuel + 1) fuel fmt width st
      = (printfSpecChecked rd putc fuel c width { st with fmt := fmt + 1 }
          >>= consolePrintfChecked rd putc fuel) := by
  rw [directiveChecked, scanWidthChecked, h, orStuck_some, ok_bind, if_neg hc, ok_bind]
  simp only [h, orStuck_some, ok_bind]

/-! ## The directives of a format -/

/-- The directives of a text, each with the number that its field width spells and its
specifier; inside a directive the width so far is given. -/
def formatDirectives : Option ℕ → List Byte → List (ℕ × Byte)
  | _, [] => []
  | none, c :: bs => formatDirectives (if c = chPercent then some 0 else none) bs
  | some width, c :: bs =>
      if IsDigitChar c then formatDirectives (some (width * 10 + (c.toNat - 48))) bs
      else (width, c) :: formatDirectives none bs

/-- Every field width fits an `int`, and no `%d` takes the least one. -/
def FitsInt : List (ℕ × Byte) → List (BitVec 64) → Prop
  | [], _ => True
  | (width, spec) :: directives, slots =>
      width < 2 ^ 31 ∧ ¬ PrintsLeast spec slots ∧
        FitsInt directives (slots.drop (specKind spec).toList.length)

instance decidableFitsInt : (directives : List (ℕ × Byte)) → (slots : List (BitVec 64)) →
    Decidable (FitsInt directives slots)
  | [], _ => inferInstanceAs (Decidable True)
  | (width, spec) :: directives, slots =>
      have := decidableFitsInt directives (slots.drop (specKind spec).toList.length)
      inferInstanceAs (Decidable (width < 2 ^ 31 ∧ ¬ PrintsLeast spec slots ∧ FitsInt directives _))

/-- A width does not get smaller with more digits. -/
theorem not_fitsInt_of_width {bs : List Byte} (hdir : endsInDirective true bs = false) {width : ℕ}
    (hwidth : 2 ^ 31 ≤ width) (slots : List (BitVec 64)) :
    ¬ FitsInt (formatDirectives (some width) bs) slots := by
  induction bs generalizing width with
  | nil => exact absurd hdir (by decide)
  | cons c bs ih =>
      rw [formatDirectives]
      by_cases hdigit : IsDigitChar c
      · rw [endsInDirective_digit bs hdigit] at hdir
        rw [if_pos hdigit]
        exact ih hdir (by omega)
      · rw [if_neg hdigit]
        intro h
        exact absurd h.1 (not_lt.mpr hwidth)

/-- One digit of the field width, as a word and as a number. -/
theorem width_digit {width : BitVec 32} {c : Byte} (hc : IsDigitChar c)
    (hfits : width.toNat * 10 + (c.toNat - 48) < 2 ^ 31) :
    (width * 10 + BitVec.ofInt 32 (c.toInt - 48)).toNat = width.toNat * 10 + (c.toNat - 48) := by
  obtain ⟨hc0, hc9⟩ := hc
  have hint := BitVec.toInt_eq_toNat_cond c
  have hdigit : (BitVec.ofInt 32 (c.toInt - 48)).toNat = c.toNat - 48 := by
    rw [BitVec.toNat_ofInt]
    omega
  rw [BitVec.toNat_add, BitVec.toNat_mul, hdigit]
  show (width.toNat * 10 % 2 ^ 32 + _) % 2 ^ 32 = _
  omega

/-! ## Runs -/

/-- **`console_printf` overflows exactly at a field width or an argument that does not
fit**, and is the call of the model otherwise. -/
theorem consolePrintfChecked_eq {p : ℕ} {bs : List Byte} (h : StringAt rd p bs) :
    (endsInDirective false bs = false → ∀ (slots : List (BitVec 64)) (s : σ),
        SlotsFor rd (formatKinds false bs) slots →
        ∃ N, ∀ fuel ≥ N,
          consolePrintfChecked rd putc fuel { fmt := p, args := slots, sink := s }
            = if FitsInt (formatDirectives none bs) slots then
                orStuck (consolePrintfAt rd rd putc fuel { fmt := p, args := slots, sink := s })
              else .error .overflow) ∧
      (endsInDirective true bs = false → ∀ (width : BitVec 32), width.toNat < 2 ^ 31 →
        ∀ (st : PrintfState σ), SlotsFor rd (formatKinds true bs) st.args →
        ∃ N, ∀ scanFuel ≥ N, ∀ fuel ≥ N,
          directiveChecked rd putc scanFuel fuel p width.toInt st
            = if FitsInt (formatDirectives (some width.toNat) bs) st.args then
                orStuck (directiveAt rd rd putc scanFuel fuel p width st)
              else .error .overflow) := by
  apply StringAt.scan_induction (h := h)
  case nul =>
    intro p h0 _ slots s _
    refine ⟨1, fun fuel hfuel => ?_⟩
    obtain ⟨fuel, rfl⟩ := Nat.exists_eq_succ_of_ne_zero (Nat.ne_of_gt hfuel)
    rw [consolePrintfChecked_nul h0, consolePrintfAt_nul h0]
    rfl
  case literal =>
    intro p c bs hc hne hpercent ih hdir slots s hslots
    rw [endsInDirective_literal bs hpercent] at hdir
    rw [formatKinds_literal bs hpercent] at hslots
    rw [formatDirectives, if_neg hpercent]
    obtain ⟨N, hrun⟩ := ih hdir slots (putc s c) hslots
    refine ⟨N + 1, fun fuel hfuel => ?_⟩
    obtain ⟨fuel, rfl⟩ := Nat.exists_eq_succ_of_ne_zero (show fuel ≠ 0 by omega)
    rw [consolePrintfChecked_literal hc hne hpercent, consolePrintfAt_literal hc hne hpercent]
    exact hrun fuel (by omega)
  case percent =>
    intro p bs hc ih hdir slots s hslots
    rw [formatDirectives, if_pos rfl]
    obtain ⟨N, hrun⟩ := ih hdir 0 (by decide) ⟨p, slots, s⟩ hslots
    refine ⟨N + 1, fun fuel hfuel => ?_⟩
    obtain ⟨fuel, rfl⟩ := Nat.exists_eq_succ_of_ne_zero (show fuel ≠ 0 by omega)
    rw [consolePrintfChecked_percent hc, consolePrintfAt_percent hc]
    exact hrun fuel (by omega) fuel (by omega)
  case nulInside =>
    intro p _ hdir
    exact absurd hdir (by decide)
  case digit =>
    intro p c bs hc hdigit ih hdir width hwidth st hslots
    rw [endsInDirective_digit bs hdigit] at hdir
    rw [formatKinds_digit bs hdigit] at hslots
    rw [formatDirectives, if_pos hdigit]
    have hint : width.toInt = width.toNat := BitVec.toInt_eq_toNat_of_lt (by omega)
    have hchar : c.toInt - 48 = (c.toNat - 48 : ℕ) := by
      have hcond := BitVec.toInt_eq_toNat_cond c
      have hlo := hdigit.1
      omega
    by_cases hfits : width.toNat * 10 + (c.toNat - 48) < 2 ^ 31
    · have hnext := width_digit hdigit hfits
      have hnextInt : (width * 10 + BitVec.ofInt 32 (c.toInt - 48)).toInt
          = width.toInt * 10 + (c.toInt - 48) := by
        rw [BitVec.toInt_eq_toNat_of_lt (by omega), hnext, hint, hchar]
        omega
      obtain ⟨N, hrun⟩ := ih hdir (width * 10 + BitVec.ofInt 32 (c.toInt - 48)) (by omega) st hslots
      refine ⟨N + 1, fun scanFuel hscan fuel hfuel => ?_⟩
      obtain ⟨scanFuel, rfl⟩ := Nat.exists_eq_succ_of_ne_zero (show scanFuel ≠ 0 by omega)
      rw [directiveChecked_digit hc hdigit (by omega) (by omega), directiveAt_digit hc hdigit,
        ← hnextInt, ← hnext]
      exact hrun scanFuel (by omega) fuel (by omega)
    · refine ⟨1, fun scanFuel hscan fuel hfuel => ?_⟩
      obtain ⟨scanFuel, rfl⟩ := Nat.exists_eq_succ_of_ne_zero (show scanFuel ≠ 0 by omega)
      rw [directiveChecked_overflow hc hdigit (by omega) (by omega),
        if_neg (not_fitsInt_of_width hdir (not_lt.mp hfits) st.args)]
  case spec =>
    intro p c bs hc hdigit ih hdir width hwidth st hslots
    rw [endsInDirective_spec bs hdigit] at hdir
    rw [formatKinds_spec bs hdigit] at hslots
    rw [formatDirectives, if_neg hdigit]
    obtain ⟨N₁, slots', s', hslots', hswitch⟩ :=
      printfSpec_returns putc c width hslots (p + 1) st.sink
    obtain ⟨N₂, hrun⟩ := ih hdir slots' s' hslots'
    have htaken : slots' = st.args.drop (specKind c).toList.length :=
      (printfSpec_frame (hswitch N₁ (le_refl _))).2
    refine ⟨max N₁ N₂ + 1, fun scanFuel hscan fuel hfuel => ?_⟩
    obtain ⟨scanFuel, rfl⟩ := Nat.exists_eq_succ_of_ne_zero (show scanFuel ≠ 0 by omega)
    rw [directiveChecked_spec hc hdigit, directiveAt_spec hc hdigit, printfSpecChecked_eq,
      hswitch fuel (by omega), Option.bind_some]
    by_cases hleast : PrintsLeast c st.args
    · rw [if_pos hleast, if_neg (fun hfit => hfit.2.1 hleast)]
      rfl
    · rw [if_neg hleast, orStuck_some, ok_bind, hrun fuel (by omega), htaken]
      apply if_congr _ rfl rfl
      exact ⟨fun hfit => ⟨hwidth, hleast, hfit⟩, fun hfit => hfit.2.2⟩

end Code

/-- With enough fuel `console_printf` prints the format at `p`, every `int` operation
has a result that fits, and the words of the model hold these results. -/
def ComputesInRange (rd : ℕ → Option Byte) (p : ℕ) (slots : List (BitVec 64)) : Prop :=
  ∃ N st', ∀ fuel ≥ N,
    consolePrintfChecked rd record fuel { fmt := p, args := slots, sink := [] } = .ok st' ∧
      consolePrintf rd record fuel { fmt := p, args := slots, sink := [] } = some st'

/-- With enough fuel `console_printf` reaches an `int` operation whose result does not
fit. -/
def Overflows (rd : ℕ → Option Byte) (p : ℕ) (slots : List (BitVec 64)) : Prop :=
  ∃ N, ∀ fuel ≥ N,
    consolePrintfChecked rd record fuel { fmt := p, args := slots, sink := [] } = .error .overflow

section Formats

variable {rd : ℕ → Option Byte} {p : ℕ} {bs : List Byte} {slots : List (BitVec 64)}

theorem computesInRange_of_fitsInt (hfmt : StringAt rd p bs) (hdir : endsInDirective false bs = false)
    (hslots : SlotsFor rd (formatKinds false bs) slots)
    (hfits : FitsInt (formatDirectives none bs) slots) : ComputesInRange rd p slots := by
  obtain ⟨N₁, hchecked⟩ := (consolePrintfChecked_eq hfmt).1 hdir slots [] hslots
  obtain ⟨N₂, st', -, hrun⟩ := (consolePrintfAt_stops hfmt).1 hdir slots [] hslots
  refine ⟨max N₁ N₂, st', fun fuel hfuel => ?_⟩
  have hreturns := hrun fuel (by omega)
  rw [hchecked fuel (by omega), if_pos hfits, hreturns, ← consolePrintfAt_self, hreturns]
  exact ⟨rfl, rfl⟩

theorem overflows_of_not_fitsInt (hfmt : StringAt rd p bs) (hdir : endsInDirective false bs = false)
    (hslots : SlotsFor rd (formatKinds false bs) slots)
    (hfits : ¬ FitsInt (formatDirectives none bs) slots) : Overflows rd p slots := by
  obtain ⟨N, hchecked⟩ := (consolePrintfChecked_eq hfmt).1 hdir slots [] hslots
  refine ⟨N, fun fuel hfuel => ?_⟩
  rw [hchecked fuel hfuel, if_neg hfits]

/-- A run that overflows does not compute in range. -/
theorem Overflows.not_inRange (h : Overflows rd p slots) : ¬ ComputesInRange rd p slots := by
  obtain ⟨N, hover⟩ := h
  rintro ⟨N', st', hrun⟩
  have hok := (hrun (max N N') (le_max_right N N')).1
  rw [hover (max N N') (le_max_left N N')] at hok
  cases hok

end Formats

/-- **Number formatting is free of signed overflow** exactly when every field width of
the format fits an `int` and no `%d` takes the least `int`; otherwise it overflows. -/
theorem printf_overflow_iff (rd : ℕ → Option Byte) (p : ℕ) (bs : List Byte)
    (slots : List (BitVec 64)) (hfmt : StringAt rd p bs)
    (hdir : endsInDirective false bs = false)
    (hslots : SlotsFor rd (formatKinds false bs) slots) :
    (ComputesInRange rd p slots ↔ FitsInt (formatDirectives none bs) slots) ∧
      (Overflows rd p slots ↔ ¬ FitsInt (formatDirectives none bs) slots) := by
  constructor
  · constructor
    · intro hrange
      by_contra hfits
      exact (overflows_of_not_fitsInt hfmt hdir hslots hfits).not_inRange hrange
    · exact computesInRange_of_fitsInt hfmt hdir hslots
  · constructor
    · intro hover hfits
      exact hover.not_inRange (computesInRange_of_fitsInt hfmt hdir hslots hfits)
    · exact overflows_of_not_fitsInt hfmt hdir hslots

/-- `"%2147483647d%x"` with the greatest `int` and the least. -/
theorem printf_in_range_greatest :
    ComputesInRange (ofBytes (chars "%2147483647d%x" ++ [0])) 0 [0x7FFFFFFF, 0x80000000] :=
  (printf_overflow_iff (ofBytes (chars "%2147483647d%x" ++ [0])) 0 (chars "%2147483647d%x")
    [0x7FFFFFFF, 0x80000000] (by decide +kernel) (by decide +kernel) trivial).1.mpr
    (by decide +kernel)

/-- `"%d"` overflows on the least `int`, and `"%2147483648d"` on every argument. -/
theorem printf_overflows_least :
    Overflows (ofBytes (chars "%d" ++ [0])) 0 [0x80000000] ∧
      Overflows (ofBytes (chars "%2147483648d" ++ [0])) 0 [7] ∧
      ¬ ∀ rd p bs slots, StringAt rd p bs → endsInDirective false bs = false →
        SlotsFor rd (formatKinds false bs) slots → ComputesInRange rd p slots := by
  have hleast : Overflows (ofBytes (chars "%d" ++ [0])) 0 [0x80000000] :=
    overflows_of_not_fitsInt (show StringAt _ 0 (chars "%d") by decide +kernel) (by decide +kernel)
      trivial (by decide +kernel)
  refine ⟨hleast, ?_, ?_⟩
  · exact overflows_of_not_fitsInt (show StringAt _ 0 (chars "%2147483648d") by decide +kernel)
      (by decide +kernel) trivial (by decide +kernel)
  · intro h
    apply hleast.not_inRange
    exact h _ 0 (chars "%d") [0x80000000] (by decide +kernel) (by decide +kernel) trivial

end GridX64
