/-
# How far console_printf reads its format

The format pointer advances in the main loop, in the width loop and at the specifier,
and only the main loop tests for the terminator: a format that ends inside a directive
makes the terminator the specifier, and the scan goes on after it.

`consolePrintfAt` is `console_printf` with two readers, one for the format and one for
the strings that it prints, so that the first can be cut off at the terminator.

* `consolePrintfAt_stuck` — a format that ends inside a directive is read too far;
* `consolePrintfAt_stops` — every other format is read up to its terminator;
* `printf_staysInFormat_iff` — both together.
-/
import GridX64.PrintfExpand

namespace GridX64

/-! ## Formats as the scanner sees them -/

/-- Reading one character of a format: is the next one inside a directive? -/
def formatStep (inDirective : Bool) (c : Byte) : Bool :=
  if inDirective then decide (IsDigitChar c) else decide (c = chPercent)

/-- The text ends after a `%` and digits, without a specifier. -/
def endsInDirective (inDirective : Bool) (bs : List Byte) : Bool :=
  bs.foldl formatStep inDirective

/-- What a specifier takes from the argument list. -/
def specKind (spec : Byte) : Option ArgKind :=
  if spec = 99 ∨ spec = 100 ∨ spec = 120 then some .int
  else if spec = 115 then some .string
  else none

/-- What the directives of a text take from the argument list, in order. -/
def formatKinds : Bool → List Byte → List ArgKind
  | _, [] => []
  | inDirective, c :: bs =>
      (if inDirective ∧ ¬ IsDigitChar c then (specKind c).toList else [])
        ++ formatKinds (formatStep inDirective c) bs

/-- The argument list is sufficient: there is a slot for each directive that takes one,
and the strings among them stand NUL-terminated in memory. -/
def SlotsFor (rd : ℕ → Option Byte) : List ArgKind → List (BitVec 64) → Prop
  | [], _ => True
  | .int :: kinds, _ :: slots => SlotsFor rd kinds slots
  | .string :: kinds, a :: slots => (∃ cs, StringAt rd a.toNat cs) ∧ SlotsFor rd kinds slots
  | _ :: _, [] => False

section Formats

variable {c : Byte} (bs : List Byte)

theorem endsInDirective_literal (h : c ≠ chPercent) :
    endsInDirective false (c :: bs) = endsInDirective false bs := by
  rw [endsInDirective, List.foldl_cons, formatStep, if_neg Bool.false_ne_true, decide_eq_false h]
  rfl

theorem endsInDirective_digit (h : IsDigitChar c) :
    endsInDirective true (c :: bs) = endsInDirective true bs := by
  rw [endsInDirective, List.foldl_cons, formatStep, if_pos rfl, decide_eq_true h]
  rfl

theorem endsInDirective_spec (h : ¬ IsDigitChar c) :
    endsInDirective true (c :: bs) = endsInDirective false bs := by
  rw [endsInDirective, List.foldl_cons, formatStep, if_pos rfl, decide_eq_false h]
  rfl

theorem formatKinds_literal (h : c ≠ chPercent) :
    formatKinds false (c :: bs) = formatKinds false bs := by
  rw [formatKinds, formatStep, if_neg Bool.false_ne_true, decide_eq_false h]
  rfl

theorem formatKinds_digit (h : IsDigitChar c) :
    formatKinds true (c :: bs) = formatKinds true bs := by
  rw [formatKinds, formatStep, if_pos rfl, decide_eq_true h, if_neg (fun hc => hc.2 h)]
  rfl

theorem formatKinds_spec (h : ¬ IsDigitChar c) :
    formatKinds true (c :: bs) = (specKind c).toList ++ formatKinds false bs := by
  rw [formatKinds, formatStep, if_pos rfl, decide_eq_false h, if_pos ⟨rfl, h⟩]

end Formats

/-- **Induction along the scan of a format**, outside and inside a directive at once: one
case for each kind of character that the scanner meets in either place. -/
theorem StringAt.scan_induction {rd : ℕ → Option Byte} {Text Directive : ℕ → List Byte → Prop}
    (nul : ∀ p, rd p = some 0 → Text p [])
    (literal : ∀ p c bs, rd p = some c → c ≠ 0 → c ≠ chPercent → Text (p + 1) bs → Text p (c :: bs))
    (percent : ∀ p bs, rd p = some chPercent → Directive (p + 1) bs → Text p (chPercent :: bs))
    (nulInside : ∀ p, rd p = some 0 → Directive p [])
    (digit : ∀ p c bs, rd p = some c → IsDigitChar c → Directive (p + 1) bs → Directive p (c :: bs))
    (spec : ∀ p c bs, rd p = some c → ¬ IsDigitChar c → Text (p + 1) bs → Directive p (c :: bs))
    {p : ℕ} {bs : List Byte} (h : StringAt rd p bs) : Text p bs ∧ Directive p bs := by
  induction bs generalizing p with
  | nil => exact ⟨nul p h, nulInside p h⟩
  | cons c bs ih =>
      obtain ⟨hc, hne, hrest⟩ := h
      obtain ⟨ihText, ihDirective⟩ := ih hrest
      constructor
      · by_cases hpercent : c = chPercent
        · rw [hpercent] at hc ⊢
          exact percent p bs hc ihDirective
        · exact literal p c bs hc hne hpercent ihText
      · by_cases hdigit : IsDigitChar c
        · exact digit p c bs hc hdigit ihDirective
        · exact spec p c bs hc hdigit ihText

/-! ## Two readers -/

section Readers

variable {σ : Type} (fmtRd rd : ℕ → Option Byte) (putc : σ → Byte → σ)

/-- `console_printf`, reading the format through `fmtRd`. -/
def consolePrintfAt (fuel : ℕ) (st : PrintfState σ) : Option (PrintfState σ) :=
  match fuel with
  | 0 => none
  | fuel + 1 => do
      let ch ← fmtRd st.fmt
      if ch = 0 then return { st with fmt := st.fmt + 1 }
      else if ch ≠ chPercent then
        consolePrintfAt fuel { st with fmt := st.fmt + 1, sink := putc st.sink ch }
      else
        let (width, fmt) ← scanWidth fmtRd fuel (st.fmt + 1) 0
        let spec ← fmtRd fmt
        let st ← printfSpec rd putc fuel spec width { st with fmt := fmt + 1 }
        consolePrintfAt fuel st

/-- `console_printf` inside a directive, at the format address `fmt` with the width
read so far. -/
def directiveAt (scanFuel fuel fmt : ℕ) (width : BitVec 32) (st : PrintfState σ) :
    Option (PrintfState σ) := do
  let (width, fmt) ← scanWidth fmtRd scanFuel fmt width
  let spec ← fmtRd fmt
  let st ← printfSpec rd putc fuel spec width { st with fmt := fmt + 1 }
  consolePrintfAt fmtRd rd putc fuel st

/-- With one reader it is `console_printf`. -/
theorem consolePrintfAt_self (fuel : ℕ) (st : PrintfState σ) :
    consolePrintfAt rd rd putc fuel st = consolePrintf rd putc fuel st := by
  induction fuel generalizing st with
  | zero => rfl
  | succ fuel ih =>
      rw [consolePrintfAt, consolePrintf]
      simp only [ih]

variable {fmtRd rd putc}

/-- The terminator of a format. -/
theorem consolePrintfAt_nul {st : PrintfState σ} (h : fmtRd st.fmt = some 0) (fuel : ℕ) :
    consolePrintfAt fmtRd rd putc (fuel + 1) st = some { st with fmt := st.fmt + 1 } := by
  simp [consolePrintfAt, h]

/-- A character outside a directive. -/
theorem consolePrintfAt_literal {st : PrintfState σ} {c : Byte} (h : fmtRd st.fmt = some c)
    (hc : c ≠ 0) (hpercent : c ≠ chPercent) (fuel : ℕ) :
    consolePrintfAt fmtRd rd putc (fuel + 1) st
      = consolePrintfAt fmtRd rd putc fuel
          { st with fmt := st.fmt + 1, sink := putc st.sink c } := by
  simp only [consolePrintfAt, h, Option.bind_eq_bind, Option.bind_some, if_neg hc, if_pos hpercent]

/-- A `%` begins a directive. -/
theorem consolePrintfAt_percent {st : PrintfState σ} (h : fmtRd st.fmt = some chPercent)
    (fuel : ℕ) : consolePrintfAt fmtRd rd putc (fuel + 1) st
      = directiveAt fmtRd rd putc fuel fuel (st.fmt + 1) 0 st := by
  simp only [consolePrintfAt, h, Option.bind_eq_bind, Option.bind_some,
    if_neg (show chPercent ≠ 0 by decide), ne_eq, not_true_eq_false, if_false]
  rfl

/-- A digit inside a directive. -/
theorem directiveAt_digit {fmt : ℕ} {c : Byte} (h : fmtRd fmt = some c) (hc : IsDigitChar c)
    (scanFuel fuel : ℕ) (width : BitVec 32) (st : PrintfState σ) :
    directiveAt fmtRd rd putc (scanFuel + 1) fuel fmt width st
      = directiveAt fmtRd rd putc scanFuel fuel (fmt + 1)
          (width * 10 + BitVec.ofInt 32 (c.toInt - 48)) st := by
  simp only [directiveAt, scanWidth, h, Option.bind_eq_bind, Option.bind_some, if_pos hc]

/-- The specifier of a directive, whatever it is. -/
theorem directiveAt_spec {fmt : ℕ} {c : Byte} (h : fmtRd fmt = some c) (hc : ¬ IsDigitChar c)
    (scanFuel fuel : ℕ) (width : BitVec 32) (st : PrintfState σ) :
    directiveAt fmtRd rd putc (scanFuel + 1) fuel fmt width st
      = (printfSpec rd putc fuel c width { st with fmt := fmt + 1 }).bind
          (consolePrintfAt fmtRd rd putc fuel) := by
  simp only [directiveAt, scanWidth, h, Option.bind_eq_bind, Option.bind_some, Option.pure_def,
    if_neg hc]

/-- The terminator as a specifier prints `%` and itself. -/
theorem printfSpec_nul (fuel : ℕ) (width : BitVec 32) (st : PrintfState σ) :
    printfSpec rd putc fuel 0 width st
      = some { st with sink := putc (putc st.sink chPercent) 0 } := rfl

end Readers

/-! ## The switch on a specifier -/

section Switch

variable {σ : Type} {rd : ℕ → Option Byte} {putc : σ → Byte → σ}

/-- The `switch` does not move the format pointer, and takes the arguments of its
specifier. -/
theorem printfSpec_frame {fuel : ℕ} {spec : Byte} {width : BitVec 32} {st st' : PrintfState σ}
    (h : printfSpec rd putc fuel spec width st = some st') :
    st'.fmt = st.fmt ∧ st'.args = st.args.drop (specKind spec).toList.length := by
  have htake : ∀ {a args}, vaArg st.args = some (a, args) → args = st.args.drop 1 := by
    intro a args ha
    rcases hslots : st.args with _ | ⟨b, slots⟩
    · rw [hslots] at ha
      cases ha
    · rw [hslots] at ha
      cases ha
      rfl
  unfold printfSpec at h
  rw [specKind]
  split_ifs at h with hc hs hd hx hp
  · obtain ⟨⟨a, args⟩, ha, h⟩ := Option.bind_eq_some_iff.mp h
    obtain rfl := Option.some.inj h
    rw [if_pos (Or.inl hc)]
    exact ⟨rfl, htake ha⟩
  · obtain ⟨⟨a, args⟩, ha, h⟩ := Option.bind_eq_some_iff.mp h
    obtain ⟨sink, -, h⟩ := Option.bind_eq_some_iff.mp h
    obtain rfl := Option.some.inj h
    rw [if_neg (by rw [hs]; decide), if_pos hs]
    exact ⟨rfl, htake ha⟩
  · obtain ⟨⟨a, args⟩, ha, h⟩ := Option.bind_eq_some_iff.mp h
    obtain ⟨sink, -, h⟩ := Option.bind_eq_some_iff.mp h
    obtain rfl := Option.some.inj h
    rw [if_pos (Or.inr (Or.inl hd))]
    exact ⟨rfl, htake ha⟩
  · obtain ⟨⟨a, args⟩, ha, h⟩ := Option.bind_eq_some_iff.mp h
    obtain ⟨sink, -, h⟩ := Option.bind_eq_some_iff.mp h
    obtain rfl := Option.some.inj h
    rw [if_pos (Or.inr (Or.inr hx))]
    exact ⟨rfl, htake ha⟩
  · obtain rfl := Option.some.inj h
    rw [if_neg (by tauto), if_neg hs]
    exact ⟨rfl, rfl⟩
  · obtain rfl := Option.some.inj h
    rw [if_neg (by tauto), if_neg hs]
    exact ⟨rfl, rfl⟩

/-- With a sufficient argument list the `switch` returns, whatever the field width, and
leaves a list that is sufficient for the rest. -/
theorem printfSpec_returns (putc : σ → Byte → σ) (spec : Byte) (width : BitVec 32)
    {kinds : List ArgKind} {slots : List (BitVec 64)}
    (hslots : SlotsFor rd ((specKind spec).toList ++ kinds) slots) (fmt : ℕ) (s : σ) :
    ∃ N slots' s', SlotsFor rd kinds slots' ∧ ∀ fuel ≥ N,
      printfSpec rd putc fuel spec width { fmt := fmt, args := slots, sink := s }
        = some { fmt := fmt, args := slots', sink := s' } := by
  rw [specKind] at hslots
  split_ifs at hslots with hint hstring
  · -- an integer
    rcases slots with _ | ⟨a, slots⟩
    · exact absurd hslots id
    -- a wrapped, negative width pads like zero
    obtain ⟨dec, hnum⟩ : ∃ s', printNumber putc (a.setWidth 32) 10 width s = some s' :=
      ⟨_, printNumber_decimal putc (a.setWidth 32) rfl s⟩
    obtain ⟨hex, hhex⟩ : ∃ s', printNumber putc (a.setWidth 32) 16 width s = some s' :=
      ⟨_, printNumber_hex putc (a.setWidth 32) rfl s⟩
    rcases hint with rfl | rfl | rfl
    · exact ⟨0, slots, _, hslots, fun fuel _ => rfl⟩
    · refine ⟨0, slots, dec, hslots, fun fuel _ => ?_⟩
      show ((printNumber putc (a.setWidth 32) 10 width s).bind fun sink =>
        some (PrintfState.mk fmt slots sink)) = _
      rw [hnum]
      rfl
    · refine ⟨0, slots, hex, hslots, fun fuel _ => ?_⟩
      show ((printNumber putc (a.setWidth 32) 16 width s).bind fun sink =>
        some (PrintfState.mk fmt slots sink)) = _
      rw [hhex]
      rfl
  · -- a string
    rcases slots with _ | ⟨a, slots⟩
    · exact absurd hslots id
    obtain ⟨⟨cs, hcs⟩, hslots⟩ := hslots
    refine ⟨cs.length + 1, slots, run putc s cs, hslots, fun fuel hfuel => ?_⟩
    subst hstring
    show ((consolePuts rd putc fuel a.toNat s).bind fun sink =>
      some (PrintfState.mk fmt slots sink)) = _
    rw [consolePuts_eq hcs hfuel]
    rfl
  · rw [not_or, not_or] at hint
    by_cases hpercent : spec = chPercent
    · refine ⟨0, slots, putc s chPercent, hslots, fun fuel _ => ?_⟩
      rw [printfSpec, if_neg hint.1, if_neg hstring, if_neg hint.2.1, if_neg hint.2.2,
        if_pos hpercent]
    · refine ⟨0, slots, putc (putc s chPercent) spec, hslots, fun fuel _ => ?_⟩
      rw [printfSpec, if_neg hint.1, if_neg hstring, if_neg hint.2.1, if_neg hint.2.2,
        if_neg hpercent]

end Switch

/-! ## A format that ends inside a directive -/

section Scan

variable {σ : Type} {fmtRd rd : ℕ → Option Byte} {putc : σ → Byte → σ}

/-- **A format that ends inside a directive is read too far.**  If nothing can be read
after the terminator, the scan gets stuck there. -/
theorem consolePrintfAt_stuck {p : ℕ} {bs : List Byte} (h : StringAt fmtRd p bs) :
    (fmtRd (p + bs.length + 1) = none → endsInDirective false bs = true →
        ∀ (fuel : ℕ) (st : PrintfState σ), st.fmt = p →
        consolePrintfAt fmtRd rd putc fuel st = none) ∧
      (fmtRd (p + bs.length + 1) = none → endsInDirective true bs = true →
        ∀ (scanFuel fuel : ℕ) (width : BitVec 32) (st : PrintfState σ),
        directiveAt fmtRd rd putc scanFuel fuel p width st = none) := by
  have hstep : ∀ p (c : Byte) (bs : List Byte),
      p + (c :: bs).length + 1 = p + 1 + bs.length + 1 := by
    intro p c bs
    rw [List.length_cons]
    omega
  apply StringAt.scan_induction (h := h)
  case nul =>
    intro p _ _ hdir
    exact absurd hdir (by decide)
  case literal =>
    intro p c bs hc hne hpercent ih hend hdir fuel st hst
    rw [hstep] at hend
    rw [endsInDirective_literal bs hpercent] at hdir
    rcases fuel with _ | fuel
    · rfl
    · rw [← hst] at hc
      rw [consolePrintfAt_literal hc hne hpercent]
      apply ih hend hdir
      rw [← hst]
  case percent =>
    intro p bs hc ih hend hdir fuel st hst
    rw [hstep] at hend
    rcases fuel with _ | fuel
    · rfl
    · rw [← hst] at hc
      rw [consolePrintfAt_percent hc, hst]
      exact ih hend hdir fuel fuel 0 st
  case nulInside =>
    intro p h0 hend _ scanFuel fuel width st
    rcases scanFuel with _ | scanFuel
    · rfl
    · rw [directiveAt_spec h0 (by decide), printfSpec_nul, Option.bind_some]
      rcases fuel with _ | fuel
      · rfl
      · have hread : fmtRd (p + 1) = none := hend
        simp [consolePrintfAt, hread]
  case digit =>
    intro p c bs hc hdigit ih hend hdir scanFuel fuel width st
    rw [hstep] at hend
    rw [endsInDirective_digit bs hdigit] at hdir
    rcases scanFuel with _ | scanFuel
    · rfl
    · rw [directiveAt_digit hc hdigit]
      exact ih hend hdir _ _ _ _
  case spec =>
    intro p c bs hc hdigit ih hend hdir scanFuel fuel width st
    rw [hstep] at hend
    rw [endsInDirective_spec bs hdigit] at hdir
    rcases scanFuel with _ | scanFuel
    · rfl
    · rw [directiveAt_spec hc hdigit, Option.bind_eq_none_iff]
      intro st' hst'
      apply ih hend hdir
      exact (printfSpec_frame hst').1

/-- **Every other format is read up to its terminator**, whatever stands after it, if
the argument list is sufficient. -/
theorem consolePrintfAt_stops {p : ℕ} {bs : List Byte} (h : StringAt fmtRd p bs) :
    (endsInDirective false bs = false → ∀ (slots : List (BitVec 64)) (s : σ),
        SlotsFor rd (formatKinds false bs) slots →
        ∃ N st', st'.fmt = p + bs.length + 1 ∧ ∀ fuel ≥ N,
          consolePrintfAt fmtRd rd putc fuel { fmt := p, args := slots, sink := s } = some st') ∧
      (endsInDirective true bs = false → ∀ (width : BitVec 32) (st : PrintfState σ),
        SlotsFor rd (formatKinds true bs) st.args →
        ∃ N st', st'.fmt = p + bs.length + 1 ∧ ∀ scanFuel ≥ N, ∀ fuel ≥ N,
          directiveAt fmtRd rd putc scanFuel fuel p width st = some st') := by
  have hstep : ∀ p (c : Byte) (bs : List Byte),
      p + (c :: bs).length + 1 = p + 1 + bs.length + 1 := by
    intro p c bs
    rw [List.length_cons]
    omega
  apply StringAt.scan_induction (h := h)
  case nul =>
    intro p h0 _ slots s _
    refine ⟨1, { fmt := p + 1, args := slots, sink := s }, rfl, ?_⟩
    intro fuel hfuel
    obtain ⟨fuel, rfl⟩ := Nat.exists_eq_succ_of_ne_zero (Nat.ne_of_gt hfuel)
    exact consolePrintfAt_nul h0 fuel
  case literal =>
    intro p c bs hc hne hpercent ih hdir slots s hslots
    rw [endsInDirective_literal bs hpercent] at hdir
    rw [formatKinds_literal bs hpercent] at hslots
    obtain ⟨N, st', hst', hrun⟩ := ih hdir slots (putc s c) hslots
    refine ⟨N + 1, st', by rw [hstep]; exact hst', ?_⟩
    intro fuel hfuel
    obtain ⟨fuel, rfl⟩ := Nat.exists_eq_succ_of_ne_zero (show fuel ≠ 0 by omega)
    rw [consolePrintfAt_literal hc hne hpercent]
    exact hrun fuel (by omega)
  case percent =>
    intro p bs hc ih hdir slots s hslots
    obtain ⟨N, st', hst', hrun⟩ := ih hdir 0 ⟨p, slots, s⟩ hslots
    refine ⟨N + 1, st', by rw [hstep]; exact hst', ?_⟩
    intro fuel hfuel
    obtain ⟨fuel, rfl⟩ := Nat.exists_eq_succ_of_ne_zero (show fuel ≠ 0 by omega)
    rw [consolePrintfAt_percent hc]
    exact hrun fuel (by omega) fuel (by omega)
  case nulInside =>
    intro p _ hdir
    exact absurd hdir (by decide)
  case digit =>
    intro p c bs hc hdigit ih hdir width st hslots
    rw [endsInDirective_digit bs hdigit] at hdir
    rw [formatKinds_digit bs hdigit] at hslots
    obtain ⟨N, st', hst', hrun⟩ := ih hdir
      (width * 10 + BitVec.ofInt 32 (c.toInt - 48)) st hslots
    refine ⟨N + 1, st', by rw [hstep]; exact hst', ?_⟩
    intro scanFuel hscan fuel hfuel
    obtain ⟨scanFuel, rfl⟩ := Nat.exists_eq_succ_of_ne_zero (show scanFuel ≠ 0 by omega)
    rw [directiveAt_digit hc hdigit]
    exact hrun scanFuel (by omega) fuel (by omega)
  case spec =>
    intro p c bs hc hdigit ih hdir width st hslots
    rw [endsInDirective_spec bs hdigit] at hdir
    rw [formatKinds_spec bs hdigit] at hslots
    obtain ⟨N₁, slots', s', hslots', hswitch⟩ :=
      printfSpec_returns putc c width hslots (p + 1) st.sink
    obtain ⟨N₂, st', hst', hrun⟩ := ih hdir slots' s' hslots'
    refine ⟨max N₁ N₂ + 1, st', by rw [hstep]; exact hst', ?_⟩
    intro scanFuel hscan fuel hfuel
    obtain ⟨scanFuel, rfl⟩ := Nat.exists_eq_succ_of_ne_zero (show scanFuel ≠ 0 by omega)
    rw [directiveAt_spec hc hdigit, hswitch fuel (by omega), Option.bind_some]
    exact hrun fuel (by omega)

end Scan

/-! ## Reading inside the format -/

/-- A memory of which only the format of `len` characters at `p` can be read, with its
terminator. -/
def inFormat (rd : ℕ → Option Byte) (p len a : ℕ) : Option Byte :=
  if p ≤ a ∧ a ≤ p + len then rd a else none

/-- `console_printf` returns past the terminator of its format, and does the same when
nothing else of the format's memory can be read. -/
def StaysInFormat (rd : ℕ → Option Byte) (p : ℕ) (bs : List Byte) (slots : List (BitVec 64)) :
    Prop :=
  ∃ N st', st'.fmt = p + bs.length + 1 ∧ ∀ fuel ≥ N,
    consolePrintf rd record fuel { fmt := p, args := slots, sink := [] } = some st' ∧
      consolePrintfAt (inFormat rd p bs.length) rd record fuel
        { fmt := p, args := slots, sink := [] } = some st'

theorem StringAt.inFormat {rd : ℕ → Option Byte} {p start len : ℕ} {bs : List Byte}
    (h : StringAt rd p bs) (hstart : start ≤ p) (hlen : p + bs.length ≤ start + len) :
    StringAt (inFormat rd start len) p bs := by
  induction bs generalizing p with
  | nil =>
      have h0 : rd p = some 0 := h
      rw [List.length_nil] at hlen
      rw [StringAt, GridX64.inFormat, if_pos ⟨hstart, by omega⟩, h0]
  | cons b bs ih =>
      obtain ⟨hb, hne, hrest⟩ := h
      rw [List.length_cons] at hlen
      refine ⟨?_, hne, ih hrest (by omega) (by omega)⟩
      rw [GridX64.inFormat, if_pos ⟨hstart, by omega⟩, hb]

section Mono

variable {σ : Type} {fmtRd rd : ℕ → Option Byte} {putc : σ → Byte → σ} {p len : ℕ}

theorem inFormat_eq_some {a : ℕ} {b : Byte} (h : inFormat rd p len a = some b) : rd a = some b := by
  rw [inFormat] at h
  split_ifs at h
  exact h

theorem scanWidth_inFormat {fuel fmt : ℕ} {width : BitVec 32} {r : BitVec 32 × ℕ}
    (h : scanWidth (inFormat rd p len) fuel fmt width = some r) :
    scanWidth rd fuel fmt width = some r := by
  induction fuel generalizing fmt width with
  | zero => exact nomatch h
  | succ fuel ih =>
      rw [scanWidth] at h ⊢
      obtain ⟨c, hc, h⟩ := Option.bind_eq_some_iff.mp h
      rw [inFormat_eq_some hc, Option.bind_eq_bind, Option.bind_some]
      by_cases hdigit : IsDigitChar c
      · rw [if_pos hdigit] at h ⊢
        exact ih h
      · rw [if_neg hdigit] at h ⊢
        exact h

/-- A run that reads inside the format is the run. -/
theorem consolePrintf_of_inFormat {fuel : ℕ} {st st' : PrintfState σ}
    (h : consolePrintfAt (inFormat rd p len) rd putc fuel st = some st') :
    consolePrintf rd putc fuel st = some st' := by
  rw [← consolePrintfAt_self]
  induction fuel generalizing st with
  | zero => exact nomatch h
  | succ fuel ih =>
      rw [consolePrintfAt] at h ⊢
      obtain ⟨c, hc, h⟩ := Option.bind_eq_some_iff.mp h
      rw [inFormat_eq_some hc, Option.bind_eq_bind, Option.bind_some]
      by_cases hnul : c = 0
      · rw [if_pos hnul] at h ⊢
        exact h
      rw [if_neg hnul] at h ⊢
      by_cases hpercent : c ≠ chPercent
      · rw [if_pos hpercent] at h ⊢
        exact ih h
      · rw [if_neg hpercent] at h ⊢
        obtain ⟨scanned, hscan, h⟩ := Option.bind_eq_some_iff.mp h
        obtain ⟨spec, hspec, h⟩ := Option.bind_eq_some_iff.mp h
        obtain ⟨st₁, hswitch, h⟩ := Option.bind_eq_some_iff.mp h
        simp only [scanWidth_inFormat hscan, Option.bind_eq_bind, Option.bind_some,
          inFormat_eq_some hspec, hswitch]
        exact ih h

end Mono

/-- **`console_printf` reads its format up to the terminator exactly when the format
does not end inside a directive.** -/
theorem printf_staysInFormat_iff (rd : ℕ → Option Byte) (p : ℕ) (bs : List Byte)
    (slots : List (BitVec 64)) (hfmt : StringAt rd p bs)
    (hslots : SlotsFor rd (formatKinds false bs) slots) :
    StaysInFormat rd p bs slots ↔ endsInDirective false bs = false := by
  have hinside : StringAt (inFormat rd p bs.length) p bs := hfmt.inFormat (le_refl p) (le_refl _)
  constructor
  · rintro ⟨N, st', -, hrun⟩
    by_contra hdir
    rw [Bool.not_eq_false] at hdir
    -- cut off behind the terminator, the scan finds nothing to read there
    have hend : inFormat rd p bs.length (p + bs.length + 1) = none := if_neg (by omega)
    have hstuck : consolePrintfAt (inFormat rd p bs.length) rd record N
        { fmt := p, args := slots, sink := [] } = none :=
      (consolePrintfAt_stuck hinside).1 hend hdir N _ rfl
    have hreturns := (hrun N (le_refl N)).2
    rw [hstuck] at hreturns
    exact nomatch hreturns
  · intro hdir
    obtain ⟨N, st', hst', hrun⟩ := (consolePrintfAt_stops hinside).1 hdir slots [] hslots
    refine ⟨N, st', hst', ?_⟩
    intro fuel hfuel
    exact ⟨consolePrintf_of_inFormat (hrun fuel hfuel), hrun fuel hfuel⟩

/-- `"a%5d%s"` with a number and `"hi"` is read up to its terminator. -/
theorem printf_staysInFormat_sample :
    StaysInFormat (ofBytes (chars "a%5d%s" ++ [0] ++ chars "hi" ++ [0])) 0 (chars "a%5d%s")
      [0xFFFFFFF9, 7] :=
  (printf_staysInFormat_iff (ofBytes (chars "a%5d%s" ++ [0] ++ chars "hi" ++ [0])) 0
    (chars "a%5d%s") [0xFFFFFFF9, 7] (by decide +kernel)
    ⟨⟨chars "hi", by decide +kernel⟩, trivial⟩).mpr (by decide +kernel)

/-- After `"%"` the scan goes on behind the terminator and prints what it finds there:
here the bytes of `"AB"`. -/
theorem printf_percent_overruns :
    (consolePrintf (ofBytes (chars "%" ++ [0] ++ chars "AB" ++ [0])) record 5
        { fmt := 0, args := [], sink := [] }).map (fun st => (st.fmt, st.sink))
        = some (5, chars "%" ++ [0] ++ chars "AB") ∧
      ¬ ∀ rd p bs slots, StringAt rd p bs → SlotsFor rd (formatKinds false bs) slots →
        StaysInFormat rd p bs slots := by
  constructor
  · decide +kernel
  · intro hall
    obtain ⟨N, st', -, hrun⟩ := hall (ofBytes (chars "%" ++ [0] ++ chars "AB" ++ [0])) 0
      (chars "%") [] (by decide +kernel) trivial
    have hinside : StringAt (inFormat (ofBytes (chars "%" ++ [0] ++ chars "AB" ++ [0])) 0
        (chars "%").length) 0 (chars "%") := by decide +kernel
    have hend : inFormat (ofBytes (chars "%" ++ [0] ++ chars "AB" ++ [0])) 0 (chars "%").length
        (0 + (chars "%").length + 1) = none := by decide +kernel
    have hreturns := (hrun N (le_refl N)).2
    rw [(consolePrintfAt_stuck hinside).1 hend (by decide +kernel) N _ rfl] at hreturns
    exact nomatch hreturns

end GridX64
