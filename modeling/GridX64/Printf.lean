/-
# console_printf (src/drivers/console/console.c)

The functions are written over any sink `σ` with a `console_putc`, so that a
statement about the final sink for every sink is a statement about the bytes passed
to `console_putc` and their order.  The arguments are the 64-bit slots of the
`va_list`; `va_arg(args, int)` takes the low 32 bits of a slot.

The loops over memory are bounded by `fuel`, and a read outside the readable
memory is stuck, as is a `va_arg` past the last slot.
-/
import GridX64.LibString
import GridX64.Runs

namespace GridX64

/-- `'0'`. -/
abbrev chZero : Byte := 48

/-- `'%'`. -/
abbrev chPercent : Byte := 37

/-- `c >= '0' && c <= '9'`, on signed characters. -/
def IsDigitChar (c : Byte) : Prop := 48 ≤ c.toInt ∧ c.toInt ≤ 57

instance : DecidablePred IsDigitChar := fun c =>
  inferInstanceAs (Decidable (48 ≤ c.toInt ∧ c.toInt ≤ 57))

/-! ## The code -/

section Code

variable {σ : Type} (rd : ℕ → Option Byte) (putc : σ → Byte → σ)

/-- `console_puts`, on a string of less than `fuel` bytes. -/
def consolePuts (fuel str : ℕ) (s : σ) : Option σ :=
  match fuel with
  | 0 => none
  | fuel + 1 => do
      let c ← rd str
      if c = 0 then return s else consolePuts fuel (str + 1) (putc s c)

/-- `print_number`.  The loops read inside the 33 bytes of `buffer`. -/
def printNumber (value base width : BitVec 32) (s : σ) : Option σ := do
  let buffer ← itoa value base
  let c ← ofBytes buffer 0
  if c = chMinus then
    let s := putc s chMinus
    let len ← strlen (ofBytes buffer) 33 1
    -- the width counts the digits, not the sign in front of them
    let s := forUp (width.toInt - len).toNat (fun _ s => putc s chZero) s
    consolePuts (ofBytes buffer) putc 33 1 s
  else
    let len ← strlen (ofBytes buffer) 33 0
    let s := forUp (width.toInt - len).toNat (fun _ s => putc s chZero) s
    consolePuts (ofBytes buffer) putc 33 0 s

/-- The locals of `console_printf` that outlive one round of its loop. -/
structure PrintfState (σ : Type) where
  fmt : ℕ
  args : List (BitVec 64)
  sink : σ

/-- `va_arg`. -/
def vaArg : List (BitVec 64) → Option (BitVec 64 × List (BitVec 64))
  | [] => none
  | a :: as => some (a, as)

/-- The loop that reads the field width. -/
def scanWidth (fuel fmt : ℕ) (width : BitVec 32) : Option (BitVec 32 × ℕ) :=
  match fuel with
  | 0 => none
  | fuel + 1 => do
      let c ← rd fmt
      if IsDigitChar c then
        scanWidth fuel (fmt + 1) (width * 10 + BitVec.ofInt 32 (c.toInt - 48))
      else return (width, fmt)

/-- The `switch (spec)`. -/
def printfSpec (fuel : ℕ) (spec : Byte) (width : BitVec 32) (st : PrintfState σ) :
    Option (PrintfState σ) :=
  if spec = 99 then do  -- 'c'
    let (a, args) ← vaArg st.args
    let val : BitVec 32 := a.setWidth 32
    return { st with args := args, sink := putc st.sink (val.setWidth 8) }
  else if spec = 115 then do  -- 's'
    let (a, args) ← vaArg st.args
    let sink ← consolePuts rd putc fuel a.toNat st.sink
    return { st with args := args, sink := sink }
  else if spec = 100 then do  -- 'd'
    let (a, args) ← vaArg st.args
    let sink ← printNumber putc (a.setWidth 32) 10 width st.sink
    return { st with args := args, sink := sink }
  else if spec = 120 then do  -- 'x'
    let (a, args) ← vaArg st.args
    let sink ← printNumber putc (a.setWidth 32) 16 width st.sink
    return { st with args := args, sink := sink }
  else if spec = chPercent then
    some { st with sink := putc st.sink chPercent }
  else
    some { st with sink := putc (putc st.sink chPercent) spec }

/-- `console_printf`. -/
def consolePrintf (fuel : ℕ) (st : PrintfState σ) : Option (PrintfState σ) :=
  match fuel with
  | 0 => none
  | fuel + 1 => do
      let ch ← rd st.fmt
      if ch = 0 then return { st with fmt := st.fmt + 1 }
      else if ch ≠ chPercent then
        consolePrintf fuel { st with fmt := st.fmt + 1, sink := putc st.sink ch }
      else
        -- the terminator is not tested for again before the next round
        let (width, fmt) ← scanWidth rd fuel (st.fmt + 1) 0
        let spec ← rd fmt
        let st ← printfSpec rd putc fuel spec width { st with fmt := fmt + 1 }
        consolePrintf fuel st

end Code

/-! ## Formats -/

/-- The number that the digits of a field width spell. -/
def fieldWidth (digits : List (Fin 10)) : ℕ := digits.foldl (fun n (d : Fin 10) => n * 10 + d.val) 0

/-- The items of a format: a literal character, or `%`, a field width that fits an
`int`, and a specifier. -/
inductive FormatItem
  | literal (c : Byte) (hc : c ≠ 0 ∧ c ≠ chPercent)
  | directive (digits : List (Fin 10)) (spec : Byte)
      (hwidth : fieldWidth digits < 2 ^ 31) (hspec : spec ≠ 0 ∧ ¬ IsDigitChar spec)

/-- What an item reads from the argument list. -/
inductive ArgKind
  | int
  | string
  deriving DecidableEq, Repr

/-- An argument: the slot of an integer, or that of a string with its characters. -/
inductive PrintfArg
  | int (a : BitVec 64)
  | string (a : BitVec 64) (bs : List Byte)

/-- The 64-bit slot that passes an argument. -/
def PrintfArg.slot : PrintfArg → BitVec 64
  | int a => a
  | string a _ => a

/-- The argument is of the kind; a string stands NUL-terminated in memory. -/
def PrintfArg.HasKind (rd : ℕ → Option Byte) : ArgKind → PrintfArg → Prop
  | .int, int _ => True
  | .string, string a bs => StringAt rd a.toNat bs
  | _, _ => False

namespace FormatItem

/-- The characters of an item. -/
def bytes : FormatItem → List Byte
  | literal c _ => [c]
  | directive digits spec _ _ => chPercent :: digits.map (fun d : Fin 10 => digitByte d.val) ++ [spec]

/-- The argument that an item consumes. -/
def argKind : FormatItem → Option ArgKind
  | literal _ _ => none
  | directive _ spec _ _ =>
      if spec = 99 ∨ spec = 100 ∨ spec = 120 then some .int
      else if spec = 115 then some .string
      else none

/-- The expansion of an item that consumes no argument. -/
def plain : FormatItem → List Byte
  | literal c _ => [c]
  | directive _ spec _ _ => if spec = chPercent then [chPercent] else [chPercent, spec]

/-- A signed decimal, its magnitude padded to `n` digits. -/
def decimalText (n : ℕ) (v : BitVec 32) : List Byte :=
  (if v.toInt < 0 then [chMinus] else []) ++ padLeft n (numeral 10 v.toInt.natAbs)

/-- A 32-bit pattern in hexadecimal, padded to `n` digits. -/
def hexText (n : ℕ) (v : BitVec 32) : List Byte := padLeft n (numeral 16 v.toNat)

/-- The expansion of an item with the argument that it consumes. -/
def expand : FormatItem → PrintfArg → List Byte
  | literal c _, _ => [c]
  | directive _ _ _ _, .string _ bs => bs
  | directive digits spec _ _, .int a =>
      if spec = 99 then [a.setWidth 8]
      else if spec = 100 then decimalText (fieldWidth digits) (a.setWidth 32)
      else hexText (fieldWidth digits) (a.setWidth 32)

/-- A directive without a field width. -/
def bare (spec : Byte) (hspec : spec ≠ 0 ∧ ¬ IsDigitChar spec) : FormatItem :=
  directive [] spec (by decide) hspec

/-- `%d`. -/
def decimal : FormatItem := bare 100 (by decide)

/-- `%08x`. -/
def hex08 : FormatItem := directive [0, 8] 120 (by decide) (by decide)

end FormatItem

/-- The characters of a format. -/
def formatBytes (items : List FormatItem) : List Byte := items.flatMap FormatItem.bytes

/-- The items of a text without `%`. -/
def literals (cs : List Byte) (hcs : ∀ c ∈ cs, c ≠ 0 ∧ c ≠ chPercent) : List FormatItem :=
  cs.pmap FormatItem.literal hcs

/-- The arguments that a format consumes, one for each item that takes one, in order. -/
def ArgsFor (rd : ℕ → Option Byte) : List FormatItem → List PrintfArg → Prop
  | [], args => args = []
  | item :: items, args =>
      match item.argKind, args with
      | none, args => ArgsFor rd items args
      | some kind, arg :: args => arg.HasKind rd kind ∧ ArgsFor rd items args
      | some _, [] => False

/-- The expansion of a format. -/
def expandAll : List FormatItem → List PrintfArg → List Byte
  | [], _ => []
  | item :: items, args =>
      match item.argKind, args with
      | none, args => item.plain ++ expandAll items args
      | some _, arg :: args => item.expand arg ++ expandAll items args
      | some _, [] => []

end GridX64
