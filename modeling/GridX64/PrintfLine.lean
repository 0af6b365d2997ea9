/-
# Calls of console_printf with a literal format

The kernel passes literals: texts with a few directives between them, and for `%s` the
address of a local array.  `FormatLine` is such a format, and `printLiteral_eq` the one
fact that its calls need: the texts and the expanded directives are printed in order.
-/
import GridX64.FieldWidth

namespace GridX64

/-! ## The call -/

/-- `console_printf(fmt, args..)`, the format in memory at 0 and a local array behind it. -/
def printLiteral {σ : Type} (putc : σ → Byte → σ) (fuel : ℕ) (fmt buffer : List Byte)
    (args : List (BitVec 64)) (s : σ) : Option σ :=
  (consolePrintf (ofBytes (fmt ++ [0] ++ buffer)) putc fuel { fmt := 0, args := args, sink := s }).map
    PrintfState.sink

/-- The address of the local array. -/
def bufferAt (fmt : List Byte) : BitVec 64 := BitVec.ofNat 64 (fmt.length + 1)

/-! ## Lines -/

/-- A text that `console_printf` passes on as it is. -/
def PlainText : Type := { cs : List Byte // ∀ c ∈ cs, c ≠ 0 ∧ c ≠ chPercent }

theorem newline_plain : ∀ c ∈ chars "\n", c ≠ 0 ∧ c ≠ chPercent := by simp [chars]

/-- The end of a line. -/
def PlainText.newline : PlainText := ⟨chars "\n", newline_plain⟩

/-- The directives of the kernel's formats. -/
inductive Directive
  | string
  | decimal
  | hex
  | hex08

theorem string_isSpec : (115 : Byte) ≠ 0 ∧ ¬ IsDigitChar 115 := by decide

/-- `%s`. -/
def FormatItem.string : FormatItem := bare 115 string_isSpec

/-- A directive as an item of a format. -/
def Directive.item : Directive → FormatItem
  | string => .string
  | decimal => .decimal
  | hex => .hexPlain
  | hex08 => .hex08

/-- What a directive reads from the argument list. -/
def Directive.kind : Directive → ArgKind
  | string => .string
  | _ => .int

/-- A format: texts with a directive between each and the next. -/
inductive FormatLine
  | last (text : PlainText)
  | field (text : PlainText) (d : Directive) (rest : FormatLine)

namespace FormatLine

/-- The items of a line. -/
def items : FormatLine → List FormatItem
  | last text => literals text.1 text.2 ++ []
  | field text d rest => literals text.1 text.2 ++ (d.item :: rest.items)

/-- The characters of a line. -/
def bytes : FormatLine → List Byte
  | last text => text.1
  | field text d rest => text.1 ++ (d.item.bytes ++ rest.bytes)

/-- One argument of the right kind for each directive. -/
def Takes (rd : ℕ → Option Byte) : FormatLine → List PrintfArg → Prop
  | last _, args => args = []
  | field _ d rest, arg :: args => arg.HasKind rd d.kind ∧ rest.Takes rd args
  | field _ _ _, [] => False

/-- The text that a line prints. -/
def expand : FormatLine → List PrintfArg → List Byte
  | last text, _ => text.1
  | field text d rest, arg :: args => text.1 ++ (d.item.expand arg ++ rest.expand args)
  | field text _ _, [] => text.1

variable {rd : ℕ → Option Byte} {line : FormatLine} {args : List PrintfArg}

theorem formatBytes_literals (cs : List Byte) (hcs : ∀ c ∈ cs, c ≠ 0 ∧ c ≠ chPercent)
    (items : List FormatItem) :
    formatBytes (literals cs hcs ++ items) = cs ++ formatBytes items := by
  induction cs with
  | nil => rfl
  | cons c cs ih =>
      exact congrArg (c :: ·) (ih (fun c hc => hcs c (List.mem_cons_of_mem _ hc)))

theorem formatBytes_items (line : FormatLine) : formatBytes line.items = line.bytes := by
  induction line with
  | last text => rw [items, formatBytes_literals, bytes]; exact List.append_nil _
  | field text d rest ih =>
      rw [items, formatBytes_literals, bytes, ← ih]
      rfl

theorem argKind_item (d : Directive) : d.item.argKind = some d.kind := by
  cases d <;> rfl

theorem Takes.argsFor (h : line.Takes rd args) : ArgsFor rd line.items args := by
  induction line generalizing args with
  | last text =>
      rw [items, argsFor_literals]
      exact h
  | field text d rest ih =>
      cases args with
      | nil => exact absurd h id
      | cons arg args =>
          rw [items, argsFor_literals]
          simp only [ArgsFor, argKind_item]
          exact ⟨h.1, ih h.2⟩

theorem Takes.expandAll_eq (h : line.Takes rd args) : expandAll line.items args = line.expand args := by
  induction line generalizing args with
  | last text => rw [items, expandAll_literals, expandAll, List.append_nil, expand]
  | field text d rest ih =>
      cases args with
      | nil => exact absurd h id
      | cons arg args =>
          rw [items, expandAll_literals, expand]
          simp only [expandAll, argKind_item]
          rw [ih h.2]

end FormatLine

/-! ## Strings in an array -/

/-- A larger memory holds the same strings. -/
theorem StringAt.mono {rd rd' : ℕ → Option Byte} (hle : ∀ a b, rd a = some b → rd' a = some b)
    {p : ℕ} {bs : List Byte} (h : StringAt rd p bs) : StringAt rd' p bs := by
  induction bs generalizing p with
  | nil => exact hle p 0 h
  | cons b bs ih => exact ⟨hle p b h.1, h.2.1, ih h.2.2⟩

/-- An array with more behind it. -/
theorem ofBytes_append {bs : List Byte} (more : List Byte) (a : ℕ) (b : Byte)
    (h : ofBytes bs a = some b) : ofBytes (bs ++ more) a = some b := by
  obtain ⟨hlt, -⟩ := List.getElem?_eq_some_iff.mp h
  rw [ofBytes, List.getElem?_append_left hlt]
  exact h

/-- The items of a format contain no terminator. -/
theorem zero_notMem_formatBytes (items : List FormatItem) : (0 : Byte) ∉ formatBytes items := by
  intro hmem
  obtain ⟨item, -, hitem⟩ := List.mem_flatMap.mp hmem
  cases item with
  | literal c hc => exact hc.1 (List.mem_singleton.mp hitem).symm
  | directive digits spec hwidth hspec =>
      rw [FormatItem.bytes, List.cons_append, List.mem_cons, List.mem_append] at hitem
      rcases hitem with hpercent | hdigit | hlast
      · exact absurd hpercent (by decide)
      · obtain ⟨d, -, hd⟩ := List.mem_map.mp hdigit
        have hle := le_digitByte (show d.val < 36 by omega)
        rw [hd] at hle
        exact absurd hle (by decide)
      · exact hspec.1 (List.mem_singleton.mp hlast).symm

/-- In an array that ends in a terminator stand the characters before the first one. -/
theorem stringAt_takeWhile (pre cs : List Byte) :
    StringAt (ofBytes (pre ++ (cs ++ [0]))) pre.length (cs.takeWhile (· ≠ 0)) := by
  induction cs generalizing pre with
  | nil => simp [StringAt, ofBytes]
  | cons c cs ih =>
      by_cases hc : c = 0
      · rw [List.takeWhile_cons_of_neg (by simpa using hc)]
        simp [StringAt, ofBytes, hc]
      · rw [List.takeWhile_cons_of_pos (by simpa using hc)]
        refine ⟨by simp [ofBytes], hc, ?_⟩
        have h := ih (pre ++ [c])
        rwa [List.length_append, List.length_singleton, List.append_assoc pre,
          List.singleton_append] at h

/-- What `%s` reads from the local array behind a format. -/
theorem stringAt_buffer {fmt : List Byte} (hlen : fmt.length + 1 < 2 ^ 64) (cs : List Byte) :
    StringAt (ofBytes (fmt ++ [0] ++ (cs ++ [0]))) (bufferAt fmt).toNat (cs.takeWhile (· ≠ 0)) := by
  have haddr : (bufferAt fmt).toNat = (fmt ++ [0]).length := by
    rw [bufferAt, BitVec.toNat_ofNat, Nat.mod_eq_of_lt hlen, List.length_append,
      List.length_singleton]
  rw [haddr]
  exact stringAt_takeWhile (fmt ++ [0]) cs

/-! ## What a line prints -/

/-- A loop that prints a text in every round prints the texts in order. -/
theorem forUp_run {σ : Type} (putc : σ → Byte → σ) (n : ℕ) (text : ℕ → List Byte) (s : σ) :
    forUp n (fun i t => run putc t (text i)) s = run putc s ((List.range n).flatMap text) := by
  induction n with
  | zero => rfl
  | succ n ih =>
      rw [forUp, ih, List.range_succ, List.flatMap_append, List.flatMap_singleton, run_append]

/-- **A call with a literal format prints the line.** -/
theorem printLiteral_eq {σ : Type} (putc : σ → Byte → σ) {line : FormatLine} {fmt : List Byte}
    (hfmt : line.bytes = fmt) {buffer : List Byte} {args : List PrintfArg}
    (hargs : line.Takes (ofBytes (fmt ++ [0] ++ buffer)) args) (s : σ) :
    ∃ N, ∀ fuel ≥ N, printLiteral putc fuel fmt buffer (args.map PrintfArg.slot) s
      = some (run putc s (line.expand args)) := by
  rw [← line.formatBytes_items] at hfmt
  have hzero : (0 : Byte) ∉ fmt := hfmt ▸ zero_notMem_formatBytes line.items
  have hat : StringAt (ofBytes (fmt ++ [0] ++ buffer)) 0 (formatBytes line.items) := by
    rw [hfmt]
    exact (stringAt_ofBytes hzero []).mono (fun a b h => ofBytes_append buffer a b h)
  obtain ⟨N, hN⟩ := consolePrintf_items putc line.items hargs.argsFor hat [] s
  refine ⟨N, fun fuel hfuel => ?_⟩
  have hrun := hN fuel hfuel
  rw [hargs.expandAll_eq, List.append_nil] at hrun
  exact congrArg (Option.map PrintfState.sink) hrun

/-! ## What a call keeps -/

section Keeps

variable {σ : Type} {rd : ℕ → Option Byte} {putc : σ → Byte → σ} {I : σ → Prop}

theorem consolePuts_keeps (hputc : ∀ s c, I s → I (putc s c)) {fuel str : ℕ} {s t : σ}
    (h : consolePuts rd putc fuel str s = some t) (hs : I s) : I t := by
  induction fuel generalizing str s with
  | zero => exact nomatch h
  | succ fuel ih =>
      obtain ⟨c, -, h⟩ := Option.bind_eq_some_iff.mp h
      split_ifs at h
      · exact Option.some.inj h ▸ hs
      · exact ih h (hputc s c hs)

theorem printNumber_keeps (hputc : ∀ s c, I s → I (putc s c)) {value base width : BitVec 32}
    {s t : σ} (h : printNumber putc value base width s = some t) (hs : I s) : I t := by
  have hpad : ∀ n u, I u → I (forUp n (fun _ u => putc u chZero) u) :=
    fun n u hu => forUp_preserves I hu (fun _ _ v hv => hputc v chZero hv)
  obtain ⟨buffer, -, h⟩ := Option.bind_eq_some_iff.mp h
  obtain ⟨c, -, h⟩ := Option.bind_eq_some_iff.mp h
  split_ifs at h
  · obtain ⟨len, -, h⟩ := Option.bind_eq_some_iff.mp h
    exact consolePuts_keeps hputc h (hpad _ _ (hputc s chMinus hs))
  · obtain ⟨len, -, h⟩ := Option.bind_eq_some_iff.mp h
    exact consolePuts_keeps hputc h (hpad _ _ hs)

theorem printfSpec_keeps (hputc : ∀ s c, I s → I (putc s c)) {fuel : ℕ} {spec : Byte}
    {width : BitVec 32} {st st' : PrintfState σ}
    (h : printfSpec rd putc fuel spec width st = some st') (hst : I st.sink) : I st'.sink := by
  unfold printfSpec at h
  split_ifs at h
  · obtain ⟨⟨a, args⟩, -, h⟩ := Option.bind_eq_some_iff.mp h
    exact Option.some.inj h ▸ hputc st.sink _ hst
  · obtain ⟨⟨a, args⟩, -, h⟩ := Option.bind_eq_some_iff.mp h
    obtain ⟨sink, hsink, h⟩ := Option.bind_eq_some_iff.mp h
    exact Option.some.inj h ▸ consolePuts_keeps hputc hsink hst
  · obtain ⟨⟨a, args⟩, -, h⟩ := Option.bind_eq_some_iff.mp h
    obtain ⟨sink, hsink, h⟩ := Option.bind_eq_some_iff.mp h
    exact Option.some.inj h ▸ printNumber_keeps hputc hsink hst
  · obtain ⟨⟨a, args⟩, -, h⟩ := Option.bind_eq_some_iff.mp h
    obtain ⟨sink, hsink, h⟩ := Option.bind_eq_some_iff.mp h
    exact Option.some.inj h ▸ printNumber_keeps hputc hsink hst
  · exact Option.some.inj h ▸ hputc st.sink _ hst
  · exact Option.some.inj h ▸ hputc _ _ (hputc st.sink _ hst)

/-- **`console_printf` keeps what `console_putc` keeps**, whatever its format and arguments. -/
theorem consolePrintf_keeps (hputc : ∀ s c, I s → I (putc s c)) {fuel : ℕ} {st st' : PrintfState σ}
    (h : consolePrintf rd putc fuel st = some st') (hst : I st.sink) : I st'.sink := by
  induction fuel generalizing st with
  | zero => exact nomatch h
  | succ fuel ih =>
      obtain ⟨ch, -, h⟩ := Option.bind_eq_some_iff.mp h
      split_ifs at h
      · exact Option.some.inj h ▸ hst
      · exact ih h (hputc st.sink ch hst)
      · obtain ⟨⟨width, fmt⟩, -, h⟩ := Option.bind_eq_some_iff.mp h
        obtain ⟨spec, -, h⟩ := Option.bind_eq_some_iff.mp h
        obtain ⟨next, hnext, h⟩ := Option.bind_eq_some_iff.mp h
        exact ih h (printfSpec_keeps hputc hnext hst)

theorem printLiteral_keeps (hputc : ∀ s c, I s → I (putc s c)) {fuel : ℕ} {fmt buffer : List Byte}
    {args : List (BitVec 64)} {s t : σ} (h : printLiteral putc fuel fmt buffer args s = some t)
    (hs : I s) : I t := by
  obtain ⟨st, hst, rfl⟩ := Option.map_eq_some_iff.mp h
  exact consolePrintf_keeps hputc hst hs

end Keeps

end GridX64
