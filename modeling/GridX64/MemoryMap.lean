/-
# The memory-map report of kernel_main (src/kernel/main.c)

The loop walks the EFI memory map at stride `DescriptorSize` and prints one line
for each region of a usable type.  `readReport` reads such a report back, so that
"the report is faithful" is an equation between lists of regions.

The arguments of the line are 64-bit quantities, `%08x` prints the low 32 bits of
its slot, and so the report is faithful exactly when every usable region starts
below 4 GiB and has less than 2^32 KB (`memoryMap_report_iff`).
-/
import GridX64.Console
import GridX64.PrintfExpand

namespace GridX64

/-! ## The loop -/

/-- The fields of `EFI_MEMORY_DESCRIPTOR` that the loop reads. -/
structure MemoryDescriptor where
  type : BitVec 32
  physicalStart : BitVec 64
  numberOfPages : BitVec 64
  deriving DecidableEq, Repr

/-- `EfiLoaderCode`. -/
abbrev efiLoaderCode : BitVec 32 := 1

/-- `EfiLoaderData`. -/
abbrev efiLoaderData : BitVec 32 := 2

/-- `EfiConventionalMemory`. -/
abbrev efiConventionalMemory : BitVec 32 := 7

/-- The descriptor at address `a`. -/
def readDescriptor (m : ℕ → Byte) (a : ℕ) : MemoryDescriptor :=
  { type := BitVec.ofNat 32 (leWord m a 4)
    physicalStart := BitVec.ofNat 64 (leWord m (a + 8) 8)
    numberOfPages := BitVec.ofNat 64 (leWord m (a + 24) 8) }

/-- The condition of the loop's `if`. -/
def IsUsable (desc : MemoryDescriptor) : Prop :=
  desc.type = efiConventionalMemory ∨ desc.type = efiLoaderCode ∨ desc.type = efiLoaderData

instance : DecidablePred IsUsable := fun desc => by
  unfold IsUsable
  infer_instance

/-- The format of a line of the report. -/
def usableFormat : List Byte := chars "Usable region: Type=%d Start=0x%08x Size=%08x KB\n"

section Loop

variable {σ : Type} (putc : σ → Byte → σ)

/-- The body of the `if`: print the line of a region. -/
def printUsable (fuel : ℕ) (desc : MemoryDescriptor) (s : σ) : Option σ :=
  let physStart := desc.physicalStart
  let sizeBytes := desc.numberOfPages * 4096
  (consolePrintf (ofBytes (usableFormat ++ [0])) putc fuel
    { fmt := 0, args := [desc.type.setWidth 64, physStart, sizeBytes / 1024], sink := s }).map
      PrintfState.sink

/-- `mmap_entries`. -/
def mmapEntries (b : BootInfo) : ℕ := (b.MemoryMapSize / b.DescriptorSize).toNat

/-- The descriptor that round `i` looks at. -/
def mmapEntry (m : ℕ → Byte) (b : BootInfo) (i : ℕ) : MemoryDescriptor :=
  readDescriptor m (b.MemoryMap + BitVec.ofNat 64 i * b.DescriptorSize).toNat

/-- The memory-map loop of `kernel_main`; a stride of zero traps in the division. -/
def kernelMemoryMap (fuel : ℕ) (m : ℕ → Byte) (b : BootInfo) (s : σ) : Option σ :=
  if b.DescriptorSize = 0 then none
  else
    forUp (mmapEntries b)
      (fun i acc => acc.bind (fun s =>
        let desc := mmapEntry m b i
        if IsUsable desc then printUsable putc fuel desc s else some s))
      (some s)

end Loop

/-- The memory map. -/
def descriptors (m : ℕ → Byte) (b : BootInfo) : List MemoryDescriptor :=
  (List.range (mmapEntries b)).map (mmapEntry m b)

/-! ## The text of the report -/

/-- The items of `usableFormat`. -/
def usableItems : List FormatItem :=
  literals (chars "Usable region: Type=") (by decide +kernel) ++
    (.decimal ::
      (literals (chars " Start=0x") (by decide +kernel) ++
        (.hex08 ::
          (literals (chars " Size=") (by decide +kernel) ++
            (.hex08 ::
              (literals (chars " KB\n") (by decide +kernel) ++ []))))))

/-- The line of a region. -/
def usableLine (desc : MemoryDescriptor) : List Byte :=
  chars "Usable region: Type=" ++ (FormatItem.decimalText 0 desc.type ++
    (chars " Start=0x" ++ (FormatItem.hexText 8 (desc.physicalStart.setWidth 32) ++
      (chars " Size=" ++ (FormatItem.hexText 8 ((desc.numberOfPages * 4096 / 1024).setWidth 32) ++
        chars " KB\n")))))

/-- The arguments of the line. -/
def usableArgs (desc : MemoryDescriptor) : List PrintfArg :=
  [.int (desc.type.setWidth 64), .int desc.physicalStart, .int (desc.numberOfPages * 4096 / 1024)]

theorem formatBytes_usableItems : formatBytes usableItems = usableFormat := by
  decide +kernel

theorem argsFor_usableItems (rd : ℕ → Option Byte) (desc : MemoryDescriptor) :
    ArgsFor rd usableItems (usableArgs desc) := by
  unfold usableItems
  rw [argsFor_literals]
  refine ⟨trivial, ?_⟩
  rw [argsFor_literals]
  refine ⟨trivial, ?_⟩
  rw [argsFor_literals]
  refine ⟨trivial, ?_⟩
  rw [argsFor_literals]
  rfl

/-- The items expand to the line, with the low 32 bits of the start and of the size. -/
theorem expandAll_usableItems (desc : MemoryDescriptor) :
    expandAll usableItems (usableArgs desc) = usableLine desc := by
  have htype : (desc.type.setWidth 64).setWidth 32 = desc.type := by
    rw [BitVec.setWidth_setWidth_of_le desc.type (by omega), BitVec.setWidth_eq]
  unfold usableItems usableLine usableArgs
  rw [expandAll_literals]
  show _ ++ (FormatItem.decimalText 0 ((desc.type.setWidth 64).setWidth 32) ++ _) = _
  rw [htype, expandAll_literals]
  show _ ++ (_ ++ (_ ++ (FormatItem.hexText 8 _ ++ _))) = _
  rw [expandAll_literals]
  show _ ++ (_ ++ (_ ++ (_ ++ (_ ++ (FormatItem.hexText 8 _ ++ _))))) = _
  rw [expandAll_literals]
  rfl

/-- The line that is printed for a region. -/
theorem printUsable_eq {σ : Type} (putc : σ → Byte → σ) (desc : MemoryDescriptor) (s : σ) :
    ∃ N, ∀ fuel ≥ N, printUsable putc fuel desc s = some (run putc s (usableLine desc)) := by
  have hfmt : StringAt (ofBytes (usableFormat ++ [0])) 0 (formatBytes usableItems) := by
    rw [formatBytes_usableItems]
    exact stringAt_ofBytes (by decide +kernel) []
  obtain ⟨N, hN⟩ := consolePrintf_items putc usableItems (argsFor_usableItems _ desc) hfmt [] s
  refine ⟨N, fun fuel hfuel => ?_⟩
  have hrun := hN fuel hfuel
  rw [expandAll_usableItems] at hrun
  unfold printUsable
  exact congrArg (Option.map PrintfState.sink) hrun

/-- **The loop prints the lines of the usable regions, in map order.** -/
theorem kernelMemoryMap_eq {σ : Type} (putc : σ → Byte → σ) (m : ℕ → Byte) {b : BootInfo}
    (hstride : b.DescriptorSize ≠ 0) (s : σ) :
    ∃ N, ∀ fuel ≥ N, kernelMemoryMap putc fuel m b s
      = some (run putc s (((descriptors m b).filter IsUsable).flatMap usableLine)) := by
  -- after `n` rounds, the lines of the first `n` entries are printed
  have hrounds : ∀ n, ∃ N, ∀ fuel ≥ N,
      forUp n (fun i acc => acc.bind (fun s =>
          if IsUsable (mmapEntry m b i) then printUsable putc fuel (mmapEntry m b i) s
          else some s)) (some s)
        = some (run putc s
            ((((List.range n).map (mmapEntry m b)).filter IsUsable).flatMap usableLine)) := by
    intro n
    induction n with
    | zero => exact ⟨0, fun fuel _ => rfl⟩
    | succ n ih =>
        obtain ⟨N, hN⟩ := ih
        rw [List.range_succ, List.map_append, List.filter_append, List.flatMap_append, run_append]
        obtain ⟨N', hN'⟩ := printUsable_eq putc (mmapEntry m b n)
          (run putc s ((((List.range n).map (mmapEntry m b)).filter IsUsable).flatMap usableLine))
        refine ⟨max N N', fun fuel hfuel => ?_⟩
        rw [forUp, hN fuel (by omega), Option.bind_some, List.map_singleton]
        by_cases husable : IsUsable (mmapEntry m b n)
        · rw [if_pos husable, hN' fuel (by omega), List.filter_singleton, decide_eq_true husable]
          simp
        · rw [if_neg husable, List.filter_singleton, decide_eq_false husable]
          rfl
  obtain ⟨N, hN⟩ := hrounds (mmapEntries b)
  refine ⟨N, fun fuel hfuel => ?_⟩
  unfold kernelMemoryMap
  rw [if_neg hstride]
  exact hN fuel hfuel

/-! ## Reading the report -/

/-- Skip an expected text. -/
def expect (text cs : List Byte) : Option (List Byte) :=
  if text <+: cs then some (cs.drop text.length) else none

/-- The characters up to the next space, and the rest. -/
def field (cs : List Byte) : List Byte × List Byte :=
  (cs.takeWhile (· ≠ chSpace), cs.dropWhile (· ≠ chSpace))

/-- Read one line: the start and the size in KB, both hexadecimal. -/
def readLine (cs : List Byte) : Option ((ℕ × ℕ) × List Byte) := do
  let cs ← expect (chars "Usable region: Type=") cs
  let cs ← expect (chars " Start=0x") (field cs).2
  let start ← readNumeral 16 (field cs).1
  let cs ← expect (chars " Size=") (field cs).2
  let size ← readNumeral 16 (field cs).1
  let cs ← expect (chars " KB\n") (field cs).2
  return ((start, size), cs)

/-- Read a report of at most `n` lines. -/
def readReport : ℕ → List Byte → Option (List (ℕ × ℕ))
  | _, [] => some []
  | 0, _ :: _ => none
  | n + 1, c :: cs => do
      let (region, rest) ← readLine (c :: cs)
      let regions ← readReport n rest
      return region :: regions

/-- Start and size in KB. -/
def MemoryDescriptor.region (desc : MemoryDescriptor) : ℕ × ℕ :=
  (desc.physicalStart.toNat, 4 * desc.numberOfPages.toNat)

/-- The report reads back as the usable regions of the map, in map order. -/
def FaithfulReport (descs : List MemoryDescriptor) (out : List Byte) : Prop :=
  readReport out.length out = some ((descs.filter IsUsable).map MemoryDescriptor.region)

theorem expect_append (text cs : List Byte) : expect text (text ++ cs) = some cs := by
  unfold expect
  rw [if_pos (List.prefix_append text cs), List.drop_left]

/-- Another text of at least the length does not start with the expected one. -/
theorem expect_append_of_not_starts {text text' : List Byte} (hlen : text.length ≤ text'.length)
    (hne : ¬ text <+: text') (cs : List Byte) : expect text (text' ++ cs) = none := by
  refine if_neg (fun hprefix => hne ?_)
  exact List.prefix_of_prefix_length_le hprefix (List.prefix_append text' cs) hlen

/-- A field without spaces ends at a text that starts with one. -/
theorem field_append {ds text : List Byte} (hds : chSpace ∉ ds) (htext : text.head? = some chSpace)
    (cs : List Byte) : field (ds ++ (text ++ cs)) = (ds, text ++ cs) := by
  have hall : ∀ c ∈ ds, decide (c ≠ chSpace) = true := by
    intro c hc
    exact decide_eq_true (fun heq => hds (heq ▸ hc))
  unfold field
  rw [List.takeWhile_append_of_pos hall, List.dropWhile_append_of_pos hall]
  cases text with
  | nil => exact absurd htext (by simp)
  | cons c text =>
      have hc : c = chSpace := Option.some.inj htext
      simp [hc]

/-- There is no space in a padded numeral. -/
theorem space_notMem_padLeft {b : ℕ} (hb : 1 < b) (hb' : b ≤ 36) (n v : ℕ) :
    chSpace ∉ padLeft n (numeral b v) := by
  intro hmem
  have hdigit : ∃ d < 36, chSpace = digitByte d := by
    rcases mem_padLeft hmem with h0 | hnum
    · exact ⟨0, by omega, h0⟩
    · obtain ⟨d, hd, hc⟩ := mem_numeral hb hnum
      exact ⟨d, by omega, hc⟩
  obtain ⟨d, hd, hc⟩ := hdigit
  have hle := le_digitByte hd
  rw [← hc] at hle
  exact absurd hle (by decide)

theorem space_notMem_decimalText (n : ℕ) (v : BitVec 32) :
    chSpace ∉ FormatItem.decimalText n v := by
  intro hmem
  unfold FormatItem.decimalText at hmem
  rcases List.mem_append.mp hmem with hsign | hnum
  · split_ifs at hsign
    · exact absurd (List.mem_singleton.mp hsign) (by decide)
    · exact List.not_mem_nil hsign
  · exact space_notMem_padLeft (by omega) (by omega) n _ hnum

/-- The region that a printed line says: the low 32 bits of the start and of the size. -/
def MemoryDescriptor.printedRegion (desc : MemoryDescriptor) : ℕ × ℕ :=
  ((desc.physicalStart.setWidth 32).toNat,
    ((desc.numberOfPages * 4096 / 1024).setWidth 32).toNat)

theorem readNumeral_hexText (n : ℕ) (v : BitVec 32) :
    readNumeral 16 (FormatItem.hexText n v) = some v.toNat :=
  readNumeral_padLeft_numeral (by omega) (by omega) n v.toNat

theorem space_notMem_hexText (n : ℕ) (v : BitVec 32) : chSpace ∉ FormatItem.hexText n v :=
  space_notMem_padLeft (by omega) (by omega) n v.toNat

/-- **A printed line reads back as the low words.** -/
theorem readLine_usableLine (desc : MemoryDescriptor) (rest : List Byte) :
    readLine (usableLine desc ++ rest) = some (desc.printedRegion, rest) := by
  unfold usableLine readLine MemoryDescriptor.printedRegion
  simp only [List.append_assoc]
  generalize desc.physicalStart.setWidth 32 = start
  generalize (desc.numberOfPages * 4096 / 1024).setWidth 32 = size
  have htype := space_notMem_decimalText 0 desc.type
  have hstart := space_notMem_hexText 8 start
  have hsize := space_notMem_hexText 8 size
  have hspace₁ : (chars " Start=0x").head? = some chSpace := by decide
  have hspace₂ : (chars " Size=").head? = some chSpace := by decide
  have hspace₃ : (chars " KB\n").head? = some chSpace := by decide
  simp only [Option.bind_eq_bind]
  rw [expect_append, Option.bind_some, field_append htype hspace₁,
    expect_append, Option.bind_some, field_append hstart hspace₂, readNumeral_hexText,
    Option.bind_some, expect_append, Option.bind_some, field_append hsize hspace₃,
    readNumeral_hexText, Option.bind_some, expect_append]
  rfl

/-- The lines of some regions read back one by one. -/
theorem readReport_lines (descs : List MemoryDescriptor) {n : ℕ} (hn : descs.length ≤ n) :
    readReport n (descs.flatMap usableLine)
      = some (descs.map MemoryDescriptor.printedRegion) := by
  induction descs generalizing n with
  | nil => cases n <;> rfl
  | cons desc descs ih =>
      rw [List.length_cons] at hn
      obtain ⟨n, rfl⟩ := Nat.exists_eq_succ_of_ne_zero (show n ≠ 0 by omega)
      have hline := readLine_usableLine desc (descs.flatMap usableLine)
      have hrest := ih (show descs.length ≤ n by omega)
      -- a line starts with a `U`
      obtain ⟨c, cs, hcs⟩ : ∃ c cs, usableLine desc ++ descs.flatMap usableLine = c :: cs :=
        ⟨_, _, rfl⟩
      rw [List.flatMap_cons, hcs]
      rw [hcs] at hline
      unfold readReport
      rw [hline, Option.bind_eq_bind, Option.bind_some]
      show (readReport n (descs.flatMap usableLine)).bind _ = _
      rw [hrest]
      rfl

/-- A line is not empty. -/
theorem length_lines (descs : List MemoryDescriptor) :
    descs.length ≤ (descs.flatMap usableLine).length := by
  induction descs with
  | nil => exact Nat.le_refl 0
  | cons desc descs ih =>
      have hline : 1 ≤ (usableLine desc).length := Nat.succ_le_of_lt (List.length_pos_of_ne_nil
        (List.append_ne_nil_of_left_ne_nil (by decide) _))
      rw [List.flatMap_cons, List.length_cons, List.length_append]
      omega

/-! ## When the report is faithful -/

/-- The line of a region is right exactly when its start and its size in KB fit 32 bits. -/
theorem printedRegion_eq_iff (desc : MemoryDescriptor) :
    desc.printedRegion = desc.region
      ↔ desc.physicalStart.toNat < 2 ^ 32 ∧ 4 * desc.numberOfPages.toNat < 2 ^ 32 := by
  have hpages := desc.numberOfPages.isLt
  have hsize : (desc.numberOfPages * 4096 / 1024).toNat
      = desc.numberOfPages.toNat * 4096 % 2 ^ 64 / 1024 := by
    rw [BitVec.toNat_udiv, BitVec.toNat_mul]
    rfl
  unfold MemoryDescriptor.printedRegion MemoryDescriptor.region
  rw [Prod.mk.injEq, BitVec.toNat_setWidth, BitVec.toNat_setWidth, hsize]
  constructor
  · rintro ⟨hstart, hkb⟩
    exact ⟨by omega, by omega⟩
  · rintro ⟨hstart, hkb⟩
    exact ⟨by omega, by omega⟩

/-- What the loop prints is faithful exactly when every usable region fits 32 bits. -/
theorem faithfulReport_iff (descs : List MemoryDescriptor) :
    FaithfulReport descs ((descs.filter IsUsable).flatMap usableLine)
      ↔ ∀ desc ∈ descs, IsUsable desc →
          desc.physicalStart.toNat < 2 ^ 32 ∧ 4 * desc.numberOfPages.toNat < 2 ^ 32 := by
  unfold FaithfulReport
  rw [readReport_lines _ (length_lines _), Option.some_inj, List.map_inj_left]
  constructor
  · intro h desc hmem husable
    exact (printedRegion_eq_iff desc).mp
      (h desc (List.mem_filter.mpr ⟨hmem, decide_eq_true husable⟩))
  · intro h desc hmem
    obtain ⟨hmem, husable⟩ := List.mem_filter.mp hmem
    exact (printedRegion_eq_iff desc).mpr (h desc hmem (of_decide_eq_true husable))

/-- **The memory-map report is faithful exactly when every usable region starts
below 4 GiB and has less than `2 ^ 32` KB.** -/
theorem memoryMap_report_iff (m : ℕ → Byte) (b : BootInfo) (hstride : 40 ≤ b.DescriptorSize) :
    (∃ N, ∀ fuel ≥ N, ∃ out, kernelMemoryMap record fuel m b [] = some out ∧
      FaithfulReport (descriptors m b) out)
      ↔ ∀ desc ∈ descriptors m b, IsUsable desc →
          desc.physicalStart.toNat < 2 ^ 32 ∧ 4 * desc.numberOfPages.toNat < 2 ^ 32 := by
  have hne : b.DescriptorSize ≠ 0 := by bv_omega
  obtain ⟨N, hN⟩ := kernelMemoryMap_eq record m hne []
  rw [← faithfulReport_iff]
  rw [run_record, List.nil_append] at hN
  constructor
  · rintro ⟨N', h⟩
    obtain ⟨out, hout, hfaithful⟩ := h (max N N') (by omega)
    rw [hN _ (by omega)] at hout
    rwa [Option.some.inj hout]
  · intro h
    exact ⟨N, fun fuel hfuel => ⟨_, hN fuel hfuel, h⟩⟩

/-- A memory that holds, at `0x1000`, a map of one conventional region. -/
def oneRegion (start pages : ℕ) (a : ℕ) : Byte :=
  if a = 0x1000 then 7
  else if 0x1008 ≤ a ∧ a < 0x1010 then BitVec.ofNat 8 (start / 256 ^ (a - 0x1008))
  else if 0x1018 ≤ a ∧ a < 0x1020 then BitVec.ofNat 8 (pages / 256 ^ (a - 0x1018))
  else 0

/-- The boot information of that map. -/
def bootInfoOneRegion : BootInfo :=
  { bootInfo1024x768 with MemoryMap := 0x1000, MemoryMapSize := 48, DescriptorSize := 48 }

/-- The region from 1 MiB to 3 GiB is reported as it is. -/
theorem memoryMap_report_low :
    ∃ N, ∀ fuel ≥ N, ∃ out,
      kernelMemoryMap record fuel (oneRegion 0x100000 0xBFF00) bootInfoOneRegion [] = some out ∧
        FaithfulReport (descriptors (oneRegion 0x100000 0xBFF00) bootInfoOneRegion) out :=
  (memoryMap_report_iff (oneRegion 0x100000 0xBFF00) bootInfoOneRegion (by decide)).mpr
    (by decide +kernel)

/-- The 12 GiB from 4 GiB on are reported to start at 0. -/
theorem memoryMap_report_high :
    ¬ ∀ (m : ℕ → Byte) (b : BootInfo), 40 ≤ b.DescriptorSize →
      (∀ desc ∈ descriptors m b,
        desc.physicalStart.toNat + 4096 * desc.numberOfPages.toNat ≤ 2 ^ 64) →
      ∃ N, ∀ fuel ≥ N, ∃ out, kernelMemoryMap record fuel m b [] = some out ∧
        FaithfulReport (descriptors m b) out := by
  intro h
  obtain ⟨N, hN⟩ := h (oneRegion 0x100000000 0x300000) bootInfoOneRegion (by decide)
    (by decide +kernel)
  obtain ⟨N', hN'⟩ := kernelMemoryMap_eq record (oneRegion 0x100000000 0x300000)
    (b := bootInfoOneRegion) (by decide) []
  obtain ⟨out, hout, hfaithful⟩ := hN (max N N') (by omega)
  rw [hN' _ (by omega), run_record, List.nil_append] at hout
  rw [← Option.some.inj hout, faithfulReport_iff] at hfaithful
  revert hfaithful
  decide +kernel

end GridX64
