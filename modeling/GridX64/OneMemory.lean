/-
# kernel_main in one memory (src/kernel/main.c, src/acpi/acpi.c)

`kernelMain` reads the firmware from a memory that never changes.  On the machine the
framebuffer is a part of that memory, and the console draws in it between one read and the
next.  `kernelMainLive` is the same program over one memory: every pointer is followed in
the memory as the characters printed so far have left it, and the length of the
configuration table is read again before each round.

`kernelMain_one_memory` says that this makes no difference when none of the objects that
the kernel reads overlaps the framebuffer.  `console_putc` writes to the framebuffer only
(`ScreenOnly.putc`), so the objects are still there.
-/
import GridX64.FirmwareReads
import GridX64.KernelScreen

namespace GridX64

/-! ## The program -/

section Live

variable {σ : Type} (putc : σ → Byte → σ) (view : σ → ℕ → Byte) (fuel : ℕ)

/-- `acpi_init` from its first `console_printf` on. -/
def acpiReportLive (info : AcpiInfo) (s : σ) : Except Fault (AcpiInfo × σ) := do
  let revision ← deref (view s) info.rsdp rsdpRevision
  let s ← printfE putc fuel versionFormat [] [BitVec.ofNat 64 revision] s
  let (root, w) := enumeratedRoot (view s) info
  let length ← deref (view s) root sdtLength
  let info := { info with numEntries := entryCount length w }
  let s ← forUpE info.numEntries.toNat
    (fun i s => do
      let table ← listTable (view s) root w i
      printTable putc fuel table s) s
  let s ← printStatuses putc fuel info s
  let s ← printfE putc fuel coresFormat [] [BitVec.ofInt 64 info.numCores] s
  return (info, s)

/-- `acpi_init`.  Nothing is printed before the report. -/
def acpiInitLive (cpu : Cpu) (systemTable : BitVec 64) (info : AcpiInfo) (s : σ) :
    Except Fault (AcpiInfo × σ) := do
  let info ← acpiDetect (view s) fuel cpu systemTable info
  acpiReportLive putc view fuel info s

/-- The test of entry `i` of the configuration table for a version, and its report. -/
def reportVersionLive (ct : BitVec 64) (i : ℕ) (v : AcpiVersion) (s : σ) : Except Fault σ := do
  let same ← memcmpAt (view s) ct (24 * i) v.guid 16
  if same then
    let s ← printfE putc fuel v.foundFormat [] [ct + BitVec.ofNat 64 (24 * i)] s
    -- the entry is read again after the line has been drawn
    let rsdp ← derefPtr (view s) ct (vendorTable i)
    let revision ← deref (view s) rsdp rsdpRevision
    printfE putc fuel v.revisionFormat [] [BitVec.ofNat 64 revision] s
  else return s

/-- The loop over the configuration table. -/
def kernelConfigTablesLive (systemTable : BitVec 64) (s : σ) : Except Fault σ :=
  countWhile .outOfFuel (fun s => deref (view s) systemTable numberOfTableEntries)
    (fun i s => do
      let ct ← derefPtr (view s) systemTable configurationTable
      let s ← reportVersionLive putc view fuel ct i .v1 s
      reportVersionLive putc view fuel ct i .v2 s) fuel 0 s

/-- The memory-map loop; `mmap_entries` is a local variable. -/
def kernelMemoryMapLive (b : BootInfo) (s : σ) : Option σ :=
  if b.DescriptorSize = 0 then none
  else
    forUp (mmapEntries b)
      (fun i acc => acc.bind (fun s =>
        let desc := mmapEntry (view s) b i
        if IsUsable desc then printUsable putc fuel desc s else some s))
      (some s)

/-- The loop over the memory map.  It divides by the stride, and reads the map. -/
def kernelMapReportLive (b : BootInfo) (s : σ) : Except KernelTrap σ :=
  if b.DescriptorSize = 0 then .error .divideError
  else if b.MemoryMap = 0 ∧ 0 < mmapEntries b then .error (.fault .nullDeref)
  else
    match kernelMemoryMapLive putc view fuel b s with
    | some s => .ok s
    | none => .error (.fault .outOfFuel)

/-- `kernel_main` from `acpi_init` on, up to the loop at its end. -/
def kernelReportLive (cpu : Cpu) (b : BootInfo) (s : σ) : Except KernelTrap (AcpiInfo × σ) := do
  let (info, s) ← orTrap (acpiInitLive putc view fuel cpu b.SystemTable AcpiInfo.zero s)
  let s ← orTrap (kernelConfigTablesLive putc view fuel b.SystemTable s)
  let s ← kernelMapReportLive putc view fuel b s
  return (info, s)

end Live

/-- The memory, with the framebuffer in it. -/
def ConsoleState.memory (s : ConsoleState) : ℕ → Byte := s.rgb.screen.byte

/-- `kernel_main`, up to the loop at its end. -/
def kernelMainLive (fuel : ℕ) (cpu : Cpu) (b : BootInfo) (s : ConsoleState) :
    Except KernelTrap (AcpiInfo × ConsoleState) :=
  let s := (consoleInit b s).2
  let s := consoleClear s
  kernelReportLive (fun s c => consolePutc c s) ConsoleState.memory fuel cpu b s

/-! ## In step with the firmware as it was -/

section Lockstep

variable {σ : Type} {putc : σ → Byte → σ} {view : σ → ℕ → Byte} {I : σ → Prop} {m : ℕ → Byte}
  {systemTable : BitVec 64} {fuel : ℕ}

/-- What is printed keeps the invariant. -/
theorem printfE_lockstep (hputc : ∀ s c, I s → I (putc s c)) (fmt buffer : List Byte)
    (args : List (BitVec 64)) {s : σ} (hs : I s) :
    Lockstep I (printfE putc fuel fmt buffer args s) (printfE putc fuel fmt buffer args s) := by
  unfold printfE
  cases hprint : printLiteral putc fuel fmt buffer args s with
  | none => exact Lockstep.error _
  | some t => exact Lockstep.ok (printLiteral_keeps hputc hprint hs)

theorem printStatuses_lockstep (hputc : ∀ s c, I s → I (putc s c)) (info : AcpiInfo) {s : σ}
    (hs : I s) :
    Lockstep I (printStatuses putc fuel info s) (printStatuses putc fuel info s) := by
  have hstatus : ∀ d st t, I t → Lockstep I (printStatus putc fuel d st t)
      (printStatus putc fuel d st t) := fun d st t ht => printfE_lockstep hputc _ _ _ ht
  have hapic : Lockstep I (printApic putc fuel info s) (printApic putc fuel info s) := by
    unfold printApic
    split_ifs
    · exact (hstatus _ _ _ hs).bind (fun t ht => hstatus _ _ _ ht)
    · exact (hstatus _ _ _ hs).bind (fun t ht => Lockstep.ok ht)
    · exact hstatus _ _ _ hs
  refine hapic.bind (fun t ht => ?_)
  refine (hstatus _ _ _ ht).bind (fun t ht => ?_)
  exact (hstatus _ _ _ ht).bind (fun t ht => hstatus _ _ _ ht)

/-- The report of `acpi_init`, on what it has stored. -/
theorem acpiReportLive_lockstep (hputc : ∀ s c, I s → I (putc s c))
    (hview : ∀ s, I s → SameFirmware m (view s) systemTable) {info : AcpiInfo}
    (hrsdp : findRsdp m systemTable = .ok info.rsdp) (hne : info.rsdp ≠ 0)
    (hlisted : enumeratedRoot m info = listedRoot m info.rsdp) {s : σ} (hs : I s) :
    Lockstep (fun r => I r.2) (acpiReportLive putc view fuel info s)
      (acpiReport putc fuel m info s) := by
  obtain ⟨root, w, hroot⟩ : ∃ root w, enumeratedRoot m info = (root, w) := ⟨_, _, rfl⟩
  have hisRoot : IsRoot m info.rsdp root w := Or.inr (hlisted.symm.trans hroot)
  have hobject : ∀ t, I t → SameObject m (view t) root (rootSize m root w) :=
    fun t ht => hview t ht _ _ (.root hrsdp hne hisRoot)
  unfold acpiReportLive acpiReport
  refine Lockstep.bind_eq (((hview s hs).foundRsdp hrsdp).deref (by decide)) (fun revision _ => ?_)
  refine (printfE_lockstep hputc _ _ _ hs).bind (fun t ht => ?_)
  rw [enumeratedRoot_congr ((hview t ht).foundRsdp hrsdp hne), hroot]
  refine Lockstep.bind_eq ((hobject t ht).deref rootSize_header) (fun length hlength => ?_)
  obtain ⟨-, rfl⟩ := of_deref_eq_ok hlength
  have hbody : ∀ i < (entryCount (member m root sdtLength) w).toNat, ∀ u, I u →
      Lockstep I (listTable (view u) root w i >>= fun table => printTable putc fuel table u)
        (listTable m root w i >>= fun table => printTable putc fuel table u) := by
    intro i hi u hu
    have hentry := rootSize_entry hi
    refine Lockstep.bind_eq (listTable_congr (fun hne j hj => hobject u hu hne j (by omega))
      (hview u hu _ _ (.table hrsdp hne hisRoot hi))) (fun table _ => ?_)
    exact printfE_lockstep hputc _ _ _ hu
  refine (Lockstep.forUpE ht hbody).bind (fun u hu => ?_)
  refine (printStatuses_lockstep hputc _ hu).bind (fun v hv => ?_)
  exact (printfE_lockstep hputc _ _ _ hv).bind (fun x hx => Lockstep.ok hx)

/-- **`acpi_init` in one memory.** -/
theorem acpiInitLive_lockstep (hputc : ∀ s c, I s → I (putc s c))
    (hview : ∀ s, I s → SameFirmware m (view s) systemTable) (cpu : Cpu) (info : AcpiInfo) {s : σ}
    (hs : I s) :
    Lockstep (fun r => I r.2) (acpiInitLive putc view fuel cpu systemTable info s)
      (acpiInitReport putc fuel m cpu systemTable info s) := by
  refine Lockstep.bind_eq (acpiDetect_congr (hview s hs) fuel cpu info) (fun found hfound => ?_)
  obtain ⟨hrsdp, hne, hlisted⟩ := acpiDetect_stores hfound
  exact acpiReportLive_lockstep hputc hview hrsdp hne hlisted hs

/-- The report on an entry of the configuration table. -/
theorem reportVersionLive_lockstep (hputc : ∀ s c, I s → I (putc s c))
    (hview : ∀ s, I s → SameFirmware m (view s) systemTable) {i : ℕ}
    (hi : i < member m systemTable numberOfTableEntries) (v : AcpiVersion) {s : σ} (hs : I s) :
    Lockstep I
      (reportVersionLive putc view fuel (memberPtr m systemTable configurationTable) i v s)
      (reportVersion putc fuel m (memberPtr m systemTable configurationTable) i v s) := by
  have hconfig : ∀ t, I t → SameObject m (view t) (memberPtr m systemTable configurationTable)
      (24 * member m systemTable numberOfTableEntries) := fun t ht => hview t ht _ _ .configTable
  unfold reportVersionLive reportVersion
  refine Lockstep.bind_eq ((hconfig s hs).memcmpAt (by omega) _) (fun same hsame => ?_)
  split_ifs with hyes
  · obtain ⟨-, hbytes⟩ := of_memcmpAt_eq_true (hyes ▸ hsame)
    have hguid : HasAcpiGuid m systemTable i := hasAcpiGuid_of_bytesAt hbytes
    refine (printfE_lockstep hputc _ _ _ hs).bind (fun t ht => ?_)
    refine Lockstep.bind_eq ((hconfig t ht).derefPtr ?_) (fun rsdp hrsdp => ?_)
    · simp only [vendorTable]
      omega
    obtain rfl : entryRsdp m systemTable i = rsdp := (of_derefPtr_eq_ok hrsdp).2
    refine Lockstep.bind_eq ((hview t ht _ _ (.rsdp hi hguid)).deref ?_) (fun revision _ => ?_)
    · simp only [rsdpRevision]
      omega
    exact printfE_lockstep hputc _ _ _ ht
  · exact Lockstep.ok hs

/-- **The loop over the configuration table in one memory**: it makes as many rounds as the
table had entries at the start. -/
theorem kernelConfigTablesLive_lockstep (hputc : ∀ s c, I s → I (putc s c))
    (hview : ∀ s, I s → SameFirmware m (view s) systemTable)
    (hfuel : member m systemTable numberOfTableEntries < fuel) {s : σ} (hs : I s) :
    Lockstep I (kernelConfigTablesLive putc view fuel systemTable s)
      (kernelConfigTables putc fuel m systemTable s) := by
  by_cases hst : systemTable = 0
  · obtain ⟨fuel, rfl⟩ : ∃ k, fuel = k + 1 := ⟨fuel - 1, by omega⟩
    rw [hst]
    exact Lockstep.error _
  have hround : ∀ i < member m systemTable numberOfTableEntries, ∀ t, I t →
      Lockstep I
        (derefPtr (view t) systemTable configurationTable >>= fun ct =>
          reportVersionLive putc view fuel ct i .v1 t >>= fun t =>
            reportVersionLive putc view fuel ct i .v2 t)
        (derefPtr m systemTable configurationTable >>= fun ct =>
          reportVersion putc fuel m ct i .v1 t >>= fun t =>
            reportVersion putc fuel m ct i .v2 t) := by
    intro i hi t ht
    refine Lockstep.bind_eq ((hview t ht _ _ .systemTable).derefPtr (by decide)) (fun ct hct => ?_)
    obtain ⟨-, rfl⟩ := of_derefPtr_eq_ok hct
    exact (reportVersionLive_lockstep hputc hview hi .v1 ht).bind
      (fun u hu => reportVersionLive_lockstep hputc hview hi .v2 hu)
  have hbound : ∀ t, I t → deref (view t) systemTable numberOfTableEntries
      = .ok (member m systemTable numberOfTableEntries) := by
    intro t ht
    rw [(hview t ht _ _ .systemTable).deref (by decide), deref_of_ne hst]
  unfold kernelConfigTablesLive kernelConfigTables
  rw [countWhile_eq hbound (fun i hi t ht u hu => (hround i hi t ht).2 u ?_) (Nat.zero_add _) hfuel hs,
    deref_of_ne hst, ok_bind]
  · simp only [Nat.zero_add]
    exact Lockstep.forUpE hs hround
  · rw [← (hround i hi t ht).1]
    exact hu

/-- A descriptor depends on the bytes of its members. -/
theorem readDescriptor_congr {m m' : ℕ → Byte} {a : ℕ} (h : SameBlock m m' a 32) :
    readDescriptor m' a = readDescriptor m a := by
  have hword : ∀ off k, off + k ≤ 32 → leWord m' (a + off) k = leWord m (a + off) k := by
    intro off k hk
    apply leWord_congr
    intro i hi
    rw [Nat.add_assoc]
    exact h _ (by omega)
  have htype := hword 0 4 (by decide)
  rw [Nat.add_zero] at htype
  rw [readDescriptor, readDescriptor, htype, hword 8 8 (by decide), hword 24 8 (by decide)]

/-- **The loop over the memory map in one memory.** -/
theorem kernelMapReportLive_lockstep (hputc : ∀ s c, I s → I (putc s c)) {b : BootInfo}
    (hmap : ∀ s, I s → ∀ i < mmapEntries b, mmapEntry (view s) b i = mmapEntry m b i) {s : σ}
    (hs : I s) :
    Lockstep I (kernelMapReportLive putc view fuel b s) (kernelMapReport putc fuel m b s) := by
  have hloop : kernelMemoryMapLive putc view fuel b s = kernelMemoryMap putc fuel m b s ∧
      ∀ t, kernelMemoryMap putc fuel m b s = some t → I t := by
    unfold kernelMemoryMapLive kernelMemoryMap
    split_ifs with hstride
    · exact ⟨rfl, fun t ht => by cases ht⟩
    · refine forUp_relates (fun acc acc' => acc = acc' ∧ ∀ t, acc' = some t → I t)
        ⟨rfl, fun t ht => Option.some.inj ht ▸ hs⟩ ?_
      rintro i hi acc _ ⟨rfl, hacc⟩
      cases acc with
      | none => exact ⟨rfl, fun t ht => by cases ht⟩
      | some u =>
          have hu := hacc u rfl
          simp only [Option.bind_some, hmap u hu i hi]
          refine ⟨trivial, fun t ht => ?_⟩
          split_ifs at ht
          · obtain ⟨st, hst, rfl⟩ := Option.map_eq_some_iff.mp ht
            exact consolePrintf_keeps hputc hst hu
          · exact Option.some.inj ht ▸ hu
  unfold kernelMapReportLive kernelMapReport
  rw [hloop.1]
  split_ifs
  · exact Lockstep.error _
  · exact Lockstep.error _
  · cases hprint : kernelMemoryMap putc fuel m b s with
    | none => exact Lockstep.error _
    | some t => exact Lockstep.ok (hloop.2 t hprint)

theorem orTrap_lockstep {α : Type} {J : α → Prop} {x y : Except Fault α} (h : Lockstep J x y) :
    Lockstep J (orTrap x) (orTrap y) :=
  ⟨congrArg orTrap h.1, fun a ha => h.2 a (orTrap_eq_ok_iff.mp ha)⟩

/-- **`kernel_main` in one memory**, from `acpi_init` on. -/
theorem kernelReportLive_lockstep (hputc : ∀ s c, I s → I (putc s c)) {b : BootInfo}
    (hview : ∀ s, I s → SameFirmware m (view s) b.SystemTable)
    (hmap : ∀ s, I s → ∀ i < mmapEntries b, mmapEntry (view s) b i = mmapEntry m b i)
    (hfuel : member m b.SystemTable numberOfTableEntries < fuel) (cpu : Cpu) {s : σ} (hs : I s) :
    Lockstep (fun r => I r.2) (kernelReportLive putc view fuel cpu b s)
      (kernelReport putc fuel m cpu b s) := by
  refine (orTrap_lockstep (acpiInitLive_lockstep hputc hview cpu _ hs)).bind ?_
  rintro ⟨info, t⟩ ht
  refine (orTrap_lockstep (kernelConfigTablesLive_lockstep hputc hview hfuel ht)).bind ?_
  intro u hu
  exact (kernelMapReportLive_lockstep hputc hmap hu).bind (fun v hv => Lockstep.ok hv)

end Lockstep

/-! ## The framebuffer in the memory -/

/-- The `n` bytes from `a` on are not in the framebuffer. -/
def Framebuffer.Apart (fb : Framebuffer) (a n : ℕ) : Prop := a + n ≤ fb.addr ∨ fb.addr + fb.size ≤ a

/-- Nothing that the kernel reads lies in the framebuffer. -/
structure FramebufferApart (m : ℕ → Byte) (b : BootInfo) : Prop where
  firmware : ∀ p n, FirmwareObject m b.SystemTable p n → p ≠ 0 →
    (framebufferOf b).Apart p.toNat n
  map : ∀ i < mmapEntries b,
    (framebufferOf b).Apart (b.MemoryMap + BitVec.ofNat 64 i * b.DescriptorSize).toNat 32

/-- The console is on, and the memory outside the framebuffer is `m`. -/
structure ScreenOnly (b : BootInfo) (m : ℕ → Byte) (s : ConsoleState) : Prop where
  fb_eq : s.fb = framebufferOf b
  drv_eq : s.drv = rgb32Driver
  outside : ∀ a, ¬ (framebufferOf b).Inside a → s.memory a = m a

section Screen

variable {b : BootInfo} {m : ℕ → Byte} {s : ConsoleState}

/-- A pixel store leaves the rest of the memory alone. -/
theorem Depth.putpixel_outside {d : Depth} {fb : Framebuffer} {W : ℕ} (hfit : d.Fits fb W)
    (x y color : BitVec 32) (mem : Mem) {a : ℕ} (ha : ¬ fb.Inside a) :
    (d.putpixel fb x y color mem).byte a = mem.byte a := by
  by_cases hoff : x ≥ fb.width ∨ y ≥ fb.height
  · rw [d.putpixel_offscreen fb color mem hoff]
  · have hx : x < fb.width := by bv_omega
    have hy : y < fb.height := by bv_omega
    rw [d.putpixel_byte hfit hx hy, if_neg]
    rintro ⟨hlow, hhigh⟩
    have hin := d.inside_pixel hfit (Nat.lt_of_lt_of_le hx hfit.width_le) hy
      (i := a - d.pixelAddr fb x.toNat y.toNat) (by omega)
    rw [Nat.add_sub_cancel' hlow] at hin
    exact ha hin

/-- **`console_putc` writes to the framebuffer only.** -/
theorem ScreenOnly.putc (hb : b.Sane) (h : ScreenOnly b m s) (c : Byte) :
    ScreenOnly b m (consolePutc c s) := by
  rw [consolePutc, h.drv_eq, h.fb_eq]
  refine { fb_eq := rfl, drv_eq := rfl, outside := fun a ha => ?_ }
  refine rgbPutc_preserves (fun mem : Mem => mem.byte a = m a) (fun _ => True) ?_ ?_ c
    (h.outside a ha) (fun _ _ _ _ => trivial)
  · intro x y color mem _ hmem
    exact (Depth.bpp32.putpixel_outside hb.fits x y color mem ha).trans hmem
  · intro mem hmem
    have hscroll := rgbScroll_byte hb.fits.size_lt hb.height mem a
    exact (hscroll.trans (if_neg ha)).trans hmem

/-- So does `console_clear`, on which it is established. -/
theorem screenOnly_clear (hb : b.Sane) (s : ConsoleState) :
    ScreenOnly b s.memory (consoleClear (consoleInit b s).2) := by
  rw [consoleClear_init hb]
  refine { fb_eq := rfl, drv_eq := rfl, outside := fun a ha => ?_ }
  have hclear := Depth.bpp32.clear_byte hb.fits.size_lt hb.align s.rgb a
  exact hclear.trans (if_neg ha)

/-- What lies apart from the framebuffer is still there. -/
theorem ScreenOnly.same (h : ScreenOnly b m s) {a n : ℕ} (hapart : (framebufferOf b).Apart a n) :
    SameBlock m s.memory a n := by
  intro i hi
  apply h.outside
  rintro ⟨hlow, hhigh⟩
  rcases hapart with hbelow | habove
  · omega
  · omega

end Screen

/-- **The kernel in one memory is the kernel of the model.**  If the framebuffer is sane and
nothing that the kernel reads lies in it, `kernel_main` finds and prints what it would if the
memory did not change while it draws, and stops where it would. -/
theorem kernelMain_one_memory {b : BootInfo} (hb : b.Sane) (cpu : Cpu) (s : ConsoleState)
    (hapart : FramebufferApart s.memory b) :
    ∃ N, ∀ fuel ≥ N, kernelMainLive fuel cpu b s = kernelMain fuel s.memory cpu b s := by
  refine ⟨member s.memory b.SystemTable numberOfTableEntries + 1, fun fuel hfuel => ?_⟩
  have hview : ∀ t, ScreenOnly b s.memory t → SameFirmware s.memory t.memory b.SystemTable :=
    fun t ht p n hp hne => ht.same (hapart.firmware p n hp hne)
  have hmap : ∀ t, ScreenOnly b s.memory t → ∀ i < mmapEntries b,
      mmapEntry t.memory b i = mmapEntry s.memory b i :=
    fun t ht i hi => readDescriptor_congr (ht.same (hapart.map i hi))
  exact (kernelReportLive_lockstep (fun t c ht => ht.putc hb c) hview hmap hfuel cpu
    (screenOnly_clear hb s)).1

theorem bootFirmware_apart : FramebufferApart (firmware 0x50) bootFirmware where
  firmware p n hp _ := by
    have hbelow := firmware_below hp
    have hbase : (framebufferOf bootFirmware).addr = 0xC0000000 := by decide
    exact Or.inl (by omega)
  map i hi := by
    have hentries : mmapEntries bootFirmware = 0 := by decide
    omega

/-- The kernel on that firmware, with the framebuffer far above it. -/
theorem kernelMain_one_memory_1024x768 :
    ∃ N, ∀ fuel ≥ N,
      kernelMainLive fuel cpuWithApic bootFirmware (consoleBoot ⟨firmware 0x50, []⟩)
        = kernelMain fuel (firmware 0x50) cpuWithApic bootFirmware
            (consoleBoot ⟨firmware 0x50, []⟩) :=
  kernelMain_one_memory bootFirmware_sane cpuWithApic (consoleBoot ⟨firmware 0x50, []⟩)
    bootFirmware_apart

end GridX64
