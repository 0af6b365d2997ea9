/-
# What the kernel reads of the firmware

`FirmwareObject m systemTable p n` lists the objects that `acpi_init` and the loop over
the configuration table of `kernel_main` read: `n` bytes at `p`, if `p` is not null.

The lookups depend on these bytes and on no others.  Two memories that hold the same
objects (`SameFirmware`) give the same RSDP (`findRsdp_congr`), the same tables
(`findAcpiTable_congr`), the same facts (`acpiDetect_congr`), and the same lines of the
report (`listTable_congr`).
-/
import GridX64.AcpiSummary
import GridX64.KernelMain
import GridX64.Lockstep
import GridX64.MadtCount

namespace GridX64

/-! ## Two memories -/

/-- The memories hold the same `n` bytes from `a` on. -/
def SameBlock (m m' : ℕ → Byte) (a n : ℕ) : Prop := ∀ i < n, m' (a + i) = m (a + i)

/-- The memories hold the same object of `n` bytes at `p`, if there is one. -/
def SameObject (m m' : ℕ → Byte) (p : BitVec 64) (n : ℕ) : Prop := p ≠ 0 → SameBlock m m' p.toNat n

section Same

variable {m m' : ℕ → Byte} {p : BitVec 64} {n : ℕ}

/-- A member depends on the object that it is in. -/
theorem SameBlock.member (h : SameBlock m m' p.toNat n) {f : Field} (hf : f.offset + f.size ≤ n) :
    GridX64.member m' p f = GridX64.member m p f := by
  apply leWord_congr
  intro i hi
  rw [Nat.add_assoc]
  exact h _ (by omega)

theorem SameObject.deref (h : SameObject m m' p n) {f : Field} (hf : f.offset + f.size ≤ n) :
    GridX64.deref m' p f = GridX64.deref m p f := by
  unfold GridX64.deref
  split_ifs with hp
  · rfl
  · rw [(h hp).member hf]

theorem SameObject.derefPtr (h : SameObject m m' p n) {f : Field} (hf : f.offset + f.size ≤ n) :
    GridX64.derefPtr m' p f = GridX64.derefPtr m p f := by
  unfold GridX64.derefPtr
  rw [h.deref hf]

/-- A comparison depends on the bytes compared. -/
theorem memcmp_congr {p₁ p₁' p₂ : ℕ → Byte} {k : ℕ} (h : ∀ i < k, p₁' i = p₁ i) :
    memcmp p₁' p₂ k = memcmp p₁ p₂ k := by
  induction k generalizing p₁ p₁' p₂ with
  | zero => rfl
  | succ k ih =>
      rw [memcmp, memcmp, h 0 (by omega), ih (fun i hi => h (i + 1) (by omega))]

theorem SameObject.memcmpAt (h : SameObject m m' p n) {off k : ℕ} (hk : off + k ≤ n)
    (bytes : List Byte) : GridX64.memcmpAt m' p off bytes k = GridX64.memcmpAt m p off bytes k := by
  unfold GridX64.memcmpAt
  split_ifs with hp
  · rfl
  · have hsame : ∀ i < k, m' (p.toNat + off + i) = m (p.toNat + off + i) := by
      intro i hi
      rw [Nat.add_assoc]
      exact h hp _ (by omega)
    rw [memcmp_congr hsame]

/-- A checksum depends on the bytes summed. -/
theorem SameObject.checksumValid (h : SameObject m m' p n) {k : ℕ} (hk : k ≤ n) :
    GridX64.checksumValid m' p k = GridX64.checksumValid m p k := by
  by_cases hp : p = 0
  · subst hp
    unfold GridX64.checksumValid
    split_ifs with hnull
    · rfl
    · -- nothing is summed
      obtain rfl : k = 0 := by
        by_contra hk
        exact hnull ⟨rfl, Nat.pos_of_ne_zero hk⟩
      rfl
  · have hsum : byteSum m' p k = byteSum m p k := by
      refine forUp_relates (· = ·) rfl (fun i hi sum sum' hsum => ?_)
      rw [hsum, h hp i (by omega)]
    rw [checksumValid_of_ne hp, checksumValid_of_ne hp, hsum]

end Same

/-! ## Reads that succeed -/

section Reads

variable {m : ℕ → Byte} {p : BitVec 64} {f : Field}

/-- A read that succeeds goes through a pointer that is not null. -/
theorem of_deref_eq_ok {v : ℕ} (h : deref m p f = .ok v) : p ≠ 0 ∧ member m p f = v := by
  unfold deref at h
  split_ifs at h with hp
  exact ⟨hp, Except.ok.inj h⟩

theorem of_derefPtr_eq_ok {q : BitVec 64} (h : derefPtr m p f = .ok q) :
    p ≠ 0 ∧ memberPtr m p f = q := by
  have hp : p ≠ 0 := by
    rintro rfl
    have hnull : (Except.error .nullDeref : Except Fault (BitVec 64)) = .ok q := h
    cases hnull
  rw [derefPtr_of_ne hp] at h
  exact ⟨hp, Except.ok.inj h⟩

theorem of_memcmpAt_eq_true {off n : ℕ} {bytes : List Byte}
    (h : memcmpAt m p off bytes n = .ok true) : p ≠ 0 ∧ BytesAt m p off bytes n := by
  unfold memcmpAt at h
  split_ifs at h with hp
  exact ⟨hp, of_decide_eq_true (Except.ok.inj h)⟩

/-- An entry of the configuration table that passes for ACPI. -/
theorem of_isAcpiEntry_eq_true {systemTable : BitVec 64} {i : ℕ}
    (h : isAcpiEntry m (memberPtr m systemTable configurationTable) i = .ok true) :
    memberPtr m systemTable configurationTable ≠ 0 ∧ HasAcpiGuid m systemTable i := by
  have hct : memberPtr m systemTable configurationTable ≠ 0 := by
    intro hct
    rw [hct] at h
    have hnull : (Except.error .nullDeref : Except Fault Bool) = .ok true := h
    cases hnull
  rw [isAcpiEntry_of_ne hct] at h
  exact ⟨hct, of_decide_eq_true (Except.ok.inj h)⟩

end Reads

/-! ## The objects -/

/-- The size of a root table: its `Length`, and the entries that are read. -/
def rootSize (m : ℕ → Byte) (root : BitVec 64) (w : ℕ) : ℕ :=
  max (max 8 (member m root sdtLength))
    (sdtHeaderSize + w * (entryCount (member m root sdtLength) w).toNat)

/-- The root tables of an RSDP: the one that is searched and the one that is listed. -/
def IsRoot (m : ℕ → Byte) (rsdp root : BitVec 64) (w : ℕ) : Prop :=
  searchedRoot m rsdp = some (root, w) ∨ listedRoot m rsdp = (root, w)

/-- The objects that are read of the firmware, and how many bytes of each. -/
inductive FirmwareObject (m : ℕ → Byte) (systemTable : BitVec 64) : BitVec 64 → ℕ → Prop
  | systemTable : FirmwareObject m systemTable systemTable 120
  | configTable :
      FirmwareObject m systemTable (memberPtr m systemTable configurationTable)
        (24 * member m systemTable numberOfTableEntries)
  | rsdp {i : ℕ} (hi : i < member m systemTable numberOfTableEntries)
      (hguid : HasAcpiGuid m systemTable i) :
      FirmwareObject m systemTable (entryRsdp m systemTable i)
        (max 36 (rsdpCheckedLength m (entryRsdp m systemTable i)))
  | root {rsdp root : BitVec 64} {w : ℕ} (hrsdp : findRsdp m systemTable = .ok rsdp)
      (hne : rsdp ≠ 0) (hroot : IsRoot m rsdp root w) :
      FirmwareObject m systemTable root (rootSize m root w)
  | table {rsdp root : BitVec 64} {w i : ℕ} (hrsdp : findRsdp m systemTable = .ok rsdp)
      (hne : rsdp ≠ 0) (hroot : IsRoot m rsdp root w)
      (hi : i < (entryCount (member m root sdtLength) w).toNat) :
      FirmwareObject m systemTable (entryTable m root w i)
        (max 8 (member m (entryTable m root w i) sdtLength))
  | fadt {rsdp fadt : BitVec 64} (hrsdp : findRsdp m systemTable = .ok rsdp)
      (hfadt : findAcpiTable m rsdp (chars "FACP") = .ok fadt) :
      FirmwareObject m systemTable fadt 111
  -- the walk goes 44 bytes past the table, and its last entry may start on the last of them
  | madt {rsdp madt : BitVec 64} (hrsdp : findRsdp m systemTable = .ok rsdp)
      (hmadt : findAcpiTable m rsdp (chars "APIC") = .ok madt) :
      FirmwareObject m systemTable madt (madtEntries + member m madt sdtLength + 7)

/-- The memories hold the same objects. -/
def SameFirmware (m m' : ℕ → Byte) (systemTable : BitVec 64) : Prop :=
  ∀ p n, FirmwareObject m systemTable p n → SameObject m m' p n

/-! ## The lookups -/

section Lookups

variable {m m' : ℕ → Byte} {systemTable rsdp : BitVec 64}

/-- The checksum test of an RSDP depends on its bytes. -/
theorem rsdpValid_congr (h : SameObject m m' rsdp (max 36 (rsdpCheckedLength m rsdp))) :
    rsdpValid m' rsdp = rsdpValid m rsdp := by
  unfold rsdpValid
  rw [h.deref (f := rsdpRevision) (by simp [rsdpRevision]),
    h.deref (f := rsdpLength) (by simp [rsdpLength])]
  refine bind_eq_bind rfl (fun revision hrevision => ?_)
  obtain ⟨-, rfl⟩ := of_deref_eq_ok hrevision
  split_ifs with htwo
  · refine bind_eq_bind rfl (fun length hlength => h.checksumValid ?_)
    obtain ⟨-, rfl⟩ := of_deref_eq_ok hlength
    rw [rsdpCheckedLength, if_pos htwo]
    omega
  · exact h.checksumValid (by omega)

/-- A round of `find_rsdp` depends on the system table, the configuration table and the
RSDP of its entry. -/
theorem rsdpCandidate_congr (h : SameFirmware m m' systemTable) (hst : systemTable ≠ 0) {i : ℕ}
    (hi : i < member m systemTable numberOfTableEntries) :
    rsdpCandidate m' systemTable i = rsdpCandidate m systemTable i := by
  have hconfig := h _ _ .configTable
  unfold rsdpCandidate
  rw [(h _ _ .systemTable).derefPtr (by decide), derefPtr_of_ne hst, ok_bind, ok_bind]
  have hentry : isAcpiEntry m' (memberPtr m systemTable configurationTable) i
      = isAcpiEntry m (memberPtr m systemTable configurationTable) i := by
    unfold isAcpiEntry
    rw [hconfig.memcmpAt (by omega), hconfig.memcmpAt (by omega)]
  refine bind_eq_bind hentry (fun isAcpi hacpi => ?_)
  split_ifs with hyes
  · obtain ⟨hct, hguid⟩ := of_isAcpiEntry_eq_true (hyes ▸ hacpi)
    rw [hconfig.derefPtr (f := vendorTable i) (by simp only [vendorTable]; omega),
      derefPtr_of_ne hct, ok_bind, ok_bind]
    exact bind_eq_bind (rsdpValid_congr (h _ _ (.rsdp hi hguid))) (fun _ _ => rfl)
  · rfl

/-- **`find_rsdp` depends on what it reads.** -/
theorem findRsdp_congr (h : SameFirmware m m' systemTable) :
    findRsdp m' systemTable = findRsdp m systemTable := by
  unfold findRsdp
  split_ifs with hst
  · rfl
  · rw [(h _ _ .systemTable).deref (by decide), deref_of_ne hst, ok_bind, ok_bind,
      firstMatch_congr (fun i hi => rsdpCandidate_congr h hst hi)]

/-- The RSDP that was found is one of the objects. -/
theorem SameFirmware.foundRsdp (h : SameFirmware m m' systemTable)
    (hrsdp : findRsdp m systemTable = .ok rsdp) : SameObject m m' rsdp 36 := by
  intro hne
  obtain ⟨-, i, hi, ⟨⟨-, hguid, -, -⟩, rfl⟩, -⟩ := findRsdp_found_iff.mp ⟨hrsdp, hne⟩
  exact fun j hj => h _ _ (.rsdp hi hguid) hne j (by omega)

section Roots

variable {root : BitVec 64} {w : ℕ}

/-- The entries of a root up to the `i`-th. -/
theorem tableEntry_size (w i : ℕ) :
    (tableEntry w i).offset + (tableEntry w i).size ≤ sdtHeaderSize + w * (i + 1) := by
  simp only [tableEntry, Nat.mul_succ]
  omega

/-- A round of `find_acpi_table` depends on the root and the table of its entry. -/
theorem tableCandidate_congr {signature : List Byte} {i : ℕ}
    (hroot : SameObject m m' root (sdtHeaderSize + w * (i + 1)))
    (htable : SameObject m m' (entryTable m root w i)
      (max 8 (member m (entryTable m root w i) sdtLength))) :
    tableCandidate m' root w signature i = tableCandidate m root w signature i := by
  unfold tableCandidate
  refine bind_eq_bind (hroot.derefPtr (tableEntry_size w i)) (fun hdr hhdr => ?_)
  obtain rfl : entryTable m root w i = hdr := (of_derefPtr_eq_ok hhdr).2
  refine bind_eq_bind (htable.memcmpAt (by omega) signature) (fun same hsame => ?_)
  split_ifs
  · refine bind_eq_bind (htable.deref (by simp [sdtLength])) (fun length hlength => ?_)
    obtain ⟨-, rfl⟩ := of_deref_eq_ok hlength
    rw [htable.checksumValid (by omega)]
  · rfl

/-- The header of a root is a part of it. -/
theorem rootSize_header : sdtLength.offset + sdtLength.size ≤ rootSize m root w :=
  le_max_of_le_left (le_max_left 8 _)

/-- The entries that are read are a part of the root. -/
theorem rootSize_entry {i : ℕ} (hi : i < (entryCount (member m root sdtLength) w).toNat) :
    sdtHeaderSize + w * (i + 1) ≤ rootSize m root w :=
  le_max_of_le_right (Nat.add_le_add_left (Nat.mul_le_mul_left w (Nat.succ_le_of_lt hi)) _)

/-- The search of a root depends on the root and on the tables that it lists. -/
theorem searchTable_congr {signature : List Byte} (hroot : SameObject m m' root (rootSize m root w))
    (htable : ∀ i < (entryCount (member m root sdtLength) w).toNat,
      SameObject m m' (entryTable m root w i)
        (max 8 (member m (entryTable m root w i) sdtLength))) :
    searchTable m' root w signature = searchTable m root w signature := by
  unfold searchTable
  refine bind_eq_bind (hroot.deref rootSize_header) (fun length hlength => ?_)
  obtain ⟨-, rfl⟩ := of_deref_eq_ok hlength
  refine bind_eq_bind (hroot.checksumValid (by rw [rootSize]; omega)) (fun valid _ => ?_)
  split_ifs
  · rw [firstMatch_congr]
    intro i hi
    have hentry := rootSize_entry hi
    exact tableCandidate_congr (fun hne j hj => hroot hne j (by omega)) (htable i hi)
  · rfl

end Roots

/-- The choice of a root depends on the RSDP. -/
theorem searchedRoot_congr (h : SameBlock m m' rsdp.toNat 36) :
    searchedRoot m' rsdp = searchedRoot m rsdp := by
  unfold searchedRoot
  rw [h.member (f := rsdpRevision) (by decide), h.member (f := rsdpXsdtAddress) (by decide),
    h.member (f := rsdpRsdtAddress) (by decide)]

/-- **`find_acpi_table` depends on what it reads.** -/
theorem findAcpiTable_congr (h : SameFirmware m m' systemTable)
    (hrsdp : findRsdp m systemTable = .ok rsdp) (signature : List Byte) :
    findAcpiTable m' rsdp signature = findAcpiTable m rsdp signature := by
  unfold findAcpiTable
  split_ifs with hne
  · rfl
  · rw [searchedRoot_congr (h.foundRsdp hrsdp hne)]
    cases hroot : searchedRoot m rsdp with
    | none => rfl
    | some searched =>
        obtain ⟨root, w⟩ := searched
        exact searchTable_congr (h _ _ (.root hrsdp hne (Or.inl hroot)))
          (fun i hi => h _ _ (.table hrsdp hne (Or.inl hroot) hi))

end Lookups

/-! ## acpi_init -/

/-- The walk over the MADT reads at most seven bytes past `stop`. -/
theorem madtReads_range {m : ℕ → Byte} {fuel ptr stop a : ℕ} (ha : a ∈ madtReads m fuel ptr stop) :
    ptr ≤ a ∧ a < stop + 7 := by
  induction fuel generalizing ptr with
  | zero => exact absurd ha List.not_mem_nil
  | succ fuel ih =>
      rw [madtReads] at ha
      split_ifs at ha with hptr hlapic
      · simp only [List.mem_append, List.mem_cons, List.not_mem_nil, or_false] at ha
        rcases ha with (rfl | rfl | rfl | rfl | rfl) | rfl | ha
        iterate 6 exact ⟨by omega, by omega⟩
        obtain ⟨hlow, hhigh⟩ := ih ha
        exact ⟨by omega, hhigh⟩
      · simp only [List.mem_append, List.mem_cons, List.not_mem_nil, or_false] at ha
        rcases ha with rfl | rfl | ha
        iterate 2 exact ⟨by omega, by omega⟩
        obtain ⟨hlow, hhigh⟩ := ih ha
        exact ⟨by omega, hhigh⟩
      · exact absurd ha List.not_mem_nil

section Detect

variable {m m' : ℕ → Byte} {systemTable : BitVec 64} {fuel : ℕ} {cpu : Cpu} {info info₀ : AcpiInfo}

/-- **`acpi_init` depends on what it reads**, up to the end of the MADT walk. -/
theorem acpiDetect_congr (h : SameFirmware m m' systemTable) (fuel : ℕ) (cpu : Cpu)
    (info₀ : AcpiInfo) :
    acpiDetect m' fuel cpu systemTable info₀ = acpiDetect m fuel cpu systemTable info₀ := by
  unfold acpiDetect
  refine bind_eq_bind (findRsdp_congr h) (fun rsdp hrsdp => ?_)
  have hobject := h.foundRsdp hrsdp
  rw [hobject.derefPtr (f := rsdpRsdtAddress) (by decide),
    hobject.deref (f := rsdpRevision) (by decide),
    hobject.derefPtr (f := rsdpXsdtAddress) (by decide), findAcpiTable_congr h hrsdp,
    findAcpiTable_congr h hrsdp]
  refine bind_eq_bind rfl (fun rsdt _ => ?_)
  refine bind_eq_bind rfl (fun revision _ => ?_)
  refine bind_eq_bind rfl (fun xsdt _ => ?_)
  refine bind_eq_bind rfl (fun fadt hfadt => ?_)
  refine bind_eq_bind rfl (fun madt hmadt => ?_)
  have hmadtObject : SameObject m m' madt (madtEntries + member m madt sdtLength + 7) :=
    h _ _ (.madt hrsdp hmadt)
  have hheader : SameObject m m' madt madtEntries :=
    fun hne i hi => hmadtObject hne i (by omega)
  refine bind_eq_bind ((h _ _ (.fadt hrsdp hfadt)).deref (by decide)) (fun flags _ => ?_)
  refine bind_eq_bind (hheader.deref (by decide)) (fun madtFlags _ => ?_)
  refine bind_eq_bind (hheader.deref (by decide)) (fun length hlength => ?_)
  obtain ⟨hne, rfl⟩ := of_deref_eq_ok hlength
  refine bind_eq_bind (madtWalk_congr (fun a ha => ?_)) (fun numCores _ => rfl)
  obtain ⟨hlow, hhigh⟩ := madtReads_range ha
  have hsame := hmadtObject hne (a - madt.toNat) (by omega)
  rwa [Nat.add_sub_cancel' (by omega)] at hsame

/-- What `acpi_init` stores leads to the RSDP and to the root that it lists. -/
theorem acpiDetect_stores (h : acpiDetect m fuel cpu systemTable info₀ = .ok info) :
    findRsdp m systemTable = .ok info.rsdp ∧ info.rsdp ≠ 0 ∧
      enumeratedRoot m info = listedRoot m info.rsdp := by
  have hnull : acpiDetect m fuel cpu systemTable info₀ ≠ .error .nullDeref := by
    rw [h]
    simp
  obtain ⟨rsdp, fadt, madt, hfound⟩ := tablesFound_of_ne_nullDeref hnull
  have hroot := hfound.enumeratedRoot_eq h
  rw [hfound.acpiDetect_eq, bind_eq_ok_iff] at h
  obtain ⟨numCores, -, hinfo⟩ := h
  have hrsdp : info.rsdp = rsdp := by
    rw [← Except.ok.inj hinfo]
    exact detectedInfo_rsdp rsdp fadt madt info₀
  rw [hrsdp]
  exact ⟨hfound.rsdp_eq, hfound.rsdp_ne, hroot⟩

/-- The root that is listed depends on the RSDP that is stored. -/
theorem enumeratedRoot_congr (h : SameBlock m m' info.rsdp.toNat 36) :
    enumeratedRoot m' info = enumeratedRoot m info := by
  unfold enumeratedRoot
  rw [h.member (f := rsdpRevision) (by decide)]

/-- A line of the report depends on the root and on the table. -/
theorem listTable_congr {root : BitVec 64} {w i : ℕ}
    (hroot : SameObject m m' root (sdtHeaderSize + w * (i + 1)))
    (htable : SameObject m m' (entryTable m root w i)
      (max 8 (member m (entryTable m root w i) sdtLength))) :
    listTable m' root w i = listTable m root w i := by
  unfold listTable
  refine bind_eq_bind (hroot.derefPtr (tableEntry_size w i)) (fun header hheader => ?_)
  obtain rfl : entryTable m root w i = header := (of_derefPtr_eq_ok hheader).2
  refine bind_eq_bind (htable.deref (by simp [sdtLength])) (fun length hlength => ?_)
  obtain ⟨hne, -⟩ := of_deref_eq_ok hlength
  have hsignature : (List.range 4).map (fun k => m' ((entryTable m root w i).toNat + k))
      = (List.range 4).map (fun k => m ((entryTable m root w i).toNat + k)) := by
    refine List.map_congr_left (fun k hk => htable hne k ?_)
    have := List.mem_range.mp hk
    omega
  rw [hsignature]

/-- The list of the tables depends on the root and on the tables in it. -/
theorem acpiEnumerate_congr (h : SameFirmware m m' systemTable)
    (hdetect : acpiDetect m fuel cpu systemTable info₀ = .ok info) :
    acpiEnumerate m' info = acpiEnumerate m info := by
  obtain ⟨hrsdp, hne, hlisted⟩ := acpiDetect_stores hdetect
  obtain ⟨root, w, hroot⟩ : ∃ root w, enumeratedRoot m info = (root, w) := ⟨_, _, rfl⟩
  have hroot' : enumeratedRoot m' info = (root, w) :=
    (enumeratedRoot_congr (h.foundRsdp hrsdp hne)).trans hroot
  have hisRoot : IsRoot m info.rsdp root w := Or.inr (hlisted.symm.trans hroot)
  have hobject := h _ _ (.root hrsdp hne hisRoot)
  rw [acpiEnumerate_eq hroot, acpiEnumerate_eq hroot']
  refine bind_eq_bind (hobject.deref rootSize_header) (fun length hlength => ?_)
  obtain ⟨-, rfl⟩ := of_deref_eq_ok hlength
  rw [collect_congr]
  intro i hi
  have hentry := rootSize_entry hi
  exact listTable_congr (fun hne j hj => hobject hne j (by omega))
    (h _ _ (.table hrsdp hne hisRoot hi))

end Detect

/-- **`acpi_init` depends on what it reads.**  Two memories that hold the same system table,
configuration table, RSDPs, roots, FADT, MADT and listed tables, as far as these are read,
give the same facts and the same list of tables, or the same fault. -/
theorem acpiInit_reads {m m' : ℕ → Byte} {systemTable : BitVec 64}
    (h : SameFirmware m m' systemTable) (fuel : ℕ) (cpu : Cpu) (info : AcpiInfo) :
    acpiInit m' fuel cpu systemTable info = acpiInit m fuel cpu systemTable info :=
  bind_eq_bind (acpiDetect_congr h fuel cpu info) (fun _ hdetect => acpiEnumerate_congr h hdetect)

/-- The objects of the firmware with an XSDT lie below `0x8000`. -/
theorem firmware_below {p : BitVec 64} {n : ℕ} (h : FirmwareObject (firmware 0x50) 0x1000 p n) :
    p.toNat + n ≤ 0x8000 := by
  have hfound := firmware_tablesFound 0x50 (Or.inl rfl)
  have hrsdps : ∀ rsdp, findRsdp (firmware 0x50) 0x1000 = .ok rsdp → rsdp = 0x3000 :=
    fun rsdp hrsdp => Except.ok.inj (hrsdp.symm.trans hfound.rsdp_eq)
  have hroots : ∀ root w, IsRoot (firmware 0x50) 0x3000 root w → root = 0x5000 ∧ w = 8 := by
    have hsearched : searchedRoot (firmware 0x50) 0x3000 = some (0x5000, 8) := by decide +kernel
    have hlisted : listedRoot (firmware 0x50) 0x3000 = (0x5000, 8) := by decide +kernel
    rintro root w (hroot | hroot)
    · exact Prod.mk.inj (Option.some.inj (hroot.symm.trans hsearched))
    · exact Prod.mk.inj (hroot.symm.trans hlisted)
  cases h with
  | systemTable => decide
  | configTable => decide +kernel
  | rsdp hi hguid =>
      have hentries : member (firmware 0x50) 0x1000 numberOfTableEntries = 1 := by decide +kernel
      obtain rfl := Nat.lt_one_iff.mp (hentries ▸ hi)
      decide +kernel
  | root hrsdp hne hroot =>
      obtain rfl := hrsdps _ hrsdp
      obtain ⟨rfl, rfl⟩ := hroots _ _ hroot
      decide +kernel
  | table hrsdp hne hroot hi =>
      obtain rfl := hrsdps _ hrsdp
      obtain ⟨rfl, rfl⟩ := hroots _ _ hroot
      have hentries : (entryCount (member (firmware 0x50) 0x5000 sdtLength) 8).toNat = 2 := by
        decide +kernel
      rw [hentries] at hi
      interval_cases ‹ℕ› <;> decide +kernel
  | fadt hrsdp hfadt =>
      obtain rfl := hrsdps _ hrsdp
      obtain rfl := Except.ok.inj (hfadt.symm.trans hfound.fadt_eq)
      decide
  | madt hrsdp hmadt =>
      obtain rfl := hrsdps _ hrsdp
      obtain rfl := Except.ok.inj (hmadt.symm.trans hfound.madt_eq)
      decide +kernel

/-- A byte above the tables makes no difference. -/
theorem acpiInit_reads_firmware :
    acpiInit (Function.update (firmware 0x50) 0x9000 1) 4 cpuWithApic 0x1000 AcpiInfo.zero
      = acpiInit (firmware 0x50) 4 cpuWithApic 0x1000 AcpiInfo.zero := by
  refine acpiInit_reads (fun p n hp hne i hi => Function.update_of_ne ?_ _ _) 4 cpuWithApic _
  have hbelow := firmware_below hp
  omega

end GridX64
