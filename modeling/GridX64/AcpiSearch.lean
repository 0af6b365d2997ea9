/-
# find_acpi_table as a lookup in a list

The two branches of `find_acpi_table` count the entries of their root through an
unsigned subtraction, a division and a narrowing to `int`.  What they search is the
list of the addresses in the root, `listedHeaders`, for every `Length`.

* `entryCount_eq` — the number of entries, with `entryCount_short` for short roots;
* `searchTable_eq_firstIn` — the search depends on the root through its list only;
* `first_match_lookup_iff` — the result is the first listed table that matches, unless
  a null entry comes before it.
-/
import GridX64.AcpiInit

namespace GridX64

/-! ## The entries of a root -/

/-- For a root with a header the arithmetic of the entry count is exact. -/
theorem entryCount_eq {length w : ℕ} (hlength : sdtHeaderSize ≤ length) (hlt : length < 2 ^ 32)
    (hw : w = 4 ∨ w = 8) : (entryCount length w).toNat = (length - sdtHeaderSize) / w := by
  have hsub : (BitVec.ofNat 64 length - BitVec.ofNat 64 sdtHeaderSize).toNat
      = length - sdtHeaderSize := by
    simp only [sdtHeaderSize] at hlength ⊢
    bv_omega
  have hquot : (length - sdtHeaderSize) / w < 2 ^ 31 := by
    rcases hw with rfl | rfl <;> omega
  have hw64 : (BitVec.ofNat 64 w).toNat = w := by
    rcases hw with rfl | rfl <;> rfl
  rw [entryCount, BitVec.toInt_eq_toNat_of_lt]
  · rw [BitVec.toNat_setWidth, BitVec.toNat_udiv, hsub, hw64, Nat.mod_eq_of_lt (by omega),
      Int.toNat_natCast]
  · rw [BitVec.toNat_setWidth, BitVec.toNat_udiv, hsub, hw64, Nat.mod_eq_of_lt (by omega)]
    omega

section Root

variable (m : ℕ → Byte) (root : BitVec 64) (w : ℕ) (signature : List Byte)

/-- The addresses that a root lists: the whole `w`-byte words from offset 36 to
`Length`, and none in a root shorter than its header. -/
def listedHeaders : List (BitVec 64) :=
  if member m root sdtLength < sdtHeaderSize then []
  else (List.range ((member m root sdtLength - sdtHeaderSize) / w)).map (entryTable m root w)

/-- A header that matches: a table with the signature and a valid checksum. -/
def MatchesHeader (table : BitVec 64) : Prop :=
  table ≠ 0 ∧ BytesAt m table 0 signature 4 ∧ byteSum m table (member m table sdtLength) = 0

instance : DecidablePred (MatchesHeader m signature) := fun _ =>
  inferInstanceAs (Decidable (_ ∧ _ ∧ _))

variable {m root w signature}

/-- **The loop bound is the number of listed addresses**, for every `Length`. -/
theorem entryCount_listed (hw : w = 4 ∨ w = 8) :
    (entryCount (member m root sdtLength) w).toNat = (listedHeaders m root w).length ∧
      listedHeaders m root w
        = (List.range (entryCount (member m root sdtLength) w).toNat).map (entryTable m root w) := by
  have hlt : member m root sdtLength < 2 ^ 32 := leWord_lt _ _ 4
  rw [listedHeaders]
  by_cases hshort : member m root sdtLength < sdtHeaderSize
  · rw [if_pos hshort, entryCount_short hshort hw]
    exact ⟨rfl, rfl⟩
  · rw [if_neg hshort, entryCount_eq (not_lt.mp hshort) hlt hw]
    simp

/-- Every entry that the loop reads ends inside the root. -/
theorem entry_inside (hw : w = 4 ∨ w = 8) {i : ℕ}
    (hi : i < (entryCount (member m root sdtLength) w).toNat) :
    (tableEntry w i).offset + (tableEntry w i).size ≤ member m root sdtLength := by
  have hlt : member m root sdtLength < 2 ^ 32 := leWord_lt _ _ 4
  by_cases hshort : member m root sdtLength < sdtHeaderSize
  · rw [entryCount_short hshort hw] at hi
    omega
  · rw [entryCount_eq (not_lt.mp hshort) hlt hw] at hi
    -- the entries counted are whole, so the last one ends at `Length` or before
    have hmul : w * ((member m root sdtLength - sdtHeaderSize) / w)
        ≤ member m root sdtLength - sdtHeaderSize := Nat.mul_div_le _ _
    have hnext : w * (i + 1) ≤ w * ((member m root sdtLength - sdtHeaderSize) / w) :=
      Nat.mul_le_mul_left w hi
    rw [Nat.mul_succ] at hnext
    show sdtHeaderSize + w * i + w ≤ member m root sdtLength
    omega

/-- Reading one header of the list. -/
def headerCandidate (m : ℕ → Byte) (signature : List Byte) (header : BitVec 64) :
    Except Fault (Option (BitVec 64)) := do
  let same ← memcmpAt m header 0 signature 4
  if same then
    let length ← deref m header sdtLength
    let valid ← checksumValid m header length
    return if valid then some header else none
  else return none

theorem tableCandidate_eq (hroot : root ≠ 0) (i : ℕ) :
    tableCandidate m root w signature i = headerCandidate m signature (entryTable m root w i) := by
  unfold tableCandidate
  rw [derefPtr_of_ne hroot, ok_bind]
  rfl

theorem searchTable_valid (hroot : root ≠ 0) (hvalid : SumsToZero m root) :
    searchTable m root w signature
      = (firstMatch (entryCount (member m root sdtLength) w).toNat
          (tableCandidate m root w signature) >>= fun found => .ok (found.getD 0)) := by
  rw [searchTable_of_ne hroot]
  exact if_pos hvalid

theorem searchTable_invalid (hroot : root ≠ 0) (hbad : ¬ SumsToZero m root) :
    searchTable m root w signature = .ok 0 := by
  rw [searchTable_of_ne hroot]
  exact if_neg hbad

/-- **The search of a checksum-valid root is the search of its list.** -/
theorem searchTable_eq_firstIn (hroot : root ≠ 0) (hw : w = 4 ∨ w = 8)
    (hvalid : SumsToZero m root) :
    searchTable m root w signature
      = (firstIn (headerCandidate m signature) (listedHeaders m root w)
          >>= fun found => .ok (found.getD 0)) := by
  have hrounds : tableCandidate m root w signature
      = fun i => headerCandidate m signature (entryTable m root w i) := by
    funext i
    exact tableCandidate_eq hroot i
  rw [searchTable_valid hroot hvalid, (entryCount_listed hw).2, hrounds, firstMatch_eq_firstIn]

end Root

/-! ## The lookup -/

section Lookup

variable (m : ℕ → Byte) (rsdp : BitVec 64) (signature : List Byte)

/-- What `find_acpi_table` is for: NULL without a checksum-valid root, otherwise the
first listed table that matches or NULL, and no entry read outside the root. -/
structure FirstMatchLookup : Prop where
  no_root : searchedRoot m rsdp = none → findAcpiTable m rsdp signature = .ok 0
  bad_root : ∀ root w, searchedRoot m rsdp = some (root, w) → ¬ SumsToZero m root →
    findAcpiTable m rsdp signature = .ok 0
  first : ∀ root w, searchedRoot m rsdp = some (root, w) → SumsToZero m root →
    findAcpiTable m rsdp signature
      = .ok (((listedHeaders m root w).find? fun t => MatchesHeader m signature t).getD 0)
  inside : ∀ root w, searchedRoot m rsdp = some (root, w) →
    ∀ i < (entryCount (member m root sdtLength) w).toNat,
      (tableEntry w i).offset + (tableEntry w i).size ≤ member m root sdtLength

/-- Every null entry of the searched, checksum-valid root comes after a table that
matches. -/
def NullEntriesLast : Prop :=
  ∀ root w, searchedRoot m rsdp = some (root, w) → SumsToZero m root →
    ∀ j < (listedHeaders m root w).length, entryTable m root w j = 0 →
      ∃ i < j, MatchesHeader m signature (entryTable m root w i)

variable {m rsdp signature}

theorem findAcpiTable_of_root (hrsdp : rsdp ≠ 0) {root : BitVec 64} {w : ℕ}
    (hroot : searchedRoot m rsdp = some (root, w)) :
    findAcpiTable m rsdp signature = searchTable m root w signature := by
  unfold findAcpiTable
  rw [if_neg hrsdp, hroot]

theorem findAcpiTable_no_root (hrsdp : rsdp ≠ 0) (hroot : searchedRoot m rsdp = none) :
    findAcpiTable m rsdp signature = .ok 0 := by
  unfold findAcpiTable
  rw [if_neg hrsdp, hroot]

theorem findAcpiTable_bad_root (hrsdp : rsdp ≠ 0) {root : BitVec 64} {w : ℕ}
    (hroot : searchedRoot m rsdp = some (root, w)) (hbad : ¬ SumsToZero m root) :
    findAcpiTable m rsdp signature = .ok 0 := by
  rw [findAcpiTable_of_root hrsdp hroot]
  exact searchTable_invalid (searchedRoot_spec hroot).1 hbad

/-- The first table that matches, by its index. -/
theorem find?_listedHeaders {root : BitVec 64} {w i : ℕ} (hw : w = 4 ∨ w = 8)
    (hi : i < (entryCount (member m root sdtLength) w).toNat)
    (hmatch : MatchesHeader m signature (entryTable m root w i))
    (hbefore : ∀ j < i, ¬ MatchesHeader m signature (entryTable m root w j)) :
    (listedHeaders m root w).find? (fun t => MatchesHeader m signature t)
      = some (entryTable m root w i) := by
  rw [(entryCount_listed hw).2, List.find?_map]
  have hfirst : (List.range (entryCount (member m root sdtLength) w).toNat).find?
      ((fun t => decide (MatchesHeader m signature t)) ∘ entryTable m root w) = some i := by
    rw [List.find?_range_eq_some]
    refine ⟨decide_eq_true hmatch, List.mem_range.mpr hi, ?_⟩
    intro j hj
    simp [hbefore j hj]
  rw [hfirst]
  rfl

/-- The search of a checksum-valid root gives the first match exactly when no null
entry comes before it. -/
theorem searchTable_first_iff {root : BitVec 64} {w : ℕ} (hroot : root ≠ 0) (hw : w = 4 ∨ w = 8)
    (hvalid : SumsToZero m root) :
    searchTable m root w signature
        = .ok (((listedHeaders m root w).find? fun t => MatchesHeader m signature t).getD 0)
      ↔ ∀ j < (listedHeaders m root w).length, entryTable m root w j = 0 →
          ∃ i < j, MatchesHeader m signature (entryTable m root w i) := by
  rw [searchTable_valid hroot hvalid, ← (entryCount_listed hw).1]
  rcases (tableCandidate_rounds hroot).firstMatch_cases with
    ⟨hpass, hfirst⟩ | ⟨i, hi, hnull, hpass, hfirst⟩ | ⟨i, hi, hmatch, hpass, hfirst⟩
  · -- no entry stops the search
    rw [hfirst]
    apply iff_of_true
    · have hnone : (listedHeaders m root w).find? (fun t => MatchesHeader m signature t) = none := by
        rw [(entryCount_listed hw).2, List.find?_eq_none]
        intro t ht
        obtain ⟨j, hj, rfl⟩ := List.mem_map.mp ht
        rw [decide_eq_true_iff]
        exact (hpass j (List.mem_range.mp hj)).2
      rw [hnone]
      rfl
    · intro j hj hnull
      exact absurd hnull (hpass j hj).1
  · -- a null entry does
    rw [hfirst]
    apply iff_of_false
    · intro h
      exact nomatch h
    · intro h
      obtain ⟨j, hj, hmatch⟩ := h i hi hnull
      exact (hpass j hj).2 hmatch
  · rw [hfirst]
    apply iff_of_true
    · rw [find?_listedHeaders hw hi hmatch (fun j hj => (hpass j hj).2)]
      rfl
    · intro j _ hnull
      refine ⟨i, lt_of_le_of_ne (hpass.le_of_stop (Or.inl hnull)) ?_, hmatch⟩
      rintro rfl
      exact hmatch.1 hnull

/-- **`find_acpi_table` is a first-match lookup exactly when null entries come last**,
and roots that list the same addresses give the same answer. -/
theorem first_match_lookup_iff (m : ℕ → Byte) (rsdp : BitVec 64) (signature : List Byte)
    (hrsdp : rsdp ≠ 0) :
    (FirstMatchLookup m rsdp signature ↔ NullEntriesLast m rsdp signature) ∧
      ∀ rsdp' root w root' w', rsdp' ≠ 0 →
        searchedRoot m rsdp = some (root, w) → searchedRoot m rsdp' = some (root', w') →
        SumsToZero m root → SumsToZero m root' →
        listedHeaders m root w = listedHeaders m root' w' →
        findAcpiTable m rsdp signature = findAcpiTable m rsdp' signature := by
  constructor
  · constructor
    · intro h root w hroot hvalid
      obtain ⟨hne, hw⟩ := searchedRoot_spec hroot
      apply (searchTable_first_iff hne hw hvalid).mp
      rw [← findAcpiTable_of_root hrsdp hroot]
      exact h.first root w hroot hvalid
    · intro h
      constructor
      · exact findAcpiTable_no_root hrsdp
      · intro root w hroot hbad
        exact findAcpiTable_bad_root hrsdp hroot hbad
      · intro root w hroot hvalid
        obtain ⟨hne, hw⟩ := searchedRoot_spec hroot
        rw [findAcpiTable_of_root hrsdp hroot]
        exact (searchTable_first_iff hne hw hvalid).mpr (h root w hroot hvalid)
      · intro root w hroot i hi
        exact entry_inside (searchedRoot_spec hroot).2 hi
  · intro rsdp' root w root' w' hrsdp' hroot hroot' hvalid hvalid' hsame
    obtain ⟨hne, hw⟩ := searchedRoot_spec hroot
    obtain ⟨hne', hw'⟩ := searchedRoot_spec hroot'
    rw [findAcpiTable_of_root hrsdp hroot, findAcpiTable_of_root hrsdp' hroot',
      searchTable_eq_firstIn hne hw hvalid, searchTable_eq_firstIn hne' hw' hvalid', hsame]

/-- A root without null entries is searched to the first match. -/
theorem first_match_lookup_firmware :
    (0x3000 : BitVec 64) ≠ 0 ∧ FirstMatchLookup (firmware 0x50) 0x3000 (chars "FACP") := by
  have hrsdp : (0x3000 : BitVec 64) ≠ 0 := by decide
  refine ⟨hrsdp, (first_match_lookup_iff (firmware 0x50) 0x3000 (chars "FACP") hrsdp).1.mpr ?_⟩
  intro root w hroot _
  have hxsdt : searchedRoot (firmware 0x50) 0x3000 = some (0x5000, 8) := by decide +kernel
  obtain ⟨rfl, rfl⟩ := Prod.mk.inj (Option.some.inj (hxsdt.symm.trans hroot))
  have hnull : ∀ j < (listedHeaders (firmware 0x50) 0x5000 8).length,
      entryTable (firmware 0x50) 0x5000 8 j ≠ 0 := by decide +kernel
  intro j hj hzero
  exact absurd hzero (hnull j hj)

/-- Firmware whose RSDT lists a null entry before a FADT. -/
def nullEntryFirmware : ℕ → Byte :=
  image [(0x3008, [-0x40]), (0x3011, [0x40]), (0x4000, sdt "RSDT" [0, 0, 0, 0, 0x00, 0x60, 0, 0]),
    (0x6000, sdt "FACP" (List.replicate 80 0))]

/-- The lookup dereferences the null entry, and does not get to the FADT. -/
theorem null_entry_not_first_match :
    ¬ FirstMatchLookup nullEntryFirmware 0x3000 (chars "FACP") := by
  have hfault : findAcpiTable nullEntryFirmware 0x3000 (chars "FACP") = .error .nullDeref := by
    decide +kernel
  have hroot : searchedRoot nullEntryFirmware 0x3000 = some (0x4000, 4) := by decide +kernel
  have hvalid : SumsToZero nullEntryFirmware 0x4000 := by
    unfold SumsToZero
    decide +kernel
  intro h
  have hfirst := h.first 0x4000 4 hroot hvalid
  rw [hfault] at hfirst
  exact nomatch hfirst

end Lookup

end GridX64
