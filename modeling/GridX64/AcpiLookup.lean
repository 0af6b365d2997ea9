/-
# The ACPI lookups

One round of each lookup loop as a case distinction on memory (`rsdpCandidate_rounds`,
`tableCandidate_rounds`), and from these what the lookups return:

* `findRsdp_found_iff` — the RSDP of the first configuration entry with an ACPI GUID
  and a valid checksum, if no null pointer comes before it;
* `searchTable_found_iff` — the first table of the root with the signature and a valid
  checksum, if no null entry comes before it.

Neither fails in any way but at a null pointer (`findRsdp_error`,
`findAcpiTable_error`).
-/
import GridX64.Acpi

namespace GridX64

/-! ## Members -/

section Members

variable {m : ℕ → Byte} {p : BitVec 64}

theorem deref_of_ne (hp : p ≠ 0) (f : Field) : deref m p f = .ok (member m p f) := if_neg hp

/-- The pointer stored in a member. -/
def memberPtr (m : ℕ → Byte) (p : BitVec 64) (f : Field) : BitVec 64 :=
  BitVec.ofNat 64 (member m p f)

theorem derefPtr_of_ne (hp : p ≠ 0) (f : Field) : derefPtr m p f = .ok (memberPtr m p f) := by
  unfold derefPtr
  rw [deref_of_ne hp]
  rfl

/-- Past a read through `p`, the pointer is not null. -/
theorem ne_zero_of_deref_ne_nullDeref {α : Type} {f : Field} {g : ℕ → Except Fault α}
    (h : (deref m p f >>= g) ≠ .error .nullDeref) : p ≠ 0 ∧ g (member m p f) ≠ .error .nullDeref := by
  have hp : p ≠ 0 := by
    rintro rfl
    exact h rfl
  rw [deref_of_ne hp, ok_bind] at h
  exact ⟨hp, h⟩

/-- `memcmp(p + off, bytes, n) == 0`, as a property of memory. -/
def BytesAt (m : ℕ → Byte) (p : BitVec 64) (off : ℕ) (bytes : List Byte) (n : ℕ) : Prop :=
  memcmp (fun i => m (p.toNat + off + i)) (fun i => bytes.getD i 0) n = 0

instance (m : ℕ → Byte) (p : BitVec 64) (off : ℕ) (bytes : List Byte) (n : ℕ) :
    Decidable (BytesAt m p off bytes n) :=
  inferInstanceAs (Decidable (memcmp _ _ _ = 0))

theorem memcmpAt_of_ne (hp : p ≠ 0) (off : ℕ) (bytes : List Byte) (n : ℕ) :
    memcmpAt m p off bytes n = .ok (decide (BytesAt m p off bytes n)) := if_neg hp

theorem checksumValid_of_ne (hp : p ≠ 0) (n : ℕ) :
    checksumValid m p n = .ok (decide (byteSum m p n = 0)) :=
  checksumValid_eq (fun hnull => absurd hnull hp)

end Members

/-! ## One round of find_rsdp -/

section Rsdp

variable (m : ℕ → Byte) (systemTable : BitVec 64) (i : ℕ)

/-- Entry `i` of the configuration table has one of the ACPI GUIDs. -/
def HasAcpiGuid : Prop :=
  BytesAt m (memberPtr m systemTable configurationTable) (24 * i) acpi20TableGuid 16 ∨
    BytesAt m (memberPtr m systemTable configurationTable) (24 * i) acpiTableGuid 16

instance : Decidable (HasAcpiGuid m systemTable i) := inferInstanceAs (Decidable (_ ∨ _))

/-- The RSDP that entry `i` points to. -/
def entryRsdp : BitVec 64 :=
  memberPtr m (memberPtr m systemTable configurationTable) (vendorTable i)

/-- The number of bytes that the checksum of an RSDP covers. -/
def rsdpCheckedLength (rsdp : BitVec 64) : ℕ :=
  if member m rsdp rsdpRevision ≥ 2 then member m rsdp rsdpLength else 20

/-- Reading entry `i` goes through a null pointer. -/
def NullAtRsdp : Prop :=
  memberPtr m systemTable configurationTable = 0 ∨
    (HasAcpiGuid m systemTable i ∧ entryRsdp m systemTable i = 0)

/-- `find_rsdp` accepts the RSDP of entry `i`. -/
def AcceptsRsdp : Prop :=
  memberPtr m systemTable configurationTable ≠ 0 ∧ HasAcpiGuid m systemTable i ∧
    entryRsdp m systemTable i ≠ 0 ∧
    byteSum m (entryRsdp m systemTable i) (rsdpCheckedLength m (entryRsdp m systemTable i)) = 0

variable {m systemTable i}

theorem isAcpiEntry_of_ne (hct : memberPtr m systemTable configurationTable ≠ 0) :
    isAcpiEntry m (memberPtr m systemTable configurationTable) i
      = .ok (decide (HasAcpiGuid m systemTable i)) := by
  unfold isAcpiEntry
  rw [memcmpAt_of_ne hct, memcmpAt_of_ne hct, ok_bind]
  by_cases h20 : BytesAt m (memberPtr m systemTable configurationTable) (24 * i) acpi20TableGuid 16
  · have hguid : HasAcpiGuid m systemTable i := Or.inl h20
    rw [decide_eq_true h20, decide_eq_true hguid, if_pos rfl]
    rfl
  · have hguid : BytesAt m (memberPtr m systemTable configurationTable) (24 * i) acpiTableGuid 16
        ↔ HasAcpiGuid m systemTable i := (or_iff_right h20).symm
    rw [decide_eq_false h20, if_neg Bool.false_ne_true, decide_eq_decide.mpr hguid]

theorem rsdpValid_of_ne {rsdp : BitVec 64} (hrsdp : rsdp ≠ 0) :
    rsdpValid m rsdp = .ok (decide (byteSum m rsdp (rsdpCheckedLength m rsdp) = 0)) := by
  unfold rsdpValid rsdpCheckedLength
  rw [deref_of_ne hrsdp, deref_of_ne hrsdp, ok_bind, ok_bind, checksumValid_of_ne hrsdp,
    checksumValid_of_ne hrsdp]
  split_ifs <;> rfl

/-- A round of `find_rsdp`, once the configuration table is there. -/
theorem rsdpCandidate_of_ne (hst : systemTable ≠ 0)
    (hct : memberPtr m systemTable configurationTable ≠ 0) (i : ℕ) :
    rsdpCandidate m systemTable i = if HasAcpiGuid m systemTable i then
        rsdpValid m (entryRsdp m systemTable i) >>= fun valid =>
          .ok (if valid then some (entryRsdp m systemTable i) else none)
      else .ok none := by
  unfold rsdpCandidate
  rw [derefPtr_of_ne hst, ok_bind, isAcpiEntry_of_ne hct, ok_bind, derefPtr_of_ne hct, ok_bind]
  by_cases hguid : HasAcpiGuid m systemTable i
  · rw [decide_eq_true hguid, if_pos rfl, if_pos hguid]
    rfl
  · rw [decide_eq_false hguid, if_neg Bool.false_ne_true, if_neg hguid]
    rfl

/-- Without a configuration table every round fails. -/
theorem rsdpCandidate_null (hst : systemTable ≠ 0)
    (hct : memberPtr m systemTable configurationTable = 0) (i : ℕ) :
    rsdpCandidate m systemTable i = .error .nullDeref := by
  unfold rsdpCandidate
  rw [derefPtr_of_ne hst, ok_bind, hct]
  rfl

/-- **The rounds of `find_rsdp`.** -/
theorem rsdpCandidate_rounds (hst : systemTable ≠ 0) :
    Rounds (rsdpCandidate m systemTable) .nullDeref (NullAtRsdp m systemTable)
      (AcceptsRsdp m systemTable) (entryRsdp m systemTable) := by
  constructor
  · -- a null configuration table, or a null RSDP behind an ACPI GUID
    intro i hnull
    by_cases hct : memberPtr m systemTable configurationTable = 0
    · exact rsdpCandidate_null hst hct i
    · obtain ⟨hguid, hrsdp⟩ := hnull.resolve_left hct
      rw [rsdpCandidate_of_ne hst hct, if_pos hguid, hrsdp]
      rfl
  · rintro i ⟨hct, hguid, hrsdp, hsum⟩
    rw [rsdpCandidate_of_ne hst hct, if_pos hguid, rsdpValid_of_ne hrsdp, ok_bind,
      decide_eq_true hsum]
    rfl
  · intro i hnull haccept
    have hct : memberPtr m systemTable configurationTable ≠ 0 := fun h => hnull (Or.inl h)
    rw [rsdpCandidate_of_ne hst hct]
    split_ifs with hguid
    · have hrsdp : entryRsdp m systemTable i ≠ 0 := fun h => hnull (Or.inr ⟨hguid, h⟩)
      have hsum := fun h => haccept ⟨hct, hguid, hrsdp, h⟩
      rw [rsdpValid_of_ne hrsdp, ok_bind, decide_eq_false hsum]
      rfl
    · rfl

/-- `find_rsdp` finds `rsdp`: it is the one that the first stopping entry points to. -/
def FindsRsdp (m : ℕ → Byte) (systemTable rsdp : BitVec 64) : Prop :=
  systemTable ≠ 0 ∧ ∃ i < member m systemTable numberOfTableEntries,
    (AcceptsRsdp m systemTable i ∧ entryRsdp m systemTable i = rsdp) ∧
      ∀ j < i, ¬ NullAtRsdp m systemTable j ∧ ¬ AcceptsRsdp m systemTable j

theorem findRsdp_of_ne (hst : systemTable ≠ 0) :
    findRsdp m systemTable
      = (firstMatch (member m systemTable numberOfTableEntries) (rsdpCandidate m systemTable)
          >>= fun found => .ok (found.getD 0)) := by
  unfold findRsdp
  rw [if_neg hst, deref_of_ne hst, ok_bind]
  rfl

/-- **`find_rsdp` returns the RSDP of the first accepted entry.** -/
theorem findRsdp_found_iff {rsdp : BitVec 64} :
    (findRsdp m systemTable = .ok rsdp ∧ rsdp ≠ 0) ↔ FindsRsdp m systemTable rsdp := by
  unfold FindsRsdp
  by_cases hst : systemTable = 0
  · constructor
    · rintro ⟨hfind, hne⟩
      unfold findRsdp at hfind
      rw [if_pos hst] at hfind
      exact absurd (Except.ok.inj hfind).symm hne
    · rintro ⟨hst', -⟩
      exact absurd hst hst'
  · rw [findRsdp_of_ne hst, bind_eq_ok_iff, ← (rsdpCandidate_rounds hst).firstMatch_some_iff]
    constructor
    · rintro ⟨⟨found, hfound, hget⟩, hne⟩
      refine ⟨hst, ?_⟩
      cases found with
      | none => exact absurd (Except.ok.inj hget).symm hne
      | some r =>
          obtain rfl : r = rsdp := Except.ok.inj hget
          exact hfound
    · rintro ⟨-, hfound⟩
      refine ⟨⟨some rsdp, hfound, rfl⟩, ?_⟩
      -- an accepted entry points somewhere, so what is found is not NULL
      obtain ⟨i, -, ⟨haccept, rfl⟩, -⟩ := (rsdpCandidate_rounds hst).firstMatch_some_iff.mp hfound
      exact haccept.2.2.1

/-- `find_rsdp` only fails at a null pointer. -/
theorem findRsdp_error {e : Fault} (herr : findRsdp m systemTable = .error e) :
    e = .nullDeref := by
  by_cases hst : systemTable = 0
  · unfold findRsdp at herr
    rw [if_pos hst] at herr
    exact nomatch herr
  · rw [findRsdp_of_ne hst, bind_eq_error_iff] at herr
    rcases herr with herr | ⟨found, -, herr⟩
    · exact (rsdpCandidate_rounds hst).firstMatch_error herr
    · exact nomatch herr

end Rsdp

/-! ## One round of find_acpi_table -/

section Table

variable (m : ℕ → Byte) (root : BitVec 64) (w : ℕ) (signature : List Byte) (i : ℕ)

/-- The table that entry `i` of a root points to. -/
def entryTable : BitVec 64 := memberPtr m root (tableEntry w i)

/-- `find_acpi_table` accepts the table of entry `i`. -/
def AcceptsTable : Prop :=
  entryTable m root w i ≠ 0 ∧ BytesAt m (entryTable m root w i) 0 signature 4 ∧
    byteSum m (entryTable m root w i) (member m (entryTable m root w i) sdtLength) = 0

/-- The search of a root finds `table`: it is the one that the first stopping entry
points to. -/
def FindsTable (table : BitVec 64) : Prop :=
  byteSum m root (member m root sdtLength) = 0 ∧
    ∃ i < (entryCount (member m root sdtLength) w).toNat,
      (AcceptsTable m root w signature i ∧ entryTable m root w i = table) ∧
        ∀ j < i, ¬ entryTable m root w j = 0 ∧ ¬ AcceptsTable m root w signature j

variable {m root w signature i}

/-- **The rounds of `find_acpi_table`.** -/
theorem tableCandidate_rounds (hroot : root ≠ 0) :
    Rounds (tableCandidate m root w signature) .nullDeref (fun i => entryTable m root w i = 0)
      (AcceptsTable m root w signature) (entryTable m root w) := by
  have hround : ∀ i, tableCandidate m root w signature i
      = (memcmpAt m (entryTable m root w i) 0 signature 4 >>= fun same =>
          if same then
            deref m (entryTable m root w i) sdtLength >>= fun length =>
              checksumValid m (entryTable m root w i) length >>= fun valid =>
                .ok (if valid then some (entryTable m root w i) else none)
          else .ok none) := by
    intro i
    unfold tableCandidate
    rw [derefPtr_of_ne hroot, ok_bind]
    rfl
  constructor
  · -- the signature is read through a null entry
    intro i hnull
    rw [hround, hnull]
    rfl
  · rintro i ⟨hne, hsig, hsum⟩
    rw [hround, memcmpAt_of_ne hne, ok_bind, decide_eq_true hsig, if_pos rfl, deref_of_ne hne,
      ok_bind, checksumValid_of_ne hne, ok_bind, decide_eq_true hsum, if_pos rfl]
  · intro i hne haccept
    rw [hround, memcmpAt_of_ne hne, ok_bind]
    by_cases hsig : BytesAt m (entryTable m root w i) 0 signature 4
    · have hsum := fun h => haccept ⟨hne, hsig, h⟩
      rw [decide_eq_true hsig, if_pos rfl, deref_of_ne hne, ok_bind, checksumValid_of_ne hne,
        ok_bind, decide_eq_false hsum, if_neg Bool.false_ne_true]
    · rw [decide_eq_false hsig, if_neg Bool.false_ne_true]

theorem searchTable_of_ne (hroot : root ≠ 0) :
    searchTable m root w signature
      = if byteSum m root (member m root sdtLength) = 0 then
          firstMatch (entryCount (member m root sdtLength) w).toNat
            (tableCandidate m root w signature) >>= fun found => .ok (found.getD 0)
        else .ok 0 := by
  unfold searchTable
  rw [deref_of_ne hroot, ok_bind, checksumValid_of_ne hroot, ok_bind]
  by_cases hsum : byteSum m root (member m root sdtLength) = 0
  · rw [decide_eq_true hsum, if_pos rfl, if_pos hsum]
    rfl
  · rw [decide_eq_false hsum, if_neg Bool.false_ne_true, if_neg hsum]
    rfl

/-- **The search of a root returns the first accepted table.** -/
theorem searchTable_found_iff (hroot : root ≠ 0) {table : BitVec 64} :
    (searchTable m root w signature = .ok table ∧ table ≠ 0)
      ↔ FindsTable m root w signature table := by
  unfold FindsTable
  rw [searchTable_of_ne hroot, ← (tableCandidate_rounds hroot).firstMatch_some_iff]
  by_cases hsum : byteSum m root (member m root sdtLength) = 0
  · rw [if_pos hsum, bind_eq_ok_iff, and_iff_right hsum]
    constructor
    · rintro ⟨⟨found, hfound, hget⟩, hne⟩
      cases found with
      | none => exact absurd (Except.ok.inj hget).symm hne
      | some t =>
          obtain rfl : t = table := Except.ok.inj hget
          exact hfound
    · intro hfound
      refine ⟨⟨some table, hfound, rfl⟩, ?_⟩
      obtain ⟨i, -, ⟨haccept, rfl⟩, -⟩ := (tableCandidate_rounds hroot).firstMatch_some_iff.mp hfound
      exact haccept.1
  · rw [if_neg hsum]
    constructor
    · rintro ⟨hzero, hne⟩
      exact absurd (Except.ok.inj hzero).symm hne
    · rintro ⟨hsum', -⟩
      exact absurd hsum' hsum

/-- The search of a root only fails at a null pointer. -/
theorem searchTable_error (hroot : root ≠ 0) {e : Fault}
    (herr : searchTable m root w signature = .error e) : e = .nullDeref := by
  rw [searchTable_of_ne hroot] at herr
  split_ifs at herr
  rcases bind_eq_error_iff.mp herr with herr | ⟨found, -, herr⟩
  · exact (tableCandidate_rounds hroot).firstMatch_error herr
  · exact nomatch herr

end Table

/-! ## find_acpi_table -/

section FindTable

variable {m : ℕ → Byte} {rsdp root table : BitVec 64} {w : ℕ} {signature : List Byte}

/-- A root that is searched is not at address zero, and its entries have 4 or 8 bytes. -/
theorem searchedRoot_spec (h : searchedRoot m rsdp = some (root, w)) :
    root ≠ 0 ∧ (w = 4 ∨ w = 8) := by
  unfold searchedRoot at h
  split_ifs at h with hx hr
  · obtain ⟨rfl, rfl⟩ := Prod.mk.inj (Option.some.inj h)
    have hlt : member m rsdp rsdpXsdtAddress < 256 ^ 8 := leWord_lt _ _ _
    refine ⟨fun hzero => hx.2 ?_, Or.inr rfl⟩
    have hnat := congrArg BitVec.toNat hzero
    rwa [BitVec.toNat_ofNat, Nat.mod_eq_of_lt (by omega)] at hnat
  · obtain ⟨rfl, rfl⟩ := Prod.mk.inj (Option.some.inj h)
    have hlt : member m rsdp rsdpRsdtAddress < 256 ^ 4 := leWord_lt _ _ _
    refine ⟨fun hzero => hr ?_, Or.inl rfl⟩
    have hnat := congrArg BitVec.toNat hzero
    rwa [BitVec.toNat_ofNat, Nat.mod_eq_of_lt (by omega)] at hnat

/-- **`find_acpi_table` returns what the search of its root finds.** -/
theorem findAcpiTable_found_iff :
    (findAcpiTable m rsdp signature = .ok table ∧ table ≠ 0)
      ↔ rsdp ≠ 0 ∧ ∃ root w, searchedRoot m rsdp = some (root, w) ∧
          FindsTable m root w signature table := by
  unfold findAcpiTable
  by_cases hrsdp : rsdp = 0
  · rw [if_pos hrsdp]
    constructor
    · rintro ⟨hzero, hne⟩
      exact absurd (Except.ok.inj hzero).symm hne
    · rintro ⟨hne, -⟩
      exact absurd hrsdp hne
  · rw [if_neg hrsdp, and_iff_right hrsdp]
    cases hroot : searchedRoot m rsdp with
    | none =>
        constructor
        · rintro ⟨hzero, hne⟩
          exact absurd (Except.ok.inj hzero).symm hne
        · rintro ⟨root, w, hsome, -⟩
          exact nomatch hsome
    | some searched =>
        obtain ⟨root, w⟩ := searched
        have hfound : (searchTable m root w signature = .ok table ∧ table ≠ 0)
            ↔ FindsTable m root w signature table :=
          searchTable_found_iff (searchedRoot_spec hroot).1
        constructor
        · intro h
          exact ⟨root, w, rfl, hfound.mp h⟩
        · rintro ⟨root', w', hsome, hfinds⟩
          obtain ⟨rfl, rfl⟩ := Prod.mk.inj (Option.some.inj hsome)
          exact hfound.mpr hfinds

/-- `find_acpi_table` only fails at a null pointer. -/
theorem findAcpiTable_error {e : Fault} (herr : findAcpiTable m rsdp signature = .error e) :
    e = .nullDeref := by
  unfold findAcpiTable at herr
  split_ifs at herr
  cases hroot : searchedRoot m rsdp with
  | none =>
      rw [hroot] at herr
      exact nomatch herr
  | some searched =>
      rw [hroot] at herr
      exact searchTable_error (searchedRoot_spec hroot).1 herr

end FindTable

/-! ## Entry counts -/

/-- A root shorter than its header has no entries: the unsigned difference wraps
to a quotient whose low word is negative. -/
theorem entryCount_short {length w : ℕ} (hlength : length < sdtHeaderSize) (hw : w = 4 ∨ w = 8) :
    (entryCount length w).toNat = 0 := by
  have hall : ∀ n < sdtHeaderSize, (entryCount n 4).toNat = 0 ∧ (entryCount n 8).toNat = 0 := by
    decide
  rcases hw with rfl | rfl
  · exact (hall length hlength).1
  · exact (hall length hlength).2

/-- A root with an entry is at least as long as its header. -/
theorem FindsTable.root_length {m : ℕ → Byte} {root table : BitVec 64} {w : ℕ}
    {signature : List Byte} (h : FindsTable m root w signature table) (hw : w = 4 ∨ w = 8) :
    sdtHeaderSize ≤ member m root sdtLength := by
  obtain ⟨-, i, hi, -⟩ := h
  by_contra hshort
  rw [entryCount_short (by omega) hw] at hi
  omega

end GridX64
