/-
# From a font file to font8x16.h (tools/tmp.py)

`psf_to_c_header` prints the glyphs of a PSF font as the initialiser of a C array, a row a
glyph.  `readHeader` reads such a header as a compiler does: the bounds say how large the
array is, and elements without an initialiser are zero.

* `readRow_glyphRow`, `readRows_rows` — the rows of the initialiser;
* `psf_header_reads_back` — the fonts that are accepted, and the array that each becomes.
-/
import GridX64.FallibleLoops
import GridX64.MemoryMap
import Mathlib.Data.List.GetD

namespace GridX64

/-! ## The tool -/

/-- What keeps the tool from writing a header. -/
inductive PsfError
  | indexError
  | notPsf1
  deriving DecidableEq, Repr

/-- `data[i]`. -/
def psfByte (data : List Byte) (i : ℕ) : Except PsfError Byte :=
  match data[i]? with
  | some b => .ok b
  | none => .error .indexError

/-- A letter in upper case. -/
def toUpper (c : Byte) : Byte := if 97 ≤ c.toNat ∧ c.toNat ≤ 122 then c - 32 else c

/-- `f"0x{b:02X}"`. -/
def hexByte (b : Byte) : List Byte := chars "0x" ++ (padLeft 2 (numeral 16 b.toNat)).map toUpper

/-- `", ".join(f"0x{b:02X}" for b in glyph_bytes)`. -/
def joinBytes : List Byte → List Byte
  | [] => []
  | [b] => hexByte b
  | b :: bs => hexByte b ++ chars ", " ++ joinBytes bs

/-- One round of the loop without the end of the line. -/
def glyphRow (glyphBytes : List Byte) : List Byte :=
  chars "    \x7b " ++ joinBytes glyphBytes ++ chars " \x7d"

/-- `glyphs[i*charsize:(i+1)*charsize]`. -/
def glyphSlice (glyphs : List Byte) (charsize i : ℕ) : List Byte :=
  (glyphs.take ((i + 1) * charsize)).drop (i * charsize)

/-- The loop over the glyphs: all rows but the last end with a comma. -/
def glyphRows (glyphs : List Byte) (numGlyphs charsize : ℕ) : List Byte :=
  (List.range numGlyphs).flatMap (fun i =>
    glyphRow (glyphSlice glyphs charsize i) ++
      if i ≠ numGlyphs - 1 then chars ",\n" else chars "\n")

/-- What is written to the file. -/
def headerText (psfFile arrayName glyphs : List Byte) (numGlyphs charsize : ℕ) : List Byte :=
  chars "// Generated from " ++ psfFile ++ chars "\n" ++
    (chars "// PSF v1 font, " ++ numeral 10 numGlyphs ++ chars " glyphs, " ++
      numeral 10 charsize ++ chars " bytes per glyph\n\n") ++
    (chars "const unsigned char " ++ arrayName ++ chars "[" ++ numeral 10 numGlyphs ++
      chars "][" ++ numeral 10 charsize ++ chars "] = \x7b\n") ++
    glyphRows glyphs numGlyphs charsize ++ chars "\x7d;\n"

/-- `psf_to_c_header`, what it prints on the terminal left out.  The second byte is not looked
at when the first is wrong. -/
def psfToCHeader (psfFile arrayName data : List Byte) : Except PsfError (List Byte) := do
  let magic₀ ← psfByte data 0
  if magic₀ ≠ 0x36 then .error .notPsf1
  else
    let magic₁ ← psfByte data 1
    if magic₁ ≠ 0x04 then .error .notPsf1
    else
      let mode ← psfByte data 2
      let charsize ← psfByte data 3
      let numGlyphs := if mode &&& 0x01 ≠ 0 then 512 else 256
      let glyphs := (data.take (4 + numGlyphs * charsize.toNat)).drop 4
      return headerText psfFile arrayName glyphs numGlyphs charsize.toNat

/-! ## The reader -/

/-- A letter in lower case. -/
def toLower (c : Byte) : Byte := if 65 ≤ c.toNat ∧ c.toNat ≤ 90 then c + 32 else c

/-- Read two hexadecimal digits behind `0x`. -/
def readHexByte (cs : List Byte) : Option (Byte × List Byte) := do
  let cs ← expect (chars "0x") cs
  let v ← readNumeral 16 ((cs.take 2).map toLower)
  return (BitVec.ofNat 8 v, cs.drop 2)

/-- Read at most `n` bytes with commas between them. -/
def readBytes : ℕ → List Byte → List Byte × List Byte
  | 0, cs => ([], cs)
  | n + 1, cs =>
      match readHexByte cs with
      | none => ([], cs)
      | some (b, cs) =>
          match expect (chars ", ") cs with
          | none => ([b], cs)
          | some cs => (b :: (readBytes n cs).1, (readBytes n cs).2)

/-- Read a row. -/
def readRow (cs : List Byte) : Option (List Byte × List Byte) := do
  let cs ← expect (chars "    \x7b ") cs
  let cs' ← expect (chars " \x7d") (readBytes cs.length cs).2
  return ((readBytes cs.length cs).1, cs')

/-- Read at most `n` rows, and the end of the last one. -/
def readRows : ℕ → List Byte → Option (List (List Byte) × List Byte)
  | 0, _ => none
  | n + 1, cs => do
      let (row, cs) ← readRow cs
      match expect (chars ",\n") cs with
      | none => return ([row], ← expect (chars "\n") cs)
      | some cs =>
          let (rows, cs) ← readRows n cs
          return (row :: rows, cs)

/-- An array of a header. -/
structure FontArray where
  name : List Byte
  table : List (List Byte)
  deriving DecidableEq

/-- The array with the given bounds and rows: what has no initialiser is zero, and there may
not be more initialisers than elements. -/
def initialised (n k : ℕ) (rows : List (List Byte)) : Option (List (List Byte)) :=
  if rows.length ≤ n ∧ ∀ row ∈ rows, row.length ≤ k then
    some ((List.range n).map (fun i => (List.range k).map (fun j => (rows.getD i []).getD j 0)))
  else none

/-- What comes before a character, and what comes from it on. -/
def splitAtChar (c : Byte) (cs : List Byte) : List Byte × List Byte :=
  (cs.takeWhile (· ≠ c), cs.dropWhile (· ≠ c))

/-- Read the rest of a line comment. -/
def readComment (cs : List Byte) : Option (List Byte) := do
  let cs ← expect (chars "//") cs
  expect (chars "\n") (splitAtChar chNewline cs).2

/-- Read a bound of the array and what follows it. -/
def readBound (close cs : List Byte) : Option (ℕ × List Byte) := do
  let n ← readNumeral 10 (splitAtChar 93 cs).1
  return (n, ← expect close (splitAtChar 93 cs).2)

/-- Read a header. -/
def readHeader (cs : List Byte) : Option FontArray := do
  let cs ← readComment cs
  let cs ← readComment cs
  let cs ← expect (chars "\n") cs
  let cs ← expect (chars "const unsigned char ") cs
  let (name, cs) := splitAtChar 91 cs
  let cs ← expect (chars "[") cs
  let (n, cs) ← readBound (chars "][") cs
  let (k, cs) ← readBound (chars "] = \x7b\n") cs
  let (rows, cs) ← readRows cs.length cs
  let cs ← expect (chars "\x7d;\n") cs
  let table ← initialised n k rows
  if cs = [] then some { name := name, table := table } else none

/-! ## Rows -/

/-- Printed digits in upper case and back. -/
theorem toLower_toUpper {c : Byte} {d : ℕ} (hd : d < 16) (hc : c = digitByte d) :
    toLower (toUpper c) = c := by
  subst hc
  interval_cases d <;> decide

theorem length_byteDigits (b : Byte) : (padLeft 2 (numeral 16 b.toNat)).length = 2 := by
  have hle : (numeral 16 b.toNat).length ≤ 2 := length_numeral_le (by omega) (by omega) b.isLt
  rw [padLeft, List.length_append, List.length_replicate]
  omega

theorem readHexByte_hexByte (b : Byte) (cs : List Byte) :
    readHexByte (hexByte b ++ cs) = some (b, cs) := by
  have hlength : ((padLeft 2 (numeral 16 b.toNat)).map toUpper).length = 2 := by
    rw [List.length_map, length_byteDigits]
  have hlower : ((padLeft 2 (numeral 16 b.toNat)).map toUpper).map toLower
      = padLeft 2 (numeral 16 b.toNat) := by
    rw [List.map_map, List.map_congr_left (g := id), List.map_id]
    intro c hc
    obtain ⟨d, hd, hcd⟩ := mem_padLeft_numeral (by omega) hc
    exact toLower_toUpper hd hcd
  unfold readHexByte hexByte
  simp only [List.append_assoc, expect_append, Option.bind_eq_bind, Option.bind_some]
  rw [List.take_left' hlength, hlower, readNumeral_padLeft_numeral (by omega) (by omega),
    List.drop_left' hlength]
  simp only [Option.bind_some, BitVec.ofNat_toNat, BitVec.setWidth_eq]
  rfl

/-- What does not start with a byte ends the row. -/
theorem readHexByte_end (cs : List Byte) : readHexByte (chars " \x7d" ++ cs) = none := by
  unfold readHexByte
  rw [expect_append_of_not_starts (by simp [chars]) (by simp [chars])]
  rfl

theorem readBytes_joinBytes (bs cs : List Byte) {n : ℕ} (hn : bs.length ≤ n) :
    readBytes n (joinBytes bs ++ (chars " \x7d" ++ cs)) = (bs, chars " \x7d" ++ cs) := by
  have hcomma : expect (chars ", ") (chars " \x7d" ++ cs) = none :=
    expect_append_of_not_starts (by simp [chars]) (by simp [chars]) cs
  induction bs generalizing n with
  | nil =>
      cases n with
      | zero => rfl
      | succ n =>
          rw [joinBytes, List.nil_append, readBytes, readHexByte_end]
  | cons b bs ih =>
      obtain ⟨n, rfl⟩ : ∃ k, n = k + 1 := ⟨n - 1, by rw [List.length_cons] at hn; omega⟩
      rw [List.length_cons] at hn
      cases bs with
      | nil =>
          rw [joinBytes, readBytes, readHexByte_hexByte]
          simp only [hcomma]
      | cons b' bs =>
          rw [joinBytes, List.append_assoc, List.append_assoc, readBytes, readHexByte_hexByte]
          · simp only [expect_append]
            rw [ih (by omega)]
          · exact List.cons_ne_nil _ _

/-- A byte is not printed as nothing. -/
theorem length_joinBytes (bs : List Byte) : bs.length ≤ (joinBytes bs).length := by
  induction bs with
  | nil => exact Nat.le_refl 0
  | cons b bs ih =>
      have hbyte : 1 ≤ (hexByte b).length := by
        rw [hexByte, List.length_append, List.length_map, length_byteDigits]
        omega
      cases bs with
      | nil => exact hbyte
      | cons b' bs =>
          rw [joinBytes, List.length_append, List.length_append, List.length_cons]
          · omega
          · exact List.cons_ne_nil _ _

/-- **A row reads back.** -/
theorem readRow_glyphRow (bs cs : List Byte) : readRow (glyphRow bs ++ cs) = some (bs, cs) := by
  have hfuel : bs.length ≤ (joinBytes bs ++ (chars " \x7d" ++ cs)).length := by
    have hle := length_joinBytes bs
    rw [List.length_append]
    omega
  unfold readRow glyphRow
  simp only [List.append_assoc, expect_append, Option.bind_eq_bind, Option.bind_some,
    readBytes_joinBytes bs cs hfuel]
  rfl

/-- **The rows of the initialiser read back.** -/
theorem readRows_rows (rows : List (List Byte)) (last cs : List Byte) {n : ℕ}
    (hn : rows.length < n) :
    readRows n (rows.flatMap (fun row => glyphRow row ++ chars ",\n") ++
        (glyphRow last ++ (chars "\n" ++ cs))) = some (rows ++ [last], cs) := by
  induction rows generalizing n with
  | nil =>
      obtain ⟨n, rfl⟩ : ∃ k, n = k + 1 := ⟨n - 1, by omega⟩
      have hcomma : expect (chars ",\n") (chars "\n" ++ cs) = none := by
        refine if_neg (fun hprefix => ?_)
        rw [show chars ",\n" = [44, 10] from rfl,
          show chars "\n" = [10] from rfl] at hprefix
        exact absurd (List.cons_prefix_cons.mp hprefix).1 (by decide)
      rw [List.flatMap_nil, List.nil_append, readRows, readRow_glyphRow]
      simp only [Option.bind_eq_bind, Option.bind_some, hcomma, expect_append]
      rfl
  | cons row rows ih =>
      rw [List.length_cons] at hn
      obtain ⟨n, rfl⟩ : ∃ k, n = k + 1 := ⟨n - 1, by omega⟩
      rw [List.flatMap_cons, List.append_assoc, List.append_assoc, readRows, readRow_glyphRow]
      simp only [Option.bind_eq_bind, Option.bind_some, expect_append]
      rw [ih (by omega)]
      rfl

/-! ## The array -/

/-- The glyphs in a font: bit 0 of the mode asks for 512. -/
def psfGlyphCount (data : List Byte) : ℕ := if data.getD 2 0 &&& 0x01 ≠ 0 then 512 else 256

/-- The bytes of a glyph. -/
def psfCharsize (data : List Byte) : ℕ := (data.getD 3 0).toNat

/-- The array of a font: byte `j` of glyph `i`, zero where the file has ended. -/
def psfTable (data : List Byte) : List (List Byte) :=
  (List.range (psfGlyphCount data)).map (fun i =>
    (List.range (psfCharsize data)).map (fun j => data.getD (4 + (i * psfCharsize data + j)) 0))

/-- The glyphs that are cut out of the file. -/
def psfGlyphs (data : List Byte) : List Byte :=
  (data.take (4 + psfGlyphCount data * psfCharsize data)).drop 4

theorem psfByte_eq_ok_iff {data : List Byte} {i : ℕ} {b : Byte} :
    psfByte data i = .ok b ↔ i < data.length ∧ data.getD i 0 = b := by
  rw [psfByte, List.getD_eq_getElem?_getD]
  by_cases hi : i < data.length
  · rw [List.getElem?_eq_getElem hi]
    simp [hi]
  · rw [List.getElem?_eq_none (by omega)]
    simp [hi]

/-- **When the tool writes a header**, and what it writes. -/
theorem psfToCHeader_eq_ok_iff {psfFile arrayName data text : List Byte} :
    psfToCHeader psfFile arrayName data = .ok text
      ↔ (4 ≤ data.length ∧ data.getD 0 0 = 0x36 ∧ data.getD 1 0 = 0x04) ∧
        headerText psfFile arrayName (psfGlyphs data) (psfGlyphCount data) (psfCharsize data)
          = text := by
  rw [psfToCHeader]
  constructor
  · intro h
    obtain ⟨magic₀, h₀, h⟩ := bind_eq_ok_iff.mp h
    obtain ⟨-, rfl⟩ := psfByte_eq_ok_iff.mp h₀
    split_ifs at h with hne₀
    obtain ⟨magic₁, h₁, h⟩ := bind_eq_ok_iff.mp h
    obtain ⟨-, rfl⟩ := psfByte_eq_ok_iff.mp h₁
    split_ifs at h with hne₁
    obtain ⟨mode, h₂, h⟩ := bind_eq_ok_iff.mp h
    obtain ⟨-, rfl⟩ := psfByte_eq_ok_iff.mp h₂
    obtain ⟨charsize, h₃, h⟩ := bind_eq_ok_iff.mp h
    obtain ⟨hlen, rfl⟩ := psfByte_eq_ok_iff.mp h₃
    exact ⟨⟨hlen, not_not.mp hne₀, not_not.mp hne₁⟩, Except.ok.inj h⟩
  · rintro ⟨⟨hlen, h₀, h₁⟩, rfl⟩
    have hbyte : ∀ i < 4, psfByte data i = .ok (data.getD i 0) :=
      fun i hi => psfByte_eq_ok_iff.mpr ⟨by omega, rfl⟩
    rw [hbyte 0 (by omega), ok_bind, if_neg (not_not.mpr h₀), hbyte 1 (by omega), ok_bind,
      if_neg (not_not.mpr h₁), hbyte 2 (by omega), ok_bind, hbyte 3 (by omega), ok_bind]
    rfl

/-! ## The header -/

/-- A glyph within the file. -/
theorem glyphSlice_getD {data : List Byte} {i j : ℕ} (hi : i < psfGlyphCount data)
    (hj : j < psfCharsize data) :
    (glyphSlice (psfGlyphs data) (psfCharsize data) i).getD j 0
      = data.getD (4 + (i * psfCharsize data + j)) 0 := by
  have hrow : i * psfCharsize data + j < (i + 1) * psfCharsize data := by
    rw [Nat.add_mul]
    omega
  have hcut : 4 + (i * psfCharsize data + j) < 4 + psfGlyphCount data * psfCharsize data := by
    have hle : (i + 1) * psfCharsize data ≤ psfGlyphCount data * psfCharsize data :=
      Nat.mul_le_mul_right _ hi
    omega
  rw [glyphSlice, psfGlyphs, List.getD_eq_getElem?_getD, List.getElem?_drop, List.getElem?_take,
    if_pos hrow, List.getElem?_drop, List.getElem?_take, if_pos hcut, List.getD_eq_getElem?_getD]

/-- The rows of the header initialise the array of the font. -/
theorem initialised_glyphSlices (data : List Byte) :
    initialised (psfGlyphCount data) (psfCharsize data)
        ((List.range (psfGlyphCount data)).map (glyphSlice (psfGlyphs data) (psfCharsize data)))
      = some (psfTable data) := by
  have hrow : ∀ i, (glyphSlice (psfGlyphs data) (psfCharsize data) i).length
      ≤ psfCharsize data := by
    intro i
    rw [glyphSlice, List.length_drop, List.length_take, Nat.add_mul]
    omega
  rw [initialised, if_pos, psfTable, Option.some_inj]
  · refine List.map_congr_left (fun i hi => List.map_congr_left (fun j hj => ?_))
    rw [List.mem_range] at hi hj
    have hget : ((List.range (psfGlyphCount data)).map
        (glyphSlice (psfGlyphs data) (psfCharsize data))).getD i []
          = glyphSlice (psfGlyphs data) (psfCharsize data) i := by
      rw [List.getD_eq_getElem _ _ (by rw [List.length_map, List.length_range]; exact hi),
        List.getElem_map, List.getElem_range]
    rw [hget, glyphSlice_getD hi hj]
  · refine ⟨by rw [List.length_map, List.length_range], ?_⟩
    intro row hmem
    obtain ⟨i, -, rfl⟩ := List.mem_map.mp hmem
    exact hrow i

/-- The rows that are printed: all but the last end with a comma. -/
theorem glyphRows_eq (glyphs : List Byte) (n charsize : ℕ) :
    glyphRows glyphs (n + 1) charsize
      = ((List.range n).map (glyphSlice glyphs charsize)).flatMap
          (fun row => glyphRow row ++ chars ",\n") ++
        (glyphRow (glyphSlice glyphs charsize n) ++ chars "\n") := by
  rw [glyphRows, List.range_succ, List.flatMap_append, List.flatMap_singleton, List.flatMap_map,
    Nat.add_sub_cancel, if_neg (not_not.mpr rfl)]
  congr 1
  apply List.flatMap_congr
  intro i hi
  rw [if_pos (Nat.ne_of_lt (List.mem_range.mp hi))]

/-- A text without a character ends where one begins with it. -/
theorem splitAtChar_append {c : Byte} {ds : List Byte} (hds : c ∉ ds) (text : List Byte)
    (htext : text.head? = some c) (cs : List Byte) :
    splitAtChar c (ds ++ (text ++ cs)) = (ds, text ++ cs) := by
  have hall : ∀ d ∈ ds, decide (d ≠ c) = true :=
    fun d hd => decide_eq_true (fun heq => hds (heq ▸ hd))
  unfold splitAtChar
  rw [List.takeWhile_append_of_pos hall, List.dropWhile_append_of_pos hall]
  cases text with
  | nil => exact absurd htext (by simp)
  | cons d text =>
      have hd : d = c := Option.some.inj htext
      simp [hd]

/-- A comment ends with its line. -/
theorem readComment_append (text : List Byte) {line : List Byte} (hstart : chars "//" <+: text)
    (htext : chNewline ∉ text) (hline : chNewline ∉ line) (cs : List Byte) :
    readComment (text ++ (line ++ (chars "\n" ++ cs))) = some cs := by
  obtain ⟨rest, rfl⟩ := hstart
  rw [List.mem_append, not_or] at htext
  have hrest : chNewline ∉ rest ++ line := by
    rw [List.mem_append, not_or]
    exact ⟨htext.2, hline⟩
  unfold readComment
  rw [List.append_assoc, expect_append, ← List.append_assoc rest, Option.bind_eq_bind,
    Option.bind_some, splitAtChar_append hrest _ (by simp [chars]), expect_append]

/-- The characters of a decimal numeral. -/
theorem notMem_decimal {c : Byte} (hc : c.toNat < 48 ∨ 57 < c.toNat) (n : ℕ) :
    c ∉ numeral 10 n := by
  intro hmem
  obtain ⟨d, hd, rfl⟩ := mem_numeral (by omega : 1 < 10) hmem
  revert hc
  interval_cases d <;> decide

theorem readBound_append (n : ℕ) (close : List Byte) (hclose : close.head? = some 93)
    (cs : List Byte) : readBound close (numeral 10 n ++ (close ++ cs)) = some (n, cs) := by
  have hnumeral : readNumeral 10 (numeral 10 n) = some n := by
    have h := readNumeral_padLeft_numeral (b := 10) (by omega) (by omega) 0 n
    rwa [padLeft, Nat.zero_sub, List.replicate_zero, List.nil_append] at h
  unfold readBound
  rw [splitAtChar_append (notMem_decimal (by decide) n) close hclose]
  simp only [hnumeral, expect_append, Option.bind_eq_bind, Option.bind_some]
  rfl

/-- The rows of a header read back. -/
theorem readRows_glyphRows (glyphs : List Byte) (n charsize : ℕ) (cs : List Byte) :
    readRows (glyphRows glyphs (n + 1) charsize ++ cs).length
        (glyphRows glyphs (n + 1) charsize ++ cs)
      = some ((List.range (n + 1)).map (glyphSlice glyphs charsize), cs) := by
  have hlength : ∀ rows : List (List Byte),
      rows.length ≤ (rows.flatMap (fun row => glyphRow row ++ chars ",\n")).length := by
    intro rows
    induction rows with
    | nil => exact Nat.le_refl 0
    | cons row rows ih =>
        have hrow : 1 ≤ (glyphRow row ++ chars ",\n").length := by
          rw [List.length_append, show (chars ",\n").length = 2 from rfl]
          omega
        rw [List.flatMap_cons, List.length_cons, List.length_append]
        omega
  have hend : (chars "\n").length = 1 := rfl
  have hrows := hlength ((List.range n).map (glyphSlice glyphs charsize))
  rw [glyphRows_eq, List.append_assoc, List.append_assoc, readRows_rows, List.range_succ,
    List.map_append, List.map_singleton]
  simp only [List.length_append]
  omega

/-- **A printed header reads back.** -/
theorem readHeader_headerText {psfFile arrayName glyphs : List Byte} (hfile : chNewline ∉ psfFile)
    (hname : 91 ∉ arrayName) (n charsize : ℕ) {table : List (List Byte)}
    (htable : initialised (n + 1) charsize
      ((List.range (n + 1)).map (glyphSlice glyphs charsize)) = some table) :
    readHeader (headerText psfFile arrayName glyphs (n + 1) charsize)
      = some { name := arrayName, table := table } := by
  have hbytes : chars " bytes per glyph\n\n"
      = chars " bytes per glyph" ++ (chars "\n" ++ chars "\n") := rfl
  have hcounts : chNewline ∉ numeral 10 (n + 1) ++ (chars " glyphs, " ++
      (numeral 10 charsize ++ chars " bytes per glyph")) := by
    simp only [List.mem_append, not_or]
    exact ⟨notMem_decimal (by decide) _, by simp [chars], notMem_decimal (by decide) _,
      by simp [chars]⟩
  have hfirst := readComment_append (chars "// Generated from ") (by simp [chars])
    (by simp [chars]) hfile
  have hsecond := readComment_append (chars "// PSF v1 font, ") (by simp [chars])
    (by simp [chars]) hcounts
  simp only [List.append_assoc] at hsecond
  have harray := splitAtChar_append hname (chars "[") (by simp [chars])
  have hcount := readBound_append (n + 1) (chars "][") (by simp [chars])
  have hsize := readBound_append charsize (chars "] = \x7b\n") (by simp [chars])
  have hlast : expect (chars "\x7d;\n") (chars "\x7d;\n") = some [] := by
    have h := expect_append (chars "\x7d;\n") []
    rwa [List.append_nil] at h
  unfold readHeader headerText
  simp only [hbytes, List.append_assoc, Option.bind_eq_bind, hfirst, Option.bind_some, hsecond,
    expect_append, harray, hcount, hsize, readRows_glyphRows, hlast, htable, if_true]

/-- **A font survives the header.**  The tool writes one for the files that begin with the
magic of PSF version 1 and have a mode and a glyph size, and for no others; read as C, if no
newline in the file's name ends the first comment, the array in it has 256 or 512 glyphs by the mode, each of the given size, that are those of the
file, with zeros where the file is too short. -/
theorem psf_header_reads_back {psfFile arrayName : List Byte} (hfile : chNewline ∉ psfFile)
    (hname : 91 ∉ arrayName) (data : List Byte) :
    ((∃ text, psfToCHeader psfFile arrayName data = .ok text) ↔
        4 ≤ data.length ∧ data.getD 0 0 = 0x36 ∧ data.getD 1 0 = 0x04) ∧
      ∀ text, psfToCHeader psfFile arrayName data = .ok text →
        readHeader text = some { name := arrayName, table := psfTable data } := by
  constructor
  · constructor
    · rintro ⟨text, htext⟩
      exact (psfToCHeader_eq_ok_iff.mp htext).1
    · intro h
      exact ⟨_, psfToCHeader_eq_ok_iff.mpr ⟨h, rfl⟩⟩
  · intro text htext
    obtain ⟨-, rfl⟩ := psfToCHeader_eq_ok_iff.mp htext
    obtain ⟨n, hn⟩ : ∃ n, psfGlyphCount data = n + 1 := by
      rw [psfGlyphCount]
      split_ifs
      · exact ⟨511, rfl⟩
      · exact ⟨255, rfl⟩
    have htable := initialised_glyphSlices data
    rw [hn] at htable ⊢
    exact readHeader_headerText hfile hname n _ htable

/-- A font with glyphs of two bytes that ends within its second glyph. -/
theorem psf_header_reads_back_short :
    ∃ text, psfToCHeader (chars "a.psf") (chars "font8x2")
        [0x36, 0x04, 0, 2, 0x18, 0x24, 0xFF] = .ok text ∧
      readHeader text = some { name := chars "font8x2"
                               table := [0x18, 0x24] :: [0xFF, 0] :: List.replicate 254 [0, 0] } := by
  have hfile : chNewline ∉ chars "a.psf" := by simp [chars]
  have hname : 91 ∉ chars "font8x2" := by simp [chars]
  have hfont := psf_header_reads_back hfile hname [0x36, 0x04, 0, 2, 0x18, 0x24, 0xFF]
  have htable : psfTable [0x36, 0x04, 0, 2, 0x18, 0x24, 0xFF]
      = [0x18, 0x24] :: [0xFF, 0] :: List.replicate 254 [0, 0] := by decide +kernel
  obtain ⟨text, htext⟩ := hfont.1.mpr (by decide)
  exact ⟨text, htext, htable ▸ hfont.2 text htext⟩

end GridX64
