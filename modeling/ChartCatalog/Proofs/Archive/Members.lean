import ChartCatalog.Proofs.Archive.Fields
import ChartCatalog.Proofs.Archive.Reader

/-!
# Members read back

A member is read as a run of header blocks: a GNU long-name header or a PAX extended header
may come first and give the path, then the member's own header gives the type flag and
the size. This module follows the reader through each of the writer's styles and shows
that it reads a written entry as a member with the entry's type flag, size and path
(`Walk.nextMember_write`), leaving the walk at the member's data with the next header
after it, from where the reader takes the content whole (`Walk.readUpTo_content`). A zero
block where a header should start ends the walk (`Walk.nextMember_zeroBlock`).

The PAX record `<length> path=<value>` and a newline counts its own digits, so the length
the writer computes is a fixed point (`paxRecordLength_eq`); the reader splits the record
at the newline, checks the length and finds the `path` key (`paxPath_paxPathRecord`). That
needs the path to hold no newline: the reader splits on the first one.
-/

set_option autoImplicit false

namespace ChartCatalog.Tar

/-! ## Decimal lengths -/

/-- A decimal digit is one of the characters `0` to `9`. -/
theorem decimal_of_mem_toDigits {n : Nat} {c : Char} (member : c ∈ Nat.toDigits 10 n) :
    ∃ k < 10, c.toNat = 48 + k := by
  have digit := Nat.isDigit_of_mem_toDigits (by decide) (by decide) member
  simp only [Char.isDigit, Bool.and_eq_true, decide_eq_true_eq, UInt32.le_iff_toNat_le,
    Char.toNat_val] at digit
  have zero : '0'.toNat = 48 := rfl
  have nine : '9'.toNat = 57 := rfl
  exact ⟨c.toNat - 48, by omega, by omega⟩

/-- Decimal digits parse back to their number. -/
theorem parseRadix_toDigits {n : Nat} (small : n < Nat.pow 2 64) :
    parseRadix 10 (String.ofList (Nat.toDigits 10 n)) = some n := by
  have value := Nat.ofDigitChars_toDigits (b := 10) (n := n) (by decide) (by decide)
  rw [parseRadix_digits (by decide) (by decide) Nat.toDigits_ne_nil
    (fun c => decimal_of_mem_toDigits) (by rw [value]; exact small), value]

/-- At most `k` decimal digits exactly below `10^k`. -/
theorem length_toDigits_le_iff {n k : Nat} (pos : 0 < k) :
    (Nat.toDigits 10 n).length ≤ k ↔ n < Nat.pow 10 k :=
  Nat.length_toDigits_le_iff (by decide) pos

/-- The length a PAX record states counts the digits of the length itself. -/
theorem paxRecordLength_eq (n : Nat) :
    paxRecordLength n = n + (Nat.toDigits 10 (paxRecordLength n)).length := by
  have nonempty : ∀ m, 0 < (Nat.toDigits 10 m).length := fun m =>
    List.length_pos_iff.mpr Nat.toDigits_ne_nil
  unfold paxRecordLength
  dsimp only
  split
  · next same => rw [same]
  · next grows =>
    -- `n + d` has more digits than `n`, so `n + d + 1` has exactly one more
    generalize digits : (Nat.toDigits 10 n).length = d at grows
    have d0 : 0 < d := digits ▸ nonempty n
    have below : n < Nat.pow 10 d := (length_toDigits_le_iff d0).mp (Nat.le_of_eq digits)
    have reached : Nat.pow 10 d ≤ n + d := by
      refine Nat.not_lt.mp fun under => ?_
      have atMost := (length_toDigits_le_iff d0).mpr under
      have short : (Nat.toDigits 10 (n + d)).length ≤ d - 1 := by omega
      have d1 : 0 < d - 1 := by
        have := nonempty (n + d)
        omega
      have fewer := (length_toDigits_le_iff d1).mp short
      have : (Nat.toDigits 10 n).length ≤ d - 1 := (length_toDigits_le_iff d1).mpr (by omega)
      omega
    have small : d < Nat.pow 10 d := Nat.lt_pow_self (by decide)
    have next : Nat.pow 10 (d + 1) = Nat.pow 10 d * 10 := rfl
    have upper := (length_toDigits_le_iff (n := n + d + 1) (by omega : 0 < d + 1)).mpr (by omega)
    have lower : ¬(Nat.toDigits 10 (n + d + 1)).length ≤ d := fun short =>
      absurd ((length_toDigits_le_iff d0).mp short) (by omega)
    omega

/-! ## PAX path records -/

section Pax

variable {path : List UInt8}

/-- The digits of a PAX path record's length. -/
abbrev paxDigits (path : List UInt8) : List Char := Nat.toDigits 10 (paxRecordLength (path.length + 7))

/-- A PAX path record is its length, a space, `path=`, the path and a newline. -/
theorem paxPathRecord_eq (path : List UInt8) :
    paxPathRecord path = textBytes (paxDigits path) ++ 32 :: ([112, 97, 116, 104, 61] ++ path) ++ [10] := by
  have key : textBytes " path=".toList = [32, 112, 97, 116, 104, 61] := by decide
  have body : (textBytes " path=".toList ++ path ++ [10]).length = path.length + 7 := by
    rw [key]
    simp only [List.length_append, List.length_cons, List.length_nil]
    omega
  rw [paxPathRecord, body, key]
  simp only [List.cons_append, List.append_assoc]

/-- A record's stated length is its length. -/
theorem length_paxPathRecord (path : List UInt8) :
    (paxPathRecord path).length = paxRecordLength (path.length + 7) := by
  have ascii : ∀ c ∈ paxDigits path, c.toNat ≤ 0x7f := fun c member => by
    obtain ⟨k, lt, code⟩ := decimal_of_mem_toDigits member
    omega
  have fixpoint : paxRecordLength (path.length + 7) = path.length + 7 + (paxDigits path).length :=
    paxRecordLength_eq _
  rw [paxPathRecord_eq]
  simp only [List.length_append, List.length_cons, List.length_nil, length_textBytes_ascii ascii]
  omega

/-- The record reads as one well-formed record with the key `path` and the path as value. -/
theorem paxRecords_paxPathRecord (noNewline : 10 ∉ path)
    (small : (paxPathRecord path).length < Nat.pow 2 64) :
    paxRecords ⟨(paxPathRecord path).toArray⟩ = [some (⟨#[112, 97, 116, 104]⟩, ⟨path.toArray⟩)] := by
  have decimal : ∀ c ∈ paxDigits path, ∃ k < 10, c.toNat = 48 + k := fun c =>
    decimal_of_mem_toDigits
  -- a digit byte is no space and no newline
  have digitByte : ∀ b ∈ textBytes (paxDigits path), 48 ≤ b.toNat := fun b member => by
    by_contra low
    obtain ⟨c, present, code⟩ := ascii_of_mem_textBytes member (by omega)
    obtain ⟨k, -, digit⟩ := decimal c present
    omega
  have noTen : ∀ b ∈ textBytes (paxDigits path) ++ 32 :: ([112, 97, 116, 104, 61] ++ path),
      (b == 10) = false := by
    intro b member
    simp only [List.mem_append, List.mem_cons, List.mem_nil_iff, or_false] at member
    rcases member with digit | rfl | (rfl | rfl | rfl | rfl | rfl) | inPath
    · have := digitByte b digit
      simp only [beq_eq_false_iff_ne]
      rintro rfl
      simp at this
    · decide
    all_goals try decide
    · simp only [beq_eq_false_iff_ne]
      rintro rfl
      exact noNewline inPath
  have lines : (paxPathRecord path).splitOn 10 =
      [textBytes (paxDigits path) ++ 32 :: ([112, 97, 116, 104, 61] ++ path), []] := by
    rw [paxPathRecord_eq, List.splitOn_eq_splitOnP, List.splitOnP_append_cons _ _ (by decide),
      List.splitOnP_eq_singleton noTen, List.splitOnP_nil]
    rfl
  have space : (textBytes (paxDigits path) ++ 32 :: ([112, 97, 116, 104, 61] ++ path)).findIdx?
      (· == 32) = some (textBytes (paxDigits path)).length := by
    have none : (textBytes (paxDigits path)).findIdx? (· == 32) = none :=
      List.findIdx?_eq_none_iff.mpr fun b member => by
        have := digitByte b member
        simp only [beq_eq_false_iff_ne]
        rintro rfl
        simp at this
    rw [List.findIdx?_append, none, List.findIdx?_cons]
    simp
  have equals : ([112, 97, 116, 104, 61] ++ path).findIdx? (· == 61) = some 4 := by
    rw [List.findIdx?_append,
      show ([112, 97, 116, 104, 61] : List UInt8).findIdx? (· == 61) = some 4 by decide]
    rfl
  have stated : (String.fromUTF8? ⟨(textBytes (paxDigits path)).toArray⟩).bind (parseRadix 10) =
      some ((textBytes (paxDigits path) ++ 32 :: ([112, 97, 116, 104, 61] ++ path)).length + 1) := by
    have total := length_paxPathRecord path
    rw [paxPathRecord_eq] at total
    rw [textBytes, Text.fromUTF8?_flatMap, Option.bind_some, ← textBytes,
      parseRadix_toDigits (by rw [← length_paxPathRecord]; exact small)]
    simp only [List.length_append, List.length_singleton] at total
    rw [List.length_append, total]
  have digits : (textBytes (paxDigits path) ++ 32 :: ([112, 97, 116, 104, 61] ++ path)).take
      (textBytes (paxDigits path)).length = textBytes (paxDigits path) := List.take_left' rfl
  have afterSpace : (textBytes (paxDigits path) ++ 32 :: ([112, 97, 116, 104, 61] ++ path)).drop
      ((textBytes (paxDigits path)).length + 1) = [112, 97, 116, 104, 61] ++ path := by
    simp
  have nonempty : (textBytes (paxDigits path) ++ 32 :: ([112, 97, 116, 104, 61] ++ path)).isEmpty =
      false := by
    simp
  have key : List.take 4 ([112, 97, 116, 104, 61] ++ path) = [112, 97, 116, 104] := rfl
  have value : List.drop (4 + 1) ([112, 97, 116, 104, 61] ++ path) = path := rfl
  unfold paxRecords
  rw [Base64.toList_eq_data_toList]
  simp only [lines, List.takeWhile_cons, nonempty, Bool.not_false, List.isEmpty_nil, Bool.not_true,
    Bool.false_eq_true, if_true, if_false, List.takeWhile_nil, List.map_cons, List.map_nil, space,
    digits, stated, bne_self_eq_false, afterSpace, equals, key, value]

/-- The path a written PAX record gives is the path. -/
theorem paxPath_paxPathRecord (noNewline : 10 ∉ path)
    (small : (paxPathRecord path).length < Nat.pow 2 64) :
    paxPath ⟨(paxPathRecord path).toArray⟩ = some ⟨path.toArray⟩ := by
  have same : (ByteArray.mk #[112, 97, 116, 104] == "path".toUTF8) = true := by decide
  rw [paxPath, paxRecords_paxPathRecord noNewline small]
  simp only [List.filterMap_cons, id, List.filterMap_nil, List.find?_cons, same, Option.map_some]

/-- A written PAX record gives no size: the header's own size stands. -/
theorem paxSize_paxPathRecord (noNewline : 10 ∉ path)
    (small : (paxPathRecord path).length < Nat.pow 2 64) :
    paxSize ⟨(paxPathRecord path).toArray⟩ = none := by
  have key : String.fromUTF8? ⟨#[112, 97, 116, 104]⟩ = some "path" := by decide
  rw [paxSize, paxRecords_paxPathRecord noNewline small, paxSize.go, key]
  rfl

end Pax

/-! ## Reading one header block -/

section Walk

variable {w : Walk} {pre post : List UInt8}

theorem size_mk (l : List UInt8) : (ByteArray.mk l.toArray).size = l.length := by
  simp [ByteArray.size]

/-- The walk skips to `w.next`, takes the block there and hands it to the header reader;
after a header it reads, the walk goes on from the end of the block. -/
theorem Walk.nextRaw_of_block {pax : Option ByteArray} {r r' : Reader} {block : ByteArray}
    (skipped : w.reader.skip (w.next - w.reader.pos) = .ok r)
    (read : r.readBlock = .ok (some (block, r'))) :
    w.nextRaw pax = (readHeader block w.next pax).map
      (Option.map fun header => (header.1, header.2.1, { reader := r', next := header.2.2 })) := by
  unfold Walk.nextRaw
  simp only [skipped, read, bind, Except.bind]
  cases readHeader block w.next pax with
  | error err => rfl
  | ok found =>
    cases found with
    | none => rfl
    | some header => rfl

/-- The block written at `w.next` goes to the header reader, when the reader is not past
it. -/
theorem Walk.nextRaw_at {block : List UInt8} (pax : Option ByteArray)
    (data : w.reader.src.data = ⟨(pre ++ block ++ post).toArray⟩)
    (length : block.length = blockSize) (next : w.next = pre.length)
    (behind : w.reader.pos ≤ pre.length) (within : pre.length + blockSize ≤ maxArchiveSize) :
    w.nextRaw pax = (readHeader ⟨block.toArray⟩ pre.length pax).map
      (Option.map fun header => (header.1, header.2.1,
        { reader := { w.reader with pos := pre.length + blockSize }, next := header.2.2 })) := by
  have total : pre.length + blockSize ≤ w.reader.src.data.size := by
    rw [data, size_mk, List.length_append, List.length_append, length]
    omega
  have skipped : w.reader.skip (w.next - w.reader.pos) = .ok { w.reader with pos := pre.length } := by
    rw [next, Reader.skip_within (by omega) (by omega), show w.reader.pos + (pre.length - w.reader.pos) =
      pre.length by omega]
  have bytes : w.reader.src.data.extract pre.length (pre.length + blockSize) = ⟨block.toArray⟩ := by
    have frame := extract_frame pre block post
    rw [length] at frame
    rw [data]
    exact frame
  have read := Reader.readBlock_within (r := { w.reader with pos := pre.length }) total within
  rw [bytes] at read
  -- the block is a variable here, so no step below has Lean evaluate the header reader
  rw [Walk.nextRaw_of_block skipped read, next]

/-- The header block that starts at `w.next`: the reader skips what is left of the member
before it, takes the block, and the walk moves on to the header after the member's data. -/
theorem Walk.nextRaw_headerBlock {format : Format} {name : List UInt8} {typeFlag : UInt8}
    {size : Nat} (pax : Option ByteArray)
    (data : w.reader.src.data = ⟨(pre ++ headerBlock format name typeFlag size ++ post).toArray⟩)
    (next : w.next = pre.length) (behind : w.reader.pos ≤ pre.length)
    (fits : name.length ≤ 100) (small : size < Nat.pow 8 11)
    (sizeKept : size = 0 → (pax.bind paxSize).getD 0 = 0)
    (within : pre.length + blockSize ≤ maxArchiveSize) :
    w.nextRaw pax = .ok (some (⟨⟨(headerBlock format name typeFlag size).toArray⟩⟩, size,
      ⟨{ w.reader with pos := pre.length + blockSize },
        pre.length + blockSize + (size + 511) / blockSize * blockSize⟩)) := by
  have length := length_headerBlock format typeFlag size fits
  have limits : maxArchiveSize + blockSize + Nat.pow 8 11 < sizeLimit := by decide
  have header := readHeader_headerBlock format typeFlag size fits small pre.length pax sizeKept
    (by unfold blockSize at *; omega)
  rw [Walk.nextRaw_at pax data length next behind within, header]
  rfl

/-- A zero block ends the archive. -/
theorem readHeader_zero (next : Nat) (pax : Option ByteArray) :
    readHeader ⟨(List.replicate blockSize (0 : UInt8)).toArray⟩ next pax = .ok none := by
  have zero : (Header.mk ⟨(List.replicate blockSize (0 : UInt8)).toArray⟩).isZero = true := by
    unfold Header.isZero
    rw [List.all_toArray]
    simp
  unfold readHeader
  simp only [zero, if_true]
  rfl

theorem Walk.nextRaw_zeroBlock (pax : Option ByteArray)
    (data : w.reader.src.data = ⟨(pre ++ List.replicate blockSize 0 ++ post).toArray⟩)
    (next : w.next = pre.length) (behind : w.reader.pos ≤ pre.length)
    (within : pre.length + blockSize ≤ maxArchiveSize) :
    w.nextRaw pax = .ok none := by
  rw [Walk.nextRaw_at pax data List.length_replicate next behind within, readHeader_zero]
  rfl

end Walk

/-! ## Gathering the header blocks of a member -/

section Gather

variable {fuel : Nat} {w w' : Walk} {longName longLink pax : Option ByteArray} {pending : Bool}
  {h : Header} {size : Nat}

theorem Walk.nextMember_eq (w : Walk) :
    w.nextMember = Walk.nextMember.go (w.reader.src.data.size / blockSize + 1 + 1) w none none none
      false := rfl

/-- A header of a type that gathers nothing ends the member, with what was gathered. -/
theorem Walk.nextMember_go_member {typeFlag : UInt8}
    (raw : w.nextRaw pax = .ok (some (h, size, w'))) (flag : h.typeFlag = typeFlag)
    (plain : typeFlag ≠ 75 ∧ typeFlag ≠ 76 ∧ typeFlag ≠ 120) :
    Walk.nextMember.go (fuel + 1) w longName longLink pax pending =
      .ok (some (⟨h, size, longName, pax⟩, w')) := by
  obtain ⟨no75, no76, no120⟩ := plain
  rw [Walk.nextMember.go, raw]
  simp [bind, Except.bind, flag, no75, no76, no120]
  rfl

/-- No header where one should start: the walk has no more members, unless long-name or
extended headers are pending. -/
theorem Walk.nextMember_go_none (raw : w.nextRaw pax = .ok none) :
    Walk.nextMember.go (fuel + 1) w longName longLink pax false = .ok none := by
  rw [Walk.nextMember.go, raw]
  rfl

/-- A zero block where a header should start: the walk has no more members. -/
theorem Walk.nextMember_zeroBlock {pre post : List UInt8}
    (data : w.reader.src.data = ⟨(pre ++ List.replicate blockSize 0 ++ post).toArray⟩)
    (next : w.next = pre.length) (behind : w.reader.pos ≤ pre.length)
    (within : pre.length + blockSize ≤ maxArchiveSize) : w.nextMember = .ok none := by
  rw [Walk.nextMember_eq, Walk.nextMember_go_none (Walk.nextRaw_zeroBlock none data next behind within)]

/-- A source that ends cleanly on a block boundary where a header should start: the walk has
no more members, though no zero block marks the end. -/
theorem Walk.nextMember_at_clean_end (atEnd : w.reader.src.data.size = w.next)
    (clean : w.reader.src.ending = none) (aligned : w.next % blockSize = 0)
    (behind : w.reader.pos ≤ w.next) (within : w.next ≤ maxArchiveSize) :
    w.nextMember = .ok none := by
  have skipped : w.reader.skip (w.next - w.reader.pos) = .ok { w.reader with pos := w.next } := by
    rw [Reader.skip_within (by omega) (by omega),
      show w.reader.pos + (w.next - w.reader.pos) = w.next by omega]
  have read : ({ w.reader with pos := w.next } : Reader).readBlock = .ok none :=
    Reader.readBlock_at_clean_end (by dsimp only; omega) clean aligned
  have raw : w.nextRaw none = .ok none := by
    unfold Walk.nextRaw
    simp only [skipped, read, bind, Except.bind, pure, Except.pure]
  rw [Walk.nextMember_eq, Walk.nextMember_go_none raw]

/-- A GNU long-name header: its data is the name of the member that follows. -/
theorem Walk.nextMember_go_longName {name : ByteArray} {r : Reader}
    (raw : w.nextRaw pax = .ok (some (h, size, w'))) (known : (h.isGnu || h.isUstar) = true)
    (flag : h.typeFlag = 76) (read : w'.reader.readUpTo size = .ok (name, r)) :
    Walk.nextMember.go (fuel + 1) w none longLink pax pending =
      Walk.nextMember.go fuel { w' with reader := r } (some name) longLink pax true := by
  rw [Walk.nextMember.go, raw]
  simp [bind, Except.bind, known, flag, read]

/-- A PAX extended header: its data holds records about the member that follows. -/
theorem Walk.nextMember_go_pax {ext : ByteArray} {r : Reader}
    (raw : w.nextRaw none = .ok (some (h, size, w'))) (known : (h.isGnu || h.isUstar) = true)
    (flag : h.typeFlag = 120) (read : w'.reader.readUpTo size = .ok (ext, r)) :
    Walk.nextMember.go (fuel + 1) w longName longLink none pending =
      Walk.nextMember.go fuel { w' with reader := r } longName longLink (some ext) true := by
  rw [Walk.nextMember.go, raw]
  simp [bind, Except.bind, known, flag, read]

end Gather

/-! ## The path of a member -/

theorem Member.pathBytes_header (h : Header) (size : Nat) :
    (Member.mk h size none none).pathBytes = h.pathBytes := rfl

/-- A long name is read without its final zero byte. -/
theorem Member.pathBytes_longName (h : Header) (size : Nat) (pax : Option ByteArray)
    (path : List UInt8) :
    (Member.mk h size (some ⟨(path ++ [0]).toArray⟩) pax).pathBytes = ⟨path.toArray⟩ := by
  have length : (ByteArray.mk (path ++ [0]).toArray).size = path.length + 1 := by
    rw [size_mk, List.length_append, List.length_singleton]
  have last : (ByteArray.mk (path ++ [0]).toArray).get! path.length = 0 := by
    rw [get!_mk]
    simp
  unfold Member.pathBytes
  simp only [length, Nat.add_sub_cancel, last]
  exact extract_zero_frame path [0]

theorem Member.pathBytes_pax (h : Header) (size : Nat) (record : ByteArray) {path : ByteArray}
    (found : paxPath record = some path) :
    (Member.mk h size none (some record)).pathBytes = path := by
  unfold Member.pathBytes
  simp [found]

/-- A member as the reader reads a written entry: the entry's type flag, its size both as the
member's data size and in the header's size field, and its path. -/
structure Member.ReadsAs (m : Member) (e : Entry) : Prop where
  typeFlag : m.header.typeFlag = e.typeFlag
  size : m.size = e.content.size
  declared : numericField (m.header.field 124 12) = .ok e.content.size
  path : m.pathBytes = ⟨(textBytes e.path.toList).toArray⟩


/-! ## Written members -/

section Written

variable {w : Walk} {pre post : List UInt8}

/-- An extension header and its data: the header as `nextRaw` reads it, and the data as the
reader then takes it. -/
theorem Walk.nextRaw_extension {format : Format} {extName : List UInt8} {flag : UInt8}
    {ext : List UInt8} (pax : Option ByteArray)
    (data : w.reader.src.data =
      ⟨(pre ++ headerBlock format extName flag ext.length ++ (blockData ext ++ post)).toArray⟩)
    (next : w.next = pre.length) (behind : w.reader.pos ≤ pre.length)
    (fits : extName.length ≤ 100) (nonempty : 0 < ext.length)
    (within : pre.length + blockSize + ext.length ≤ maxArchiveSize) :
    w.nextRaw pax = .ok (some (⟨⟨(headerBlock format extName flag ext.length).toArray⟩⟩,
        ext.length, ⟨{ w.reader with pos := pre.length + blockSize },
          pre.length + blockSize + (blockData ext).length⟩)) ∧
      ({ w.reader with pos := pre.length + blockSize } : Reader).readUpTo ext.length =
        .ok (⟨ext.toArray⟩, { w.reader with pos := pre.length + blockSize + ext.length }) := by
  have limits : maxArchiveSize < Nat.pow 8 11 := by decide
  have length := length_headerBlock format flag ext.length fits
  refine ⟨?_, ?_⟩
  · rw [length_blockData]
    exact Walk.nextRaw_headerBlock pax data next behind fits (by omega) (fun _ => by omega)
      (by omega)
  · have whole : pre ++ headerBlock format extName flag ext.length ++ (blockData ext ++ post) =
        pre ++ headerBlock format extName flag ext.length ++ ext ++
          (List.replicate ((blockSize - ext.length % blockSize) % blockSize) 0 ++ post) := by
      simp only [blockData, List.append_assoc]
    have frame := extract_frame (pre ++ headerBlock format extName flag ext.length) ext
      (List.replicate ((blockSize - ext.length % blockSize) % blockSize) 0 ++ post)
    rw [List.length_append, length, ← whole, ← data, show (512 : Nat) = blockSize from rfl] at frame
    have total : pre.length + blockSize + ext.length ≤ w.reader.src.data.size := by
      rw [data, size_mk]
      simp only [List.length_append, length, length_blockData]
      unfold blockSize
      omega
    rw [Reader.readUpTo_within nonempty total within]
    dsimp only
    rw [frame]


theorem length_content (e : Entry) : e.content.data.toList.length = e.content.size :=
  Array.length_toList

/-- A member's content lies within its written bytes, after its headers. -/
theorem Entry.headers_content_le_write (e : Entry) :
    e.headers.length + e.content.size ≤ e.write.length := by
  have dataLength := length_blockData e.content.data.toList
  rw [length_content] at dataLength
  have block : blockSize = 512 := rfl
  rw [Entry.write, List.length_append, dataLength, block]
  omega

/-- A member that ends within the archive limit has a size its octal size field can hold. -/
theorem Entry.size_lt_of_within {e : Entry} {start : Nat}
    (within : start + e.write.length ≤ maxArchiveSize) : e.content.size < Nat.pow 8 11 := by
  have fitsIn := Entry.headers_content_le_write e
  have limits : maxArchiveSize < Nat.pow 8 11 := by decide
  omega

/-- The headers of a member that ends within the archive limit end within it too. -/
theorem Entry.headers_within {e : Entry} {start : Nat}
    (within : start + e.write.length ≤ maxArchiveSize) :
    start + e.headers.length ≤ maxArchiveSize := by
  have fitsIn := Entry.headers_content_le_write e
  omega

/-- The walk after a written member: the reader at its data, the next header after it. -/
abbrev afterMember (w : Walk) (pre : List UInt8) (e : Entry) : Walk :=
  ⟨{ w.reader with pos := pre.length + e.headers.length }, pre.length + e.write.length⟩

/-- A member written with its path in its own header. -/
theorem Walk.nextMember_headerStyle {e : Entry} {format : Format}
    (style : e.style = .header format) (plain : e.typeFlag ≠ 75 ∧ e.typeFlag ≠ 76 ∧ e.typeFlag ≠ 120)
    (fits : (textBytes e.path.toList).length ≤ 100) (noZero : 0 ∉ textBytes e.path.toList)
    (data : w.reader.src.data = ⟨(pre ++ e.write ++ post).toArray⟩)
    (next : w.next = pre.length) (behind : w.reader.pos ≤ pre.length)
    (within : pre.length + e.write.length ≤ maxArchiveSize) :
    ∃ m, m.ReadsAs e ∧ w.nextMember = .ok (some (m, afterMember w pre e)) := by
  have headers : e.headers =
      headerBlock format (textBytes e.path.toList) e.typeFlag e.content.size := by
    simp only [Entry.headers, style]
  have length := length_headerBlock format e.typeFlag e.content.size fits
  have dataLength := length_blockData e.content.data.toList
  rw [length_content] at dataLength
  have writeLength : e.write.length = 512 + (blockData e.content.data.toList).length := by
    rw [Entry.write, List.length_append, headers, length]
  have small := Entry.size_lt_of_within within
  have split : w.reader.src.data = ⟨(pre ++ headerBlock format (textBytes e.path.toList) e.typeFlag
      e.content.size ++ (blockData e.content.data.toList ++ post)).toArray⟩ := by
    rw [data, Entry.write, headers, List.append_assoc, List.append_assoc, List.append_assoc]
  have raw := Walk.nextRaw_headerBlock none split next behind fits small (fun _ => rfl)
    (by unfold blockSize; omega)
  have flag := typeFlag_headerBlock format e.typeFlag e.content.size fits
  refine ⟨⟨⟨⟨(headerBlock format (textBytes e.path.toList) e.typeFlag e.content.size).toArray⟩⟩,
      e.content.size, none, none⟩, ⟨flag, rfl, numericField_headerBlock format e.typeFlag
        e.content.size fits small, ?_⟩, ?_⟩
  · rw [Member.pathBytes_header, pathBytes_headerBlock format e.typeFlag e.content.size fits noZero]
  · have walked : afterMember w pre e = ⟨{ w.reader with pos := pre.length + blockSize },
        pre.length + blockSize + (e.content.size + 511) / blockSize * blockSize⟩ := by
      rw [afterMember, headers, length, writeLength, dataLength, ← Nat.add_assoc]
      rfl
    rw [Walk.nextMember_eq, Walk.nextMember_go_member raw flag plain, walked]


/-- A member written after an extension header: the extension's header, its data as the
reader takes it, and the member's own header after the extension's padded data. -/
theorem Walk.read_extended {format₁ format₂ : Format} {extName name ext : List UInt8}
    {flag typeFlag : UInt8} {size : Nat} (pax₁ pax₂ : Option ByteArray)
    (data : w.reader.src.data = ⟨(pre ++ (headerBlock format₁ extName flag ext.length ++
      blockData ext ++ headerBlock format₂ name typeFlag size) ++ post).toArray⟩)
    (next : w.next = pre.length) (behind : w.reader.pos ≤ pre.length)
    (extFits : extName.length ≤ 100) (fits : name.length ≤ 100) (nonempty : 0 < ext.length)
    (small : size < Nat.pow 8 11) (sizeKept : size = 0 → (pax₂.bind paxSize).getD 0 = 0)
    (within : pre.length + (headerBlock format₁ extName flag ext.length ++ blockData ext ++
      headerBlock format₂ name typeFlag size).length ≤ maxArchiveSize) :
    ∃ w₁ r, w.nextRaw pax₁ = .ok (some (⟨⟨(headerBlock format₁ extName flag ext.length).toArray⟩⟩,
        ext.length, w₁)) ∧
      w₁.reader.readUpTo ext.length = .ok (⟨ext.toArray⟩, r) ∧
      ({ w₁ with reader := r } : Walk).nextRaw pax₂ =
        .ok (some (⟨⟨(headerBlock format₂ name typeFlag size).toArray⟩⟩, size,
          ⟨{ w.reader with pos := (pre ++ headerBlock format₁ extName flag ext.length ++
              blockData ext).length + blockSize },
            (pre ++ headerBlock format₁ extName flag ext.length ++ blockData ext).length +
              blockSize + (size + 511) / blockSize * blockSize⟩)) := by
  have extLength := length_headerBlock format₁ flag ext.length extFits
  have length := length_headerBlock format₂ typeFlag size fits
  have padded := length_blockData ext
  have covers : ext.length ≤ (blockData ext).length := by
    simp only [blockData, List.length_append]
    omega
  simp only [List.length_append, extLength, length] at within
  have first : w.reader.src.data = ⟨(pre ++ headerBlock format₁ extName flag ext.length ++
      (blockData ext ++ (headerBlock format₂ name typeFlag size ++ post))).toArray⟩ := by
    rw [data]
    simp only [List.append_assoc]
  obtain ⟨raw, read⟩ := Walk.nextRaw_extension pax₁ first next behind extFits nonempty
    (by unfold blockSize; omega)
  refine ⟨⟨{ w.reader with pos := pre.length + blockSize },
    pre.length + blockSize + (blockData ext).length⟩,
    { w.reader with pos := pre.length + blockSize + ext.length }, raw, read, ?_⟩
  have second : w.reader.src.data = ⟨(pre ++ headerBlock format₁ extName flag ext.length ++
      blockData ext ++ headerBlock format₂ name typeFlag size ++ post).toArray⟩ := by
    rw [data]
    simp only [List.append_assoc]
  have behind₂ : pre.length + blockSize + ext.length ≤
      (pre ++ headerBlock format₁ extName flag ext.length ++ blockData ext).length := by
    simp only [List.length_append, extLength]
    unfold blockSize
    omega
  have next₂ : pre.length + blockSize + (blockData ext).length =
      (pre ++ headerBlock format₁ extName flag ext.length ++ blockData ext).length := by
    simp only [List.length_append, extLength]
    rfl
  have room : (pre ++ headerBlock format₁ extName flag ext.length ++ blockData ext).length +
      blockSize ≤ maxArchiveSize := by
    simp only [List.length_append, extLength]
    have block : blockSize = 512 := rfl
    omega
  exact Walk.nextRaw_headerBlock pax₂ second next₂ behind₂ fits small sizeKept room


/-- Where the walk stands after a member written behind an extension header. -/
theorem afterMember_extended {e : Entry} {header ext member : List UInt8}
    (headers : e.headers = header ++ blockData ext ++ member) (headerLength : header.length = 512)
    (memberLength : member.length = 512) :
    afterMember w pre e = ⟨{ w.reader with pos := (pre ++ header ++ blockData ext).length + blockSize },
      (pre ++ header ++ blockData ext).length + blockSize +
        (e.content.size + 511) / blockSize * blockSize⟩ := by
  have dataLength := length_blockData e.content.data.toList
  rw [length_content] at dataLength
  have block : blockSize = 512 := rfl
  have atData : pre.length + e.headers.length =
      (pre ++ header ++ blockData ext).length + blockSize := by
    rw [headers]
    simp only [List.length_append, headerLength, memberLength]
    omega
  have atNext : pre.length + e.write.length = (pre ++ header ++ blockData ext).length + blockSize +
      (e.content.size + 511) / blockSize * blockSize := by
    rw [Entry.write, List.length_append, dataLength, ← Nat.add_assoc, atData]
  rw [afterMember, atData, atNext]

/-- A member written after a GNU long-name header that holds its path. -/
theorem Walk.nextMember_longNameStyle {e : Entry} (style : e.style = .gnuLongName)
    (plain : e.typeFlag ≠ 75 ∧ e.typeFlag ≠ 76 ∧ e.typeFlag ≠ 120)
    (data : w.reader.src.data = ⟨(pre ++ e.write ++ post).toArray⟩)
    (next : w.next = pre.length) (behind : w.reader.pos ≤ pre.length)
    (within : pre.length + e.write.length ≤ maxArchiveSize) :
    ∃ m, m.ReadsAs e ∧ w.nextMember = .ok (some (m, afterMember w pre e)) := by
  have headers : e.headers = headerBlock .gnu (textBytes "././@LongLink".toList) 76
      (textBytes e.path.toList ++ [0]).length ++ blockData (textBytes e.path.toList ++ [0]) ++
      headerBlock .gnu ((textBytes e.path.toList).take 100) e.typeFlag e.content.size := by
    simp only [Entry.headers, style, List.length_append, List.length_singleton]
  have extFits : (textBytes "././@LongLink".toList).length ≤ 100 := by decide
  have fits : ((textBytes e.path.toList).take 100).length ≤ 100 := List.length_take_le _ _
  have small := Entry.size_lt_of_within within
  have split : w.reader.src.data = ⟨(pre ++ (headerBlock .gnu (textBytes "././@LongLink".toList) 76
      (textBytes e.path.toList ++ [0]).length ++ blockData (textBytes e.path.toList ++ [0]) ++
      headerBlock .gnu ((textBytes e.path.toList).take 100) e.typeFlag e.content.size) ++
      (blockData e.content.data.toList ++ post)).toArray⟩ := by
    rw [data, Entry.write, headers]
    simp only [List.append_assoc]
  obtain ⟨w₁, r, raw, read, member⟩ := Walk.read_extended none none split next behind extFits fits
    (by simp) small (fun _ => rfl) (by rw [← headers]; exact Entry.headers_within within)
  have flag := typeFlag_headerBlock .gnu e.typeFlag e.content.size fits
  refine ⟨⟨⟨⟨(headerBlock .gnu ((textBytes e.path.toList).take 100) e.typeFlag
      e.content.size).toArray⟩⟩, e.content.size, some ⟨(textBytes e.path.toList ++ [0]).toArray⟩, none⟩,
    ⟨flag, rfl, numericField_headerBlock .gnu e.typeFlag e.content.size fits small,
      Member.pathBytes_longName _ _ _ _⟩, ?_⟩
  rw [Walk.nextMember_eq, Walk.nextMember_go_longName raw (known_headerBlock .gnu 76 _ extFits)
    (typeFlag_headerBlock .gnu 76 _ extFits) read, Walk.nextMember_go_member member flag plain,
    afterMember_extended headers (length_headerBlock .gnu 76 _ extFits)
      (length_headerBlock .gnu e.typeFlag e.content.size fits)]

/-- A member written after a PAX extended header: the reader gathers the header's record and
then reads the member's own header, whatever path the record gives. -/
theorem Walk.nextMember_paxRecord {e : Entry} (style : e.style = .pax)
    (plain : e.typeFlag ≠ 75 ∧ e.typeFlag ≠ 76 ∧ e.typeFlag ≠ 120)
    (noSize : paxSize ⟨(paxPathRecord (textBytes e.path.toList)).toArray⟩ = none)
    (data : w.reader.src.data = ⟨(pre ++ e.write ++ post).toArray⟩)
    (next : w.next = pre.length) (behind : w.reader.pos ≤ pre.length)
    (within : pre.length + e.write.length ≤ maxArchiveSize) :
    w.nextMember = .ok (some (⟨⟨⟨(headerBlock .ustar ((textBytes e.path.toList).take 100) e.typeFlag
      e.content.size).toArray⟩⟩, e.content.size, none,
      some ⟨(paxPathRecord (textBytes e.path.toList)).toArray⟩⟩, afterMember w pre e)) := by
  have headers : e.headers = headerBlock .ustar (textBytes "PaxHeader".toList) 120
      (paxPathRecord (textBytes e.path.toList)).length ++
      blockData (paxPathRecord (textBytes e.path.toList)) ++
      headerBlock .ustar ((textBytes e.path.toList).take 100) e.typeFlag e.content.size := by
    simp only [Entry.headers, style]
  have extFits : (textBytes "PaxHeader".toList).length ≤ 100 := by decide
  have fits : ((textBytes e.path.toList).take 100).length ≤ 100 := List.length_take_le _ _
  have small := Entry.size_lt_of_within within
  have split : w.reader.src.data = ⟨(pre ++ (headerBlock .ustar (textBytes "PaxHeader".toList) 120
      (paxPathRecord (textBytes e.path.toList)).length ++
      blockData (paxPathRecord (textBytes e.path.toList)) ++
      headerBlock .ustar ((textBytes e.path.toList).take 100) e.typeFlag e.content.size) ++
      (blockData e.content.data.toList ++ post)).toArray⟩ := by
    rw [data, Entry.write, headers]
    simp only [List.append_assoc]
  have noSize : (some (ByteArray.mk (paxPathRecord (textBytes e.path.toList)).toArray)).bind
      paxSize = none := noSize
  obtain ⟨w₁, r, raw, read, member⟩ := Walk.read_extended none _ split next behind extFits fits
    (by rw [paxPathRecord_eq]; simp) small (fun _ => by rw [noSize]; rfl) (by rw [← headers]; exact Entry.headers_within within)
  have flag := typeFlag_headerBlock .ustar e.typeFlag e.content.size fits
  rw [Walk.nextMember_eq, Walk.nextMember_go_pax raw (known_headerBlock .ustar 120 _ extFits)
    (typeFlag_headerBlock .ustar 120 _ extFits) read, Walk.nextMember_go_member member flag plain,
    afterMember_extended headers (length_headerBlock .ustar 120 _ extFits)
      (length_headerBlock .ustar e.typeFlag e.content.size fits)]

/-- A member written after a PAX extended header whose record holds its path. -/
theorem Walk.nextMember_paxStyle {e : Entry} (style : e.style = .pax)
    (plain : e.typeFlag ≠ 75 ∧ e.typeFlag ≠ 76 ∧ e.typeFlag ≠ 120)
    (noNewline : 10 ∉ textBytes e.path.toList)
    (data : w.reader.src.data = ⟨(pre ++ e.write ++ post).toArray⟩)
    (next : w.next = pre.length) (behind : w.reader.pos ≤ pre.length)
    (within : pre.length + e.write.length ≤ maxArchiveSize) :
    ∃ m, m.ReadsAs e ∧ w.nextMember = .ok (some (m, afterMember w pre e)) := by
  have headers : e.headers = headerBlock .ustar (textBytes "PaxHeader".toList) 120
      (paxPathRecord (textBytes e.path.toList)).length ++
      blockData (paxPathRecord (textBytes e.path.toList)) ++
      headerBlock .ustar ((textBytes e.path.toList).take 100) e.typeFlag e.content.size := by
    simp only [Entry.headers, style]
  have fits : ((textBytes e.path.toList).take 100).length ≤ 100 := List.length_take_le _ _
  have small := Entry.size_lt_of_within within
  have recordSmall : (paxPathRecord (textBytes e.path.toList)).length < Nat.pow 2 64 := by
    have covers : (paxPathRecord (textBytes e.path.toList)).length ≤ e.write.length := by
      rw [Entry.write, headers]
      simp only [blockData, List.length_append]
      omega
    have : maxArchiveSize < Nat.pow 2 64 := by decide
    omega
  refine ⟨⟨⟨⟨(headerBlock .ustar ((textBytes e.path.toList).take 100) e.typeFlag
      e.content.size).toArray⟩⟩, e.content.size, none,
      some ⟨(paxPathRecord (textBytes e.path.toList)).toArray⟩⟩,
    ⟨typeFlag_headerBlock .ustar e.typeFlag e.content.size fits, rfl,
      numericField_headerBlock .ustar e.typeFlag e.content.size fits small,
      Member.pathBytes_pax _ _ _ (paxPath_paxPathRecord noNewline recordSmall)⟩, ?_⟩
  exact Walk.nextMember_paxRecord style plain (paxSize_paxPathRecord noNewline recordSmall) data
    next behind within


/-- The reader reads a well-written entry back as a member with the entry's type flag, size
and path, and stops at the member's data with the next header after it. -/
theorem Walk.nextMember_write {e : Entry} (written : e.WellWritten)
    (data : w.reader.src.data = ⟨(pre ++ e.write ++ post).toArray⟩)
    (next : w.next = pre.length) (behind : w.reader.pos ≤ pre.length)
    (within : pre.length + e.write.length ≤ maxArchiveSize) :
    ∃ m, m.ReadsAs e ∧ w.nextMember = .ok (some (m, afterMember w pre e)) := by
  obtain ⟨no75, no76, no120, placed⟩ := written
  have plain : e.typeFlag ≠ 75 ∧ e.typeFlag ≠ 76 ∧ e.typeFlag ≠ 120 := ⟨no75, no76, no120⟩
  cases style : e.style with
  | header format =>
    simp only [style] at placed
    obtain ⟨short, noNul⟩ := placed
    exact Walk.nextMember_headerStyle style plain (by rw [length_textBytes_toList]; exact short)
      (not_mem_textBytes (by decide) noNul) data next behind within
  | gnuLongName => exact Walk.nextMember_longNameStyle style plain data next behind within
  | pax =>
    simp only [style] at placed
    exact Walk.nextMember_paxStyle style plain (not_mem_textBytes (by decide) placed) data next
      behind within

/-- After a written member's headers, the reader takes its content whole. -/
theorem Walk.readUpTo_content {e : Entry}
    (data : w.reader.src.data = ⟨(pre ++ e.write ++ post).toArray⟩)
    (within : pre.length + e.write.length ≤ maxArchiveSize) :
    (afterMember w pre e).reader.readUpTo e.content.size =
      .ok (e.content, { w.reader with pos := pre.length + e.headers.length + e.content.size }) := by
  by_cases empty : e.content.size = 0
  · have none : e.content = ByteArray.empty := ByteArray.ext (Array.eq_empty_of_size_eq_zero empty)
    rw [empty, Reader.readUpTo_zero, none, Nat.add_zero]
  · have fitsIn := Entry.headers_content_le_write e
    have whole : pre ++ e.write ++ post = pre ++ e.headers ++ e.content.data.toList ++
        (List.replicate ((blockSize - e.content.data.toList.length % blockSize) % blockSize) 0 ++
          post) := by
      simp only [Entry.write, blockData, List.append_assoc]
    have frame := extract_frame (pre ++ e.headers) e.content.data.toList
      (List.replicate ((blockSize - e.content.data.toList.length % blockSize) % blockSize) 0 ++ post)
    rw [← whole, ← data, List.length_append, length_content] at frame
    have total : pre.length + e.headers.length + e.content.size ≤ w.reader.src.data.size := by
      rw [data, size_mk (pre ++ e.write ++ post), List.length_append, List.length_append]
      omega
    have under : pre.length + e.headers.length + e.content.size ≤ maxArchiveSize := by omega
    rw [Reader.readUpTo_within (Nat.pos_of_ne_zero empty) total under]
    dsimp only
    rw [frame]

/-- Every member takes a block at least: its own header. -/
theorem Entry.blockSize_le_length_write (e : Entry) : blockSize ≤ e.write.length := by
  have headers : blockSize ≤ e.headers.length := by
    cases style : e.style with
    | header format =>
      simp only [Entry.headers, style]
      exact blockSize_le_length_headerBlock format e.typeFlag e.content.size
    | gnuLongName =>
      have own : blockSize ≤ (headerBlock .gnu ((textBytes e.path.toList).take 100) e.typeFlag
          e.content.size).length := blockSize_le_length_headerBlock .gnu e.typeFlag e.content.size
      simp only [Entry.headers, style, List.length_append]
      omega
    | pax =>
      have own : blockSize ≤ (headerBlock .ustar ((textBytes e.path.toList).take 100) e.typeFlag
          e.content.size).length := blockSize_le_length_headerBlock .ustar e.typeFlag e.content.size
      simp only [Entry.headers, style, List.length_append]
      omega
  rw [Entry.write, List.length_append]
  omega

/-- A well-written entry fills whole blocks: each of its headers takes one block, and its data
and its long name or extended record are padded. -/
theorem Entry.write_aligned {e : Entry} (written : e.WellWritten) :
    e.write.length % blockSize = 0 := by
  have padded : ∀ data : List UInt8, (blockData data).length % blockSize = 0 := fun data => by
    rw [length_blockData]
    exact Nat.mul_mod_left _ _
  have cut : ((textBytes e.path.toList).take 100).length ≤ 100 := List.length_take_le _ _
  have headers : e.headers.length % blockSize = 0 := by
    obtain ⟨-, -, -, placed⟩ := written
    cases style : e.style with
    | header format =>
      simp only [style] at placed
      have short : (textBytes e.path.toList).length ≤ 100 := by
        rw [length_textBytes_toList]
        exact placed.1
      simp only [Entry.headers, style, length_headerBlock _ _ _ short]
      rfl
    | gnuLongName =>
      have extFits : (textBytes "././@LongLink".toList).length ≤ 100 := by decide
      have name := padded (textBytes e.path.toList ++ [0])
      simp only [Entry.headers, style, List.length_append, length_headerBlock _ _ _ extFits,
        length_headerBlock _ _ _ cut]
      unfold blockSize at name ⊢
      omega
    | pax =>
      have extFits : (textBytes "PaxHeader".toList).length ≤ 100 := by decide
      have record := padded (paxPathRecord (textBytes e.path.toList))
      simp only [Entry.headers, style, List.length_append, length_headerBlock _ _ _ extFits,
        length_headerBlock _ _ _ cut]
      unfold blockSize at record ⊢
      omega
  have data := padded e.content.data.toList
  rw [Entry.write, List.length_append]
  unfold blockSize at headers data ⊢
  omega

/-- Well-written entries written one after another end on a block boundary. -/
theorem Entry.flatMap_write_aligned {entries : List Entry} (written : ∀ e ∈ entries, e.WellWritten) :
    (entries.flatMap Entry.write).length % blockSize = 0 := by
  induction entries with
  | nil => rfl
  | cons e rest ih =>
    have first := Entry.write_aligned (written e List.mem_cons_self)
    have others := ih fun e' member => written e' (List.mem_cons_of_mem _ member)
    rw [List.flatMap_cons, List.length_append]
    unfold blockSize at first others ⊢
    omega

end Written

end ChartCatalog.Tar
