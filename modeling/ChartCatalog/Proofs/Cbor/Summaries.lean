import ChartCatalog.Watch.Summaries
import Mathlib.Data.Nat.Digits.Lemmas
import ChartCatalog.Proofs.Text.Base64
import ChartCatalog.Proofs.Bytes

/-!
# Summary lists read back from their CBOR form

The cache stores a repository's summaries as a CBOR array of five-member maps and reads
them back with a general CBOR reader: tags are skipped, keys may come as text or bytes and
in any order, maps may be indefinite. This module shows that the reader undoes the
writer: `Summaries.decode? (Summaries.encode ss) = some ss` whenever the list and every
text are short enough for a CBOR head to count them (`Summaries.decode?_encode`).

The proof follows the bytes. A head written for a major type and an argument reads back
as the same head (`readHead_writeHead`); so does a text after its head
(`readText_writeText`), a member (`readMember_write`), the members of a map in order
(`readMembers_write`), a summary map (`readCbor_writeCbor`) and the items of an array
(`readItems_write`). Every lemma places what it reads between arbitrary bytes `pre` and
`post`, which is what lets the next one read on from where it stopped.
-/

set_option autoImplicit false

namespace ChartCatalog.Cbor

/-! ## Big-endian arguments -/

theorem length_bigEndian (count value : Nat) : (bigEndian count value).length = count := by
  simp [bigEndian]

/-- Reading the bytes of a number back, most significant first, gives the number modulo
the bytes' range. -/
theorem foldl_bigEndian (count value acc : Nat) :
    (bigEndian count value).foldl (fun acc b => acc * 256 + b.toNat) acc =
      acc * Nat.pow 256 count + value % Nat.pow 256 count := by
  induction count generalizing acc with
  | zero => simp [bigEndian, Nat.mod_one]
  | succ n ih =>
    -- the first byte written is the digit of weight `256 ^ n`; the rest are `bigEndian n`
    simp only [bigEndian, List.range_succ, List.reverse_append, List.reverse_singleton,
      List.singleton_append, List.map_cons, List.foldl_cons]
    rw [← bigEndian, ih]
    have digit : (value / Nat.pow 256 n % 256).toUInt8.toNat = value / Nat.pow 256 n % 256 := by
      simp [Nat.toUInt8]
    have split : value % Nat.pow 256 (n + 1) =
        value % Nat.pow 256 n + Nat.pow 256 n * (value / Nat.pow 256 n % 256) :=
      Nat.mod_pow_succ
    have power : Nat.pow 256 (n + 1) = Nat.pow 256 n * 256 := rfl
    rw [digit, split, power]
    ring

theorem readBigEndian_frame (pre post : List UInt8) (count value : Nat)
    (fits : value < Nat.pow 256 count) :
    readBigEndian ⟨(pre ++ bigEndian count value ++ post).toArray⟩ pre.length count = some value := by
  have room : pre.length + count ≤ (ByteArray.mk (pre ++ bigEndian count value ++ post).toArray).size := by
    simp [ByteArray.size, length_bigEndian]
  simp only [readBigEndian, room, if_true, Option.some.injEq]
  have bytes : ∀ acc, ∀ i ∈ List.range count,
      acc * 256 + ((ByteArray.mk (pre ++ bigEndian count value ++ post).toArray).get! (pre.length + i)).toNat =
        acc * 256 + ((bigEndian count value)[i]!).toNat := by
    intro acc i member
    rw [get!_mk, getElem!_frame]
    simpa [length_bigEndian] using member
  rw [List.foldl_ext _ _ _ bytes]
  have digits := foldl_range_getElem! (bigEndian count value) (fun acc b => acc * 256 + b.toNat) 0
  rw [length_bigEndian] at digits
  rw [digits, foldl_bigEndian, Nat.mod_eq_of_lt fits]
  simp

theorem readBigEndian_after (pre post : List UInt8) (b : UInt8) (count value : Nat)
    (fits : value < Nat.pow 256 count) :
    readBigEndian ⟨(pre ++ b :: (bigEndian count value ++ post)).toArray⟩ (pre.length + 1) count =
      some value := by
  have framed := readBigEndian_frame (pre ++ [b]) post count value fits
  simpa using framed

/-! ## Heads -/

/-- The head of a definite byte string (2), text (3), array (4) or map (5) of a length. -/
def sizedHead (major length : Nat) : Head :=
  match major with
  | 2 => .bytes (some length)
  | 3 => .text (some length)
  | 4 => .array (some length)
  | _ => .map (some length)

theorem length_writeHead_pos (major value : Nat) : 0 < (writeHead major value).length := by
  unfold writeHead
  split_ifs <;> simp

/-- A head written for a sized major type reads back as that head, whichever of the five
widths the writer chose for its argument. -/
theorem readHead_writeHead (pre post : List UInt8) (major value : Nat)
    (sized : 2 ≤ major ∧ major ≤ 5) (fits : value < Nat.pow 2 64) :
    readHead ⟨(pre ++ writeHead major value ++ post).toArray⟩ pre.length =
      some (sizedHead major value, pre.length + (writeHead major value).length) := by
  obtain ⟨atLeast, atMost⟩ := sized
  unfold writeHead
  -- in each width the first byte carries the major type in its top three bits
  split_ifs with tiny byte short word
  · have low : value % 32 = value := Nat.mod_eq_of_lt (by omega)
    have high : (major * 32 + value) % 256 / 32 = major := by omega
    simp [readHead, get!_mk, guard, ByteArray.size, low, high, tiny]
    interval_cases major <;> rfl
  · have high : (major * 32 + 24) % 256 / 32 = major := by omega
    simp [readHead, get!_mk, guard, ByteArray.size, high,
      readBigEndian_after pre post _ 1 value (show value < 256 from byte), length_bigEndian]
    interval_cases major <;> rfl
  · have high : (major * 32 + 25) % 256 / 32 = major := by omega
    simp [readHead, get!_mk, guard, ByteArray.size, high,
      readBigEndian_after pre post _ 2 value (show value < 65536 from short), length_bigEndian]
    interval_cases major <;> rfl
  · have high : (major * 32 + 26) % 256 / 32 = major := by omega
    simp [readHead, get!_mk, guard, ByteArray.size, high,
      readBigEndian_after pre post _ 4 value (show value < 4294967296 from word), length_bigEndian]
    interval_cases major <;> rfl
  · have high : (major * 32 + 27) % 256 / 32 = major := by omega
    simp [readHead, get!_mk, guard, ByteArray.size, high,
      readBigEndian_after pre post _ 8 value fits, length_bigEndian]
    interval_cases major <;> rfl

theorem readUntagged_of_readHead {data : ByteArray} {pos next : Nat} {head : Head}
    (read : readHead data pos = some (head, next)) (untagged : ∀ n, head ≠ .tag n) :
    readUntagged data pos = some (head, next) := by
  cases head <;> simp_all [readUntagged, readUntagged.go]

/-! ## Texts -/

theorem length_writeText (s : String) :
    (writeText s).length = (writeHead 3 s.utf8ByteSize).length + s.utf8ByteSize := by
  simp [writeText, Base64.toList_eq_data_toList]

theorem textAt_frame (pre post : List UInt8) (s : String) :
    textAt ⟨(pre ++ s.toUTF8.data.toList ++ post).toArray⟩ pre.length s.utf8ByteSize = some s := by
  have size : s.utf8ByteSize = s.toUTF8.data.toList.length := by simp
  unfold textAt
  have room : pre.length + s.toUTF8.data.toList.length ≤
      (ByteArray.mk (pre ++ s.toUTF8.data.toList ++ post).toArray).size := by
    simp only [ByteArray.size, List.size_toArray, List.length_append]
    omega
  rw [size, if_pos room, extract_frame]
  -- the bytes of a string are valid UTF-8, so they decode to the string
  simp only [Array.toArray_toList, String.fromUTF8?]
  exact dif_pos s.isValidUTF8

/-- A text item reads back as its text, after a definite text head. -/
theorem readText_writeText (pre post : List UInt8) (s : String) (fits : s.utf8ByteSize < Nat.pow 2 64) :
    readUntagged ⟨(pre ++ writeText s ++ post).toArray⟩ pre.length =
        some (.text (some s.utf8ByteSize), pre.length + (writeHead 3 s.utf8ByteSize).length) ∧
      textAt ⟨(pre ++ writeText s ++ post).toArray⟩ (pre.length + (writeHead 3 s.utf8ByteSize).length)
        s.utf8ByteSize = some s := by
  have head := readHead_writeHead pre (s.toUTF8.data.toList ++ post) 3 s.utf8ByteSize ⟨by omega, by omega⟩ fits
  have body := textAt_frame (pre ++ writeHead 3 s.utf8ByteSize) post s
  simp only [writeText, Base64.toList_eq_data_toList, List.append_assoc] at head body ⊢
  refine ⟨readUntagged_of_readHead head (by simp), ?_⟩
  simpa using body

end ChartCatalog.Cbor

namespace ChartCatalog.PackageSummary

open Cbor

/-! ## Summary maps -/

/-- Every text of a summary has a length a CBOR head can carry. -/
def Fits (s : PackageSummary) : Prop := ∀ v ∈ s.values, v.utf8ByteSize < Nat.pow 2 64

instance (s : PackageSummary) : Decidable s.Fits :=
  inferInstanceAs (Decidable (∀ v ∈ s.values, v.utf8ByteSize < Nat.pow 2 64))

/-- The bytes of members, each a key and a text. -/
def membersBytes (ps : List (String × String)) : List UInt8 :=
  ps.flatMap fun p => writeText p.1 ++ writeText p.2

theorem writeCbor_eq (s : PackageSummary) :
    s.writeCbor = writeHead 5 5 ++ membersBytes (keys.zip s.values) := by
  rfl

/-- A member whose key is one of the five, not read before, reads back as its key and text. -/
theorem readMember_write (pre post : List UInt8) (fuel : Nat) (found : Found) (k v : String)
    (known : k ∈ keys) (fresh : ∀ f ∈ found, f.1 ≠ k) (short : k.utf8ByteSize ≤ maxKeyLength)
    (fits : v.utf8ByteSize < Nat.pow 2 64) :
    readMember ⟨(pre ++ (writeText k ++ writeText v) ++ post).toArray⟩ fuel found pre.length =
      some (found ++ [(k, v)], pre.length + (writeText k ++ writeText v).length) := by
  have keyRead := readText_writeText pre (writeText v ++ post) k
    (lt_of_le_of_lt short (by decide))
  have valueRead := readText_writeText (pre ++ writeText k) post v fits
  simp only [List.append_assoc] at keyRead valueRead ⊢
  obtain ⟨keyHead, keyText⟩ := keyRead
  obtain ⟨valueHead, valueText⟩ := valueRead
  have position : (pre ++ writeText k).length =
      pre.length + (writeHead 3 k.utf8ByteSize).length + k.utf8ByteSize := by
    simp [length_writeText]
    omega
  rw [position] at valueHead valueText
  -- the reader refuses a key it has seen, so freshness is what lets the member through
  have unseen : (found.any fun f => f.1 == k) = false := by simpa using fresh
  simp [readMember, readKey, readValue, readTextBody, keyHead, keyText, short, valueHead, valueText,
    length_writeText, known, guard, unseen]
  omega

/-- Members with distinct known keys read back in order. -/
theorem readMembers_write (ps : List (String × String)) (pre post : List UInt8) (fuel : Nat)
    (found : Found) (enough : ps.length < fuel)
    (known : ∀ p ∈ ps, p.1 ∈ keys ∧ p.1.utf8ByteSize ≤ maxKeyLength ∧ p.2.utf8ByteSize < Nat.pow 2 64)
    (distinct : (found.map Prod.fst ++ ps.map Prod.fst).Nodup) :
    readMembers ⟨(pre ++ membersBytes ps ++ post).toArray⟩ fuel (some ps.length) found pre.length =
      some (found ++ ps, pre.length + (membersBytes ps).length) := by
  -- the members read so far move from `ps` into `found`, and the frame's `pre` grows
  induction ps generalizing pre found fuel with
  | nil =>
    obtain ⟨fuel, rfl⟩ : ∃ f, fuel = f + 1 := ⟨fuel - 1, by simp at enough; omega⟩
    simp [readMembers, membersBytes]
  | cons p rest ih =>
    obtain ⟨fuel, rfl⟩ : ∃ f, fuel = f + 1 := ⟨fuel - 1, by simp at enough; omega⟩
    obtain ⟨key, value⟩ := p
    obtain ⟨isKey, short, fits⟩ := known (key, value) List.mem_cons_self
    have fresh : ∀ f ∈ found, f.1 ≠ key := by
      intro f member same
      have := (List.nodup_append.1 distinct).2.2
      exact this _ (List.mem_map_of_mem member) key (by simp) same
    have first := readMember_write pre (membersBytes rest ++ post) fuel found key value isKey fresh
      short fits
    have rest' := ih (pre ++ (writeText key ++ writeText value)) fuel (found ++ [(key, value)])
      (by simp at enough; omega) (fun q member => known q (List.mem_cons_of_mem _ member))
      (by simpa using distinct)
    simp only [membersBytes, List.flatMap_cons, List.append_assoc] at first rest' ⊢
    simp only [List.length_cons, readMembers, first]
    show readMembers _ fuel (some rest.length) (found ++ [(key, value)])
      (pre.length + (writeText key ++ writeText value).length) = _
    simpa [Nat.add_assoc] using rest'

/-- A summary map reads back as the summary. -/
theorem readCbor_writeCbor (pre post : List UInt8) (s : PackageSummary) (fits : s.Fits) :
    readCbor ⟨(pre ++ s.writeCbor ++ post).toArray⟩ pre.length =
      some (s, pre.length + s.writeCbor.length) := by
  have head := readHead_writeHead pre (membersBytes (keys.zip s.values) ++ post) 5 5
    ⟨by omega, by omega⟩ (by decide)
  rw [writeCbor_eq]
  -- the reader's fuel is the size of the data, and every member takes a byte of it
  have enough : (keys.zip s.values).length <
      (ByteArray.mk (pre ++ (writeHead 5 5 ++ membersBytes (keys.zip s.values)) ++ post).toArray).size + 1 := by
    have : (keys.zip s.values).length ≤ (membersBytes (keys.zip s.values)).length :=
      length_le_length_flatMap _ _ (fun p _ => by simp [writeText, length_writeHead_pos])
    simp only [ByteArray.size, List.size_toArray, List.length_append]
    omega
  have known : ∀ p ∈ keys.zip s.values,
      p.1 ∈ keys ∧ p.1.utf8ByteSize ≤ maxKeyLength ∧ p.2.utf8ByteSize < Nat.pow 2 64 := by
    intro p member
    have named := List.of_mem_zip member
    refine ⟨named.1, ?_, fits _ named.2⟩
    simp only [keys, List.mem_cons, List.not_mem_nil, or_false] at named
    rcases named.1 with h | h | h | h | h <;> rw [h] <;> decide
  have distinct : (([] : Found).map Prod.fst ++ (keys.zip s.values).map Prod.fst).Nodup := by
    simp [keys, values]
  have members := readMembers_write (keys.zip s.values) (pre ++ writeHead 5 5) post
    ((ByteArray.mk (pre ++ (writeHead 5 5 ++ membersBytes (keys.zip s.values)) ++ post).toArray).size + 1) []
    enough known distinct
  have five : (keys.zip s.values).length = 5 := rfl
  simp only [List.append_assoc, List.length_append, List.nil_append, five] at head members ⊢
  simp only [readCbor, readUntagged_of_readHead head (by simp [sizedHead]), sizedHead, bind,
    Option.bind]
  rw [members]
  simp [keys, values, List.lookup_cons, Nat.add_assoc]

end ChartCatalog.PackageSummary

namespace ChartCatalog.Summaries

open Cbor PackageSummary

/-! ## Summary arrays -/

/-- A summary list a CBOR array head can count, each of whose texts fits a head. -/
def Fits (ss : List PackageSummary) : Prop := (∀ s ∈ ss, s.Fits) ∧ ss.length < Nat.pow 2 64

instance (ss : List PackageSummary) : Decidable (Fits ss) :=
  inferInstanceAs (Decidable ((∀ s ∈ ss, s.Fits) ∧ ss.length < Nat.pow 2 64))

/-- Summary maps laid one after another read back in order. -/
theorem readItems_write (ss : List PackageSummary) (pre post : List UInt8) (fuel : Nat)
    (acc : List PackageSummary) (enough : ss.length < fuel) (fits : ∀ s ∈ ss, s.Fits) :
    readItems ⟨(pre ++ ss.flatMap writeCbor ++ post).toArray⟩ fuel (some ss.length) acc pre.length =
      some (acc.reverse ++ ss) := by
  induction ss generalizing pre acc fuel with
  | nil =>
    obtain ⟨fuel, rfl⟩ : ∃ f, fuel = f + 1 := ⟨fuel - 1, by simp at enough; omega⟩
    simp [readItems]
  | cons s rest ih =>
    obtain ⟨fuel, rfl⟩ : ∃ f, fuel = f + 1 := ⟨fuel - 1, by simp at enough; omega⟩
    have first := readCbor_writeCbor pre (rest.flatMap writeCbor ++ post) s (fits s List.mem_cons_self)
    have rest' := ih (pre ++ s.writeCbor) fuel (s :: acc) (by simp at enough; omega)
      (fun t member => fits t (List.mem_cons_of_mem _ member))
    simp only [List.flatMap_cons, List.append_assoc] at first rest' ⊢
    simp only [List.length_cons, readItems, first]
    show readItems _ fuel (some rest.length) (s :: acc) (pre.length + s.writeCbor.length) = _
    simpa using rest'

/-- Summaries that fit CBOR heads decode back from their encoding. -/
theorem decode?_encode (ss : List PackageSummary) (fits : Fits ss) : decode? (encode ss) = some ss := by
  obtain ⟨each, short⟩ := fits
  have head := readHead_writeHead [] (ss.flatMap writeCbor) 4 ss.length ⟨by omega, by omega⟩ short
  have enough : ss.length < (encode ss).size + 1 := by
    have := length_le_length_flatMap ss writeCbor
      (fun s _ => by simp [writeCbor_eq, length_writeHead_pos])
    simp only [encode, ByteArray.size, List.size_toArray, List.length_append]
    omega
  have items := readItems_write ss (writeHead 4 ss.length) [] _ [] enough each
  simp only [List.nil_append, List.append_nil, List.length_nil, Nat.zero_add] at head items
  simp only [decode?, encode, readUntagged_of_readHead head (by simp [sizedHead]), sizedHead, bind,
    Option.bind]
  simpa [encode] using items

/-- A cached summary list reads back as itself. The texts and the list the program holds
count their lengths in machine words, so `Fits` holds of every list it encodes. -/
theorem cached_summaries_read_back (ss : List PackageSummary) (fits : Fits ss) :
    decode (encode ss) = .ok ss := by
  rw [decode, decode?_encode ss fits]

/-- Two summaries, one with a text past the one-byte length head and one with text outside
ASCII. -/
theorem cached_summaries_read_back_wide_texts :
    let ss : List PackageSummary :=
      [⟨"acs-engine-autoscaler", "2.1.1",
          "https://github.com/kubernetes/kubernetes/raw/master/logo/logo.png", "default",
          "bitnami-1/acs-engine-autoscaler"⟩,
        ⟨"café", "1.0.0-β", "", "ns", "r/café"⟩]
    Fits ss ∧ decode (encode ss) = .ok ss := by
  intro ss
  have fits : Fits ss := by
    refine ⟨?_, by decide⟩
    simp only [ss, List.mem_cons, List.not_mem_nil, or_false, forall_eq_or_imp, forall_eq,
      PackageSummary.Fits, PackageSummary.values]
    decide
  exact ⟨fits, cached_summaries_read_back ss fits⟩

end ChartCatalog.Summaries
