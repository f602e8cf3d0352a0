import AtomicEscrow.Bytes.Positional
import AtomicEscrow.Proofs.Fault
import AtomicEscrow.Terms.Codec

set_option autoImplicit false

/-! # One byte form for each terms

Terms are signed, hashed and stored in their byte form, so two byte strings for the same terms, or
one for two terms, would be a way around a signature. There is neither: writing and reading are
inverse to each other, and a byte string that is refused is refused for the first thing wrong
with it.

Writing puts nine fields in a row, reading looks for each at a fixed position. The two meet in
`Terms.cut`, which cuts a byte string into pieces of given widths: cutting a row of fields gives
the fields back (`cut_flatten`), and the pieces put together are the string (`flatten_cut`). What
remains is about one field at a time, an equivalence between what its reader gives and what its
writer puts there.
-/

namespace AtomicEscrow

/-! ## One field -/

theorem SwapKind.ofIndex?_eq_some_iff {n : Nat} {kind : SwapKind} :
    ofIndex? n = some kind ↔ n = kind.index := by
  constructor
  · intro h
    unfold ofIndex? at h
    split at h <;> cases h <;> rfl
  · intro h
    rw [h]
    exact ofIndex?_index kind

theorem SwapKind.ofIndex?_eq_none_iff {n : Nat} : ofIndex? n = none ↔ 3 < n := by
  match n with
  | 0 | 1 | 2 | 3 => simp [ofIndex?]
  | n + 4 =>
      have hlt : 3 < n + 4 := by omega
      simp [ofIndex?, hlt]

theorem SwapKind.index_le (kind : SwapKind) : kind.index ≤ 3 := by
  cases kind <;> decide

theorem littleEndianValue_mod_eq_iff {bs : Bytes} {width n : Nat} (h : bs.length = width)
    (hn : n < 256 ^ width) :
    littleEndianValue bs % 256 ^ width = n ↔ bs = littleEndian width n := by
  subst h
  rw [Nat.mod_eq_of_lt (littleEndianValue_lt bs)]
  constructor
  · intro h
    rw [← h, littleEndian_value]
  · intro h
    have hvalue := congrArg littleEndianValue h
    rw [value_littleEndian, Nat.mod_eq_of_lt hn] at hvalue
    exact hvalue

namespace Terms

theorem kindOfByte_eq_ok_iff {b : UInt8} {kind : SwapKind} :
    kindOfByte b = .ok kind ↔ b = UInt8.ofNat kind.index := by
  have hbyte : kind.index < 256 := by
    have := kind.index_le
    omega
  rw [byte_eq_ofNat_iff hbyte, ← SwapKind.ofIndex?_eq_some_iff]
  unfold kindOfByte
  cases SwapKind.ofIndex? b.toNat <;> simp

theorem flagOfByte_eq_ok_iff {b : UInt8} {flag : Bool} :
    flagOfByte b = .ok flag ↔ b = flagByte flag := by
  unfold flagOfByte flagByte
  by_cases h0 : b = 0
  · cases flag <;> simp [h0]
  · by_cases h1 : b = 1
    · cases flag <;> simp [h1]
    · cases flag <;> simp [h0, h1]

theorem halfword_eq_iff {part : Bytes} {n : UInt16} (h : part.length = 2) :
    n = UInt16.ofNat (littleEndianValue part) ↔ part = littleEndian 2 n.toNat := by
  rw [eq_comm, ← UInt16.toNat_inj, UInt16.toNat_ofNat']
  exact littleEndianValue_mod_eq_iff h n.toNat_lt

theorem word_eq_iff {part : Bytes} {n : UInt64} (h : part.length = 8) :
    n = UInt64.ofNat (littleEndianValue part) ↔ part = littleEndian 8 n.toNat := by
  rw [eq_comm, ← UInt64.toNat_inj, UInt64.toNat_ofNat']
  exact littleEndianValue_mod_eq_iff h n.toNat_lt

/-! ## Fields in a row -/

/-- The pieces of a byte string that have the given widths, from the front. -/
def cut : List Nat → Bytes → List Bytes
  | [], _ => []
  | width :: widths, bs => bs.take width :: cut widths (bs.drop width)

theorem cut_flatten (parts : List Bytes) : cut (parts.map List.length) parts.flatten = parts := by
  induction parts with
  | nil => rfl
  | cons part parts ih =>
      rw [List.map_cons, List.flatten_cons, cut, List.take_left, List.drop_left, ih]

theorem flatten_cut {widths : List Nat} {bs : Bytes} (h : bs.length = widths.sum) :
    (cut widths bs).flatten = bs := by
  induction widths generalizing bs with
  | nil => exact (List.eq_nil_of_length_eq_zero h).symm
  | cons width widths ih =>
      have hrest : (bs.drop width).length = widths.sum := by
        rw [List.length_drop, h, List.sum_cons]
        omega
      rw [cut, List.flatten_cons, ih hrest, List.take_append_drop]

/-- How wide the fields of the byte form are. -/
def widths : List Nat := [1, 2, 8, 32, 1, 1, 8, 8, 8]

/-- The fields of the byte form, in their order. -/
def parts (t : Terms) : List Bytes :=
  [[UInt8.ofNat t.kind.index], littleEndian 2 t.confirmations.toNat, littleEndian 8 t.nonce.toNat,
    t.hash.toList, [flagByte t.payIn], [flagByte t.payOut], littleEndian 8 t.amount.toNat,
    littleEndian 8 t.expiry.toNat, littleEndian 8 t.sequence.toNat]

theorem encode_eq_flatten (t : Terms) : t.encode = t.parts.flatten := by
  simp [encode, parts]

theorem map_length_parts (t : Terms) : t.parts.map List.length = widths := by
  simp [parts, widths, t.hash.length_toList]

/-- Every field is found where the widths of those before it put it. -/
theorem cut_encode (t : Terms) : cut widths t.encode = t.parts := by
  rw [← map_length_parts t, encode_eq_flatten, cut_flatten]

/-- The positions at which the fields are read are those that the widths put them at. -/
theorem cut_widths (bs : Bytes) :
    cut widths bs = [field bs 0 1, field bs 1 2, field bs 3 8, field bs 11 32, field bs 43 1,
      field bs 44 1, field bs 45 8, field bs 53 8, field bs 61 8] := by
  simp [cut, widths, field, List.drop_drop]

theorem field_one {bs : Bytes} {i : Nat} (h : i < bs.length) : field bs i 1 = [bs.getD i 0] := by
  unfold field
  rw [List.drop_eq_getElem_cons h, List.take_succ_cons, List.take_zero]
  simp [h]

/-! ## Reading and writing -/

/-- Bytes are read as terms iff they are as many as terms have and, cut up, are the fields of
these terms. -/
theorem decode_eq_ok_iff {bs : Bytes} {t : Terms} :
    decode bs = .ok t ↔ bs.length = encodedLength ∧ cut widths bs = t.parts := by
  unfold decode
  by_cases h : bs.length = encodedLength
  · have h69 : bs.length = 69 := h
    -- A field that lies within the 69 bytes is as wide as it should be.
    have hwidth (start width : Nat) (hend : start + width ≤ 69) :
        (field bs start width).length = width := length_field (by omega)
    rw [dif_pos h, cut_widths, field_one (i := 0) (by omega), field_one (i := 43) (by omega),
      field_one (i := 44) (by omega)]
    cases t
    simp only [bind_eq_ok_iff, pure_eq_ok_iff, kindOfByte_eq_ok_iff, flagOfByte_eq_ok_iff,
      Terms.mk.injEq, parts, List.cons.injEq, and_true, h, true_and, numberField, Bytes32.ext_iff,
      halfword_eq_iff (hwidth 1 2 (by decide)),
      word_eq_iff (hwidth 3 8 (by decide)),
      word_eq_iff (hwidth 45 8 (by decide)),
      word_eq_iff (hwidth 53 8 (by decide)),
      word_eq_iff (hwidth 61 8 (by decide))]
    -- The same nine equations on both sides, the kind and the flags named on the left.
    constructor
    · rintro ⟨_, hkind, _, hpayIn, _, hpayOut, rfl, hconf, hnonce, hhash, rfl, rfl, hrest⟩
      exact ⟨hkind, hconf, hnonce, hhash.symm, hpayIn, hpayOut, hrest⟩
    · rintro ⟨hkind, hconf, hnonce, hhash, hpayIn, hpayOut, hrest⟩
      exact ⟨_, hkind, _, hpayIn, _, hpayOut, rfl, hconf, hnonce, hhash.symm, rfl, rfl, hrest⟩
  · rw [dif_neg h]
    simp [h]

theorem decode_encode (t : Terms) : decode t.encode = .ok t :=
  decode_eq_ok_iff.2 ⟨t.length_encode, t.cut_encode⟩

theorem encode_of_decode {bs : Bytes} {t : Terms} (h : decode bs = .ok t) : t.encode = bs := by
  obtain ⟨hlength, hcut⟩ := decode_eq_ok_iff.1 h
  have hsum : bs.length = widths.sum := hlength
  calc t.encode = (cut widths bs).flatten := by rw [encode_eq_flatten, hcut]
    _ = bs := flatten_cut hsum

/-! ## What is refused -/

/-- What is wrong with a byte that should be a kind. -/
def kindFaults (b : UInt8) : List DataError := if b ≤ 3 then [] else [.unknownSwapKind b]

/-- What is wrong with a byte that should be a flag. -/
def flagFaults (b : UInt8) : List DataError :=
  if b = 0 ∨ b = 1 then [] else [.invalidBool b]

/-- Everything that is wrong with a byte string that should be terms, what is checked first in
front. A byte that is missing counts as zero. -/
def faults (bs : Bytes) : List DataError :=
  (if bs.length = 69 then [] else [.invalidLength 69 bs.length]) ++
    (kindFaults (bs.getD 0 0) ++ (flagFaults (bs.getD 43 0) ++ flagFaults (bs.getD 44 0)))

theorem faults_eq_nil_iff {bs : Bytes} :
    faults bs = [] ↔ bs.length = 69 ∧ bs.getD 0 0 ≤ 3 ∧
      (bs.getD 43 0 = 0 ∨ bs.getD 43 0 = 1) ∧ (bs.getD 44 0 = 0 ∨ bs.getD 44 0 = 1) := by
  simp only [faults, kindFaults, flagFaults, List.append_eq_nil_iff, ite_eq_left_iff,
    List.cons_ne_nil, imp_false, not_not]

theorem failsFirst_kindOfByte (b : UInt8) : FailsFirst (kindOfByte b) (kindFaults b) := by
  intro e
  -- The table of kinds ends at three, and so does the fault.
  have hnone : SwapKind.ofIndex? b.toNat = none ↔ ¬b ≤ 3 := by
    rw [SwapKind.ofIndex?_eq_none_iff, UInt8.not_le, UInt8.lt_iff_toNat_lt]
    rfl
  unfold kindOfByte kindFaults
  cases hkind : SwapKind.ofIndex? b.toNat with
  | none =>
      rw [if_neg (hnone.1 hkind)]
      simp
  | some kind =>
      have hle : b ≤ 3 := by
        by_contra hgt
        rw [hnone.2 hgt] at hkind
        cases hkind
      rw [if_pos hle]
      simp

theorem failsFirst_flagOfByte (b : UInt8) : FailsFirst (flagOfByte b) (flagFaults b) := by
  intro e
  unfold flagOfByte flagFaults
  by_cases h0 : b = 0
  · simp [h0]
  · by_cases h1 : b = 1
    · simp [h1]
    · simp [h0, h1]

theorem failsFirst_decode (bs : Bytes) : FailsFirst (decode bs) (faults bs) := by
  unfold decode faults
  by_cases h : bs.length = 69
  · have h69 : bs.length = encodedLength := h
    rw [dif_pos h69, if_pos h, List.nil_append]
    exact (failsFirst_kindOfByte _).bind fun kind => (failsFirst_flagOfByte _).bind fun payIn =>
      (failsFirst_flagOfByte _).bind_pure _
  · -- The other three causes may apply as well, but the length is looked at before any byte.
    intro e
    have h69 : bs.length ≠ encodedLength := h
    rw [dif_neg h69, if_neg h]
    show Except.error (.invalidLength 69 bs.length) = .error e ↔
      some (.invalidLength 69 bs.length) = some e
    simp

/-- **Terms have exactly one byte form, and nothing else is read as terms**: what was written is
read back, a byte string is read iff its length, its kind and its two flags are right, what was
read is written as it was, and any other byte string is refused for the first thing wrong with
it. -/
theorem byteForm_exact :
    (∀ t : Terms, decode t.encode = .ok t) ∧
      ∀ bs : Bytes,
        ((∃ t, decode bs = .ok t) ↔ bs.length = 69 ∧ bs.getD 0 0 ≤ 3 ∧
          (bs.getD 43 0 = 0 ∨ bs.getD 43 0 = 1) ∧ (bs.getD 44 0 = 0 ∨ bs.getD 44 0 = 1)) ∧
        (∀ t, decode bs = .ok t → t.encode = bs) ∧
        ∀ e, decode bs = .error e ↔ (faults bs).head? = some e := by
  refine ⟨decode_encode, fun bs => ⟨?_, fun t => encode_of_decode, failsFirst_decode bs⟩⟩
  rw [(failsFirst_decode bs).ok_iff, faults_eq_nil_iff]

end Terms

end AtomicEscrow
