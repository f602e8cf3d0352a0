import AtomicEscrow.Bytes.Positional
import AtomicEscrow.Key.Pubkey

set_option autoImplicit false

/-! # The text of a key

A key is written as 64 digits in lower case. A text is read as a key iff it has exactly 64
characters and all of them are hexadecimal digits of either case; then the key's own text is that
text in lower case, and what is refused is refused with the text as it came. Keys are ordered as
their texts are (`Pubkey.text_exact`).

Reading a digit as a number is finding out how the number is written once the digit is in lower
case (`Hex.digitValue?_eq_some_iff`). So reading a text is finding out whose text it is in lower
case (`Hex.decode_eq_some_iff`), and from there on nothing is said about single digits but which
characters they are. For the order, two digits of a byte are compared as its two halves are.
-/

namespace AtomicEscrow

namespace Hex

/-! ## One digit -/

/-- The hexadecimal digits of either case. -/
def IsDigit (c : Char) : Prop :=
  ('0' ≤ c ∧ c ≤ '9') ∨ ('a' ≤ c ∧ c ≤ 'f') ∨ ('A' ≤ c ∧ c ≤ 'F')

instance (c : Char) : Decidable (IsDigit c) :=
  inferInstanceAs
    (Decidable (('0' ≤ c ∧ c ≤ '9') ∨ ('a' ≤ c ∧ c ≤ 'f') ∨ ('A' ≤ c ∧ c ≤ 'F')))

theorem isDigit_iff {c : Char} :
    IsDigit c ↔ (48 ≤ c.toNat ∧ c.toNat ≤ 57) ∨ (97 ≤ c.toNat ∧ c.toNat ≤ 102) ∨
      (65 ≤ c.toNat ∧ c.toNat ≤ 70) :=
  Iff.rfl

theorem toNat_digit {n : Nat} (h : n < 16) :
    (digit n).toNat = if n < 10 then 48 + n else 87 + n := by
  have key : ∀ m : Fin 16, (digit m.val).toNat = if m.val < 10 then 48 + m.val else 87 + m.val := by
    decide
  exact key ⟨n, h⟩

/-- Only the letters from A to Z have another lower case. -/
theorem toNat_toLower (c : Char) :
    c.toLower.toNat = if 65 ≤ c.toNat ∧ c.toNat ≤ 90 then c.toNat + 32 else c.toNat := by
  unfold Char.toLower
  split
  case isTrue hupper =>
    have hrange : 65 ≤ c.toNat ∧ c.toNat ≤ 90 := hupper
    rw [if_pos hrange]
    show (c.val + 32).toNat = _
    rw [UInt32.toNat_add]
    show (c.toNat + 32) % 0x100000000 = _
    omega
  case isFalse hother =>
    have hrange : ¬(65 ≤ c.toNat ∧ c.toNat ≤ 90) := hother
    rw [if_neg hrange]

/-- **A digit is read as the number that is written as its lower case.** -/
theorem digitValue?_eq_some_iff {c : Char} {n : Nat} :
    digitValue? c = some n ↔ n < 16 ∧ c.toLower = digit n := by
  have hwritten : ∀ h : n < 16, c.toLower = digit n ↔
      (if 65 ≤ c.toNat ∧ c.toNat ≤ 90 then c.toNat + 32 else c.toNat) =
        if n < 10 then 48 + n else 87 + n := by
    intro h
    rw [← toNat_toLower, ← toNat_digit h, Char.toNat_inj]
  rw [and_congr_right hwritten]
  unfold digitValue?
  grind

theorem isSome_digitValue?_iff {c : Char} : (digitValue? c).isSome ↔ IsDigit c := by
  rw [isDigit_iff]
  unfold digitValue?
  grind

/-! ## Texts of digits -/

@[simp] theorem length_encode (bs : Bytes) : (encode bs).length = 2 * bs.length := by
  induction bs with
  | nil => rfl
  | cons b bs ih =>
      rw [encode, List.length_cons, List.length_cons, List.length_cons, ih]
      omega

theorem halves_lt (b : UInt8) : b.toNat / 16 < 16 ∧ b.toNat % 16 < 16 :=
  ⟨Nat.div_lt_of_lt_mul b.toNat_lt, Nat.mod_lt _ (by decide)⟩

/-- Two numbers below sixteen are the halves of a byte iff the byte is made of them. -/
theorem eq_ofNat_halves_iff {b : UInt8} {h l : Nat} (hh : h < 16) (hl : l < 16) :
    UInt8.ofNat (16 * h + l) = b ↔ h = b.toNat / 16 ∧ l = b.toNat % 16 := by
  have hfits : 16 * h + l < 256 := by omega
  rw [eq_comm, byte_eq_ofNat_iff hfits]
  omega

/-- Two digits in front of a text spell one byte in front of what it spells. -/
theorem decode_cons_cons_eq_some_iff {high low : Char} {rest : List Char} {b : UInt8}
    {bs : Bytes} :
    decode (high :: low :: rest) = some (b :: bs) ↔
      digitValue? high = some (b.toNat / 16) ∧ digitValue? low = some (b.toNat % 16) ∧
        decode rest = some bs := by
  rw [decode]
  simp only [Option.bind_eq_bind, Option.bind_eq_some_iff, Option.pure_def, Option.some.injEq,
    List.cons.injEq]
  constructor
  · -- Two digits below 16 give their byte back as its halves, so the byte fixes both.
    rintro ⟨h, hhigh, l, hlow, tail, htail, hbyte, rfl⟩
    have hh : h < 16 := (digitValue?_eq_some_iff.1 hhigh).1
    have hl : l < 16 := (digitValue?_eq_some_iff.1 hlow).1
    obtain ⟨rfl, rfl⟩ := (eq_ofNat_halves_iff hh hl).1 hbyte
    exact ⟨hhigh, hlow, htail⟩
  · rintro ⟨hhigh, hlow, htail⟩
    have hbyte := (eq_ofNat_halves_iff (halves_lt b).1 (halves_lt b).2).2 ⟨rfl, rfl⟩
    exact ⟨_, hhigh, _, hlow, bs, htail, hbyte, rfl⟩

theorem decode_cons_cons_ne_nil {high low : Char} {rest : List Char} :
    decode (high :: low :: rest) ≠ some [] := by
  rw [decode]
  simp [Option.bind_eq_some_iff]

/-- **A text spells the byte string whose text it is in lower case.** -/
theorem decode_eq_some_iff {cs : List Char} {bs : Bytes} :
    decode cs = some bs ↔ cs.map Char.toLower = encode bs := by
  induction cs using decode.induct generalizing bs with
  | case1 => cases bs <;> simp [decode, encode]
  | case2 c => cases bs <;> simp [decode, encode]
  | case3 high low rest ih =>
      cases bs with
      | nil => simp [decode_cons_cons_ne_nil, encode]
      | cons b bs =>
          obtain ⟨hhigh, hlow⟩ := halves_lt b
          rw [decode_cons_cons_eq_some_iff, digitValue?_eq_some_iff, digitValue?_eq_some_iff, ih]
          simp [encode, hhigh, hlow]

/-- **A text spells a byte string iff it is an even number of digits.** -/
theorem isSome_decode_iff {cs : List Char} :
    (decode cs).isSome ↔ cs.length % 2 = 0 ∧ ∀ c ∈ cs, IsDigit c := by
  -- The reader takes two characters at a time, so the induction is on its own recursion.
  induction cs using decode.induct with
  | case1 => simp [decode]
  | case2 c => simp [decode]
  | case3 high low rest ih =>
      have hpair : (decode (high :: low :: rest)).isSome ↔
          (digitValue? high).isSome ∧ (digitValue? low).isSome ∧ (decode rest).isSome := by
        rw [decode]
        cases digitValue? high <;> cases digitValue? low <;> cases decode rest <;> simp
      have heven : (high :: low :: rest).length % 2 = rest.length % 2 := by
        rw [List.length_cons, List.length_cons]
        omega
      rw [hpair, isSome_digitValue?_iff, isSome_digitValue?_iff, ih, heven, List.forall_mem_cons,
        List.forall_mem_cons]
      constructor
      · rintro ⟨hhigh, hlow, hrest, hdigits⟩
        exact ⟨hrest, hhigh, hlow, hdigits⟩
      · rintro ⟨hrest, hhigh, hlow, hdigits⟩
        exact ⟨hhigh, hlow, hrest, hdigits⟩

theorem length_eq_of_decode {cs : List Char} {bs : Bytes} (h : decode cs = some bs) :
    cs.length = 2 * bs.length := by
  have hlength := congrArg List.length (decode_eq_some_iff.1 h)
  rwa [List.length_map, length_encode] at hlength

theorem bytes32?_eq_some_iff {s : String} {b : Bytes32} :
    bytes32? s = some b ↔ decode s.toList = some b.toList := by
  unfold bytes32? bytes?
  rw [Option.bind_eq_some_iff]
  constructor
  · rintro ⟨bs, hdecode, hlist⟩
    rw [Bytes32.ofList?_eq_some_iff.1 hlist]
    exact hdecode
  · intro hdecode
    exact ⟨b.toList, hdecode, b.ofList?_toList⟩

/-- **A text spells 32 bytes iff it is 64 digits.** -/
theorem exists_bytes32?_iff {s : String} :
    (∃ b, bytes32? s = some b) ↔ s.length = 64 ∧ ∀ c ∈ s.toList, IsDigit c := by
  rw [← String.length_toList]
  constructor
  · rintro ⟨b, h⟩
    have hdecode := bytes32?_eq_some_iff.1 h
    have hlength := length_eq_of_decode hdecode
    rw [b.length_toList] at hlength
    exact ⟨hlength, (isSome_decode_iff.1 (Option.isSome_of_eq_some hdecode)).2⟩
  · rintro ⟨hlength, hdigits⟩
    -- 64 is even, so the digits decode, to half as many bytes.
    have heven : s.toList.length % 2 = 0 := by rw [hlength]
    obtain ⟨bs, hdecode⟩ := Option.isSome_iff_exists.1 (isSome_decode_iff.2 ⟨heven, hdigits⟩)
    have hbytes : bs.length = 32 := by
      have hdouble := length_eq_of_decode hdecode
      omega
    exact ⟨⟨bs, hbytes⟩, bytes32?_eq_some_iff.2 hdecode⟩

/-! ## The order of texts -/

theorem digit_lt_digit_iff {m n : Nat} (hm : m < 16) (hn : n < 16) :
    digit m < digit n ↔ m < n := by
  rw [Char.lt_def, UInt32.lt_iff_toNat_lt]
  show (digit m).toNat < (digit n).toNat ↔ m < n
  rw [toNat_digit hm, toNat_digit hn]
  grind

theorem digit_inj {m n : Nat} (hm : m < 16) (hn : n < 16) : digit m = digit n ↔ m = n := by
  rw [← Char.toNat_inj, toNat_digit hm, toNat_digit hn]
  grind

/-- Two bytes are in order iff their higher halves are, or these are one and the lower halves
are. -/
theorem lt_iff_halves {a b : UInt8} :
    a < b ↔ a.toNat / 16 < b.toNat / 16 ∨
      a.toNat / 16 = b.toNat / 16 ∧ a.toNat % 16 < b.toNat % 16 := by
  rw [UInt8.lt_iff_toNat_lt]
  omega

theorem eq_iff_halves {a b : UInt8} :
    a = b ↔ a.toNat / 16 = b.toNat / 16 ∧ a.toNat % 16 = b.toNat % 16 := by
  rw [← UInt8.toNat_inj]
  omega

/-- **The texts of two byte strings come in the order of the byte strings.** -/
theorem encode_lt_encode_iff {as bs : Bytes} : encode as < encode bs ↔ compare as bs = .lt := by
  induction as generalizing bs with
  | nil => cases bs <;> simp [encode]
  | cons a as ih =>
      cases bs with
      | nil => simp [encode]
      | cons b bs =>
          obtain ⟨hhighA, hlowA⟩ := halves_lt a
          obtain ⟨hhighB, hlowB⟩ := halves_lt b
          have hbyte : compare a b = .lt ↔ a < b := Std.compare_eq_lt
          -- Two digits decide as their byte does: the first by itself, the second if the first
          -- ones are the same.
          calc encode (a :: as) < encode (b :: bs)
              ↔ a.toNat / 16 < b.toNat / 16 ∨ a.toNat / 16 = b.toNat / 16 ∧
                  (a.toNat % 16 < b.toNat % 16 ∨
                    a.toNat % 16 = b.toNat % 16 ∧ compare as bs = .lt) := by
                rw [encode, encode, List.cons_lt_cons_iff, List.cons_lt_cons_iff, ih,
                  digit_lt_digit_iff hhighA hhighB, digit_inj hhighA hhighB,
                  digit_lt_digit_iff hlowA hlowB, digit_inj hlowA hlowB]
            _ ↔ a < b ∨ a = b ∧ compare as bs = .lt := by
                rw [lt_iff_halves, eq_iff_halves, and_or_left, or_assoc, and_assoc]
            _ ↔ compare (a :: as) (b :: bs) = .lt := by
                rw [List.compare_cons_cons, Ordering.then_eq_lt, hbyte,
                  Std.LawfulEqCmp.compare_eq_iff_eq]

/-- **Texts of byte strings are ordered as the byte strings are.** -/
theorem compare_text (as bs : Bytes) : compare (text as) (text bs) = compare as bs := by
  have hlt (xs ys : Bytes) : compare (text xs) (text ys) = .lt ↔ compare xs ys = .lt := by
    show compareOfLessAndEq (text xs) (text ys) = .lt ↔ _
    rw [compareOfLessAndEq_eq_lt, String.lt_iff, text, text, String.toList_ofList,
      String.toList_ofList, encode_lt_encode_iff]
  -- Equal keys have one text, and a greater key is a smaller one read the other way.
  cases horder : compare as bs with
  | lt => exact (hlt as bs).2 horder
  | eq =>
      rw [Std.LawfulEqCmp.compare_eq_iff_eq.1 horder]
      exact Std.ReflCmp.compare_self
  | gt =>
      rw [Std.OrientedCmp.gt_iff_lt] at horder ⊢
      exact (hlt bs as).2 horder

end Hex

/-! ## Keys -/

namespace Pubkey

/-- The texts that are read as keys: 64 hexadecimal digits of either case. -/
def IsText (s : String) : Prop := s.length = 64 ∧ ∀ c ∈ s.toList, Hex.IsDigit c

instance (s : String) : Decidable (IsText s) :=
  inferInstanceAs (Decidable (s.length = 64 ∧ ∀ c ∈ s.toList, Hex.IsDigit c))

theorem parse_eq_ok_iff {s : String} {key : Pubkey} :
    parse s = .ok key ↔ Hex.bytes32? s = some key.bytes := by
  obtain ⟨bytes⟩ := key
  unfold parse
  cases Hex.bytes32? s <;> simp

theorem parse_eq_error_iff {s : String} {error : DataError} :
    parse s = .error error ↔ (¬∃ b, Hex.bytes32? s = some b) ∧ error = .invalidPubkey s := by
  unfold parse
  cases Hex.bytes32? s <;> simp [eq_comm]

/-- A key's own text is a text in lower case iff the text spells the key's bytes. -/
theorem text_eq_toLower_iff {key : Pubkey} {s : String} :
    key.text = s.toLower ↔ Hex.bytes32? s = some key.bytes := by
  have htext : key.text.toList = Hex.encode key.bytes.toList := String.toList_ofList
  have hlower : s.toLower.toList = s.toList.map Char.toLower := String.toList_map
  rw [Hex.bytes32?_eq_some_iff, Hex.decode_eq_some_iff, ← String.toList_inj, htext, hlower,
    eq_comm]

/-- **The text of a key.** A key is read from its own text. A text is read as some key iff it is
exactly 64 hexadecimal digits of either case, and the key is the one whose own text is that text
in lower case. Every other text is refused, and given back as it came. Keys are ordered as their
texts are, character by character. -/
theorem text_exact (key other : Pubkey) (s : String) :
    parse key.text = .ok key ∧
      ((∃ read, parse s = .ok read) ↔ IsText s) ∧
      (∀ read, parse s = .ok read ↔ read.text = s.toLower) ∧
      (∀ error, parse s = .error error ↔ ¬IsText s ∧ error = .invalidPubkey s) ∧
      compare key other = compare key.text other.text := by
  refine ⟨parse_text key, ?accepted, ?read, ?refused, ?order⟩
  case accepted =>
    refine Iff.trans ?_ Hex.exists_bytes32?_iff
    constructor
    · rintro ⟨read, hread⟩
      exact ⟨read.bytes, parse_eq_ok_iff.1 hread⟩
    · rintro ⟨bytes, hbytes⟩
      exact ⟨⟨bytes⟩, parse_eq_ok_iff.2 hbytes⟩
  case read =>
    intro read
    rw [parse_eq_ok_iff, text_eq_toLower_iff]
  case refused =>
    intro error
    rw [parse_eq_error_iff, Hex.exists_bytes32?_iff]
    rfl
  case order => exact (Hex.compare_text key.toList other.toList).symm

/-- Letters of two bytes each do not make up for missing digits. -/
example : ¬IsText (String.ofList (List.replicate 32 'é')) := by decide

end Pubkey

end AtomicEscrow
