import AtomicEscrow.Proofs.WireForm

set_option autoImplicit false

/-! # Events survive their wire format

An event is read as it was written (`events_faithful`), although its reader is stricter than that
of a record: it keeps the whole value before it knows which kind of event it is. So the parts of an
event also have to be such as can be kept (`Keepable`). Hashes and names are strings with
characters. Numbers are words, which are far below the size from which on a floating point number
is infinite (`Binary64.overflowsInSteps_word`); the bounds for that are as coarse as they can be.
-/

namespace AtomicEscrow

/-! ## Words are no large numbers -/

namespace Binary64

theorem roundQuotient_le (num den : Nat) : roundQuotient num den ≤ num + 1 := by
  have hdiv : num / den ≤ num := Nat.div_le_self num den
  simp only [roundQuotient]
  split <;> omega

theorem exponentOf_le (num den : Nat) :
    exponentOf num den ≤ max ((num.log2 : Int) - 52) minExponent := by
  simp only [exponentOf]
  split <;> omega

/-- What is not divided has few bits before the point at the least. -/
theorem le_exponentOf_one (num : Nat) : -53 ≤ exponentOf num 1 := by
  have hone : Nat.log2 1 = 0 := by decide
  simp only [exponentOf, hone]
  split <;> omega

theorem scaledQuotient_le (num den : Nat) (e : Int) :
    scaledQuotient num den e ≤ num * 2 ^ (-e).toNat + 1 := by
  unfold scaledQuotient
  split
  case isTrue =>
    rw [Nat.shiftLeft_eq]
    exact roundQuotient_le _ den
  case isFalse hpos =>
    have hzero : (-e).toNat = 0 := by omega
    rw [hzero, Nat.pow_zero, Nat.mul_one]
    exact roundQuotient_le num _

/-- Up to a thousand bits a quotient is a finite number. -/
theorem exists_ofQuotient_eq (negative : Bool) {num : Nat} (den : Nat) (h : num.log2 ≤ 1000) :
    ∃ m e, ofQuotient negative num den = .finite negative m e ∧
      m ≤ max leastNormal (scaledQuotient num den (exponentOf num den)) ∧
      e ≤ exponentOf num den + 1 := by
  have hexp := exponentOf_le num den
  have hbound : exponentOf num den + 1 ≤ maxExponent := by
    unfold maxExponent
    unfold minExponent at hexp
    omega
  unfold ofQuotient
  by_cases hcarry : scaledQuotient num den (exponentOf num den) = 2 * leastNormal
  · refine ⟨leastNormal, exponentOf num den + 1, ?_, Nat.le_max_left .., Int.le_refl _⟩
    simp only [hcarry, if_true, if_neg (Int.not_lt.2 hbound)]
  · refine ⟨_, exponentOf num den, ?_, Nat.le_max_right .., by omega⟩
    simp only [hcarry, if_false]
    rw [if_neg (by omega)]

theorem log2_le_of_lt {n k : Nat} (h : n < 2 ^ (k + 1)) : n.log2 ≤ k := by
  rcases Nat.eq_zero_or_pos n with rfl | hpos
  · exact Nat.zero_le k
  · exact Nat.lt_succ_iff.1 ((Nat.log2_lt (Nat.pos_iff_ne_zero.1 hpos)).2 h)

theorem exists_ofQuotient_word {n : Nat} (h : n < UInt64.size) :
    ∃ m e, ofQuotient false n 1 = .finite false m e ∧ m < 2 ^ 118 ∧ e ≤ 12 := by
  have hlog : n.log2 ≤ 63 := log2_le_of_lt h
  have hlow := le_exponentOf_one n
  have hhigh : exponentOf n 1 ≤ 11 := by
    have hexp := exponentOf_le n 1
    unfold minExponent at hexp
    omega
  obtain ⟨m, e, heq, hm, he⟩ := exists_ofQuotient_eq false 1 (show n.log2 ≤ 1000 by omega)
  -- The exponent is -53 at the least, so the word is shifted by 53 bits at the most.
  have hscaled : scaledQuotient n 1 (exponentOf n 1) < 2 ^ 118 :=
    calc scaledQuotient n 1 (exponentOf n 1)
      _ ≤ n * 2 ^ (-exponentOf n 1).toNat + 1 := scaledQuotient_le n 1 _
      _ ≤ UInt64.size * 2 ^ 53 + 1 := by
          have hpow : 2 ^ (-exponentOf n 1).toNat ≤ 2 ^ 53 :=
            Nat.pow_le_pow_right (by decide) (by omega)
          exact Nat.add_le_add_right (Nat.mul_le_mul (Nat.le_of_lt h) hpow) 1
      _ < 2 ^ 118 := by decide
  refine ⟨m, e, heq, Nat.lt_of_le_of_lt hm (Nat.max_lt.2 ⟨by decide, hscaled⟩), by omega⟩

theorem leading_word {n : Nat} (h : n < UInt64.size) :
    Decimal.leading ⟨false, n, 0⟩ = (n, 0) := by
  have hlength : (decimalDigits n).length ≤ 20 :=
    length_decimalDigits_le (Nat.lt_trans h (by decide))
  have htake : (decimalDigits n).take 20 = decimalDigits n := List.take_of_length_le hlength
  have hsub : (decimalDigits n).length - 20 = 0 := Nat.sub_eq_zero_of_le hlength
  simp only [Decimal.leading, htake, decimalValue_decimalDigits, if_pos h, hsub]
  rfl

theorem overflowsInSteps_word {n : Nat} (h : n < UInt64.size) :
    overflowsInSteps ⟨false, n, 0⟩ = false := by
  obtain ⟨m, e, hword, hm, he⟩ := exists_ofQuotient_word h
  have hone :
      ofQuotient false (powerOfTen (0 : Int).toNat) 1 = .finite false leastNormal (-52) := by
    decide
  -- The exponents add up to less than nothing, so the product is not shifted any more.
  have hnum : (m * leastNormal) <<< (e + -52).toNat = m * leastNormal := by
    have hzero : (e + -52).toNat = 0 := by omega
    rw [hzero, Nat.shiftLeft_zero]
  -- The other factor is one, written with 53 bits.
  have hlog : (m * leastNormal).log2 ≤ 1000 := by
    have hproduct : m * leastNormal < 2 ^ 170 :=
      calc m * leastNormal
        _ < 2 ^ 118 * leastNormal := Nat.mul_lt_mul_of_pos_right hm (by decide)
        _ = 2 ^ 170 := by decide
    exact Nat.le_trans (log2_le_of_lt (k := 169) hproduct) (by decide)
  obtain ⟨k, g, hfinite, -⟩ := exists_ofQuotient_eq false (1 <<< (-(e + -52)).toNat) hlog
  have hscaled : ofScaled (false != false) (m * leastNormal) (e + -52) = .finite false k g := by
    unfold ofScaled
    rw [hnum]
    exact hfinite
  have hproduct : product? (.finite false m e) (.finite false leastNormal (-52)) =
      some (.finite false k g) := by
    unfold product?
    simp only [hscaled]
  unfold overflowsInSteps
  simp only [leading_word h, hword, hone, hproduct]
  simp

end Binary64

/-! ## What can be kept -/

namespace Json

@[simp]
theorem keepable_text (depth : Nat) (s : String) : (text s).keepable depth = true := rfl

@[simp]
theorem keepable_bytes32 (depth : Nat) (b : Bytes32) : (write b).keepable depth = true := rfl

@[simp]
theorem keepable_kind (depth : Nat) (kind : SwapKind) : (write kind).keepable depth = true := rfl

@[simp]
theorem keepable_word (depth : Nat) (n : UInt64) : (write n).keepable depth = true := by
  show (!Binary64.overflowsInSteps ⟨false, n.toNat, 0⟩) = true
  rw [Binary64.overflowsInSteps_word n.toNat_lt_size]
  rfl

theorem membersKeepable_keyed {depth : Nat} {members : List (String × Json)}
    (h : ∀ m ∈ members, m.2.keepable depth = true) :
    membersKeepable depth (keyed members) = true := by
  induction members with
  | nil => rfl
  | cons m members ih =>
      have hm := h m List.mem_cons_self
      have hrest := ih fun x hx => h x (List.mem_cons_of_mem _ hx)
      show (true && m.2.keepable depth && membersKeepable depth (keyed members)) = true
      rw [hm, hrest]
      rfl

theorem keepable_record {depth : Nat} {members : List (String × Json)}
    (h : ∀ m ∈ members, m.2.keepable depth = true) :
    (record members).keepable (depth + 1) = true := by
  show (decide (0 < depth + 1) && membersKeepable depth (keyed members)) = true
  rw [membersKeepable_keyed h, decide_eq_true (Nat.succ_pos depth)]
  rfl

/-- The tag is the one member of its name; the other members are a record of their own. -/
theorem tagged?_record {tag : String} {members : List (String × Json)}
    (h : ∀ m ∈ members, m.1 ≠ "event") :
    (record (("event", .text tag) :: members)).tagged? = some (tag, record members) := by
  -- The fields have other names than the tag, so each filter keeps what it should and nothing
  -- else.
  have hnone : (keyed members).filter (fun m => m.1 = some "event") = [] := by
    refine List.filter_eq_nil_iff.2 fun m hm => ?_
    obtain ⟨x, hx, rfl⟩ := List.mem_map.1 hm
    simpa using h x hx
  have hall : (keyed members).filter (fun m => m.1 ≠ some "event") = keyed members := by
    refine List.filter_eq_self.2 fun m hm => ?_
    obtain ⟨x, hx, rfl⟩ := List.mem_map.1 hm
    simpa using h x hx
  have htag : ((some "event", text tag) :: keyed members).filter (fun m => m.1 = some "event") =
      [(some "event", text tag)] := by
    rw [List.filter_cons_of_pos (by simp), hnone]
  have hrest : ((some "event", text tag) :: keyed members).filter (fun m => m.1 ≠ some "event") =
      keyed members := by
    rw [List.filter_cons_of_neg (by simp), hall]
  show tagged? (.object ((some "event", text tag) :: keyed members)) = _
  simp only [tagged?, htag, hrest]
  rfl

@[simp]
theorem keptKind_write (kind : SwapKind) : keptKind (some (write kind)) = some kind :=
  SwapKind.ofName?_name kind

end Json

/-! ## Events -/

namespace SwapEvent

open Json

theorem keepable_members (e : SwapEvent) (depth : Nat) :
    ∀ m ∈ e.members, m.2.keepable depth = true := by
  cases e <;> simp [members]

theorem name_ne_event (e : SwapEvent) : ∀ m ∈ e.members, m.1 ≠ "event" := by
  cases e <;> simp [members]

theorem plain_members (e : SwapEvent) : ∀ m ∈ e.members, m.2.Plain := by
  cases e <;> simp [members]

/-- The tag says which fields there are. -/
theorem ofTagged_members (e : SwapEvent) : ofTagged e.tag (record e.members) = some e := by
  cases e <;> simp [ofTagged, SwapEvent.tag, members, fields?_record]

end SwapEvent

open Json

instance : LawfulWire SwapEvent where
  plain_write e := by
    show (record _).Plain
    refine .record fun m hm => ?_
    rcases List.mem_cons.1 hm with rfl | hmem
    · exact .text e.tag
    · exact e.plain_members m hmem
  read_write e := by
    have hkeepable : (write e).keepable eventDepth = true := by
      refine keepable_record fun m hm => ?_
      rcases List.mem_cons.1 hm with rfl | hmem
      · exact keepable_text _ e.tag
      · exact e.keepable_members _ m hmem
    have htagged : (write e).tagged? = some (e.tag, record e.members) :=
      tagged?_record e.name_ne_event
    show (do
      if !(write e).keepable eventDepth then none
      let (tag, fields) ← (write e).tagged?
      SwapEvent.ofTagged tag fields) = some e
    rw [hkeepable, htagged]
    exact e.ofTagged_members

/-- Every event is read from its text as it was written, so no two events have one text, and the
hash and the sequence that a reader sees are those of the event. -/
theorem events_faithful :
    (∀ e : SwapEvent, Wire.parse (Wire.render e) = some e) ∧
      Function.Injective (Wire.render : SwapEvent → String) ∧
      ∀ e again : SwapEvent, Wire.parse (Wire.render e) = some again →
        again.hash = e.hash ∧ again.sequence = e.sequence := by
  refine ⟨Wire.parse_render, Wire.render_injective, fun e again h => ?_⟩
  rw [Wire.parse_render] at h
  cases h
  exact ⟨rfl, rfl⟩

end AtomicEscrow
