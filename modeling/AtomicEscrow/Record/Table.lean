set_option autoImplicit false

/-! # Tables

A table keeps at most one record under each key. Its two views are the record under a key
(`get?`) and the sum of an amount over all records (`total`); each operation is described by
what it does to both, and nothing depends on the order in which the records lie.
-/

namespace AtomicEscrow

/-- Records under keys, at most one under each. -/
structure Table (κ ν : Type) where
  entries : List (κ × ν)
  nodup_keys : (entries.map Prod.fst).Nodup := by simp

namespace Table

variable {κ ν : Type}

def empty : Table κ ν where
  entries := []

def values (t : Table κ ν) : List ν := t.entries.map Prod.snd

/-- The sum of an amount over all records. -/
def total (t : Table κ ν) (amount : ν → Nat) : Nat := t.values.foldr (fun v n => amount v + n) 0

variable [DecidableEq κ]

def get? (t : Table κ ν) (k : κ) : Option ν :=
  (t.entries.find? fun e => e.1 = k).map Prod.snd

def contains (t : Table κ ν) (k : κ) : Bool := (t.get? k).isSome

def erase (t : Table κ ν) (k : κ) : Table κ ν where
  entries := t.entries.filter fun e => e.1 ≠ k
  nodup_keys := t.nodup_keys.sublist (List.filter_sublist.map _)

/-- The table with a record under a key, in place of the one that was there. -/
def insert (t : Table κ ν) (k : κ) (v : ν) : Table κ ν where
  entries := (k, v) :: (t.erase k).entries
  nodup_keys := by
    rw [List.map_cons, List.nodup_cons]
    refine ⟨fun h => ?_, (t.erase k).nodup_keys⟩
    obtain ⟨e, he, hk⟩ := List.mem_map.1 h
    have hne := (List.mem_filter.1 he).2
    simp only [ne_eq, decide_not, Bool.not_eq_eq_eq_not, Bool.not_true,
      decide_eq_false_iff_not] at hne
    exact hne hk

/-! ## Records under keys -/

theorem get?_erase (t : Table κ ν) (k k' : κ) :
    (t.erase k).get? k' = if k = k' then none else t.get? k' := by
  unfold get? erase
  simp only [List.find?_filter]
  split
  case isTrue h =>
    subst h
    simp
  case isFalse h =>
    congr 1
    apply congrArg (fun p => List.find? p t.entries)
    funext e
    by_cases he : e.1 = k'
    · have hne : e.1 ≠ k := fun h' => h (h' ▸ he)
      simp [he, Ne.symm h]
    · simp [he]

theorem get?_insert (t : Table κ ν) (k k' : κ) (v : ν) :
    (t.insert k v).get? k' = if k = k' then some v else t.get? k' := by
  by_cases h : k = k'
  · simp [get?, insert, h]
  · have herase := t.get?_erase k k'
    simp only [h, if_false] at herase ⊢
    rw [← herase]
    simp [get?, insert, h]

theorem get?_insert_self (t : Table κ ν) (k : κ) (v : ν) : (t.insert k v).get? k = some v := by
  simp [get?_insert]

theorem get?_insert_ne (t : Table κ ν) {k k' : κ} (v : ν) (h : k ≠ k') :
    (t.insert k v).get? k' = t.get? k' := by
  simp [get?_insert, h]

/-! ## Records put and taken away again -/

theorem erase_of_get?_eq_none {t : Table κ ν} {k : κ} (h : t.get? k = none) : t.erase k = t := by
  have hkept : t.entries.filter (fun e => decide (e.1 ≠ k)) = t.entries := by
    rw [List.filter_eq_self]
    intro e he
    have hne := List.find?_eq_none.1 (Option.map_eq_none_iff.1 h) e he
    simpa using hne
  obtain ⟨entries, hnodup⟩ := t
  simp only [erase, mk.injEq]
  exact hkept

/-- What is taken away is what was put, and what that had replaced is gone. -/
theorem erase_insert (t : Table κ ν) (k : κ) (v : ν) : (t.insert k v).erase k = t.erase k := by
  simp [insert, erase]

theorem insert_insert (t : Table κ ν) (k : κ) (v w : ν) :
    (t.insert k v).insert k w = t.insert k w := by
  have herase := t.erase_insert k v
  simp only [insert, mk.injEq, List.cons.injEq, true_and] at herase ⊢
  exact congrArg entries herase

/-! ## Sums over all records -/

theorem total_erase (t : Table κ ν) (k : κ) (amount : ν → Nat) :
    (t.erase k).total amount + ((t.get? k).map amount).getD 0 = t.total amount := by
  obtain ⟨entries, hnodup⟩ := t
  simp only [total, values, erase, get?]
  induction entries with
  | nil => rfl
  | cons e rest ih =>
      rw [List.map_cons, List.nodup_cons] at hnodup
      by_cases h : e.1 = k
      · -- The keys of the rest differ from `k`, so nothing else is taken away.
        have hrest : rest.filter (fun e => decide (e.1 ≠ k)) = rest := by
          rw [List.filter_eq_self]
          intro e' he'
          have hne : e'.1 ≠ k := fun h' =>
            hnodup.1 (List.mem_map.2 ⟨e', he', h'.trans h.symm⟩)
          simp [hne]
        rw [List.filter_cons_of_neg (by simp [h]), hrest, List.find?_cons_of_pos (by simp [h])]
        simp only [List.map_cons, List.foldr_cons, Option.map_some, Option.getD_some]
        omega
      · have := ih hnodup.2
        rw [List.filter_cons_of_pos (by simp [h]), List.find?_cons_of_neg (by simp [h])]
        simp only [List.map_cons, List.foldr_cons] at this ⊢
        omega

theorem total_insert (t : Table κ ν) (k : κ) (v : ν) (amount : ν → Nat) :
    (t.insert k v).total amount + ((t.get? k).map amount).getD 0 = t.total amount + amount v := by
  have herase := t.total_erase k amount
  have hcons : (t.insert k v).total amount = amount v + (t.erase k).total amount := by
    simp [total, values, insert]
  omega

end Table

end AtomicEscrow
