import AtomicEscrow.Json.Printer
import AtomicEscrow.Json.Reader
import AtomicEscrow.Proofs.Digits

set_option autoImplicit false

/-! # JSON that is read as it was written

A value made of natural numbers, flags, strings with characters, arrays and objects (`Json.Plain`)
is written as a text that is read as that value again (`Json.parse_render`). Other numbers are left
out: they may be written in a form of their own.

Each reader is followed over what its writer puts in front of any text, so what is said about a
value holds inside other values too. What comes after a value there is a comma or a closing bracket
(`Json.Ends`); that is what stops the digits of a number.
-/

namespace AtomicEscrow.Json

/-! ## Strings -/

section Pieces

variable {c : Char} (cs : List Char)

theorem pieces_char (hquote : c ≠ '"') (hslash : c ≠ '\\') (hspace : 32 ≤ c.toNat) :
    pieces (c :: cs) = (pieces cs).map fun r => (.char c :: r.1, r.2) := by
  rw [pieces.eq_def]
  split
  case h_1 heq => cases heq
  case h_2 heq => exact absurd (List.cons.inj heq).1 hquote
  case h_3 heq => exact absurd (List.cons.inj heq).1 hslash
  case h_4 heq => exact absurd (List.cons.inj heq).1 hslash
  case h_5 heq =>
    obtain ⟨rfl, rfl⟩ := List.cons.inj heq
    rw [if_neg (Nat.not_lt.2 hspace)]
    cases pieces _ <;> rfl

theorem pieces_escape {mark : Char} (hmark : mark ≠ 'u') (hchar : escapeChar? mark = some c) :
    pieces ('\\' :: mark :: cs) = (pieces cs).map fun r => (.char c :: r.1, r.2) := by
  rw [pieces.eq_def]
  split
  -- The reader tries an end, a quote and a `\u` before a short escape; all three differ from
  -- `mark`.
  case h_1 heq => cases heq
  case h_2 heq => exact absurd (List.cons.inj heq).1 (by decide)
  case h_3 heq => exact absurd (List.cons.inj (List.cons.inj heq).2).1 hmark
  case h_4 heq =>
    obtain ⟨rfl, rfl⟩ := List.cons.inj (List.cons.inj heq).2
    rw [hchar]
    cases pieces _ <;> rfl
  case h_5 hnot heq =>
    obtain ⟨rfl, rfl⟩ := List.cons.inj heq
    exact absurd rfl (hnot _ _ rfl)

theorem pieces_code {a b c d : Char} {n : Nat} (h : escapeCode a b c d = some n) :
    pieces ('\\' :: 'u' :: a :: b :: c :: d :: cs) =
      (pieces cs).map fun r => (.code n :: r.1, r.2) := by
  rw [pieces, h]
  cases pieces cs <;> rfl

end Pieces

theorem joinPieces_code {n : Nat} (h : n < 0xD800) (ps : List StringPiece) :
    joinPieces (.code n :: ps) = (joinPieces ps).map (Char.ofNat n :: ·) := by
  have hhigh : isHighSurrogate n = false := by
    unfold isHighSurrogate
    simp
    omega
  have hlow : isLowSurrogate n = false := by
    unfold isLowSurrogate
    simp
    omega
  -- A code outside the surrogates stands for itself, so what follows it does not matter.
  cases ps with
  | nil => simp [joinPieces, hhigh, hlow]
  | cons p ps =>
      cases p with
      | char c =>
          simp [joinPieces, hhigh, hlow]
          rfl
      | code m => simp [joinPieces, hhigh, hlow]

/-- Some characters in front of a text are one piece of a string, which stands for a character. -/
structure StringPiece.Spells (p : StringPiece) (written : List Char) (c : Char) : Prop where
  pieces_eq : ∀ cs, pieces (written ++ cs) = (pieces cs).map fun r => (p :: r.1, r.2)
  joinPieces_eq : ∀ ps, joinPieces (p :: ps) = (joinPieces ps).map (c :: ·)

theorem StringPiece.spells_char {c : Char} (hquote : c ≠ '"') (hslash : c ≠ '\\')
    (hspace : 32 ≤ c.toNat) : (StringPiece.char c).Spells [c] c where
  pieces_eq cs := pieces_char cs hquote hslash hspace
  joinPieces_eq _ := by rw [joinPieces]

theorem StringPiece.spells_escape {mark c : Char} (hmark : mark ≠ 'u')
    (hchar : escapeChar? mark = some c) : (StringPiece.char c).Spells ['\\', mark] c where
  pieces_eq cs := pieces_escape cs hmark hchar
  joinPieces_eq _ := by rw [joinPieces]

theorem StringPiece.spells_code {c : Char} (h : c.toNat < 32) : (StringPiece.code c.toNat).Spells
    ['\\', 'u', '0', '0', Hex.digit (c.toNat / 16), Hex.digit (c.toNat % 16)] c where
  pieces_eq cs := by
    refine pieces_code cs ?_
    have hzero : Hex.digitValue? '0' = some 0 := by decide
    have hsum : 16 * (c.toNat / 16) + c.toNat % 16 = c.toNat := Nat.div_add_mod ..
    simp only [escapeCode, hzero, Hex.digitValue?_digit (show c.toNat / 16 < 16 by omega),
      Hex.digitValue?_digit (show c.toNat % 16 < 16 by omega), Option.bind_eq_bind,
      Option.bind_some, Option.pure_def, Nat.mul_zero, Nat.zero_add, hsum]
  joinPieces_eq ps := by
    rw [joinPieces_code (by omega), Char.ofNat_toNat]

/-- A written character is one piece again, whichever way it was written. -/
theorem exists_spells_escaped (c : Char) : ∃ p : StringPiece, p.Spells (escaped c) c := by
  have hescape {mark : Char} {n : Nat} (hcode : c.toNat = n) (hmark : mark ≠ 'u')
      (hchar : escapeChar? mark = some (Char.ofNat n)) :
      ∃ p : StringPiece, p.Spells ['\\', mark] c := by
    have hc : Char.ofNat n = c := by rw [← hcode, Char.ofNat_toNat]
    exact ⟨_, StringPiece.spells_escape hmark (hc ▸ hchar)⟩
  -- One case for each branch of the writer: seven short escapes, a code, and the character.
  unfold escaped
  split_ifs with hquote hslash hbackspace htab hnewline hfeed hreturn hcontrol
  · exact hescape (congrArg Char.toNat hquote) (by decide) (by decide)
  · exact hescape (congrArg Char.toNat hslash) (by decide) (by decide)
  · exact hescape hbackspace (by decide) (by decide)
  · exact hescape htab (by decide) (by decide)
  · exact hescape hnewline (by decide) (by decide)
  · exact hescape hfeed (by decide) (by decide)
  · exact hescape hreturn (by decide) (by decide)
  · exact ⟨_, StringPiece.spells_code hcontrol⟩
  · exact ⟨_, StringPiece.spells_char hquote hslash (Nat.not_lt.1 hcontrol)⟩

/-- The pieces of a written string stand for its characters. -/
theorem exists_pieces_flatMap (cs rest : List Char) :
    ∃ ps, pieces (cs.flatMap escaped ++ '"' :: rest) = some (ps, rest) ∧
      joinPieces ps = some cs := by
  induction cs with
  | nil => exact ⟨[], by simp [pieces], by rw [joinPieces]⟩
  | cons c cs ih =>
      obtain ⟨ps, hpieces, hjoin⟩ := ih
      obtain ⟨p, hp⟩ := exists_spells_escaped c
      refine ⟨p :: ps, ?_, ?_⟩
      · rw [List.flatMap_cons, List.append_assoc, hp.pieces_eq, hpieces]
        rfl
      · rw [hp.joinPieces_eq, hjoin]
        rfl

theorem stringAfterQuote_flatMap (s : String) (rest : List Char) :
    stringAfterQuote (s.toList.flatMap escaped ++ '"' :: rest) = some (some s, rest) := by
  obtain ⟨ps, hpieces, hjoin⟩ := exists_pieces_flatMap s.toList rest
  unfold stringAfterQuote
  rw [hpieces]
  show some ((joinPieces ps).map String.ofList, rest) = _
  rw [hjoin, Option.map_some, String.ofList_toList]

/-! ## Numbers -/

/-- What may follow a value in a text: nothing, a comma or a closing bracket. -/
def Ends : List Char → Prop
  | [] => True
  | c :: _ => c = ',' ∨ c = ']' ∨ c = '}'

theorem digits1_append {ds rest : List Char} (hds : ∀ c ∈ ds, isDigit c = true) (hne : ds ≠ [])
    (hrest : Ends rest) : digits1 (ds ++ rest) = some (ds, rest) := by
  have hstop : rest.takeWhile isDigit = [] ∧ rest.dropWhile isDigit = rest := by
    cases rest with
    | nil => exact ⟨rfl, rfl⟩
    | cons c rest =>
        have hc : isDigit c = false := by rcases hrest with rfl | rfl | rfl <;> decide
        constructor
        · rw [List.takeWhile_cons, hc]
          rfl
        · rw [List.dropWhile_cons, hc]
          rfl
  -- The digits end where the number does, because no character of `Ends` is a digit.
  have htake : (ds ++ rest).takeWhile isDigit = ds := by
    rw [List.takeWhile_append_of_pos hds, hstop.1, List.append_nil]
  have hdrop : (ds ++ rest).dropWhile isDigit = rest := by
    rw [List.dropWhile_append_of_pos hds, hstop.2]
  unfold digits1
  rw [htake, hdrop]
  cases ds with
  | nil => exact absurd rfl hne
  | cons d ds => rfl

theorem fractionDigits_of_ends {rest : List Char} (h : Ends rest) :
    fractionDigits rest = some (none, rest) := by
  cases rest with
  | nil => rfl
  | cons c rest => rcases h with rfl | rfl | rfl <;> rfl

theorem exponent_of_ends {rest : List Char} (h : Ends rest) :
    exponent rest = some (none, rest) := by
  cases rest with
  | nil => rfl
  | cons c rest => rcases h with rfl | rfl | rfl <;> rfl

/-- No zero stands in front of the digits of a number, so none of them is left over. -/
theorem wholeDigits_decimalDigits (n : Nat) {rest : List Char} (h : Ends rest) :
    wholeDigits (decimalDigits n ++ rest) = some (decimalDigits n, rest) := by
  rcases Nat.eq_zero_or_pos n with rfl | hpos
  · rfl
  · obtain ⟨d, more, hd, hdpos, hcons⟩ := decimalDigits_eq_cons hpos
    have hdigits : digits1 (decimalDigits n ++ rest) = some (decimalDigits n, rest) :=
      digits1_append (fun _ => isDigit_of_mem_decimalDigits) (decimalDigits_ne_nil n) h
    rw [hcons, List.cons_append] at hdigits ⊢
    unfold wholeDigits
    split
    case h_1 heq => exact absurd (List.cons.inj heq).1 (digitChar_ne_zero hd hdpos)
    case h_2 => exact hdigits

theorem unsignedNumber_decimalDigits (n : Nat) {rest : List Char} (h : Ends rest) :
    unsignedNumber false (decimalDigits n ++ rest) = some (.natural n, rest) := by
  unfold unsignedNumber
  rw [wholeDigits_decimalDigits n h]
  show (fractionDigits rest).bind _ = _
  rw [fractionDigits_of_ends h]
  show (exponent rest).bind _ = _
  rw [exponent_of_ends h]
  show some (Json.natural (decimalValue (decimalDigits n)), rest) = _
  rw [decimalValue_decimalDigits]

theorem exists_decimalDigits_eq_cons (n : Nat) :
    ∃ c cs, decimalDigits n = c :: cs ∧ isDigit c = true := by
  obtain ⟨c, cs, hcons⟩ := List.exists_cons_of_ne_nil (decimalDigits_ne_nil n)
  exact ⟨c, cs, hcons, isDigit_of_mem_decimalDigits (hcons ▸ List.mem_cons_self)⟩

theorem number_decimalDigits (n : Nat) {rest : List Char} (h : Ends rest) :
    number (decimalDigits n ++ rest) = some (.natural n, rest) := by
  have hunsigned := unsignedNumber_decimalDigits n h
  obtain ⟨c, cs, hcons, hc⟩ := exists_decimalDigits_eq_cons n
  rw [hcons, List.cons_append] at hunsigned ⊢
  unfold number
  split
  case h_1 heq =>
    rw [(List.cons.inj heq).1] at hc
    exact absurd hc (by decide)
  case h_2 => exact hunsigned

/-! ## Plain values -/

/-- Values without decimals and without strings or keys that have no characters. -/
inductive Plain : Json → Prop
  | null : Plain .null
  | bool (b : Bool) : Plain (.bool b)
  | natural (n : Nat) : Plain (.natural n)
  | text (s : String) : Plain (.text s)
  | array {items : List Json} (h : ∀ item ∈ items, Plain item) : Plain (.array items)
  | record {members : List (String × Json)} (h : ∀ m ∈ members, Plain m.2) :
      Plain (.record members)

/-- A text that starts neither with a blank nor with the bracket that ends an array. -/
def Starts (cs : List Char) : Prop :=
  ∃ c rest, cs = c :: rest ∧ isBlank c = false ∧ c ≠ ']'

theorem Starts.append {cs : List Char} (h : Starts cs) (rest : List Char) :
    Starts (cs ++ rest) := by
  obtain ⟨c, cs, rfl, hblank, hend⟩ := h
  exact ⟨c, cs ++ rest, rfl, hblank, hend⟩

theorem starts_cons {c : Char} (rest : List Char) (hblank : isBlank c = false) (hend : c ≠ ']') :
    Starts (c :: rest) := ⟨c, rest, rfl, hblank, hend⟩

theorem isBlank_of_isDigit {c : Char} (h : isDigit c = true) : isBlank c = false := by
  cases hblank : isBlank c with
  | false => rfl
  | true =>
      simp only [isBlank, Bool.or_eq_true, decide_eq_true_eq] at hblank
      rcases hblank with ((rfl | rfl) | rfl) | rfl <;> exact absurd h (by decide)

theorem starts_of_isDigit {c : Char} (rest : List Char) (h : isDigit c = true) :
    Starts (c :: rest) := by
  refine starts_cons rest (isBlank_of_isDigit h) ?_
  rintro rfl
  exact absurd h (by decide)

theorem Plain.starts {j : Json} (h : j.Plain) : Starts j.chars := by
  cases h with
  | null => exact starts_cons _ (by decide) (by decide)
  | bool b => cases b <;> exact starts_cons _ (by decide) (by decide)
  | natural n =>
      obtain ⟨c, cs, hcons, hc⟩ := exists_decimalDigits_eq_cons n
      show Starts (decimalDigits n)
      rw [hcons]
      exact starts_of_isDigit cs hc
  | text s => exact starts_cons _ (by decide) (by decide)
  | array => exact starts_cons _ (by decide) (by decide)
  | record => exact starts_cons _ (by decide) (by decide)

/-! ## One value -/

theorem skipBlanks_cons {c : Char} (h : isBlank c = false) (cs : List Char) :
    skipBlanks (c :: cs) = c :: cs := by
  unfold skipBlanks
  rw [List.dropWhile_cons, h]
  rfl

section Value

variable (fuel : Nat) (rest : List Char)

theorem value_string (s : String) :
    value (fuel + 1) ((Json.text s).chars ++ rest) = some (.text s, rest) := by
  have hchars : (Json.text s).chars ++ rest = '"' :: (s.toList.flatMap escaped ++ '"' :: rest) := by
    simp [Json.text, chars, quoted]
  rw [hchars, value, skipBlanks_cons (by decide)]
  show (stringAfterQuote _).bind _ = _
  rw [stringAfterQuote_flatMap]
  rfl

theorem value_natural (n : Nat) (h : Ends rest) :
    value (fuel + 1) ((Json.natural n).chars ++ rest) = some (.natural n, rest) := by
  have hnumber := number_decimalDigits n h
  obtain ⟨c, cs, hcons, hc⟩ := exists_decimalDigits_eq_cons n
  show value (fuel + 1) (decimalDigits n ++ rest) = _
  rw [hcons, List.cons_append] at hnumber ⊢
  rw [value, skipBlanks_cons (isBlank_of_isDigit hc)]
  -- No other kind of value starts with a digit.
  split
  case h_7 => exact hnumber
  all_goals
    rename_i heq
    rw [(List.cons.inj heq).1] at hc
    exact absurd hc (by decide)

theorem value_emptyArray : value (fuel + 1) ('[' :: ']' :: rest) = some (.array [], rest) := rfl

theorem value_emptyObject : value (fuel + 1) ('{' :: '}' :: rest) = some (.object [], rest) := rfl

theorem value_array {cs : List Char} (hstart : Starts cs) {found : List Json}
    (h : items fuel cs = some (found, rest)) :
    value (fuel + 1) ('[' :: cs) = some (.array found, rest) := by
  obtain ⟨c, cs, rfl, hblank, hend⟩ := hstart
  rw [value, skipBlanks_cons (by decide)]
  simp only
  rw [skipBlanks_cons hblank]
  split
  case h_1 heq => exact absurd (List.cons.inj heq).1 hend
  case h_2 =>
    rw [h]
    rfl

theorem value_object {cs : List Char} {found : List (Option String × Json)}
    (h : members fuel ('"' :: cs) = some (found, rest)) :
    value (fuel + 1) ('{' :: '"' :: cs) = some (.object found, rest) := by
  show (members fuel ('"' :: cs)).bind _ = _
  rw [h]
  rfl

theorem items_last {cs : List Char} {item : Json}
    (h : value fuel cs = some (item, ']' :: rest)) :
    items (fuel + 1) cs = some ([item], rest) := by
  rw [items, h]
  rfl

theorem items_cons {cs more : List Char} {item : Json} {found : List Json}
    (hitem : value fuel cs = some (item, ',' :: more))
    (hmore : items fuel more = some (found, rest)) :
    items (fuel + 1) cs = some (item :: found, rest) := by
  rw [items, hitem]
  show (items fuel more).bind _ = _
  rw [hmore]
  rfl

theorem members_quoted (key : String) (cs : List Char) :
    members (fuel + 1) (quoted (some key) ++ ':' :: cs) = (do
      let (item, rest) ← value fuel cs
      match skipBlanks rest with
      | ',' :: rest => do
          let (more, rest) ← members fuel rest
          return ((some key, item) :: more, rest)
      | '}' :: rest => return ([(some key, item)], rest)
      | _ => none) := by
  have hquoted : quoted (some key) ++ ':' :: cs =
      '"' :: (key.toList.flatMap escaped ++ '"' :: ':' :: cs) := by
    simp [quoted]
  rw [hquoted, members]
  show (stringAfterQuote _).bind _ = _
  rw [stringAfterQuote_flatMap]
  rfl

theorem members_last {key : String} {cs : List Char} {item : Json}
    (h : value fuel cs = some (item, '}' :: rest)) :
    members (fuel + 1) (quoted (some key) ++ ':' :: cs) = some ([(some key, item)], rest) := by
  rw [members_quoted, h]
  rfl

theorem members_cons {key : String} {cs more : List Char} {item : Json}
    {found : List (Option String × Json)} (hitem : value fuel cs = some (item, ',' :: more))
    (hmore : members fuel more = some (found, rest)) :
    members (fuel + 1) (quoted (some key) ++ ':' :: cs) =
      some ((some key, item) :: found, rest) := by
  rw [members_quoted, hitem]
  show (members fuel more).bind _ = _
  rw [hmore]
  rfl

end Value

/-! ## Values inside values -/

/-- With fuel for twice its text, a value is read off the front of whatever may follow it. -/
def Reads (j : Json) : Prop :=
  ∀ (fuel : Nat) (rest : List Char), 2 * j.chars.length ≤ fuel → Ends rest →
    value fuel (j.chars ++ rest) = some (j, rest)

theorem items_itemsChars {found : List Json} (h : ∀ item ∈ found, item.Reads) (hne : found ≠ [])
    {fuel : Nat} (hfuel : 2 * (itemsChars found).length < fuel) (rest : List Char) :
    items fuel (itemsChars found ++ rest) = some (found, rest) := by
  -- On the items; the last one is apart, since no comma follows it.
  induction found generalizing fuel with
  | nil => exact absurd rfl hne
  | cons item found ih =>
      obtain ⟨fuel, rfl⟩ := Nat.exists_eq_succ_of_ne_zero (Nat.ne_zero_of_lt hfuel)
      have hitem := h item List.mem_cons_self
      have hfound : ∀ item ∈ found, item.Reads := fun i hi => h i (List.mem_cons_of_mem _ hi)
      rw [itemsChars, List.length_append] at hfuel
      rw [itemsChars, List.append_assoc]
      cases found with
      | nil => exact items_last fuel rest (hitem fuel _ (by omega) (.inr (.inl rfl)))
      | cons next found =>
          have hmore : moreItemsChars (next :: found) = ',' :: itemsChars (next :: found) := rfl
          -- The comma makes up for the fuel that this item takes.
          rw [hmore, List.length_cons] at hfuel
          rw [hmore]
          refine items_cons fuel rest (hitem fuel _ (by omega) (.inl rfl)) ?_
          exact ih hfound (List.cons_ne_nil _ _) (by omega)

def keyed (members : List (String × Json)) : List (Option String × Json) :=
  members.map fun m => (some m.1, m.2)

theorem members_membersChars {found : List (String × Json)} (h : ∀ m ∈ found, m.2.Reads)
    (hne : found ≠ []) {fuel : Nat}
    (hfuel : 2 * (membersChars (keyed found)).length < fuel) (rest : List Char) :
    members fuel (membersChars (keyed found) ++ rest) = some (keyed found, rest) := by
  -- As for items: on the members, with the last one apart.
  induction found generalizing fuel with
  | nil => exact absurd rfl hne
  | cons m found ih =>
      obtain ⟨fuel, rfl⟩ := Nat.exists_eq_succ_of_ne_zero (Nat.ne_zero_of_lt hfuel)
      have hitem := h m List.mem_cons_self
      have hfound : ∀ m ∈ found, m.2.Reads := fun i hi => h i (List.mem_cons_of_mem _ hi)
      have hcons : membersChars (keyed (m :: found)) =
          quoted (some m.1) ++ ':' :: m.2.chars ++ moreMembersChars (keyed found) := rfl
      rw [hcons, List.length_append, List.length_append, List.length_cons] at hfuel
      rw [hcons, List.append_assoc, List.append_assoc]
      cases found with
      | nil => exact members_last fuel rest (hitem fuel _ (by omega) (.inr (.inr rfl)))
      | cons next found =>
          have hmore : moreMembersChars (keyed (next :: found)) =
            ',' :: membersChars (keyed (next :: found)) := by
            simp [keyed, moreMembersChars, membersChars]
          rw [hmore, List.length_cons] at hfuel
          rw [hmore]
          refine members_cons fuel rest (hitem fuel _ (by omega) (.inl rfl)) ?_
          exact ih hfound (List.cons_ne_nil _ _) (by omega)

/-- A text that is not empty gets some fuel. -/
theorem reads_of_ne_nil {j : Json} (hne : j.chars ≠ [])
    (h : ∀ (fuel : Nat) (rest : List Char), 2 * j.chars.length ≤ fuel + 1 → Ends rest →
      value (fuel + 1) (j.chars ++ rest) = some (j, rest)) : j.Reads := by
  intro fuel rest hfuel hrest
  have hpos := List.length_pos_iff.2 hne
  obtain ⟨fuel, rfl⟩ := Nat.exists_eq_succ_of_ne_zero (show fuel ≠ 0 by omega)
  exact h fuel rest hfuel hrest

theorem reads_array {found : List Json} (hplain : ∀ item ∈ found, item.Plain)
    (h : ∀ item ∈ found, item.Reads) : (Json.array found).Reads := by
  refine reads_of_ne_nil (List.cons_ne_nil _ _) fun fuel rest hfuel _ => ?_
  cases found with
  | nil => exact value_emptyArray fuel rest
  | cons item found =>
      have hstarts : Starts (itemsChars (item :: found)) :=
        (hplain item List.mem_cons_self).starts.append _
      rw [chars, List.length_cons] at hfuel
      rw [chars, List.cons_append]
      refine value_array fuel rest (hstarts.append rest) ?_
      exact items_itemsChars h (List.cons_ne_nil _ _) (by omega) rest

theorem reads_record {found : List (String × Json)} (h : ∀ m ∈ found, m.2.Reads) :
    (record found).Reads := by
  show (Json.object (keyed found)).Reads
  refine reads_of_ne_nil (List.cons_ne_nil _ _) fun fuel rest hfuel _ => ?_
  cases found with
  | nil => exact value_emptyObject fuel rest
  | cons m found =>
      rw [chars, List.length_cons] at hfuel
      rw [chars, List.cons_append]
      exact value_object fuel rest
        (members_membersChars h (List.cons_ne_nil _ _) (by omega) rest)

theorem Plain.reads {j : Json} (h : j.Plain) : j.Reads := by
  induction h with
  | null => exact reads_of_ne_nil (List.cons_ne_nil _ _) fun _ _ _ _ => rfl
  | bool b => cases b <;> exact reads_of_ne_nil (List.cons_ne_nil _ _) fun _ _ _ _ => rfl
  | natural n =>
      exact reads_of_ne_nil (decimalDigits_ne_nil n) fun fuel rest _ => value_natural fuel rest n
  | text s =>
      exact reads_of_ne_nil (List.cons_ne_nil _ _) fun fuel rest _ _ => value_string fuel rest s
  | array hplain ih => exact reads_array hplain ih
  | record _ ih => exact reads_record ih

/-- A written value is read as itself. -/
theorem Plain.parse_render {j : Json} (h : j.Plain) : parse j.render = some j := by
  have hread : value (fuelFor j.chars) j.chars = some (j, []) := by
    have hwhole := h.reads (fuelFor j.chars) [] (Nat.le_add_right _ 2) trivial
    rwa [List.append_nil] at hwhole
  unfold parse render
  rw [String.toList_ofList, hread]
  rfl

end AtomicEscrow.Json
