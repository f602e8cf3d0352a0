import AtomicEscrow.Proofs.Supply

set_option autoImplicit false

/-! # Batches in the books

A bookkeeper writes a transfer as two postings: what leaves the payer, and after it what comes to
the payee. Postings are integers, so in the books nothing is capped and nothing wraps around. A
batch goes through exactly if it finds the accounts it names and, after each of its postings, every
balance of the books is one that a word can hold (`Ledger.exists_steps_iff`). What is at an address
afterwards is what the books say, and all else that there is to say is in `Ledger.Booked`.

The two postings of a transfer count one by one, because the payer is charged before the payee is
paid. Who pays himself needs the funds, though he ends with what he had, and always has room for
them.
-/

namespace AtomicEscrow

/-- What is written for an address: what comes to it, or below zero what leaves it. -/
structure Posting where
  address : Pubkey
  amount : Int

namespace Posting

/-- What postings make of the balance at an address, all in all. -/
def net (postings : List Posting) (address : Pubkey) : Int :=
  postings.foldr (fun p n => (if p.address = address then p.amount else 0) + n) 0

/-- From the start to the last posting every balance is one that a word can hold. -/
def Fit (start : Pubkey → UInt64) (postings : List Posting) : Prop :=
  ∀ before, before <+: postings → ∀ address,
    0 ≤ ((start address).toNat : Int) + net before address ∧
      ((start address).toNat : Int) + net before address < UInt64.size

/-- The payer is charged first. -/
def transfer (source target : Pubkey) (amount : UInt64) : List Posting :=
  [⟨source, -amount.toNat⟩, ⟨target, amount.toNat⟩]

variable {start next : Pubkey → UInt64} {first rest : List Posting}

@[simp] theorem net_nil (address : Pubkey) : net [] address = 0 := rfl

@[simp] theorem net_cons (p : Posting) (postings : List Posting) (address : Pubkey) :
    net (p :: postings) address =
      (if p.address = address then p.amount else 0) + net postings address := rfl

theorem net_append (first rest : List Posting) (address : Pubkey) :
    net (first ++ rest) address = net first address + net rest address := by
  induction first with
  | nil => exact (Int.zero_add _).symm
  | cons p first ih => rw [List.cons_append, net_cons, net_cons, ih, Int.add_assoc]

theorem net_transfer (source target : Pubkey) (amount : UInt64) (address : Pubkey) :
    net (transfer source target amount) address =
      (if target = address then amount.toNat else 0 : Nat) -
        (if source = address then amount.toNat else 0 : Nat) := by
  simp only [transfer, net_cons, net_nil]
  split <;> split <;> omega

theorem fit_nil (start : Pubkey → UInt64) : Fit start [] := by
  intro before hbefore address
  have hword := (start address).toNat_lt_size
  rw [List.prefix_nil.1 hbefore, net_nil]
  omega

/-- Later postings have to fit on the balances that the first ones leave. -/
theorem fit_append (hnext : ∀ address, ((next address).toNat : Int) =
      (start address).toNat + net first address) :
    Fit start (first ++ rest) ↔ Fit start first ∧ Fit next rest := by
  constructor
  · intro h
    refine ⟨fun before hbefore => h before (hbefore.trans (List.prefix_append ..)), ?_⟩
    intro before hbefore address
    have hall := h (first ++ before) ((List.prefix_append_right_inj first).2 hbefore) address
    rw [net_append] at hall
    have hstart := hnext address
    omega
  · -- A prefix of both batches ends in the first one or goes on into the second.
    rintro ⟨hfirst, hrest⟩ before hbefore address
    rcases List.prefix_or_prefix_of_prefix hbefore (List.prefix_append first rest) with
      hshort | ⟨later, rfl⟩
    · exact hfirst before hshort address
    · have hlater := hrest later ((List.prefix_append_right_inj first).1 hbefore) address
      have hstart := hnext address
      rw [net_append]
      omega

/-- Nothing is written of a transfer yet, or the payer is charged, or the payee is paid as well. -/
theorem prefix_transfer_iff {source target : Pubkey} {amount : UInt64} {before : List Posting} :
    before <+: transfer source target amount ↔
      before = [] ∨ before = [⟨source, -amount.toNat⟩] ∨
        before = transfer source target amount := by
  -- A transfer is two postings, so it has three prefixes.
  constructor
  · intro h
    rcases List.prefix_cons_iff.1 h with rfl | ⟨_, rfl, htail⟩
    · exact .inl rfl
    rcases List.prefix_cons_iff.1 htail with rfl | ⟨_, rfl, hnil⟩
    · exact .inr (.inl rfl)
    · rw [List.prefix_nil.1 hnil]
      exact .inr (.inr rfl)
  · rintro (rfl | rfl | rfl)
    · exact List.nil_prefix
    · exact List.prefix_append _ [_]
    · exact List.prefix_rfl

/-- A transfer is covered, and what it brings has room unless it comes from the same balance. -/
theorem fit_transfer_iff {source target : Pubkey} {amount : UInt64} :
    Fit start (transfer source target amount) ↔ amount ≤ start source ∧
      (source = target ∨ (start target).toNat + amount.toNat < UInt64.size) := by
  rw [UInt64.le_iff_toNat_le]
  constructor
  · intro h
    have hcharged := h _ (prefix_transfer_iff.2 (.inr (.inl rfl))) source
    have hpaid := h _ List.prefix_rfl target
    simp only [net_cons, net_nil, if_true] at hcharged
    rw [net_transfer, if_pos rfl] at hpaid
    refine ⟨by omega, ?_⟩
    by_cases hself : source = target
    · exact .inl hself
    · rw [if_neg hself] at hpaid
      exact .inr (by omega)
  · rintro ⟨hcovered, hroom⟩ before hbefore address
    have hword := (start address).toNat_lt_size
    -- Between the two postings only the source has changed, and it went down.
    rcases prefix_transfer_iff.1 hbefore with rfl | rfl | rfl
    · rw [net_nil]
      omega
    · simp only [net_cons, net_nil]
      by_cases hsource : source = address
      · subst hsource
        rw [if_pos rfl]
        omega
      · rw [if_neg hsource]
        omega
    · rw [net_transfer]
      by_cases hsource : source = address
      · subst hsource
        rw [if_pos rfl]
        split <;> omega
      · rw [if_neg hsource]
        split
        case isTrue htarget =>
          subst htarget
          have hfits := hroom.resolve_left hsource
          omega
        case isFalse => omega

end Posting

/-! ## What is written for a batch -/

namespace LedgerOp

/-- What is written in the books of the tokens. -/
def tokenPostings : LedgerOp → List Posting
  | tokenTransfer source target _ amount => Posting.transfer source target amount
  | _ => []

/-- What is written in the books of the native asset. -/
def nativePostings : LedgerOp → List Posting
  | nativeTransfer source target amount => Posting.transfer source target amount
  | _ => []

theorem net_tokenPostings (op : LedgerOp) (address : Pubkey) :
    Posting.net op.tokenPostings address = (op.tokensTo address : Int) - op.tokensFrom address := by
  cases op with
  | tokenTransfer => exact Posting.net_transfer ..
  | _ => rfl

theorem net_nativePostings (op : LedgerOp) (address : Pubkey) :
    Posting.net op.nativePostings address =
      (op.nativesTo address : Int) - op.nativesFrom address := by
  cases op with
  | nativeTransfer => exact Posting.net_transfer ..
  | _ => rfl

/-- What an operation needs to find, given the account that is at each address: where it opens an
account, one of the same owner and mint or none; where it transfers tokens, accounts of their
mint. -/
def Finds (holder? : Pubkey → Option TokenAccount) : LedgerOp → Prop
  | openTokenAccount address owner mint =>
      ∀ account, holder? address = some account → account.owner = owner ∧ account.mint = mint
  | tokenTransfer source target mint _ =>
      (∃ payer, holder? source = some payer ∧ payer.mint = mint) ∧
        ∃ payee, holder? target = some payee ∧ payee.mint = mint
  | nativeTransfer .. => True

end LedgerOp

namespace Batch

def tokenPostings (b : Batch) : List Posting := b.ops.flatMap LedgerOp.tokenPostings

def nativePostings (b : Batch) : List Posting := b.ops.flatMap LedgerOp.nativePostings

theorem net_flatMap (b : Batch) {postings : LedgerOp → List Posting} {into out : LedgerOp → Nat}
    {address : Pubkey} (h : ∀ op, Posting.net (postings op) address = (into op : Int) - out op) :
    Posting.net (b.ops.flatMap postings) address = (b.sum into : Int) - b.sum out := by
  unfold sum
  induction b.ops with
  | nil => rfl
  | cons op rest ih =>
      rw [List.flatMap_cons, Posting.net_append, ih, h, List.foldr_cons, List.foldr_cons]
      omega

end Batch

namespace Ledger

variable {l l' next : Ledger}

/-! ## One operation in the books -/

theorem tokenBalance_step_net {op : LedgerOp} (h : l.step op = .ok next) (address : Pubkey) :
    ((next.tokenBalance address).toNat : Int) =
      (l.tokenBalance address).toNat + Posting.net op.tokenPostings address := by
  have hflow := tokenBalance_step h address
  rw [op.net_tokenPostings]
  omega

theorem nativeBalance_step_net {op : LedgerOp} (h : l.step op = .ok next) (owner : Pubkey) :
    ((next.nativeBalance owner).toNat : Int) =
      (l.nativeBalance owner).toNat + Posting.net op.nativePostings owner := by
  have hflow := nativeBalance_step h owner
  rw [op.net_nativePostings]
  omega

theorem exists_openAccount_iff {address owner mint : Pubkey} :
    (∃ next, l.openAccount address owner mint = .ok next) ↔
      (LedgerOp.openTokenAccount address owner mint).Finds l.holder? := by
  constructor
  · rintro ⟨next, h⟩ holder hholder
    obtain ⟨account, haccount, rfl⟩ := holder?_eq_some_iff.1 hholder
    rcases openAccount_eq_ok_iff.1 h with ⟨hnone, -⟩ | ⟨found, hfound, howner, hmint, -⟩
    · rw [hnone] at haccount
      cases haccount
    · rw [hfound] at haccount
      cases haccount
      exact ⟨howner, hmint⟩
  · intro h
    -- A free address is opened; a taken one is refused only for another owner or mint.
    cases hfound : l.tokenAccount? address with
    | none => exact ⟨_, openAccount_eq_ok_iff.2 (.inl ⟨hfound, rfl⟩)⟩
    | some account =>
        obtain ⟨howner, hmint⟩ := h _ (holder?_eq_some_iff.2 ⟨account, hfound, rfl⟩)
        exact ⟨_, openAccount_eq_ok_iff.2 (.inr ⟨account, hfound, howner, hmint, rfl⟩)⟩

theorem exists_moveTokens_iff {source target mint : Pubkey} {amount : UInt64} :
    (∃ next, l.moveTokens source target mint amount = .ok next) ↔
      (LedgerOp.tokenTransfer source target mint amount).Finds l.holder? ∧
        Posting.Fit l.tokenBalance (Posting.transfer source target amount) := by
  rw [Posting.fit_transfer_iff]
  constructor
  · rintro ⟨next, h⟩
    obtain ⟨payer, hpayer, hmint, ⟨found, hfound, hmint'⟩, hle, payee, hpayee, sum, hsum, -⟩ :=
      moveTokens_eq_ok_iff.1 h
    refine ⟨⟨⟨_, holder?_eq_some_iff.2 ⟨payer, hpayer, rfl⟩, hmint⟩,
      _, holder?_eq_some_iff.2 ⟨found, hfound, rfl⟩, hmint'⟩, ?_, ?_⟩
    · rw [tokenBalance_of_tokenAccount? hpayer]
      exact hle
    · -- A transfer to oneself charges the account before it pays it, so it always fits.
      by_cases hself : source = target
      · exact .inl hself
      · rw [tokenAccount?_setTokens, if_neg hself, hfound] at hpayee
        cases hpayee
        have hword := sum.toNat_lt_size
        rw [tokenBalance_of_tokenAccount? hfound]
        exact .inr (by omega)
  · rintro ⟨⟨⟨_, hpayer, hmint⟩, _, hpayee, hmint'⟩, hcovered, hroom⟩
    obtain ⟨payer, haccount, rfl⟩ := holder?_eq_some_iff.1 hpayer
    obtain ⟨payee, haccount', rfl⟩ := holder?_eq_some_iff.1 hpayee
    rw [tokenBalance_of_tokenAccount? haccount] at hcovered
    rw [tokenBalance_of_tokenAccount? haccount'] at hroom
    exact exists_moveTokens haccount hmint haccount' hmint' hcovered hroom

theorem exists_moveNative_iff {source target : Pubkey} {amount : UInt64} :
    (∃ next, l.moveNative source target amount = .ok next) ↔
      Posting.Fit l.nativeBalance (Posting.transfer source target amount) := by
  rw [Posting.fit_transfer_iff]
  constructor
  · rintro ⟨next, h⟩
    obtain ⟨hle, sum, hsum, -⟩ := moveNative_eq_ok_iff.1 h
    refine ⟨hle, ?_⟩
    by_cases hself : source = target
    · exact .inl hself
    · rw [nativeBalance_putNative, if_neg hself] at hsum
      have hword := sum.toNat_lt_size
      exact .inr (by omega)
  · rintro ⟨hcovered, hroom⟩
    exact exists_moveNative hcovered hroom

/-- **An operation goes through if it finds its accounts and its postings fit**, and only then. -/
theorem exists_step_iff {op : LedgerOp} :
    (∃ next, l.step op = .ok next) ↔ op.Finds l.holder? ∧
      Posting.Fit l.tokenBalance op.tokenPostings ∧
      Posting.Fit l.nativeBalance op.nativePostings := by
  have htokens := Posting.fit_nil l.tokenBalance
  have hnatives := Posting.fit_nil l.nativeBalance
  -- Each kind of operation posts to one of the two kinds of balances at most, so the other fits.
  cases op with
  | openTokenAccount address owner mint =>
      exact exists_openAccount_iff.trans (iff_self_and.2 fun _ => ⟨htokens, hnatives⟩)
  | tokenTransfer source target mint amount =>
      exact exists_moveTokens_iff.trans
        (and_congr_right fun _ => iff_self_and.2 fun _ => hnatives)
  | nativeTransfer source target amount =>
      constructor
      · exact fun h => ⟨trivial, htokens, exists_moveNative_iff.1 h⟩
      · exact fun h => exists_moveNative_iff.2 h.2.2

/-! ## A whole batch in the books -/

/-- A batch that a ledger can carry out. Which account is at an address does not change from one
operation to the next, unless one is opened there. -/
structure CanBook (l : Ledger) (b : Batch) : Prop where
  found : ∀ before op after, b.ops = before ++ op :: after →
    op.Finds fun address => (l.holder? address).or ((⟨before⟩ : Batch).opened? address)
  tokensFit : Posting.Fit l.tokenBalance b.tokenPostings
  nativesFit : Posting.Fit l.nativeBalance b.nativePostings

variable {op : LedgerOp} {rest : List LedgerOp} {b : Batch}

theorem canBook_cons_iff (h : l.step op = .ok next) :
    l.CanBook ⟨op :: rest⟩ ↔ next.CanBook ⟨rest⟩ := by
  obtain ⟨hfinds, htokens, hnatives⟩ := exists_step_iff.1 ⟨next, h⟩
  -- What the first operation opened is there afterwards, for all that come after it.
  have hholders (before : List LedgerOp) :
      (fun address => (l.holder? address).or ((⟨op :: before⟩ : Batch).opened? address)) =
        fun address => (next.holder? address).or ((⟨before⟩ : Batch).opened? address) := by
    funext address
    rw [holder?_step h, Option.or_assoc]
    unfold Batch.opened?
    rw [List.findSome?_cons]
    cases op.opened? address <;> rfl
  have htokens' : Posting.Fit l.tokenBalance (Batch.tokenPostings ⟨op :: rest⟩) ↔
      Posting.Fit next.tokenBalance (Batch.tokenPostings ⟨rest⟩) :=
    (Posting.fit_append (tokenBalance_step_net h)).trans (and_iff_right htokens)
  have hnatives' : Posting.Fit l.nativeBalance (Batch.nativePostings ⟨op :: rest⟩) ↔
      Posting.Fit next.nativeBalance (Batch.nativePostings ⟨rest⟩) :=
    (Posting.fit_append (nativeBalance_step_net h)).trans (and_iff_right hnatives)
  constructor
  · rintro ⟨hfound, htokens, hnatives⟩
    refine ⟨?_, htokens'.1 htokens, hnatives'.1 hnatives⟩
    intro before op' after hsplit
    rw [← hholders]
    exact hfound (op :: before) op' after (congrArg (op :: ·) hsplit)
  · rintro ⟨hfound, htokens, hnatives⟩
    refine ⟨?_, htokens'.2 htokens, hnatives'.2 hnatives⟩
    intro before op' after hsplit
    cases before with
    | nil =>
        cases hsplit
        simpa [Batch.opened?] using hfinds
    | cons op before =>
        cases hsplit
        rw [hholders]
        exact hfound before op' after rfl

/-- The first operation of a batch that can be carried out goes through. -/
theorem CanBook.exists_step (h : l.CanBook ⟨op :: rest⟩) : ∃ next, l.step op = .ok next := by
  have hfinds := h.found [] op rest rfl
  simp only [Batch.opened?, List.findSome?_nil, Option.or_none] at hfinds
  refine exists_step_iff.2 ⟨hfinds, ?_, ?_⟩
  · exact fun before hbefore => h.tokensFit before (hbefore.trans (List.prefix_append ..))
  · exact fun before hbefore => h.nativesFit before (hbefore.trans (List.prefix_append ..))

/-- **A batch goes through if it can be booked**, and only then. -/
theorem exists_steps_iff : (∃ l', l.steps b.ops = .ok l') ↔ l.CanBook b := by
  obtain ⟨ops⟩ := b
  -- On the operations, over all ledgers: each one is booked on what the one before it left.
  induction ops generalizing l with
  | nil =>
      refine iff_of_true ⟨l, rfl⟩ ⟨?_, Posting.fit_nil _, Posting.fit_nil _⟩
      intro before op after hsplit
      cases List.append_eq_nil_iff.1 hsplit.symm |>.2
  | cons op rest ih =>
      constructor
      · rintro ⟨l', h⟩
        obtain ⟨next, hop, hrest⟩ := bind_eq_ok_iff.1 h
        exact (canBook_cons_iff hop).2 (ih.1 ⟨l', hrest⟩)
      · intro h
        obtain ⟨next, hop⟩ := h.exists_step
        obtain ⟨l', hrest⟩ := ih.2 ((canBook_cons_iff hop).1 h)
        exact ⟨l', bind_eq_ok_iff.2 ⟨next, hop, hrest⟩⟩

theorem tokenBalance_steps_net (h : l.steps b.ops = .ok l') (address : Pubkey) :
    ((l'.tokenBalance address).toNat : Int) =
      (l.tokenBalance address).toNat + Posting.net b.tokenPostings address := by
  have hflow := tokenBalance_steps h address
  have hnet : Posting.net b.tokenPostings address = (b.tokensTo address : Int) -
    b.tokensFrom address := b.net_flatMap fun op => op.net_tokenPostings address
  omega

theorem nativeBalance_steps_net (h : l.steps b.ops = .ok l') (owner : Pubkey) :
    ((l'.nativeBalance owner).toNat : Int) =
      (l.nativeBalance owner).toNat + Posting.net b.nativePostings owner := by
  have hflow := nativeBalance_steps h owner
  have hnet : Posting.net b.nativePostings owner = (b.nativesTo owner : Int) -
    b.nativesFrom owner := b.net_flatMap fun op => op.net_nativePostings owner
  omega

/-! ## One operation at a time -/

/-- Carries out each operation as a batch of its own, as far as the first that fails. -/
def applyEach : Ledger → List LedgerOp → Except LedgerError Unit × Ledger
  | l, [] => (.ok (), l)
  | l, op :: rest =>
      match l.apply ⟨[op]⟩ with
      | (.ok (), next) => next.applyEach rest
      | (.error e, next) => (.error e, next)

theorem applyEach_of_steps_eq_ok {ops : List LedgerOp} (h : l.steps ops = .ok l') :
    l.applyEach ops = (.ok (), l') := by
  induction ops generalizing l with
  | nil =>
      cases h
      rfl
  | cons op rest ih =>
      obtain ⟨next, hop, hrest⟩ := bind_eq_ok_iff.1 h
      have hone : l.steps [op] = .ok next := bind_eq_ok_iff.2 ⟨next, hop, rfl⟩
      simp only [applyEach, apply, hone]
      exact ih hrest

/-- One at a time, the operations are refused with the same error. What came before stays done. -/
theorem applyEach_of_steps_eq_error {ops : List LedgerOp} {e : LedgerError}
    (h : l.steps ops = .error e) : (l.applyEach ops).1 = .error e := by
  -- Both stop at the same operation, so the induction follows the batch up to it.
  induction ops generalizing l with
  | nil => cases h
  | cons op rest ih =>
      simp only [applyEach, apply, steps] at h ⊢
      cases hop : l.step op with
      | error e' =>
          rw [hop] at h
          cases h
          rfl
      | ok next =>
          rw [hop] at h
          exact ih h

/-! ## The batch in the ledger and in the books -/

/-- What is there after a batch, and has been on the way. -/
structure Booked (l l' : Ledger) (b : Batch) : Prop where
  oneByOne : l.applyEach b.ops = (.ok (), l')
  between : ∀ before, before <+: b.ops → ∃ next, l.applyEach before = (.ok (), next) ∧
    ∀ address,
      ((next.tokenBalance address).toNat : Int) =
        (l.tokenBalance address).toNat + Posting.net (Batch.tokenPostings ⟨before⟩) address ∧
      ((next.nativeBalance address).toNat : Int) =
        (l.nativeBalance address).toNat + Posting.net (Batch.nativePostings ⟨before⟩) address
  supply : ∀ mint, l'.supply mint = l.supply mint
  nativeSupply : l'.nativeSupply = l.nativeSupply
  kept : ∀ address account, l.tokenAccount? address = some account →
    ∃ amount, l'.tokenAccount? address = some { account with amount }
  added : ∀ address account, l.tokenAccount? address = none →
    l'.tokenAccount? address = some account → ∃ owner mint amount,
      .openTokenAccount address owner mint ∈ b.ops ∧ account = ⟨address, owner, mint, amount⟩

theorem eq_of_emptied_eq {account holder : TokenAccount} (h : account.emptied = holder) :
    account = { holder with amount := account.amount } := by
  subst h
  rfl

/-- What a batch opens stands in the batch. -/
theorem mem_of_opened?_eq_some {address : Pubkey} {holder : TokenAccount}
    (h : b.opened? address = some holder) : ∃ owner mint,
      .openTokenAccount address owner mint ∈ b.ops ∧ holder = ⟨address, owner, mint, 0⟩ := by
  obtain ⟨op, hmem, hopened⟩ := List.exists_of_findSome?_eq_some h
  cases op with
  | openTokenAccount address' owner mint =>
      simp only [LedgerOp.opened?] at hopened
      split at hopened
      case isTrue heq =>
        cases hopened
        subst heq
        exact ⟨owner, mint, hmem, rfl⟩
      case isFalse => cases hopened
  | _ => cases hopened

theorem booked_of_steps (h : l.steps b.ops = .ok l') : l.Booked l' b where
  oneByOne := applyEach_of_steps_eq_ok h
  between := by
    -- What stands before some operation of the batch is a batch that is booked too.
    rintro before ⟨after, hsplit⟩
    rw [← hsplit, steps_append] at h
    obtain ⟨next, hbefore, -⟩ := bind_eq_ok_iff.1 h
    have hbefore' : l.steps (⟨before⟩ : Batch).ops = .ok next := hbefore
    exact ⟨next, applyEach_of_steps_eq_ok hbefore, fun address =>
      ⟨tokenBalance_steps_net hbefore' address, nativeBalance_steps_net hbefore' address⟩⟩
  supply := supply_steps h
  nativeSupply := nativeSupply_steps h
  kept := by
    intro address account haccount
    have hholder := holder?_steps h address
    rw [holder?_eq_some_iff.2 ⟨account, haccount, rfl⟩, Option.some_or] at hholder
    obtain ⟨account', haccount', hsame⟩ := holder?_eq_some_iff.1 hholder
    rw [eq_of_emptied_eq hsame] at haccount'
    exact ⟨account'.amount, haccount'⟩
  added := by
    intro address account hnone haccount
    have hholder := holder?_steps h address
    rw [holder?_eq_none_iff.2 hnone, Option.none_or,
      holder?_eq_some_iff.2 ⟨account, haccount, rfl⟩] at hholder
    obtain ⟨owner, mint, hmem, hopened⟩ := mem_of_opened?_eq_some hholder.symm
    exact ⟨owner, mint, account.amount, hmem, eq_of_emptied_eq hopened⟩

/-- Where every account lay at its own address before, every account does so afterwards. -/
theorem Booked.address_eq (h : l.Booked l' b)
    (hown : ∀ address account, l.tokenAccount? address = some account → account.address = address)
    {address : Pubkey} {account : TokenAccount}
    (haccount : l'.tokenAccount? address = some account) : account.address = address := by
  cases hbefore : l.tokenAccount? address with
  | none =>
      obtain ⟨owner, mint, amount, -, rfl⟩ := h.added address account hbefore haccount
      rfl
  | some old =>
      obtain ⟨amount, hkept⟩ := h.kept address old hbefore
      rw [hkept] at haccount
      cases haccount
      exact hown address old hbefore

/-- **A batch is booked whole or not at all.** Either it can be booked, and then it is: as if its
operations had been carried out one at a time, with what the books say at each address after each of
them, as many tokens of each mint and as much native asset as before, every account still there with
its owner and mint, and new accounts only where the batch opens them. Or it cannot; then it is
refused, the ledger stays as it was, and one at a time the operations do not go through either. -/
theorem apply_exact (l : Ledger) (b : Batch) :
    (l.CanBook b ∧ ∃ l', l.apply b = (.ok (), l') ∧ l.Booked l' b) ∨
    (¬l.CanBook b ∧ ∃ e, l.apply b = (.error e, l) ∧ (l.applyEach b.ops).1 = .error e) := by
  unfold apply
  cases h : l.steps b.ops with
  | ok l' => exact .inl ⟨exists_steps_iff.1 ⟨l', h⟩, l', rfl, booked_of_steps h⟩
  | error e =>
      refine .inr ⟨fun hbook => ?_, e, rfl, applyEach_of_steps_eq_error h⟩
      obtain ⟨l', hsteps⟩ := exists_steps_iff.2 hbook
      rw [hsteps] at h
      cases h

end Ledger

end AtomicEscrow
