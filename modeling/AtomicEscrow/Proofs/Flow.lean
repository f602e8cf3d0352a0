import AtomicEscrow.Proofs.Admission

set_option autoImplicit false

/-! # What a batch moves

The effect of a batch on one address does not depend on the order of its operations or on who
else takes part: what is there afterwards and what went out is what was there before and what
came in (`Ledger.tokenBalance_steps`, `Ledger.nativeBalance_steps`). This holds for transfers of
an address to itself and for transfers of nothing, which a batch leaves out. Apart from balances
a batch only adds the accounts it opens (`Ledger.holder?_steps`).

Sums are exact: amounts are words, but what is said about them is said in natural numbers.
-/

namespace AtomicEscrow

/-- A token account without its tokens: what it is and whose. -/
def TokenAccount.emptied (account : TokenAccount) : TokenAccount := { account with amount := 0 }

/-- The token account that lives at a derived address, without its tokens. -/
def Derivation.holder? : Derivation → Option TokenAccount
  | vault program mint =>
      some ⟨(vault program mint).address, (vaultAuthority program).address, mint, 0⟩
  | tokenAccount owner mint serial =>
      some ⟨(tokenAccount owner mint serial).address, owner, mint, 0⟩
  | _ => none

/-! ## What operations move -/

namespace LedgerOp

/-- The tokens that an operation takes from an address. -/
def tokensFrom (address : Pubkey) : LedgerOp → Nat
  | tokenTransfer source _ _ amount => if source = address then amount.toNat else 0
  | _ => 0

def tokensTo (address : Pubkey) : LedgerOp → Nat
  | tokenTransfer _ target _ amount => if target = address then amount.toNat else 0
  | _ => 0

def nativesFrom (address : Pubkey) : LedgerOp → Nat
  | nativeTransfer source _ amount => if source = address then amount.toNat else 0
  | _ => 0

def nativesTo (address : Pubkey) : LedgerOp → Nat
  | nativeTransfer _ target amount => if target = address then amount.toNat else 0
  | _ => 0

/-- The account that an operation opens at an address, unless there is one. -/
def opened? (address : Pubkey) : LedgerOp → Option TokenAccount
  | openTokenAccount address' owner mint =>
      if address' = address then some ⟨address', owner, mint, 0⟩ else none
  | _ => none

end LedgerOp

namespace Batch

/-- The sum of an amount over the operations of a batch. -/
def sum (b : Batch) (amount : LedgerOp → Nat) : Nat :=
  b.ops.foldr (fun op n => amount op + n) 0

/-- The account that a batch opens at an address, unless there is one. -/
def opened? (b : Batch) (address : Pubkey) : Option TokenAccount :=
  b.ops.findSome? (·.opened? address)

variable (b : Batch) (amount : LedgerOp → Nat)

theorem sum_concat (op : LedgerOp) : (⟨b.ops ++ [op]⟩ : Batch).sum amount =
    b.sum amount + amount op := by
  unfold sum
  induction b.ops with
  | nil => simp
  | cons first rest ih =>
      rw [List.cons_append, List.foldr_cons, List.foldr_cons, ih]
      omega

@[simp] theorem sum_openTokenAccount (address owner mint : Pubkey) :
    (b.openTokenAccount address owner mint).sum amount =
      b.sum amount + amount (.openTokenAccount address owner mint) :=
  sum_concat ..

/-- A transfer of nothing is left out, and moves nothing. -/
theorem sum_tokenTransfer {source target mint : Pubkey} (value : UInt64)
    (h : amount (.tokenTransfer source target mint 0) = 0) :
    (b.tokenTransfer source target mint value).sum amount =
      b.sum amount + amount (.tokenTransfer source target mint value) := by
  unfold tokenTransfer
  split
  case isTrue hzero => rw [hzero, h, Nat.add_zero]
  case isFalse => exact sum_concat ..

theorem sum_nativeTransfer {source target : Pubkey} (value : UInt64)
    (h : amount (.nativeTransfer source target 0) = 0) :
    (b.nativeTransfer source target value).sum amount =
      b.sum amount + amount (.nativeTransfer source target value) := by
  unfold nativeTransfer
  split
  case isTrue hzero => rw [hzero, h, Nat.add_zero]
  case isFalse => exact sum_concat ..

/-- The tokens that a batch takes from an address. -/
def tokensFrom (address : Pubkey) : Nat := b.sum (·.tokensFrom address)

def tokensTo (address : Pubkey) : Nat := b.sum (·.tokensTo address)

def nativesFrom (address : Pubkey) : Nat := b.sum (·.nativesFrom address)

def nativesTo (address : Pubkey) : Nat := b.sum (·.nativesTo address)

variable (address source target mint owner : Pubkey) (value : UInt64)

@[simp] theorem tokensFrom_empty : empty.tokensFrom address = 0 := rfl

@[simp] theorem tokensTo_empty : empty.tokensTo address = 0 := rfl

@[simp] theorem nativesFrom_empty : empty.nativesFrom address = 0 := rfl

@[simp] theorem nativesTo_empty : empty.nativesTo address = 0 := rfl

@[simp] theorem tokensFrom_openTokenAccount :
    (b.openTokenAccount target owner mint).tokensFrom address = b.tokensFrom address :=
  sum_openTokenAccount ..

@[simp] theorem tokensTo_openTokenAccount :
    (b.openTokenAccount target owner mint).tokensTo address = b.tokensTo address :=
  sum_openTokenAccount ..

@[simp] theorem nativesFrom_openTokenAccount :
    (b.openTokenAccount target owner mint).nativesFrom address = b.nativesFrom address :=
  sum_openTokenAccount ..

@[simp] theorem nativesTo_openTokenAccount :
    (b.openTokenAccount target owner mint).nativesTo address = b.nativesTo address :=
  sum_openTokenAccount ..

@[simp] theorem tokensFrom_tokenTransfer :
    (b.tokenTransfer source target mint value).tokensFrom address =
      b.tokensFrom address + if source = address then value.toNat else 0 :=
  sum_tokenTransfer _ _ _ (by simp [LedgerOp.tokensFrom])

@[simp] theorem tokensTo_tokenTransfer :
    (b.tokenTransfer source target mint value).tokensTo address =
      b.tokensTo address + if target = address then value.toNat else 0 :=
  sum_tokenTransfer _ _ _ (by simp [LedgerOp.tokensTo])

@[simp] theorem nativesFrom_tokenTransfer :
    (b.tokenTransfer source target mint value).nativesFrom address = b.nativesFrom address :=
  sum_tokenTransfer _ _ _ rfl

@[simp] theorem nativesTo_tokenTransfer :
    (b.tokenTransfer source target mint value).nativesTo address = b.nativesTo address :=
  sum_tokenTransfer _ _ _ rfl

@[simp] theorem tokensFrom_nativeTransfer :
    (b.nativeTransfer source target value).tokensFrom address = b.tokensFrom address :=
  sum_nativeTransfer _ _ _ rfl

@[simp] theorem tokensTo_nativeTransfer :
    (b.nativeTransfer source target value).tokensTo address = b.tokensTo address :=
  sum_nativeTransfer _ _ _ rfl

@[simp] theorem nativesFrom_nativeTransfer :
    (b.nativeTransfer source target value).nativesFrom address =
      b.nativesFrom address + if source = address then value.toNat else 0 :=
  sum_nativeTransfer _ _ _ (by simp [LedgerOp.nativesFrom])

@[simp] theorem nativesTo_nativeTransfer :
    (b.nativeTransfer source target value).nativesTo address =
      b.nativesTo address + if target = address then value.toNat else 0 :=
  sum_nativeTransfer _ _ _ (by simp [LedgerOp.nativesTo])

@[simp] theorem opened?_empty : empty.opened? address = none := rfl

@[simp] theorem opened?_openTokenAccount :
    (b.openTokenAccount target owner mint).opened? address =
      (b.opened? address).or
        (if target = address then some ⟨target, owner, mint, 0⟩ else none) := by
  unfold openTokenAccount opened?
  rw [List.findSome?_append, List.findSome?_singleton]
  rfl

@[simp] theorem opened?_tokenTransfer :
    (b.tokenTransfer source target mint value).opened? address = b.opened? address := by
  unfold tokenTransfer opened?
  split
  · rfl
  · rw [List.findSome?_append, List.findSome?_singleton]
    exact Option.or_none

@[simp] theorem opened?_nativeTransfer :
    (b.nativeTransfer source target value).opened? address = b.opened? address := by
  unfold nativeTransfer opened?
  split
  · rfl
  · rw [List.findSome?_append, List.findSome?_singleton]
    exact Option.or_none

end Batch

/-! ## What a ledger holds afterwards -/

namespace Ledger

/-- The token account at an address, whatever it holds. -/
def holder? (l : Ledger) (address : Pubkey) : Option TokenAccount :=
  (l.tokenAccount? address).map TokenAccount.emptied

theorem holder?_eq_some_iff {l : Ledger} {address : Pubkey} {holder : TokenAccount} :
    l.holder? address = some holder ↔
      ∃ account, l.tokenAccount? address = some account ∧ account.emptied = holder :=
  Option.map_eq_some_iff

theorem holder?_eq_none_iff {l : Ledger} {address : Pubkey} :
    l.holder? address = none ↔ l.tokenAccount? address = none :=
  Option.map_eq_none_iff

variable {l l' : Ledger}

theorem accountOfMint_eq_ok_iff {address mint : Pubkey} {account : TokenAccount} :
    l.accountOfMint address mint = .ok account ↔
      l.tokenAccount? address = some account ∧ account.mint = mint := by
  unfold accountOfMint tokenAccount?
  cases l.tokens.get? address with
  | none => simp
  | some found =>
      by_cases hm : found.mint = mint
      · simp only [hm, if_true, Except.ok.injEq, Option.some.injEq]
        constructor
        · rintro rfl
          exact ⟨rfl, hm⟩
        · exact fun h => h.1
      · simp only [hm, if_false, reduceCtorEq, Option.some.injEq, false_iff, not_and]
        rintro rfl
        exact hm

/-! ### Changing one balance -/

/-- The ledger with another amount in the account at an address. -/
def setTokens (l : Ledger) (address : Pubkey) (account : TokenAccount) (amount : UInt64) :
    Ledger :=
  { l with tokens := l.tokens.insert address { account with amount } }

theorem tokenAccount?_setTokens (l : Ledger) (address : Pubkey) (account : TokenAccount)
    (amount : UInt64) (address' : Pubkey) :
    (l.setTokens address account amount).tokenAccount? address' =
      if address = address' then some { account with amount } else l.tokenAccount? address' :=
  Table.get?_insert ..

theorem tokenBalance_setTokens (l : Ledger) (address : Pubkey) (account : TokenAccount)
    (amount : UInt64) (address' : Pubkey) :
    (l.setTokens address account amount).tokenBalance address' =
      if address = address' then amount else l.tokenBalance address' := by
  unfold tokenBalance
  rw [tokenAccount?_setTokens]
  split <;> rfl

@[simp] theorem nativeBalance_setTokens (l : Ledger) (address : Pubkey) (account : TokenAccount)
    (amount : UInt64) (owner : Pubkey) :
    (l.setTokens address account amount).nativeBalance owner = l.nativeBalance owner := rfl

theorem holder?_setTokens {address : Pubkey} {account : TokenAccount}
    (h : l.tokenAccount? address = some account) (amount : UInt64) :
    (l.setTokens address account amount).holder? = l.holder? := by
  funext address'
  unfold holder?
  rw [tokenAccount?_setTokens]
  by_cases heq : address = address'
  · subst heq
    rw [if_pos rfl, h]
    rfl
  · rw [if_neg heq]

theorem tokenBalance_of_tokenAccount? {address : Pubkey} {account : TokenAccount}
    (h : l.tokenAccount? address = some account) : l.tokenBalance address = account.amount := by
  unfold tokenBalance
  rw [h]
  rfl

theorem nativeBalance_putNative (l : Ledger) (owner : Pubkey) (amount : UInt64)
    (owner' : Pubkey) :
    (l.putNative owner amount).nativeBalance owner' =
      if owner = owner' then amount else l.nativeBalance owner' := by
  unfold nativeBalance putNative
  rw [Table.get?_insert]
  split <;> rfl

/-! ### One operation -/

/-- A sum that is needed and fits. -/
theorem creditOrFail_eq_ok_iff {a b : UInt64} {next : UInt64 → Ledger} :
    (match Amount.add? a b with
      | none => Except.error LedgerError.overflow
      | some sum => .ok (next sum)) = .ok l' ↔
      ∃ sum, a.toNat + b.toNat = sum.toNat ∧ l' = next sum := by
  simp only [← Amount.add?_eq_some_iff]
  cases Amount.add? a b with
  | none => simp
  | some sum =>
      simp only [Except.ok.injEq, Option.some.injEq, exists_eq_left']
      exact eq_comm

theorem mintTo_eq_ok_iff {address : Pubkey} {amount : UInt64} :
    l.mintTo address amount = .ok l' ↔
      ∃ account, l.tokenAccount? address = some account ∧
        ∃ sum, account.amount.toNat + amount.toNat = sum.toNat ∧
          l' = l.setTokens address account sum := by
  unfold mintTo tokenAccount?
  cases l.tokens.get? address with
  | none => simp
  | some account =>
      simp only [Option.some.injEq, exists_eq_left']
      exact creditOrFail_eq_ok_iff

theorem airdrop_eq_ok_iff {owner : Pubkey} {amount : UInt64} :
    l.airdrop owner amount = .ok l' ↔
      ∃ sum, (l.nativeBalance owner).toNat + amount.toNat = sum.toNat ∧
        l' = l.putNative owner sum :=
  creditOrFail_eq_ok_iff

/-- An account that exists already has to be the same. -/
theorem openAccount_eq_ok_iff {address owner mint : Pubkey} :
    l.openAccount address owner mint = .ok l' ↔
      (l.tokenAccount? address = none ∧ l' = l.putToken ⟨address, owner, mint, 0⟩) ∨
      (∃ account, l.tokenAccount? address = some account ∧ account.owner = owner ∧
        account.mint = mint ∧ l' = l) := by
  unfold openAccount tokenAccount?
  cases l.tokens.get? address with
  | none =>
      simp only [Except.ok.injEq, true_and, reduceCtorEq, false_and, exists_false, or_false]
      exact eq_comm
  | some account =>
      simp only [reduceCtorEq, false_and, false_or, Option.some.injEq, exists_eq_left']
      split
      case isTrue h =>
        simp only [h, Except.ok.injEq, true_and]
        exact eq_comm
      case isFalse h =>
        simp only [reduceCtorEq, false_iff, not_and]
        exact fun howner hmint => absurd ⟨howner, hmint⟩ h

/-- The second half of a transfer: the payee is there and its new balance fits. -/
theorem payOrFail_eq_ok_iff {target : Pubkey} {amount : UInt64} :
    (match l.tokens.get? target with
      | none => throw (LedgerError.accountNotFound target)
      | some payee =>
          match Amount.add? payee.amount amount with
          | none => throw LedgerError.overflow
          | some sum =>
              pure { l with tokens := l.tokens.insert target { payee with amount := sum } } :
        Except LedgerError Ledger) = .ok l' ↔
      ∃ payee, l.tokenAccount? target = some payee ∧
        ∃ sum, payee.amount.toNat + amount.toNat = sum.toNat ∧
          l' = l.setTokens target payee sum := by
  unfold tokenAccount?
  cases l.tokens.get? target with
  | none => simp [throw_ne_ok]
  | some payee =>
      simp only [Option.some.injEq, exists_eq_left']
      exact creditOrFail_eq_ok_iff

/-- The payer is charged first; the payee is looked up and paid after that. -/
theorem moveTokens_eq_ok_iff {source target mint : Pubkey} {amount : UInt64} :
    l.moveTokens source target mint amount = .ok l' ↔
      ∃ payer, l.tokenAccount? source = some payer ∧ payer.mint = mint ∧
        (∃ found, l.tokenAccount? target = some found ∧ found.mint = mint) ∧
        amount ≤ payer.amount ∧
        ∃ payee, (l.setTokens source payer (payer.amount - amount)).tokenAccount? target =
            some payee ∧
          ∃ sum, payee.amount.toNat + amount.toNat = sum.toNat ∧
            l' = (l.setTokens source payer (payer.amount - amount)).setTokens target payee sum := by
  unfold moveTokens
  simp only [bind_eq_ok_iff, accountOfMint_eq_ok_iff]
  constructor
  · rintro ⟨payer, ⟨hpayer, hmint⟩, found, ⟨hfound, hmint'⟩, h⟩
    by_cases hlt : payer.amount < amount
    · rw [if_pos hlt] at h
      cases h
    · rw [if_neg hlt] at h
      exact ⟨payer, hpayer, hmint, ⟨found, hfound, hmint'⟩, UInt64.not_lt.1 hlt,
        payOrFail_eq_ok_iff.1 h⟩
  · rintro ⟨payer, hpayer, hmint, ⟨found, hfound, hmint'⟩, hle, h⟩
    refine ⟨payer, ⟨hpayer, hmint⟩, found, ⟨hfound, hmint'⟩, ?_⟩
    rw [if_neg (UInt64.not_lt.2 hle)]
    exact payOrFail_eq_ok_iff.2 h

theorem moveNative_eq_ok_iff {source target : Pubkey} {amount : UInt64} :
    l.moveNative source target amount = .ok l' ↔
      amount ≤ l.nativeBalance source ∧
      ∃ sum, ((l.putNative source (l.nativeBalance source - amount)).nativeBalance target).toNat +
          amount.toNat = sum.toNat ∧
        l' = (l.putNative source (l.nativeBalance source - amount)).putNative target sum := by
  unfold moveNative
  by_cases hlt : l.nativeBalance source < amount
  · have hnle : ¬amount ≤ l.nativeBalance source := UInt64.not_le.2 hlt
    simp [hlt, hnle]
  · have hle : amount ≤ l.nativeBalance source := UInt64.not_lt.1 hlt
    simp only [hlt, if_false, hle, true_and]
    exact creditOrFail_eq_ok_iff

theorem tokenBalance_step {op : LedgerOp} (h : l.step op = .ok l') (address : Pubkey) :
    (l'.tokenBalance address).toNat + op.tokensFrom address =
      (l.tokenBalance address).toNat + op.tokensTo address := by
  cases op with
  | openTokenAccount address' owner mint =>
      -- A new account holds nothing, as nothing was held before at its address.
      rcases openAccount_eq_ok_iff.1 h with ⟨hnone, rfl⟩ | ⟨_, _, _, _, rfl⟩
      · unfold tokenBalance tokenAccount? putToken
        rw [Table.get?_insert]
        by_cases heq : address' = address
        · subst heq
          have hnone' : l.tokens.get? address' = none := hnone
          rw [if_pos rfl, hnone']
          rfl
        · rw [if_neg heq]
          rfl
      · rfl
  | tokenTransfer source target mint amount =>
      obtain ⟨payer, hpayer, -, -, hle, payee, hpayee, sum, hsum, rfl⟩ :=
        moveTokens_eq_ok_iff.1 h
      have hpaid := tokenBalance_of_tokenAccount? hpayee
      rw [tokenBalance_setTokens] at hpaid
      have hcharged := Amount.toNat_sub_add hle
      rw [tokenBalance_setTokens, tokenBalance_setTokens]
      simp only [LedgerOp.tokensFrom, LedgerOp.tokensTo]
      -- The address is the payer, the payee, both or neither. If it is both, the payee was found
      -- with the charge already taken.
      by_cases hsource : source = address
      · subst hsource
        have hbalance := congrArg UInt64.toNat (tokenBalance_of_tokenAccount? hpayer)
        by_cases htarget : target = source
        · subst htarget
          simp only [if_true] at hpaid ⊢
          rw [← hpaid] at hsum
          omega
        · simp only [htarget, if_true, if_false]
          omega
      · by_cases htarget : target = address
        · subst htarget
          simp only [hsource, if_true, if_false] at hpaid ⊢
          rw [hpaid]
          omega
        · simp only [hsource, htarget, if_false]
  | nativeTransfer source target amount =>
      obtain ⟨-, _, -, rfl⟩ := moveNative_eq_ok_iff.1 h
      rfl

theorem nativeBalance_step {op : LedgerOp} (h : l.step op = .ok l') (owner : Pubkey) :
    (l'.nativeBalance owner).toNat + op.nativesFrom owner =
      (l.nativeBalance owner).toNat + op.nativesTo owner := by
  cases op with
  | openTokenAccount address' owner' mint =>
      rcases openAccount_eq_ok_iff.1 h with ⟨-, rfl⟩ | ⟨_, _, _, _, rfl⟩ <;> rfl
  | tokenTransfer source target mint amount =>
      obtain ⟨_, -, -, -, -, _, -, _, -, rfl⟩ := moveTokens_eq_ok_iff.1 h
      rfl
  | nativeTransfer source target amount =>
      obtain ⟨hle, sum, hsum, rfl⟩ := moveNative_eq_ok_iff.1 h
      have hcharged := Amount.toNat_sub_add hle
      rw [nativeBalance_putNative] at hsum ⊢
      rw [nativeBalance_putNative]
      simp only [LedgerOp.nativesFrom, LedgerOp.nativesTo]
      -- The same four cases as for tokens; nobody has to have an account here.
      by_cases hsource : source = owner
      · subst hsource
        by_cases htarget : target = source
        · subst htarget
          simp only [if_true] at hsum ⊢
          omega
        · simp only [htarget, if_true, if_false]
          omega
      · by_cases htarget : target = owner
        · subst htarget
          simp only [hsource, if_true, if_false] at hsum ⊢
          omega
        · simp only [hsource, htarget, if_false]

theorem holder?_step {op : LedgerOp} (h : l.step op = .ok l') (address : Pubkey) :
    l'.holder? address = (l.holder? address).or (op.opened? address) := by
  cases op with
  | openTokenAccount address' owner mint =>
      unfold holder?
      simp only [LedgerOp.opened?]
      rcases openAccount_eq_ok_iff.1 h with ⟨hnone, rfl⟩ | ⟨account, hsome, _, _, rfl⟩
      · have hput : (l.putToken ⟨address', owner, mint, 0⟩).tokenAccount? address =
            if address' = address then some ⟨address', owner, mint, 0⟩
            else l.tokenAccount? address := Table.get?_insert ..
        rw [hput]
        -- An account that is opened joins the others, and one that is found is the one that is
        -- asked for.
        by_cases heq : address' = address
        · subst heq
          rw [if_pos rfl, if_pos rfl, hnone]
          rfl
        · rw [if_neg heq, if_neg heq, Option.or_none]
      · by_cases heq : address' = address
        · subst heq
          rw [hsome]
          rfl
        · rw [if_neg heq, Option.or_none]
  | tokenTransfer source target mint amount =>
      obtain ⟨payer, hpayer, -, -, -, payee, hpayee, sum, -, rfl⟩ := moveTokens_eq_ok_iff.1 h
      rw [holder?_setTokens hpayee, holder?_setTokens hpayer]
      exact Option.or_none.symm
  | nativeTransfer source target amount =>
      obtain ⟨-, _, -, rfl⟩ := moveNative_eq_ok_iff.1 h
      exact Option.or_none.symm

theorem created_step {op : LedgerOp} (h : l.step op = .ok l') : l'.created = l.created := by
  cases op with
  | openTokenAccount address' owner' mint =>
      rcases openAccount_eq_ok_iff.1 h with ⟨-, rfl⟩ | ⟨_, _, _, _, rfl⟩ <;> rfl
  | tokenTransfer source target mint amount =>
      obtain ⟨_, -, -, -, -, _, -, _, -, rfl⟩ := moveTokens_eq_ok_iff.1 h
      rfl
  | nativeTransfer source target amount =>
      obtain ⟨-, _, -, rfl⟩ := moveNative_eq_ok_iff.1 h
      rfl

/-! ### A whole batch -/

/-- What every operation leaves as it is, a batch leaves as it is. -/
theorem steps_keep {α : Type} (f : Ledger → α)
    (hstep : ∀ {l l' : Ledger} {op : LedgerOp}, l.step op = .ok l' → f l' = f l) {b : Batch}
    (h : l.steps b.ops = .ok l') : f l' = f l := by
  obtain ⟨ops⟩ := b
  induction ops generalizing l with
  | nil =>
      cases h
      rfl
  | cons op rest ih =>
      obtain ⟨next, hop, hrest⟩ := bind_eq_ok_iff.1 h
      rw [ih hrest, hstep hop]

/-- A balance that every operation moves by what it takes and brings is moved by the sums of both.
Without subtraction the balances between the operations cancel. -/
theorem steps_flow (held : Ledger → Nat) {out into : LedgerOp → Nat}
    (hstep : ∀ {l l' : Ledger} {op : LedgerOp}, l.step op = .ok l' →
      held l' + out op = held l + into op) {b : Batch} (h : l.steps b.ops = .ok l') :
    held l' + b.sum out = held l + b.sum into := by
  obtain ⟨ops⟩ := b
  unfold Batch.sum
  induction ops generalizing l with
  | nil =>
      cases h
      rfl
  | cons op rest ih =>
      obtain ⟨next, hop, hrest⟩ := bind_eq_ok_iff.1 h
      have hfirst := hstep hop
      have hlater := ih hrest
      simp only [List.foldr_cons] at hlater ⊢
      omega

/-- **What is left and what went out is what was there and what came in.** -/
theorem tokenBalance_steps {b : Batch} (h : l.steps b.ops = .ok l') (address : Pubkey) :
    (l'.tokenBalance address).toNat + b.tokensFrom address =
      (l.tokenBalance address).toNat + b.tokensTo address :=
  steps_flow (fun l => (l.tokenBalance address).toNat) (fun hop => tokenBalance_step hop address) h

/-- **The same for native funds.** -/
theorem nativeBalance_steps {b : Batch} (h : l.steps b.ops = .ok l') (owner : Pubkey) :
    (l'.nativeBalance owner).toNat + b.nativesFrom owner =
      (l.nativeBalance owner).toNat + b.nativesTo owner :=
  steps_flow (fun l => (l.nativeBalance owner).toNat) (fun hop => nativeBalance_step hop owner) h

/-- **Accounts stay what they are**, and those that a batch opens join them. -/
theorem holder?_steps {b : Batch} (h : l.steps b.ops = .ok l') (address : Pubkey) :
    l'.holder? address = (l.holder? address).or (b.opened? address) := by
  obtain ⟨ops⟩ := b
  unfold Batch.opened?
  induction ops generalizing l with
  | nil =>
      cases h
      exact Option.or_none.symm
  | cons op rest ih =>
      obtain ⟨next, hop, hrest⟩ := bind_eq_ok_iff.1 h
      rw [ih hrest, holder?_step hop, Option.or_assoc, List.findSome?_cons]
      cases op.opened? address <;> rfl

theorem exists_tokenAccount?_steps {b : Batch} {address mint : Pubkey}
    (h : l.steps b.ops = .ok l')
    (haccount : ∃ account, l.tokenAccount? address = some account ∧ account.mint = mint) :
    ∃ account, l'.tokenAccount? address = some account ∧ account.mint = mint := by
  obtain ⟨account, hfound, hmint⟩ := haccount
  have hholder := holder?_steps h address
  rw [holder?_eq_some_iff.2 ⟨_, hfound, rfl⟩] at hholder
  obtain ⟨account', hfound', hsame⟩ := holder?_eq_some_iff.1 hholder
  have hmint' : account'.emptied.mint = account.emptied.mint := by rw [hsame]
  exact ⟨account', hfound', hmint'.trans hmint⟩

theorem created_steps {b : Batch} (h : l.steps b.ops = .ok l') : l'.created = l.created :=
  steps_keep Ledger.created created_step h

/-! ### Batches that succeed -/

theorem steps_append (l : Ledger) (first rest : List LedgerOp) :
    l.steps (first ++ rest) = l.steps first >>= fun next => next.steps rest := by
  induction first generalizing l with
  | nil => rfl
  | cons op first ih =>
      show (l.step op >>= fun next => next.steps (first ++ rest)) = _
      simp only [ih]
      show _ = (l.step op >>= fun next => next.steps first) >>= _
      cases l.step op <;> rfl

theorem steps_concat (l : Ledger) (ops : List LedgerOp) (op : LedgerOp) :
    l.steps (ops ++ [op]) = l.steps ops >>= fun next => next.step op := by
  have hlast (next : Ledger) : next.steps [op] = next.step op := by
    show (next.step op >>= fun last => .ok last) = next.step op
    cases next.step op <;> rfl
  rw [steps_append]
  simp only [hlast]

variable {b : Batch}

theorem steps_openTokenAccount (h : l.steps b.ops = .ok l') (address owner mint : Pubkey) :
    l.steps (b.openTokenAccount address owner mint).ops = l'.openAccount address owner mint := by
  unfold Batch.openTokenAccount
  rw [steps_concat, h]
  rfl

theorem steps_tokenTransfer (h : l.steps b.ops = .ok l') (source target mint : Pubkey)
    (amount : UInt64) :
    l.steps (b.tokenTransfer source target mint amount).ops =
      if amount = 0 then .ok l' else l'.moveTokens source target mint amount := by
  unfold Batch.tokenTransfer
  split
  · exact h
  · rw [steps_concat, h]
    rfl

theorem steps_nativeTransfer (h : l.steps b.ops = .ok l') (source target : Pubkey)
    (amount : UInt64) :
    l.steps (b.nativeTransfer source target amount).ops =
      if amount = 0 then .ok l' else l'.moveNative source target amount := by
  unfold Batch.nativeTransfer
  split
  · exact h
  · rw [steps_concat, h]
    rfl

theorem exists_toNat_eq {n : Nat} (h : n < UInt64.size) : ∃ word : UInt64, n = word.toNat :=
  ⟨UInt64.ofNat n, by rw [UInt64.toNat_ofNat', Nat.mod_eq_of_lt h]⟩

/-- A transfer between accounts of one mint that is covered and fits, or does not leave the
account. -/
theorem exists_moveTokens {source target mint : Pubkey} {amount : UInt64}
    {payer found : TokenAccount} (hpayer : l.tokenAccount? source = some payer)
    (hmint : payer.mint = mint) (hfound : l.tokenAccount? target = some found)
    (hmint' : found.mint = mint) (hle : amount ≤ payer.amount)
    (hfits : source = target ∨ found.amount.toNat + amount.toNat < UInt64.size) :
    ∃ l', l.moveTokens source target mint amount = .ok l' := by
  have hcharged := Amount.toNat_sub_add hle
  have hpayee := l.tokenAccount?_setTokens source payer (payer.amount - amount) target
  by_cases heq : source = target
  · -- The account pays itself, and ends with what it had.
    rw [if_pos heq] at hpayee
    obtain ⟨sum, hsum⟩ := exists_toNat_eq payer.amount.toNat_lt_size
    exact ⟨_, moveTokens_eq_ok_iff.2 ⟨payer, hpayer, hmint, ⟨found, hfound, hmint'⟩, hle, _, hpayee,
      sum, by simp only; omega, rfl⟩⟩
  · rw [if_neg heq, hfound] at hpayee
    obtain ⟨sum, hsum⟩ := exists_toNat_eq (hfits.resolve_left heq)
    exact ⟨_, moveTokens_eq_ok_iff.2 ⟨payer, hpayer, hmint, ⟨found, hfound, hmint'⟩, hle, _, hpayee,
      sum, hsum, rfl⟩⟩

/-- A transfer to another account that is covered but does not fit. -/
theorem moveTokens_eq_overflow {source target mint : Pubkey} {amount : UInt64}
    {payer found : TokenAccount} (hpayer : l.tokenAccount? source = some payer)
    (hmint : payer.mint = mint) (hfound : l.tokenAccount? target = some found)
    (hmint' : found.mint = mint) (hle : amount ≤ payer.amount) (hne : source ≠ target)
    (hoverflow : UInt64.size ≤ found.amount.toNat + amount.toNat) :
    l.moveTokens source target mint amount = .error .overflow := by
  have hpayee : (l.setTokens source payer (payer.amount - amount)).tokens.get? target =
      some found := (l.tokenAccount?_setTokens ..).trans ((if_neg hne).trans hfound)
  unfold setTokens at hpayee
  unfold moveTokens
  simp only [accountOfMint_eq_ok_iff.2 ⟨hpayer, hmint⟩, accountOfMint_eq_ok_iff.2 ⟨hfound, hmint'⟩,
    bind, Except.bind, UInt64.not_lt.2 hle, if_false, hpayee,
    Amount.add?_eq_none_iff.2 hoverflow]
  rfl

/-- What is at an address covers an amount only if there is an account, or nothing to cover. -/
theorem exists_account_of_le_tokenBalance {address : Pubkey} {amount : UInt64}
    (hle : amount.toNat ≤ (l.tokenBalance address).toNat) :
    amount = 0 ∨ ∃ account, l.tokenAccount? address = some account ∧ amount ≤ account.amount := by
  cases hfound : l.tokenAccount? address with
  | none =>
      unfold tokenBalance at hle
      rw [hfound] at hle
      exact .inl (UInt64.toNat_inj.1 (Nat.le_zero.1 hle))
  | some account =>
      rw [tokenBalance_of_tokenAccount? hfound] at hle
      exact .inr ⟨account, rfl, UInt64.le_iff_toNat_le.2 hle⟩

theorem exists_moveNative {source target : Pubkey} {amount : UInt64}
    (hle : amount ≤ l.nativeBalance source)
    (hfits : source = target ∨ (l.nativeBalance target).toNat + amount.toNat < UInt64.size) :
    ∃ l', l.moveNative source target amount = .ok l' := by
  have hcharged := Amount.toNat_sub_add hle
  have hpayee := l.nativeBalance_putNative source (l.nativeBalance source - amount) target
  by_cases heq : source = target
  · rw [if_pos heq] at hpayee
    obtain ⟨sum, hsum⟩ := exists_toNat_eq (l.nativeBalance source).toNat_lt_size
    exact ⟨_, moveNative_eq_ok_iff.2 ⟨hle, sum, by rw [hpayee]; omega, rfl⟩⟩
  · rw [if_neg heq] at hpayee
    obtain ⟨sum, hsum⟩ := exists_toNat_eq (hfits.resolve_left heq)
    exact ⟨_, moveNative_eq_ok_iff.2 ⟨hle, sum, by rw [hpayee]; exact hsum, rfl⟩⟩

/-- A payment to somebody else that is covered but does not fit. -/
theorem moveNative_eq_overflow {source target : Pubkey} {amount : UInt64}
    (hle : amount ≤ l.nativeBalance source) (hne : source ≠ target)
    (hoverflow : UInt64.size ≤ (l.nativeBalance target).toNat + amount.toNat) :
    l.moveNative source target amount = .error .overflow := by
  have hpayee := l.nativeBalance_putNative source (l.nativeBalance source - amount) target
  rw [if_neg hne] at hpayee
  unfold moveNative
  simp only [UInt64.not_lt.2 hle, if_false, hpayee, Amount.add?_eq_none_iff.2 hoverflow]

/-! ## What happens outside the program -/

theorem tokenAccount?_createTokenAccount (l : Ledger) (owner mint address : Pubkey) :
    (l.createTokenAccount owner mint).2.tokenAccount? address =
      if (Derivation.tokenAccount owner mint (l.created + 1)).address = address then
        (Derivation.tokenAccount owner mint (l.created + 1)).holder?
      else l.tokenAccount? address :=
  Table.get?_insert ..

theorem holder?_createTokenAccount (l : Ledger) (owner mint address : Pubkey) :
    (l.createTokenAccount owner mint).2.holder? address =
      if (Derivation.tokenAccount owner mint (l.created + 1)).address = address then
        (Derivation.tokenAccount owner mint (l.created + 1)).holder?
      else l.holder? address := by
  unfold holder?
  rw [tokenAccount?_createTokenAccount]
  split <;> rfl

theorem tokenBalance_createTokenAccount (l : Ledger) (owner mint address : Pubkey) :
    (l.createTokenAccount owner mint).2.tokenBalance address =
      if (Derivation.tokenAccount owner mint (l.created + 1)).address = address then 0
      else l.tokenBalance address := by
  unfold tokenBalance
  rw [tokenAccount?_createTokenAccount]
  split <;> rfl

theorem holder?_mintTo {address : Pubkey} {amount : UInt64}
    (h : l.mintTo address amount = .ok l') : l'.holder? = l.holder? := by
  obtain ⟨account, haccount, sum, -, rfl⟩ := mintTo_eq_ok_iff.1 h
  exact holder?_setTokens haccount sum

theorem tokenBalance_mintTo {address : Pubkey} {amount : UInt64}
    (h : l.mintTo address amount = .ok l') (address' : Pubkey) :
    (l'.tokenBalance address').toNat =
      (l.tokenBalance address').toNat + if address = address' then amount.toNat else 0 := by
  obtain ⟨account, haccount, sum, hsum, rfl⟩ := mintTo_eq_ok_iff.1 h
  rw [tokenBalance_setTokens]
  by_cases heq : address = address'
  · subst heq
    rw [if_pos rfl, if_pos rfl, tokenBalance_of_tokenAccount? haccount, hsum]
  · rw [if_neg heq, if_neg heq, Nat.add_zero]

theorem nativeBalance_airdrop {owner : Pubkey} {amount : UInt64}
    (h : l.airdrop owner amount = .ok l') (owner' : Pubkey) :
    (l'.nativeBalance owner').toNat =
      (l.nativeBalance owner').toNat + if owner = owner' then amount.toNat else 0 := by
  obtain ⟨sum, hsum, rfl⟩ := airdrop_eq_ok_iff.1 h
  rw [nativeBalance_putNative]
  by_cases heq : owner = owner'
  · subst heq
    rw [if_pos rfl, if_pos rfl, hsum]
  · rw [if_neg heq, if_neg heq, Nat.add_zero]

theorem tokenAccount?_airdrop {owner : Pubkey} {amount : UInt64}
    (h : l.airdrop owner amount = .ok l') : l'.tokenAccount? = l.tokenAccount? := by
  obtain ⟨sum, -, rfl⟩ := airdrop_eq_ok_iff.1 h
  rfl

/-! ## A first deposit -/

theorem exists_mintTo_createTokenAccount (l : Ledger) (owner mint : Pubkey) (amount : UInt64)
    {address : Pubkey}
    (h : (Derivation.tokenAccount owner mint (l.created + 1)).address = address) :
    ∃ funded, (l.createTokenAccount owner mint).2.mintTo address amount = .ok funded ∧
      ∀ address', funded.tokenAccount? address' =
        if address = address' then some ⟨address, owner, mint, amount⟩
        else l.tokenAccount? address' := by
  subst h
  have hopened := l.tokenAccount?_createTokenAccount owner mint
  refine ⟨_, mintTo_eq_ok_iff.2 ⟨_, (hopened _).trans (if_pos rfl), amount,
    Nat.zero_add _, rfl⟩, fun address' => ?_⟩
  rw [tokenAccount?_setTokens, hopened]
  split <;> rfl

/-- All that is in an account goes to an account that is not there yet, or empty. -/
theorem exists_steps_moveAll {l : Ledger} {source target mint : Pubkey} (owner : Pubkey)
    {account : TokenAccount} (hsource : l.tokenAccount? source = some account)
    (hmint : account.mint = mint) (htarget : l.tokenAccount? target = none ∨
      l.tokenAccount? target = some ⟨target, owner, mint, 0⟩) (hne : source ≠ target) :
    ∃ l', l.steps ((Batch.empty.openTokenAccount target owner mint).tokenTransfer source target
        mint account.amount).ops = .ok l' ∧
      ∀ address, l'.tokenAccount? address =
        if target = address then some ⟨target, owner, mint, account.amount⟩
        else if source = address then some { account with amount := 0 }
        else l.tokenAccount? address := by
  -- Opened or found, the account of the payee is there and empty.
  obtain ⟨opened, hopen, hopened⟩ : ∃ opened, l.openAccount target owner mint = .ok opened ∧
      ∀ address, opened.tokenAccount? address =
        if target = address then some ⟨target, owner, mint, 0⟩ else l.tokenAccount? address := by
    rcases htarget with hnone | hempty
    · exact ⟨_, openAccount_eq_ok_iff.2 (.inl ⟨hnone, rfl⟩), fun _ => Table.get?_insert ..⟩
    · refine ⟨l, openAccount_eq_ok_iff.2 (.inr ⟨_, hempty, rfl, rfl, rfl⟩), fun address => ?_⟩
      split
      case isTrue htarget => rw [← htarget, hempty]
      case isFalse => rfl
  have hpayer : opened.tokenAccount? source = some account :=
    (hopened source).trans ((if_neg hne.symm).trans hsource)
  have hpayee : opened.tokenAccount? target = some ⟨target, owner, mint, 0⟩ :=
    (hopened target).trans (if_pos rfl)
  rw [steps_tokenTransfer ((steps_openTokenAccount rfl ..).trans hopen)]
  by_cases hzero : account.amount = 0
  · -- Nothing is transferred, and the payer has nothing left as before.
    have hspent : { account with amount := 0 } = account := by rw [← hzero]
    rw [if_pos hzero, hzero, hspent]
    refine ⟨opened, rfl, fun address => ?_⟩
    by_cases hsame : source = address
    · rw [hopened, ← hsame, if_pos rfl, hsource]
    · rw [hopened, if_neg hsame]
  · have hcharged : (opened.setTokens source account
        (account.amount - account.amount)).tokenAccount? target =
          some ⟨target, owner, mint, 0⟩ :=
      (tokenAccount?_setTokens ..).trans ((if_neg hne).trans hpayee)
    rw [if_neg hzero]
    refine ⟨_, moveTokens_eq_ok_iff.2 ⟨account, hpayer, hmint, ⟨_, hpayee, rfl⟩, UInt64.le_refl _,
      _, hcharged, account.amount, Nat.zero_add _, rfl⟩, fun address => ?_⟩
    rw [tokenAccount?_setTokens, tokenAccount?_setTokens, UInt64.sub_self, hopened]
    split <;> rfl

/-- An account is opened and funded, and all that is in it goes into a new vault. -/
theorem exists_firstDeposit (l : Ledger) (owner mint authority : Pubkey) (amount : UInt64)
    {source vault : Pubkey}
    (h : (Derivation.tokenAccount owner mint (l.created + 1)).address = source)
    (hvault : l.tokenAccount? vault = none) (hne : source ≠ vault) :
    ∃ funded l', (l.createTokenAccount owner mint).2.mintTo source amount = .ok funded ∧
      funded.tokenAccount? source = some ⟨source, owner, mint, amount⟩ ∧
      funded.steps ((Batch.empty.openTokenAccount vault authority mint).tokenTransfer source vault
        mint amount).ops = .ok l' ∧
      ∀ address, l'.tokenAccount? address =
        if vault = address then some ⟨vault, authority, mint, amount⟩
        else if source = address then some ⟨source, owner, mint, 0⟩
        else l.tokenAccount? address := by
  obtain ⟨funded, hmint, hfunded⟩ := exists_mintTo_createTokenAccount l owner mint amount h
  have hsource := (hfunded source).trans (if_pos rfl)
  obtain ⟨l', hsteps, hafter⟩ := exists_steps_moveAll authority hsource rfl
    (.inl ((hfunded vault).trans ((if_neg hne).trans hvault))) hne
  refine ⟨funded, l', hmint, hsource, hsteps, fun address => ?_⟩
  rw [hafter, hfunded]
  split
  case isTrue => rfl
  case isFalse => split <;> rfl

end Ledger

end AtomicEscrow
