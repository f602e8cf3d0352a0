import AtomicEscrow.Proofs.Flow
import AtomicEscrow.Proofs.History

set_option autoImplicit false

/-! # What there is of a mint

The supply of a mint is the sum over all its accounts, and a batch moves it about without
changing it (`Ledger.supply_steps`, `Ledger.nativeSupply_steps`). No two accounts hold more than
there is. So as long as the supply fits in a word, a payment can fail for want of an account or of
funds, but not because the payee has too much.
-/

namespace AtomicEscrow

namespace Table

variable {κ ν : Type} [DecidableEq κ]

theorem le_total (t : Table κ ν) {k : κ} {v : ν} (h : t.get? k = some v) (amount : ν → Nat) :
    amount v ≤ t.total amount := by
  have herase := t.total_erase k amount
  rw [h] at herase
  simp only [Option.map_some, Option.getD_some] at herase
  omega

theorem add_le_total (t : Table κ ν) {k k' : κ} (hne : k ≠ k') {v v' : ν} (h : t.get? k = some v)
    (h' : t.get? k' = some v') (amount : ν → Nat) : amount v + amount v' ≤ t.total amount := by
  -- The second record is still there when the first is taken out.
  have herase := t.total_erase k amount
  have hother : (t.erase k).get? k' = some v' := by rw [get?_erase, if_neg hne, h']
  have hrest := le_total _ hother amount
  rw [h] at herase
  simp only [Option.map_some, Option.getD_some] at herase
  omega

end Table

namespace Ledger

/-- The tokens of a mint in all accounts. -/
def supply (l : Ledger) (mint : Pubkey) : Nat :=
  l.tokens.total fun account => if account.mint = mint then account.amount.toNat else 0

def nativeSupply (l : Ledger) : Nat := l.natives.total UInt64.toNat

variable {l l' : Ledger} {mint : Pubkey}

/-! ## Batches move the supply -/

theorem supply_setTokens {address : Pubkey} {account : TokenAccount}
    (h : l.tokenAccount? address = some account) (amount : UInt64) (mint : Pubkey) :
    (l.setTokens address account amount).supply mint +
        (if account.mint = mint then account.amount.toNat else 0) =
      l.supply mint + if account.mint = mint then amount.toNat else 0 := by
  have htotal := l.tokens.total_insert address { account with amount }
    fun account => if account.mint = mint then account.amount.toNat else 0
  have hfound : l.tokens.get? address = some account := h
  rw [hfound] at htotal
  exact htotal

theorem nativeSupply_putNative (l : Ledger) (owner : Pubkey) (amount : UInt64) :
    (l.putNative owner amount).nativeSupply + (l.nativeBalance owner).toNat =
      l.nativeSupply + amount.toNat := by
  have htotal := l.natives.total_insert owner amount UInt64.toNat
  unfold nativeBalance
  cases hfound : l.natives.get? owner with
  | none =>
      rw [hfound] at htotal
      exact htotal
  | some balance =>
      rw [hfound] at htotal
      exact htotal

theorem supply_putToken {address : Pubkey} (h : l.tokenAccount? address = none)
    (owner mint mint' : Pubkey) : (l.putToken ⟨address, owner, mint, 0⟩).supply mint' =
      l.supply mint' := by
  have htotal := l.tokens.total_insert address ⟨address, owner, mint, 0⟩
    fun account => if account.mint = mint' then account.amount.toNat else 0
  have hfree : l.tokens.get? address = none := h
  have hzero : (if mint = mint' then (0 : UInt64).toNat else 0) = 0 := by split <;> rfl
  rw [hfree, hzero] at htotal
  exact htotal

theorem supply_step {op : LedgerOp} (h : l.step op = .ok l') (mint : Pubkey) :
    l'.supply mint = l.supply mint := by
  cases op with
  | openTokenAccount address owner mint' =>
      rcases openAccount_eq_ok_iff.1 h with ⟨hnone, rfl⟩ | ⟨_, _, _, _, rfl⟩
      · exact supply_putToken hnone owner mint' mint
      · rfl
  | tokenTransfer source target mint' amount =>
      obtain ⟨payer, hpayer, hmint, ⟨found, hfound, hmint'⟩, hle, payee, hpayee, sum, hsum, rfl⟩ :=
        moveTokens_eq_ok_iff.1 h
      -- The payee is the account that was checked, or the payer after its charge.
      have hpayeeMint : payee.mint = mint' := by
        rw [tokenAccount?_setTokens] at hpayee
        split at hpayee
        case isTrue =>
          cases hpayee
          exact hmint
        case isFalse =>
          rw [hfound] at hpayee
          cases hpayee
          exact hmint'
      have hcharged := supply_setTokens hpayer (payer.amount - amount) mint
      have hpaid := supply_setTokens hpayee sum mint
      have hamount := Amount.toNat_sub_add hle
      rw [hmint] at hcharged
      rw [hpayeeMint] at hpaid
      -- Charge and payment are of one mint, so they cancel in its sum and are not in any other's.
      by_cases hm : mint' = mint
      · simp only [hm, if_true] at hcharged hpaid
        omega
      · simp only [hm, if_false] at hcharged hpaid
        omega
  | nativeTransfer source target amount =>
      obtain ⟨-, _, -, rfl⟩ := moveNative_eq_ok_iff.1 h
      rfl

theorem nativeSupply_step {op : LedgerOp} (h : l.step op = .ok l') :
    l'.nativeSupply = l.nativeSupply := by
  cases op with
  | openTokenAccount address owner mint =>
      rcases openAccount_eq_ok_iff.1 h with ⟨-, rfl⟩ | ⟨_, _, _, _, rfl⟩ <;> rfl
  | tokenTransfer source target mint amount =>
      obtain ⟨_, -, -, -, -, _, -, _, -, rfl⟩ := moveTokens_eq_ok_iff.1 h
      rfl
  | nativeTransfer source target amount =>
      obtain ⟨hle, sum, hsum, rfl⟩ := moveNative_eq_ok_iff.1 h
      have hcharged := l.nativeSupply_putNative source (l.nativeBalance source - amount)
      -- The payment is put onto what the charge left, also if source and target are one.
      have hpaid := (l.putNative source (l.nativeBalance source - amount)).nativeSupply_putNative
        target sum
      have hamount := Amount.toNat_sub_add hle
      omega

/-- **A batch leaves as much of a mint as there was.** -/
theorem supply_steps {b : Batch} (h : l.steps b.ops = .ok l') (mint : Pubkey) :
    l'.supply mint = l.supply mint :=
  steps_keep (·.supply mint) (fun hop => supply_step hop mint) h

/-- **The same for native funds.** -/
theorem nativeSupply_steps {b : Batch} (h : l.steps b.ops = .ok l') :
    l'.nativeSupply = l.nativeSupply :=
  steps_keep nativeSupply nativeSupply_step h

/-! ## What changes the supply -/

theorem supply_createTokenAccount {owner mint : Pubkey}
    (h : l.tokenAccount? (Derivation.tokenAccount owner mint (l.created + 1)).address = none)
    (mint' : Pubkey) : (l.createTokenAccount owner mint).2.supply mint' = l.supply mint' :=
  supply_putToken h owner mint mint'

theorem supply_mintTo {address : Pubkey} {amount : UInt64} (h : l.mintTo address amount = .ok l') :
    ∃ account, l.tokenAccount? address = some account ∧ ∀ mint, l'.supply mint =
      l.supply mint + if account.mint = mint then amount.toNat else 0 := by
  obtain ⟨account, haccount, sum, hsum, rfl⟩ := mintTo_eq_ok_iff.1 h
  refine ⟨account, haccount, fun mint => ?_⟩
  have hset := supply_setTokens haccount sum mint
  by_cases hm : account.mint = mint
  · simp only [hm, if_true] at hset ⊢
    omega
  · simp only [hm, if_false] at hset ⊢
    omega

theorem nativeSupply_mintTo {address : Pubkey} {amount : UInt64}
    (h : l.mintTo address amount = .ok l') : l'.nativeSupply = l.nativeSupply := by
  obtain ⟨_, _, _, _, rfl⟩ := mintTo_eq_ok_iff.1 h
  rfl

/-! ## Payments that cannot overflow -/

theorem add_amount_le_supply {address address' : Pubkey} (hne : address ≠ address')
    {account account' : TokenAccount} (h : l.tokenAccount? address = some account)
    (h' : l.tokenAccount? address' = some account') (hmint : account.mint = mint)
    (hmint' : account'.mint = mint) :
    account.amount.toNat + account'.amount.toNat ≤ l.supply mint := by
  have hsum := l.tokens.add_le_total hne h h'
    fun account => if account.mint = mint then account.amount.toNat else 0
  rw [if_pos hmint, if_pos hmint'] at hsum
  exact hsum

theorem nativeBalance_le_nativeSupply (l : Ledger) (owner : Pubkey) :
    (l.nativeBalance owner).toNat ≤ l.nativeSupply := by
  unfold nativeBalance
  cases h : l.natives.get? owner with
  | none => exact Nat.zero_le _
  | some balance => exact l.natives.le_total h UInt64.toNat

theorem add_nativeBalance_le_nativeSupply (l : Ledger) {owner owner' : Pubkey}
    (hne : owner ≠ owner') :
    (l.nativeBalance owner).toNat + (l.nativeBalance owner').toNat ≤ l.nativeSupply := by
  -- An owner without an entry has nothing, so the bound is about the other one.
  cases h : l.natives.get? owner with
  | none =>
      have hzero : l.nativeBalance owner = 0 := by
        unfold nativeBalance
        rw [h]
        rfl
      rw [hzero]
      have hle := l.nativeBalance_le_nativeSupply owner'
      have htoNat : (0 : UInt64).toNat = 0 := rfl
      omega
  | some balance =>
      cases h' : l.natives.get? owner' with
      | none =>
          have hzero : l.nativeBalance owner' = 0 := by
            unfold nativeBalance
            rw [h']
            rfl
          rw [hzero]
          exact l.nativeBalance_le_nativeSupply owner
      | some balance' =>
          have hsum := l.natives.add_le_total hne h h' UInt64.toNat
          unfold nativeBalance
          rw [h, h']
          exact hsum

variable {b : Batch}

/-- After a batch, a payment out of what is left in an account to an account of its mint. -/
theorem exists_steps_tokenTransfer (h : l.steps b.ops = .ok l') {source target : Pubkey}
    {payer payee : TokenAccount} (hpayer : l.holder? source = some payer)
    (hmint : payer.mint = mint) (hpayee : l.holder? target = some payee)
    (hmint' : payee.mint = mint) {amount : UInt64}
    (hle : b.tokensFrom source + amount.toNat ≤ (l.tokenBalance source).toNat)
    (hfits : l.supply mint < UInt64.size) :
    ∃ l'', l.steps (b.tokenTransfer source target mint amount).ops = .ok l'' := by
  -- A transfer of nothing is not put into the batch at all.
  rw [steps_tokenTransfer h]
  split
  case isTrue => exact ⟨l', rfl⟩
  case isFalse =>
    -- The batch before may have moved tokens, but accounts keep their mint.
    have hstays {address : Pubkey} {holder : TokenAccount}
        (hholder : l.holder? address = some holder) :
        ∃ account, l'.tokenAccount? address = some account ∧ account.mint = holder.mint := by
      have hafter := holder?_steps h address
      rw [hholder, Option.some_or] at hafter
      obtain ⟨account, haccount, rfl⟩ := holder?_eq_some_iff.1 hafter
      exact ⟨account, haccount, rfl⟩
    obtain ⟨account, haccount, hsame⟩ := hstays hpayer
    obtain ⟨found, hfound, hsame'⟩ := hstays hpayee
    have hbalance := tokenBalance_steps h source
    rw [tokenBalance_of_tokenAccount? haccount] at hbalance
    have hcovered : amount ≤ account.amount := UInt64.le_iff_toNat_le.2 (by omega)
    refine exists_moveTokens haccount (hsame.trans hmint) hfound (hsame'.trans hmint') hcovered ?_
    by_cases hne : source = target
    · exact .inl hne
    · -- The payee gets what the payer has, so afterwards it has no more than there is.
      refine .inr ?_
      calc found.amount.toNat + amount.toNat
          ≤ account.amount.toNat + found.amount.toNat := by omega
        _ ≤ l'.supply mint :=
            add_amount_le_supply hne haccount hfound (hsame.trans hmint) (hsame'.trans hmint')
        _ = l.supply mint := supply_steps h mint
        _ < UInt64.size := hfits

/-- After a batch, a payment out of what is left of a native balance. -/
theorem exists_steps_nativeTransfer (h : l.steps b.ops = .ok l') {source : Pubkey}
    (target : Pubkey) {amount : UInt64}
    (hle : b.nativesFrom source + amount.toNat ≤ (l.nativeBalance source).toNat)
    (hfits : l.nativeSupply < UInt64.size) :
    ∃ l'', l.steps (b.nativeTransfer source target amount).ops = .ok l'' := by
  rw [steps_nativeTransfer h]
  split
  case isTrue => exact ⟨l', rfl⟩
  case isFalse =>
    have hbalance := nativeBalance_steps h source
    have hcovered : amount ≤ l'.nativeBalance source := UInt64.le_iff_toNat_le.2 (by omega)
    refine exists_moveNative hcovered ?_
    by_cases hne : source = target
    · exact .inl hne
    · -- Two owners together have no more than there is.
      refine .inr ?_
      calc (l'.nativeBalance target).toNat + amount.toNat
          ≤ (l'.nativeBalance source).toNat + (l'.nativeBalance target).toNat := by omega
        _ ≤ l'.nativeSupply := l'.add_nativeBalance_le_nativeSupply hne
        _ = l.nativeSupply := nativeSupply_steps h
        _ < UInt64.size := hfits

/-- What an account of a mint covers it pays out to an account of the mint. -/
theorem exists_steps_payout {source target : Pubkey} {payee : TokenAccount} {amount : UInt64}
    (hpayer : ∀ payer, l.holder? source = some payer → payer.mint = mint)
    (hle : amount.toNat ≤ (l.tokenBalance source).toNat)
    (hpayee : l.holder? target = some payee) (hmint : payee.mint = mint)
    (hfits : l.supply mint < UInt64.size) :
    ∃ l', l.steps (Batch.empty.tokenTransfer source target mint amount).ops = .ok l' := by
  rcases exists_account_of_le_tokenBalance hle with hzero | ⟨account, haccount, -⟩
  · rw [steps_tokenTransfer rfl, if_pos hzero]
    exact ⟨l, rfl⟩
  · have hholder : l.holder? source = some account.emptied :=
      holder?_eq_some_iff.2 ⟨account, haccount, rfl⟩
    refine exists_steps_tokenTransfer rfl hholder (hpayer _ hholder) hpayee hmint ?_ hfits
    rw [Batch.tokensFrom_empty, Nat.zero_add]
    exact hle

/-- After a batch that takes nothing from it, a native balance that covers a pot pays it out in two
parts. -/
theorem exists_steps_split (h : l.steps b.ops = .ok l') {source : Pubkey} {pot part : UInt64}
    (hnone : b.nativesFrom source = 0) (hpot : pot ≤ l.nativeBalance source) (hpart : part ≤ pot)
    (first second : Pubkey) (hfits : l.nativeSupply < UInt64.size) :
    ∃ l'', l.steps ((b.nativeTransfer source first part).nativeTransfer source second
      (pot - part)).ops = .ok l'' := by
  have hcovered := UInt64.le_iff_toNat_le.1 hpot
  have hrest := Amount.toNat_sub_add hpart
  obtain ⟨paid, hpaid⟩ := exists_steps_nativeTransfer h first
    (show b.nativesFrom source + part.toNat ≤ _ by omega) hfits
  -- What is left of the pot is still there for the second payee.
  refine exists_steps_nativeTransfer hpaid second ?_ hfits
  rw [Batch.nativesFrom_nativeTransfer, if_pos rfl]
  omega

end Ledger

/-! ## There is no more than was funded -/

def Step.minted : Step → Nat
  | mintTo _ amount => amount.toNat
  | _ => 0

def Step.airdropped : Step → Nat
  | airdrop _ amount => amount.toNat
  | _ => 0

/-- An amount, summed up over the steps of a history. -/
def totalOver (amount : Step → Nat) (steps : List Step) : Nat :=
  steps.foldr (fun step n => amount step + n) 0

theorem Engine.Outside.supply_le {step : Step} {l l' : Ledger} (h : Engine.Outside step l l')
    (mint : Pubkey) : l'.supply mint ≤ l.supply mint + step.minted := by
  -- Only a mint adds to the supply; it says how much in `minted`.
  cases h with
  | createTokenAccount _ owner mint' =>
      have htotal := l.tokens.total_insert
        (Derivation.tokenAccount owner mint' (l.created + 1)).address
        ⟨(Derivation.tokenAccount owner mint' (l.created + 1)).address, owner, mint', 0⟩
        fun account => if account.mint = mint then account.amount.toNat else 0
      have hempty : (if mint' = mint then (0 : UInt64).toNat else 0) = 0 := by split <;> rfl
      rw [hempty] at htotal
      exact Nat.le_of_add_right_le (Nat.le_of_eq htotal)
  | mintTo hminted =>
      obtain ⟨account, -, hsupply⟩ := Ledger.supply_mintTo hminted
      rw [hsupply]
      refine Nat.add_le_add_left ?_ _
      split
      · exact Nat.le_refl _
      · exact Nat.zero_le _
  | airdrop hairdrop =>
      obtain ⟨_, _, rfl⟩ := Ledger.airdrop_eq_ok_iff.1 hairdrop
      exact Nat.le_refl _
  | applyBatch hsteps => exact Nat.le_of_eq (Ledger.supply_steps hsteps mint)

theorem Engine.Outside.nativeSupply_le {step : Step} {l l' : Ledger}
    (h : Engine.Outside step l l') : l'.nativeSupply ≤ l.nativeSupply + step.airdropped := by
  cases h with
  | createTokenAccount => exact Nat.le_refl _
  | mintTo hminted => exact Nat.le_of_eq (Ledger.nativeSupply_mintTo hminted)
  | @airdrop _ _ owner amount hairdrop =>
      obtain ⟨sum, hsum, rfl⟩ := Ledger.airdrop_eq_ok_iff.1 hairdrop
      have hput := l.nativeSupply_putNative owner sum
      show _ ≤ l.nativeSupply + amount.toNat
      omega
  | applyBatch hsteps => exact Nat.le_of_eq (Ledger.nativeSupply_steps hsteps)

namespace Engine

variable (engine : Engine) (steps : List Step) (mint : Pubkey)

theorem supply_step_le (step : Step) :
    (engine.step step).state.ledger.supply mint ≤
      engine.state.ledger.supply mint + step.minted := by
  rcases engine.step_cases step with ⟨hstate, -⟩ |
    ⟨_, effect, ledger, -, -, hsteps, hstate, -⟩ | ⟨ledger, houtside, hstate, -⟩
  · rw [hstate]
    exact Nat.le_add_right ..
  · rw [hstate, Ledger.supply_steps hsteps]
    exact Nat.le_add_right ..
  · rw [hstate]
    exact houtside.supply_le mint

theorem nativeSupply_step_le (step : Step) :
    (engine.step step).state.ledger.nativeSupply ≤
      engine.state.ledger.nativeSupply + step.airdropped := by
  rcases engine.step_cases step with ⟨hstate, -⟩ |
    ⟨_, effect, ledger, -, -, hsteps, hstate, -⟩ | ⟨ledger, houtside, hstate, -⟩
  · rw [hstate]
    exact Nat.le_add_right ..
  · rw [hstate, Ledger.nativeSupply_steps hsteps]
    exact Nat.le_add_right ..
  · rw [hstate]
    exact houtside.nativeSupply_le

/-- **What there is of a mint is what there was and what was minted**, at most. -/
theorem supply_run_le :
    (engine.run steps).state.ledger.supply mint ≤
      engine.state.ledger.supply mint + totalOver Step.minted steps := by
  induction steps generalizing engine with
  | nil => exact Nat.le_refl _
  | cons step rest ih =>
      have hstep := engine.supply_step_le mint step
      have hrest := ih (engine.step step)
      show ((engine.step step).run rest).state.ledger.supply mint ≤
        _ + (step.minted + totalOver Step.minted rest)
      omega

/-- **The same for native funds.** -/
theorem nativeSupply_run_le :
    (engine.run steps).state.ledger.nativeSupply ≤
      engine.state.ledger.nativeSupply + totalOver Step.airdropped steps := by
  induction steps generalizing engine with
  | nil => exact Nat.le_refl _
  | cons step rest ih =>
      have hstep := engine.nativeSupply_step_le step
      have hrest := ih (engine.step step)
      show ((engine.step step).run rest).state.ledger.nativeSupply ≤
        _ + (step.airdropped + totalOver Step.airdropped rest)
      omega

end Engine

end AtomicEscrow
