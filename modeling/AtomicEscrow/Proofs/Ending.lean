import AtomicEscrow.Proofs.Debit

set_option autoImplicit false

/-! # What the end of an escrow does to the user accounts

A plan carries the new balances as absolute numbers. What a settlement does to the user account at
an address does not depend on them: it is a change of whatever account is there (`Ending.change`),
the same for claims and refunds (`ClaimPlan.users_commit`, `RefundPlan.users_commit`).
-/

namespace AtomicEscrow

namespace Ending

/-- The account at an address, with the tokens if they are for it. -/
def credit (e : Ending) (program address : Pubkey) (account : UserAccount) : UserAccount :=
  if e.paysOut = false ∧
      (Derivation.userAccount program e.payee e.escrow.mint).address = address then
    { account with amount := account.amount + e.escrow.terms.amount }
  else account

/-- The account at an address, with the end noted in its reputation if it is the claimer's. -/
def note (e : Ending) (program address : Pubkey) (account : UserAccount) : UserAccount :=
  if e.escrow.terms.payOut = false ∧
      (Derivation.userAccount program e.escrow.claimer e.escrow.mint).address = address then
    account.resolve e.escrow.terms e.resolution
  else account

/-- What becomes of the account at an address. -/
def change (e : Ending) (program address : Pubkey) (account : UserAccount) : UserAccount :=
  e.note program address (e.credit program address account)

variable (e : Ending) (program address : Pubkey) (account : UserAccount)

theorem credit_of_paysOut (h : e.paysOut = true) : e.credit program address = id := by
  funext account
  unfold credit
  simp [h]

theorem note_of_payOut (h : e.escrow.terms.payOut = true) : e.note program address = id := by
  funext account
  unfold note
  simp [h]

theorem owner_change : (e.change program address account).owner = account.owner := by
  have hcredit : (e.credit program address account).owner = account.owner := by
    unfold credit
    split <;> rfl
  unfold change note
  split
  · rw [UserAccount.owner_resolve, hcredit]
  · exact hcredit

theorem mint_change : (e.change program address account).mint = account.mint := by
  have hcredit : (e.credit program address account).mint = account.mint := by
    unfold credit
    split <;> rfl
  unfold change note
  split
  · rw [UserAccount.mint_resolve, hcredit]
  · exact hcredit

theorem trackRecord_change (resolution : Resolution) :
    (e.change program address account).trackRecord resolution =
      if (e.escrow.terms.payOut = false ∧
          (Derivation.userAccount program e.escrow.claimer e.escrow.mint).address = address) ∧
          e.resolution = resolution then
        (account.trackRecord resolution).add e.escrow.terms.kind e.escrow.terms.amount
      else account.trackRecord resolution := by
  have hcredit : (e.credit program address account).trackRecord resolution =
      account.trackRecord resolution := by
    unfold credit
    cases resolution <;> split <;> rfl
  unfold change note
  by_cases hown : e.escrow.terms.payOut = false ∧
      (Derivation.userAccount program e.escrow.claimer e.escrow.mint).address = address
  · simp only [hown, if_true, true_and, UserAccount.trackRecord_resolve, hcredit]
  · simp only [hown, if_false, false_and, hcredit]

end Ending

/-! ## Admitted settlements -/

theorem Amount.eq_add_of_toNat {a b c : UInt64} (h : a.toNat + b.toNat = c.toNat) : c = a + b := by
  have hlt := c.toNat_lt_size
  refine UInt64.toNat_inj.1 ?_
  rw [UInt64.toNat_add, h]
  exact (Nat.mod_eq_of_lt hlt).symm

variable {env : Env} {s : State}

namespace Registry

variable {r : Registry} {e : Ending}

/-- The payee's balance, set to the sum that was found to fit, is a credit. -/
theorem users_credit (hpays : e.paysOut = false) {found : UserAccount} {balance : UInt64}
    (hfound : r.user? e.payee e.escrow.mint = some found)
    (hsum : found.amount.toNat + e.escrow.terms.amount.toNat = balance.toNat)
    (address : Pubkey) :
    (r.changeUser e.payee e.escrow.mint ({ · with amount := balance })).users.get? address =
      (r.users.get? address).map (e.credit r.programId address) := by
  rw [users_changeUser]
  by_cases haddress : r.userAddress e.payee e.escrow.mint = address
  · -- The account at this address is the one that was found.
    have hget : r.users.get? address = some found := haddress ▸ hfound
    have hcredit : e.credit r.programId address found = { found with amount := balance } := by
      unfold Ending.credit
      rw [if_pos ⟨hpays, haddress⟩, Amount.eq_add_of_toNat hsum]
    rw [if_pos haddress, hget, Option.map_some, Option.map_some, hcredit]
  · have hcredit : e.credit r.programId address = id := by
      funext account
      exact if_neg fun h => haddress h.2
    rw [if_neg haddress, hcredit, Option.map_id]
    rfl

theorem users_note (hpay : e.escrow.terms.payOut = false) (address : Pubkey) :
    (r.changeUser e.escrow.claimer e.escrow.mint
        (·.resolve e.escrow.terms e.resolution)).users.get? address =
      (r.users.get? address).map (e.note r.programId address) := by
  rw [users_changeUser]
  by_cases haddress : r.userAddress e.escrow.claimer e.escrow.mint = address
  · have hnote : e.note r.programId address = (·.resolve e.escrow.terms e.resolution) := by
      funext account
      exact if_pos ⟨hpay, haddress⟩
    rw [if_pos haddress, hnote]
  · have hnote : e.note r.programId address = id := by
      funext account
      exact if_neg fun h => haddress h.2
    rw [if_neg haddress, hnote, Option.map_id]
    rfl

/-- Two changes of one account are one change. -/
theorem users_changeUser_changeUser (r : Registry) (owner mint : Pubkey)
    (change change' : UserAccount → UserAccount) (address : Pubkey) :
    ((r.changeUser owner mint change).changeUser owner mint change').users.get? address =
      (r.changeUser owner mint (change' ∘ change)).users.get? address := by
  rw [users_changeUser, users_changeUser, users_changeUser,
    userAddress_congr (programId_changeUser ..)]
  by_cases haddress : r.userAddress owner mint = address
  · rw [if_pos haddress, if_pos haddress, if_pos haddress, Option.map_map]
  · rw [if_neg haddress, if_neg haddress, if_neg haddress]

end Registry

theorem ClaimPlan.users_commit {req : ClaimRequest} {plan : ClaimPlan}
    (hplan : req.plan env s = .ok plan) (address : Pubkey) :
    (plan.commit req.hash s.registry).users.get? address =
      (s.registry.users.get? address).map
        (plan.settlement.change s.registry.programId address) := by
  obtain ⟨escrow, credited, _, buffer, opened, -, -, -, hdestination, -, -, -, rfl⟩ :=
    ClaimRequest.plan_eq_ok_iff.1 hplan
  let e : Ending := ⟨escrow, .success⟩
  show _ = (s.registry.users.get? address).map (e.change s.registry.programId address)
  rcases ClaimRequest.checkDestination_eq_ok_iff.1 hdestination with
    ⟨hpay, _, _, -, -, -, -, rfl⟩ | ⟨hpay, found, balance, -, hfound, hsum, rfl⟩
  · have husers : (commit ⟨escrow, none, buffer, opened, req.batch escrow s⟩ req.hash
        s.registry).users = s.registry.users := by
      unfold commit
      cases buffer <;> rfl
    -- Paid out, a claim leaves every user account as it was: nothing is credited, and nothing
    -- noted.
    have hchange : e.change s.registry.programId address = id := by
      funext account
      unfold Ending.change
      rw [e.credit_of_paysOut _ _ hpay, e.note_of_payOut _ _ hpay]
      rfl
    rw [husers, hchange, Option.map_id]
    rfl
  · let removed := s.registry.removeEscrow req.hash
    have husers : (commit ⟨escrow, some balance, buffer, opened, req.batch escrow s⟩ req.hash
        s.registry).users = (removed.changeUser escrow.claimer escrow.mint
          ((·.resolve escrow.terms .success) ∘ ({ · with amount := balance }))).users := by
      unfold commit
      cases buffer <;> rfl
    -- The program credits and notes in one go, and here it is taken apart again.
    let credited := removed.changeUser escrow.claimer escrow.mint ({ · with amount := balance })
    have hprogram : credited.programId = s.registry.programId :=
      Registry.programId_changeUser ..
    have hcredit : credited.users.get? address =
        (s.registry.users.get? address).map (e.credit s.registry.programId address) :=
      Registry.users_credit (r := removed) (e := e) hpay hfound hsum address
    have hnote := Registry.users_note (r := credited) (e := e) hpay address
    rw [hcredit, hprogram, Option.map_map] at hnote
    rw [husers, ← Registry.users_changeUser_changeUser]
    exact hnote

theorem RefundPlan.users_commit {req : RefundRequest} {plan : RefundPlan}
    (hplan : req.plan env s = .ok plan) (address : Pubkey) :
    (plan.commit req.hash s.registry).users.get? address =
      (s.registry.users.get? address).map
        (plan.settlement.change s.registry.programId address) := by
  obtain ⟨escrow, refunded, kind, -, -, -, -, hdestination, -, -, -, rfl⟩ :=
    RefundRequest.plan_eq_ok_iff.1 hplan
  let e : Ending := ⟨escrow, kind.resolution⟩
  show _ = (s.registry.users.get? address).map (e.change s.registry.programId address)
  -- First the offerer is credited, and then the end is noted in the account of the claimer.
  have hnoted (r : Registry) : (if escrow.terms.payOut then r
      else r.changeUser escrow.claimer escrow.mint
        (·.resolve escrow.terms kind.resolution)).users.get? address =
      (r.users.get? address).map (e.note r.programId address) := by
    cases hpay : escrow.terms.payOut with
    | true =>
        rw [if_pos rfl, e.note_of_payOut _ _ hpay, Option.map_id]
        rfl
    | false =>
        rw [if_neg Bool.false_ne_true]
        exact Registry.users_note (e := e) hpay address
  let plan : RefundPlan := ⟨escrow, refunded, kind, req.batch escrow kind s⟩
  have hpays : e.paysOut = escrow.terms.payIn := plan.paysOut_settlement
  have hpayee : e.payee = escrow.offerer := plan.payee_settlement
  rcases RefundRequest.checkDestination_eq_ok_iff.1 hdestination with
    ⟨hpay, _, _, -, -, -, -, rfl⟩ | ⟨hpay, found, balance, -, hfound, hsum, rfl⟩
  · have hchange : e.change s.registry.programId address = e.note s.registry.programId address := by
      funext account
      unfold Ending.change
      rw [e.credit_of_paysOut _ _ (hpays.trans hpay)]
      rfl
    rw [hchange]
    exact hnoted (s.registry.removeEscrow req.hash)
  · let removed := s.registry.removeEscrow req.hash
    let credited := removed.changeUser escrow.offerer escrow.mint ({ · with amount := balance })
    have hprogram : credited.programId = s.registry.programId :=
      Registry.programId_changeUser ..
    have hcredit : credited.users.get? address =
        (s.registry.users.get? address).map (e.credit s.registry.programId address) := by
      -- The credit is computed from what the account held before, which is what was found.
      have hpaid := Registry.users_credit (r := removed) (e := e) (hpays.trans hpay)
        (hpayee ▸ hfound) hsum address
      rw [hpayee] at hpaid
      exact hpaid
    have hnote := hnoted credited
    rw [hcredit, hprogram, Option.map_map] at hnote
    exact hnote

/-! ## Two ends of escrows in one user account -/

theorem Amount.addCapped_right_comm (a b c : UInt64) :
    addCapped (addCapped a b) c = addCapped (addCapped a c) b := by
  have hcapped (a b c : UInt64) : (addCapped (addCapped a b) c).toNat =
      min (a.toNat + b.toNat + c.toNat) (UInt64.size - 1) := by
    rw [toNat_addCapped, toNat_addCapped]
    omega
  apply UInt64.toNat_inj.1
  calc (addCapped (addCapped a b) c).toNat
      = min (a.toNat + b.toNat + c.toNat) (UInt64.size - 1) := hcapped a b c
    _ = min (a.toNat + c.toNat + b.toNat) (UInt64.size - 1) := by rw [Nat.add_right_comm]
    _ = (addCapped (addCapped a c) b).toNat := (hcapped a c b).symm

theorem TrackRecord.add_right_comm (record : TrackRecord) (kind kind' : SwapKind)
    (amount amount' : UInt64) :
    (record.add kind amount).add kind' amount' = (record.add kind' amount').add kind amount := by
  -- Only for one kind twice is there anything to show: other kinds are other fields.
  have hadd (t : Tally) (amount amount' : UInt64) :
      (t.add kind amount).add kind' amount' = (t.add kind' amount').add kind amount := by
    cases kind <;> cases kind' <;> simp only [Tally.add, Amount.addCapped_right_comm _ amount]
  have hcount := hadd record.count 1 1
  have hvolume := hadd record.volume amount amount'
  exact congrArg₂ TrackRecord.mk hcount hvolume

/-- A user account is what it says of its owner, its balance and the three ways to end. -/
theorem UserAccount.eq_of_trackRecord {account account' : UserAccount}
    (howner : account.owner = account'.owner) (hmint : account.mint = account'.mint)
    (hamount : account.amount = account'.amount)
    (hrecord : ∀ resolution, account.trackRecord resolution = account'.trackRecord resolution) :
    account = account' := by
  obtain ⟨_, _, _, success, failure, cooperativeClose⟩ := account
  obtain ⟨_, _, _, success', failure', cooperativeClose'⟩ := account'
  have hsuccess : success = success' := hrecord .success
  have hfailure : failure = failure' := hrecord .failure
  have hcooperative : cooperativeClose = cooperativeClose' := hrecord .cooperativeClose
  rw [UserAccount.mk.injEq]
  exact ⟨howner, hmint, hamount, hsuccess, hfailure, hcooperative⟩

namespace Ending

variable (e e' : Ending) (program address : Pubkey) (account : UserAccount)

theorem amount_change :
    (e.change program address account).amount =
      if e.paysOut = false ∧
          (Derivation.userAccount program e.payee e.escrow.mint).address = address then
        account.amount + e.escrow.terms.amount
      else account.amount := by
  have hnote (account : UserAccount) :
      (e.note program address account).amount = account.amount := by
    unfold note UserAccount.resolve
    cases e.resolution <;> split <;> rfl
  unfold change credit
  rw [hnote]
  split <;> rfl

/-- **Two ends may come in either order.** -/
theorem change_comm :
    e'.change program address (e.change program address account) =
      e.change program address (e'.change program address account) := by
  have hamount : account.amount + e.escrow.terms.amount + e'.escrow.terms.amount =
      account.amount + e'.escrow.terms.amount + e.escrow.terms.amount := by
    rw [UInt64.add_assoc, UInt64.add_assoc, UInt64.add_comm e.escrow.terms.amount]
  -- Field by field. The owner and the mint are never changed.
  apply UserAccount.eq_of_trackRecord
  · rw [owner_change, owner_change, owner_change, owner_change]
  · rw [mint_change, mint_change, mint_change, mint_change]
  · -- The two ends only meet if both credit the account at this address.
    simp only [amount_change]
    split <;> split
    · exact hamount
    · rfl
    · rfl
    · rfl
  · -- They only meet in a record if both are noted in the same one.
    intro resolution
    simp only [trackRecord_change]
    split <;> split
    · exact TrackRecord.add_right_comm ..
    · rfl
    · rfl
    · rfl

end Ending

end AtomicEscrow
