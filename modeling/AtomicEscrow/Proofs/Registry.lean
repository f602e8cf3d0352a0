import AtomicEscrow.Record.Registry

set_option autoImplicit false

/-! # Changes of the records

An operation changes the records in a few ways: it puts or removes an escrow, changes a user
account that is there, sets a balance, puts or removes a data buffer. For each way this file
says what the three tables hold afterwards, and what becomes of the sums over them.
-/

namespace AtomicEscrow.Registry

/-- The registry with the user account of an owner and a mint changed, if there is one. -/
def changeUser (r : Registry) (owner mint : Pubkey) (change : UserAccount → UserAccount) :
    Registry :=
  match r.user? owner mint with
  | none => r
  | some account => r.putUser owner mint (change account)

/-- The registry after the balance of a user account was set, new if need be. -/
def setBalance (r : Registry) (owner mint : Pubkey) (balance : UInt64) : Registry :=
  r.putUser owner mint { (r.user? owner mint).getD (.fresh owner mint) with amount := balance }

variable (r : Registry) (owner mint : Pubkey) (change : UserAccount → UserAccount)
  (hash : Hash) (address : Pubkey)

/-! ## What stays -/

@[simp] theorem programId_putEscrow (escrow : Escrow) :
    (r.putEscrow escrow).programId = r.programId := rfl

@[simp] theorem programId_removeEscrow : (r.removeEscrow hash).programId = r.programId := rfl

@[simp] theorem programId_setBalance (balance : UInt64) :
    (r.setBalance owner mint balance).programId = r.programId := rfl

@[simp] theorem programId_putBuffer (buffer : DataBuffer) :
    (r.putBuffer address buffer).programId = r.programId := rfl

@[simp] theorem programId_removeBuffer : (r.removeBuffer address).programId = r.programId := rfl

@[simp] theorem programId_changeUser :
    (r.changeUser owner mint change).programId = r.programId := by
  unfold changeUser
  split <;> rfl

@[simp] theorem escrows_setBalance (balance : UInt64) :
    (r.setBalance owner mint balance).escrows = r.escrows := rfl

@[simp] theorem escrows_putBuffer (buffer : DataBuffer) :
    (r.putBuffer address buffer).escrows = r.escrows := rfl

@[simp] theorem escrows_removeBuffer : (r.removeBuffer address).escrows = r.escrows := rfl

@[simp] theorem escrows_changeUser :
    (r.changeUser owner mint change).escrows = r.escrows := by
  unfold changeUser
  split <;> rfl

@[simp] theorem users_putEscrow (escrow : Escrow) : (r.putEscrow escrow).users = r.users := rfl

@[simp] theorem users_removeEscrow : (r.removeEscrow hash).users = r.users := rfl

@[simp] theorem users_putBuffer (buffer : DataBuffer) :
    (r.putBuffer address buffer).users = r.users := rfl

@[simp] theorem users_removeBuffer : (r.removeBuffer address).users = r.users := rfl

@[simp] theorem buffers_removeEscrow : (r.removeEscrow hash).buffers = r.buffers := rfl

@[simp] theorem buffers_changeUser :
    (r.changeUser owner mint change).buffers = r.buffers := by
  unfold changeUser
  split <;> rfl

/-! ## Addresses

They depend on the program alone. -/

section

variable {r r' : Registry} (h : r'.programId = r.programId)

include h

theorem escrowAddress_congr (hash : Hash) : r'.escrowAddress hash = r.escrowAddress hash := by
  unfold escrowAddress
  rw [h]

theorem userAddress_congr (owner mint : Pubkey) :
    r'.userAddress owner mint = r.userAddress owner mint := by
  unfold userAddress
  rw [h]

theorem vaultAddress_congr (mint : Pubkey) : r'.vaultAddress mint = r.vaultAddress mint := by
  unfold vaultAddress
  rw [h]

theorem vaultAuthority_congr : r'.vaultAuthority = r.vaultAuthority := by
  unfold vaultAuthority
  rw [h]

end

/-! ## Escrows -/

theorem escrow?_of_erase {r r' : Registry} {key : Hash}
    (removed : r'.escrows = r.escrows.erase key) (hash : Hash) :
    r'.escrow? hash = if key = hash then none else r.escrow? hash := by
  unfold escrow?
  rw [removed, Table.get?_erase]

theorem escrow?_of_insert {r r' : Registry} {key : Hash} {escrow : Escrow}
    (put : r'.escrows = r.escrows.insert key escrow) (hash : Hash) :
    r'.escrow? hash = if key = hash then some escrow else r.escrow? hash := by
  unfold escrow?
  rw [put, Table.get?_insert]

/-! ## User accounts -/

theorem users_changeUser (key : Pubkey) :
    (r.changeUser owner mint change).users.get? key =
      if r.userAddress owner mint = key then (r.users.get? key).map change
      else r.users.get? key := by
  unfold changeUser
  cases hfound : r.user? owner mint with
  | none =>
      -- Nothing is put, and under the key there is nothing to change.
      by_cases h : r.userAddress owner mint = key
      · subst h
        have hnone : r.users.get? (r.userAddress owner mint) = none := hfound
        simp [hnone]
      · simp [h]
  | some found =>
      show (r.users.insert (r.userAddress owner mint) (change found)).get? key = _
      rw [Table.get?_insert]
      by_cases h : r.userAddress owner mint = key
      · subst h
        have hsome : r.users.get? (r.userAddress owner mint) = some found := hfound
        simp [hsome]
      · simp [h]

theorem users_setBalance (balance : UInt64) (key : Pubkey) :
    (r.setBalance owner mint balance).users.get? key =
      if r.userAddress owner mint = key then
        some { (r.user? owner mint).getD (.fresh owner mint) with amount := balance }
      else r.users.get? key :=
  Table.get?_insert ..

/-- A user account that is changed is found as it is changed. -/
theorem user?_changeUser {account : UserAccount} (h : r.user? owner mint = some account) :
    (r.changeUser owner mint change).user? owner mint = some (change account) := by
  unfold user? at h ⊢
  rw [userAddress_congr (programId_changeUser ..), users_changeUser, if_pos rfl, h]
  rfl

theorem exists_user?_changeUser {owner' mint' : Pubkey} {account : UserAccount}
    (h : r.user? owner' mint' = some account) :
    ∃ account', (r.changeUser owner mint change).user? owner' mint' = some account' := by
  unfold user? at h ⊢
  rw [userAddress_congr (programId_changeUser ..), users_changeUser, h]
  split
  · exact ⟨_, rfl⟩
  · exact ⟨_, rfl⟩

/-! ## Sums -/

/-- A change of an account moves a sum over all accounts by as much as it moves the account. -/
theorem total_changeUser {account : UserAccount} (h : r.user? owner mint = some account)
    (amount : UserAccount → Nat) :
    (r.changeUser owner mint change).users.total amount + amount account =
      r.users.total amount + amount (change account) := by
  have hinsert := r.users.total_insert (r.userAddress owner mint) (change account) amount
  have hget : r.users.get? (r.userAddress owner mint) = some account := h
  rw [hget] at hinsert
  unfold changeUser
  rw [h]
  exact hinsert

end AtomicEscrow.Registry
