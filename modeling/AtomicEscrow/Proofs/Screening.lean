import AtomicEscrow.Proofs.Distribution
import AtomicEscrow.Proofs.Locking

set_option autoImplicit false

/-! # Accounts before evidence

A settlement names accounts and shows evidence: a claim its proof, a refund what allows it. The
accounts are looked at first, all of them. So what is wrong with them (`ClaimRequest.accountFaults`,
`RefundRequest.accountFaults`) decides how a request with substituted accounts is refused, and the
evidence has no part in it: the refusal is one about accounts, and it is the same for every proof,
every consent and every time. Nobody learns from it whether some evidence is good.

The lists are put together along the checks, each part with the check that it is about, and they
read no evidence. Of a data buffer they read whose it is, but not what is in it.
-/

namespace AtomicEscrow

/-- A refusal that points to the accounts of a request, or says that a credit does not fit. It is
neither one of the proof nor one of the authorization. -/
def EscrowError.OnAccounts (e : EscrowError) : Prop :=
  e.category = .structural ∨ e.category = .fault

/-- Every one of these refusals points to the accounts. -/
def AllOnAccounts (faults : List EscrowError) : Prop := ∀ e ∈ faults, e.OnAccounts

namespace AllOnAccounts

variable {faults faults' : List EscrowError} {e : EscrowError}

theorem nil : AllOnAccounts [] := by
  intro e hmem
  cases hmem

theorem singleton (h : e.OnAccounts) : AllOnAccounts [e] := by
  intro e' hmem
  rw [List.mem_singleton.1 hmem]
  exact h

theorem refusal {condition : Prop} [Decidable condition] (h : e.OnAccounts) :
    AllOnAccounts (refusal condition e) := by
  unfold AtomicEscrow.refusal
  split
  · exact nil
  · exact singleton h

theorem append (h : AllOnAccounts faults) (h' : AllOnAccounts faults') :
    AllOnAccounts (faults ++ faults') := by
  intro e hmem
  rcases List.mem_append.1 hmem with hmem | hmem
  · exact h e hmem
  · exact h' e hmem

end AllOnAccounts

/-! ## Where the tokens go -/

/-- The payee that a request names is the right one: the token account that is on record, where
tokens leave the program, and otherwise the user account of an owner. -/
def State.IsPayee (s : State) (escrow : Escrow) (out : Bool) (destination : BalanceAccount)
    (recorded : Option Pubkey) (owner : Pubkey) : Prop :=
  match out, destination with
  | true, .token address => recorded = some address ∧
      ∃ account, s.ledger.tokenAccount? address = some account ∧ account.mint = escrow.mint
  | false, .internal address => s.registry.userAddress owner escrow.mint = address ∧
      ∃ account, s.registry.user? owner escrow.mint = some account
  | _, _ => False

/-- The fault of a credit that does not fit. -/
def Registry.creditFaults (r : Registry) (owner mint : Pubkey) (amount : UInt64) (reason : String) :
    List EscrowError :=
  match r.user? owner mint with
  | none => []
  | some account =>
      refusal (account.amount.toNat + amount.toNat < UInt64.size) (.programFault reason)

/-- What is wrong with the payee that a request names. -/
def State.payeeFaults (s : State) (escrow : Escrow) (out : Bool) (destination : BalanceAccount)
    (recorded : Option Pubkey) (owner : Pubkey) (reason : String) : List EscrowError :=
  match out, destination with
  | true, .token address =>
      refusal (recorded = some address) .constraintRaw ++ s.ledger.tokenFaults address escrow.mint
  | false, .internal address =>
      s.registry.userFaults address owner escrow.mint ++
        s.registry.creditFaults owner escrow.mint escrow.terms.amount reason
  | _, _ => [.constraintRaw]

section

variable {s : State} {escrow : Escrow} {out : Bool} {destination : BalanceAccount}
  {recorded : Option Pubkey} {owner : Pubkey} {reason : String}

theorem failsFirst_creditedBalance {r : Registry} {mint : Pubkey} {amount : UInt64}
    {account : UserAccount} (hfound : r.user? owner mint = some account) :
    FailsFirst (creditedBalance account.amount amount reason)
      (r.creditFaults owner mint amount reason) := by
  intro e
  rw [creditedBalance_eq_error_iff]
  unfold Registry.creditFaults refusal
  simp only [hfound]
  split
  case isTrue h => simp [Nat.not_le.2 h]
  case isFalse h => simp [Nat.le_of_not_lt h, eq_comm]

theorem State.failsFirst_checkPayee :
    FailsFirst (s.checkPayee escrow out destination recorded owner reason)
      (s.payeeFaults escrow out destination recorded owner reason) := by
  -- A wrong kind of destination ends both the check and the list of faults at once.
  cases out with
  | true =>
      cases destination with
      | token address =>
          exact (failsFirst_require _).bind fun _ =>
            Ledger.failsFirst_tokenAccountFor.bind_pure fun _ => none
      | internal address => exact failsFirst_throw _
  | false =>
      cases destination with
      | token address => exact failsFirst_throw _
      | internal address =>
          refine Registry.failsFirst_userAt.bind_of_ok fun account hat => ?_
          obtain ⟨-, hfound⟩ := Registry.userAt_eq_ok_iff.1 hat
          exact (failsFirst_creditedBalance hfound).bind_pure some

theorem State.isPayee_of_payeeFaults
    (h : s.payeeFaults escrow out destination recorded owner reason = []) :
    s.IsPayee escrow out destination recorded owner := by
  -- The four cases are those of the check; two of them are a fault by themselves.
  cases out with
  | true =>
      cases destination with
      | token address =>
          obtain ⟨hrecorded, htoken⟩ := List.append_eq_nil_iff.1 h
          exact ⟨refusal_eq_nil_iff.1 hrecorded, Ledger.tokenFaults_eq_nil_iff.1 htoken⟩
      | internal address => cases h
  | false =>
      cases destination with
      | token address => cases h
      | internal address =>
          exact Registry.userFaults_eq_nil_iff.1 (List.append_eq_nil_iff.1 h).1

theorem State.payeeFaults_of_isPayee (h : s.IsPayee escrow out destination recorded owner) :
    s.payeeFaults escrow out destination recorded owner reason =
      if out then [] else
        s.registry.creditFaults owner escrow.mint escrow.terms.amount reason := by
  cases out with
  | true =>
      cases destination with
      | token address =>
          obtain ⟨hrecorded, htoken⟩ := h
          exact List.append_eq_nil_iff.2
            ⟨refusal_eq_nil_iff.2 hrecorded, Ledger.tokenFaults_eq_nil_iff.2 htoken⟩
      | internal address => exact h.elim
  | false =>
      cases destination with
      | token address => exact h.elim
      | internal address =>
          -- The right account may still have no room for the amount, which the source tells only
          -- here.
          show s.registry.userFaults address owner escrow.mint ++ _ = _
          rw [Registry.userFaults_eq_nil_iff.2 h]
          rfl

theorem Ledger.allOnAccounts_tokenFaults (l : Ledger) (address mint : Pubkey) :
    AllOnAccounts (l.tokenFaults address mint) := by
  unfold tokenFaults
  split
  · exact .singleton (.inl rfl)
  · exact .refusal (.inl rfl)

theorem Registry.allOnAccounts_userFaults (r : Registry) (address owner mint : Pubkey) :
    AllOnAccounts (r.userFaults address owner mint) :=
  .append (.refusal (.inl rfl)) (.refusal (.inl rfl))

theorem State.allOnAccounts_payeeFaults :
    AllOnAccounts (s.payeeFaults escrow out destination recorded owner reason) := by
  cases out with
  | true =>
      cases destination with
      | token address =>
          exact .append (.refusal (.inl rfl)) (Ledger.allOnAccounts_tokenFaults _ _ _)
      | internal address => exact .singleton (.inl rfl)
  | false =>
      cases destination with
      | token address => exact .singleton (.inl rfl)
      | internal address =>
          refine .append (Registry.allOnAccounts_userFaults _ _ _ _) ?_
          unfold Registry.creditFaults
          split
          · exact .nil
          · exact .refusal (.inr rfl)

end

/-! ## Data buffers -/

/-- What is wrong with an address that should be that of a data buffer of a signer. -/
def Registry.bufferFaults (r : Registry) (address signer : Pubkey) : List EscrowError :=
  match r.buffer? address with
  | none => [.accountNotInitialized]
  | some buffer => refusal (buffer.owner = signer) .invalidUserData

theorem Registry.failsFirst_ownBuffer {r : Registry} {address signer : Pubkey} :
    FailsFirst (r.ownBuffer address signer) (r.bufferFaults address signer) := by
  intro e
  unfold ownBuffer bufferFaults
  cases r.buffer? address with
  | none => simp
  | some buffer => by_cases howner : buffer.owner = signer <;> simp [refusal, howner]

theorem Registry.bufferFaults_eq_nil_iff {r : Registry} {address signer : Pubkey} :
    r.bufferFaults address signer = [] ↔ ∃ data, r.buffer? address = some ⟨signer, data⟩ := by
  unfold bufferFaults
  constructor
  · intro h
    cases hfound : r.buffer? address with
    | none =>
        rw [hfound] at h
        cases h
    | some buffer =>
        rw [hfound] at h
        obtain ⟨owner, data⟩ := buffer
        obtain rfl : owner = signer := refusal_eq_nil_iff.1 h
        exact ⟨data, rfl⟩
  · rintro ⟨data, hfound⟩
    simp [hfound]

theorem Registry.bufferFaults_congr {r r' : Registry} {address : Pubkey}
    (h : (r'.buffer? address).map DataBuffer.owner = (r.buffer? address).map DataBuffer.owner)
    (signer : Pubkey) : r'.bufferFaults address signer = r.bufferFaults address signer := by
  unfold bufferFaults
  cases hfound : r.buffer? address with
  | none =>
      rw [hfound] at h
      rw [Option.map_eq_none_iff.1 h]
  | some buffer =>
      rw [hfound] at h
      obtain ⟨buffer', hfound', hsame⟩ := Option.map_eq_some_iff.1 h
      rw [hfound']
      simp only [hsame]

theorem Registry.allOnAccounts_bufferFaults (r : Registry) (address signer : Pubkey) :
    AllOnAccounts (r.bufferFaults address signer) := by
  unfold bufferFaults
  split
  · exact .singleton (.inl rfl)
  · exact .refusal (.inl rfl)

/-! ## Escrows -/

/-- What is wrong with an address that should be that of a live escrow, and if nothing is, with what
is said of the escrow. -/
def Registry.escrowFaults (r : Registry) (hash : Hash) (address : Pubkey)
    (faults : Escrow → List EscrowError) : List EscrowError :=
  refusal (r.escrowAddress hash = address) .constraintSeeds ++
    match r.escrow? hash with
    | none => [.accountNotInitialized]
    | some escrow => faults escrow

namespace Registry

variable {r : Registry} {hash : Hash} {address : Pubkey} {faults : Escrow → List EscrowError}

theorem failsFirst_escrowAt_bind {β : Type} {next : Escrow → Except EscrowError β}
    (h : ∀ escrow, FailsFirst (next escrow) (faults escrow)) :
    FailsFirst (r.escrowAt hash address >>= next) (r.escrowFaults hash address faults) := by
  unfold escrowAt escrowFaults
  by_cases haddress : r.escrowAddress hash = address
  · rw [refusal, if_pos haddress, List.nil_append, if_neg (not_not_intro haddress)]
    cases r.escrow? hash with
    | none => exact failsFirst_throw _
    | some escrow => exact h escrow
  · rw [refusal, if_neg haddress, if_pos haddress]
    intro e
    show Except.error EscrowError.constraintSeeds = .error e ↔ _
    simp

theorem escrowFaults_eq_nil_iff :
    r.escrowFaults hash address faults = [] ↔
      r.escrowAddress hash = address ∧
        ∃ escrow, r.escrow? hash = some escrow ∧ faults escrow = [] := by
  unfold escrowFaults
  rw [List.append_eq_nil_iff, refusal_eq_nil_iff]
  cases r.escrow? hash <;> simp

theorem escrowFaults_of_live {escrow : Escrow} (haddress : r.escrowAddress hash = address)
    (hlive : r.escrow? hash = some escrow) :
    r.escrowFaults hash address faults = faults escrow := by
  unfold escrowFaults
  rw [refusal_eq_nil_iff.2 haddress, hlive]
  rfl

theorem allOnAccounts_escrowFaults (h : ∀ escrow, AllOnAccounts (faults escrow)) :
    AllOnAccounts (r.escrowFaults hash address faults) := by
  refine .append (.refusal (.inl rfl)) ?_
  split
  · exact .singleton (.inl rfl)
  · exact h _

end Registry

/-! ## Claims -/

namespace ClaimRequest

def bufferFaults (req : ClaimRequest) (s : State) : List EscrowError :=
  match req.secret with
  | .inline _ => []
  | .buffer address => s.registry.bufferFaults address req.signer

/-- What is wrong with the accounts that a claim names. -/
def accountFaults (req : ClaimRequest) (s : State) : List EscrowError :=
  s.registry.escrowFaults req.hash req.escrowAddress fun escrow =>
    refusal (req.funder = escrow.funder) .constraintRaw ++
      (s.payeeFaults escrow escrow.terms.payOut req.claimerDestination
          escrow.claimerTokenAccount escrow.claimer "claimer balance overflow" ++
        (refusal (req.preamble.source = Preamble.trustedSource) .constraintAddress ++
          req.bufferFaults s))

/-- The checks of a claim that come before its proof. -/
def checkAccounts (req : ClaimRequest) (s : State) :
    Except EscrowError (Escrow × Option UInt64 × Bytes × Option Pubkey) := do
  let escrow ← s.registry.escrowAt req.hash req.escrowAddress
  require (req.funder = escrow.funder) .constraintRaw
  let credited ← req.checkDestination escrow s
  req.preamble.checkSource
  let (secret, buffer) ← req.readSecret s
  return (escrow, credited, secret, buffer)

variable {req : ClaimRequest} {s : State}

/-- After the accounts there is the proof, and nothing else. -/
theorem plan_eq_bind (env : Env) :
    req.plan env s = (do
      let (escrow, credited, secret, buffer) ← req.checkAccounts s
      let opened ← escrow.terms.verifyClaim env.config.relayProgramId secret req.preamble
      return { escrow, credited, buffer, secret := opened, batch := req.batch escrow s }) := by
  simp only [plan, checkAccounts, bind_assoc, pure_bind]

theorem failsFirst_readSecret : FailsFirst (req.readSecret s) (req.bufferFaults s) := by
  unfold readSecret bufferFaults
  cases req.secret with
  | inline secret =>
      intro e
      simp [pure_ne_error]
  | buffer address => exact Registry.failsFirst_ownBuffer.bind_pure _

/-- **The accounts of a claim are refused for the first thing that is wrong with them.** -/
theorem failsFirst_checkAccounts : FailsFirst (req.checkAccounts s) (req.accountFaults s) := by
  refine Registry.failsFirst_escrowAt_bind fun escrow => ?_
  exact (failsFirst_require _).bind fun _ => State.failsFirst_checkPayee.bind fun _ =>
    (failsFirst_require _).bind fun _ => failsFirst_readSecret.bind_pure _

theorem allOnAccounts_accountFaults : AllOnAccounts (req.accountFaults s) := by
  refine Registry.allOnAccounts_escrowFaults fun escrow => .append (.refusal (.inl rfl))
    (.append State.allOnAccounts_payeeFaults (.append (.refusal (.inl rfl)) ?_))
  unfold bufferFaults
  split
  · exact .nil
  · exact Registry.allOnAccounts_bufferFaults _ _ _

/-- **What a claim may get wrong about accounts.** -/
inductive Misnames (req : ClaimRequest) (s : State) : Prop
  /-- The escrow is not where the request says. -/
  | escrowAddress (h : s.registry.escrowAddress req.hash ≠ req.escrowAddress)
  /-- There is no escrow of the hash. -/
  | hash (h : s.registry.escrow? req.hash = none)
  /-- Somebody else funded the pot. -/
  | funder {escrow : Escrow} (hlive : s.registry.escrow? req.hash = some escrow)
      (h : req.funder ≠ escrow.funder)
  /-- The tokens have to go to another account. -/
  | destination {escrow : Escrow} (hlive : s.registry.escrow? req.hash = some escrow)
      (h : ¬s.IsPayee escrow escrow.terms.payOut req.claimerDestination
        escrow.claimerTokenAccount escrow.claimer)
  /-- The instructions were read from somewhere else. -/
  | source (h : req.preamble.source ≠ Preamble.trustedSource)
  /-- The data buffer is not there or not the signer's. -/
  | buffer {address : Pubkey} (hsecret : req.secret = .buffer address)
      (h : ∀ data, s.registry.buffer? address ≠ some ⟨req.signer, data⟩)

theorem accountFaults_ne_nil (h : req.Misnames s) : req.accountFaults s ≠ [] := by
  intro hnone
  obtain ⟨haddress, escrow, hlive, hrest⟩ := Registry.escrowFaults_eq_nil_iff.1 hnone
  simp only [List.append_eq_nil_iff, refusal_eq_nil_iff] at hrest
  obtain ⟨hfunder, hpayee, hsource, hbuffer⟩ := hrest
  have hsame {found : Escrow} (hfound : s.registry.escrow? req.hash = some found) :
      found = escrow := Option.some.inj (hfound.symm.trans hlive)
  -- Each way to misname an account is ruled out by its own part of the list.
  cases h with
  | escrowAddress h => exact h haddress
  | hash h =>
      rw [hlive] at h
      cases h
  | funder hfound h =>
      obtain rfl := hsame hfound
      exact h hfunder
  | destination hfound h =>
      obtain rfl := hsame hfound
      exact h (State.isPayee_of_payeeFaults hpayee)
  | source h => exact h hsource
  | buffer hsecret h =>
      rw [bufferFaults, hsecret] at hbuffer
      obtain ⟨data, hfound⟩ := Registry.bufferFaults_eq_nil_iff.1 hbuffer
      exact h data hfound

/-- **Nothing else is wrong with accounts.** Unless a claim misnames one of them, its accounts are
good, but for a credit that may not fit. -/
theorem accountFaults_of_not_misnames (h : ¬req.Misnames s) :
    ∃ escrow, s.registry.escrow? req.hash = some escrow ∧
      req.accountFaults s = if escrow.terms.payOut then [] else
        s.registry.creditFaults escrow.claimer escrow.mint escrow.terms.amount
          "claimer balance overflow" := by
  cases hlive : s.registry.escrow? req.hash with
  | none => exact absurd (.hash hlive) h
  | some escrow =>
      have haddress : s.registry.escrowAddress req.hash = req.escrowAddress :=
        Decidable.not_not.1 fun hne => h (.escrowAddress hne)
      have hfunder : req.funder = escrow.funder :=
        Decidable.not_not.1 fun hne => h (.funder hlive hne)
      have hpayee : s.IsPayee escrow escrow.terms.payOut req.claimerDestination
          escrow.claimerTokenAccount escrow.claimer :=
        Classical.not_not.1 fun hne => h (.destination hlive hne)
      have hsource : req.preamble.source = Preamble.trustedSource :=
        Decidable.not_not.1 fun hne => h (.source hne)
      have hbuffer : req.bufferFaults s = [] := by
        unfold bufferFaults
        cases hsecret : req.secret with
        | inline secret => rfl
        | buffer address =>
            apply Registry.bufferFaults_eq_nil_iff.2
            exact Classical.not_forall_not.1 fun hnone => h (.buffer hsecret hnone)
      -- Every part of the list is empty but the room for the credit.
      refine ⟨escrow, rfl, ?_⟩
      rw [accountFaults, Registry.escrowFaults_of_live haddress hlive,
        refusal_eq_nil_iff.2 hfunder, refusal_eq_nil_iff.2 hsource,
        State.payeeFaults_of_isPayee hpayee, hbuffer, List.nil_append, List.append_nil,
        List.append_nil]

/-- The rest of a pot is misnamed by everybody who did not fund it. -/
theorem misnames_of_funder {escrow : Escrow} {other : Pubkey}
    (hlive : s.registry.escrow? escrow.terms.hash = some escrow) (h : other ≠ escrow.funder)
    (signer : Pubkey) (secret : Bytes) (preamble : Preamble) :
    ({ escrow.inlineClaim s.registry signer secret preamble with funder := other } :
      ClaimRequest).Misnames s := .funder hlive h

/-- The claim with other evidence: another secret, unless it is staged, and other instructions. -/
def withEvidence (req : ClaimRequest) (secret : Bytes) (instructions : List Instruction) :
    ClaimRequest :=
  { req with
    secret := match req.secret with
      | .inline _ => .inline secret
      | .buffer address => .buffer address
    preamble := { req.preamble with instructions } }

end ClaimRequest

/-- Two states differ in nothing but what is in the data buffers. -/
structure State.SameButContents (s s' : State) : Prop where
  ledger : s'.ledger = s.ledger
  programId : s'.registry.programId = s.registry.programId
  escrows : s'.registry.escrows = s.registry.escrows
  users : s'.registry.users = s.registry.users
  owner : ∀ address, (s'.registry.buffer? address).map DataBuffer.owner =
    (s.registry.buffer? address).map DataBuffer.owner

theorem ClaimRequest.accountFaults_withEvidence {req : ClaimRequest} {s s' : State}
    (h : s.SameButContents s') (secret : Bytes) (instructions : List Instruction) :
    (req.withEvidence secret instructions).accountFaults s' = req.accountFaults s := by
  have hbuffer : (req.withEvidence secret instructions).bufferFaults s' = req.bufferFaults s := by
    unfold bufferFaults withEvidence
    cases req.secret with
    | inline _ => rfl
    | buffer address => exact Registry.bufferFaults_congr (h.owner address) req.signer
  obtain ⟨⟨programId, escrows, users, buffers⟩, ledger⟩ := s
  obtain ⟨⟨programId', escrows', users', buffers'⟩, ledger'⟩ := s'
  obtain ⟨rfl, rfl, rfl, rfl, -⟩ := h
  unfold accountFaults
  rw [hbuffer]
  rfl

/-! ## Refunds -/

namespace RefundRequest

def claimerFaults (req : RefundRequest) (escrow : Escrow) (s : State) : List EscrowError :=
  if escrow.terms.payOut then []
  else
    match req.claimerUserAccount with
    | none => [.constraintRaw]
    | some address => s.registry.userFaults address escrow.claimer escrow.mint

/-- What is wrong with the accounts that a refund names. -/
def accountFaults (req : RefundRequest) (s : State) : List EscrowError :=
  s.registry.escrowFaults req.hash req.escrowAddress fun escrow =>
    refusal (req.offerer = escrow.offerer ∧ req.claimer = escrow.claimer) .constraintRaw ++
      (s.payeeFaults escrow escrow.terms.payIn req.offererDestination
          escrow.offererTokenAccount escrow.offerer "offerer balance overflow" ++
        (req.claimerFaults escrow s ++
          refusal (req.preamble.source = Preamble.trustedSource) .constraintAddress))

/-- The checks of a refund that come before it is looked at whether it is allowed. -/
def checkAccounts (req : RefundRequest) (s : State) :
    Except EscrowError (Escrow × Option UInt64) := do
  let escrow ← s.registry.escrowAt req.hash req.escrowAddress
  require (req.offerer = escrow.offerer ∧ req.claimer = escrow.claimer) .constraintRaw
  let refunded ← req.checkDestination escrow s
  req.checkClaimer escrow s
  req.preamble.checkSource
  return (escrow, refunded)

variable {req : RefundRequest} {s : State} {escrow : Escrow}

/-- After the accounts there is what allows the refund, and nothing else. -/
theorem plan_eq_bind (env : Env) :
    req.plan env s = (do
      let (escrow, refunded) ← req.checkAccounts s
      let kind ← escrow.authorizeRefund env.config env.now req.auth req.preamble
      return { escrow, refunded, kind, batch := req.batch escrow kind s }) := by
  simp only [plan, checkAccounts, bind_assoc, pure_bind]

theorem failsFirst_checkClaimer :
    FailsFirst (req.checkClaimer escrow s) (req.claimerFaults escrow s) := by
  unfold checkClaimer claimerFaults
  split
  · intro e
    simp
  · cases req.claimerUserAccount with
    | none => exact failsFirst_throw _
    | some address => exact Registry.failsFirst_userAt.bind_pure _

/-- **The accounts of a refund are refused for the first thing that is wrong with them.** -/
theorem failsFirst_checkAccounts : FailsFirst (req.checkAccounts s) (req.accountFaults s) := by
  refine Registry.failsFirst_escrowAt_bind fun escrow => ?_
  exact (failsFirst_require _).bind fun _ => State.failsFirst_checkPayee.bind fun _ =>
    failsFirst_checkClaimer.bind fun _ => (failsFirst_require _).bind_pure _

theorem allOnAccounts_accountFaults : AllOnAccounts (req.accountFaults s) := by
  refine Registry.allOnAccounts_escrowFaults fun escrow => .append (.refusal (.inl rfl))
    (.append State.allOnAccounts_payeeFaults (.append ?_ (.refusal (.inl rfl))))
  unfold claimerFaults
  split
  · exact .nil
  · split
    · exact .singleton (.inl rfl)
    · exact Registry.allOnAccounts_userFaults _ _ _ _

/-- **What a refund may get wrong about accounts.** -/
inductive Misnames (req : RefundRequest) (s : State) : Prop
  /-- The escrow is not where the request says. -/
  | escrowAddress (h : s.registry.escrowAddress req.hash ≠ req.escrowAddress)
  /-- There is no escrow of the hash. -/
  | hash (h : s.registry.escrow? req.hash = none)
  /-- Somebody else gave the tokens. -/
  | offerer {escrow : Escrow} (hlive : s.registry.escrow? req.hash = some escrow)
      (h : req.offerer ≠ escrow.offerer)
  /-- Somebody else was to get them. -/
  | claimer {escrow : Escrow} (hlive : s.registry.escrow? req.hash = some escrow)
      (h : req.claimer ≠ escrow.claimer)
  /-- The tokens have to go back to another account. -/
  | destination {escrow : Escrow} (hlive : s.registry.escrow? req.hash = some escrow)
      (h : ¬s.IsPayee escrow escrow.terms.payIn req.offererDestination
        escrow.offererTokenAccount escrow.offerer)
  /-- The user account of the claimer is needed, and none is named. -/
  | noUserAccount {escrow : Escrow} (hlive : s.registry.escrow? req.hash = some escrow)
      (hpay : escrow.terms.payOut = false) (h : req.claimerUserAccount = none)
  /-- The user account of the claimer is needed, and is another one or not there. -/
  | userAccount {escrow : Escrow} {address : Pubkey}
      (hlive : s.registry.escrow? req.hash = some escrow) (hpay : escrow.terms.payOut = false)
      (hnamed : req.claimerUserAccount = some address)
      (h : ¬(s.registry.userAddress escrow.claimer escrow.mint = address ∧
        ∃ account, s.registry.user? escrow.claimer escrow.mint = some account))
  /-- The instructions were read from somewhere else. -/
  | source (h : req.preamble.source ≠ Preamble.trustedSource)

theorem accountFaults_ne_nil (h : req.Misnames s) : req.accountFaults s ≠ [] := by
  intro hnone
  obtain ⟨haddress, escrow, hlive, hrest⟩ := Registry.escrowFaults_eq_nil_iff.1 hnone
  simp only [List.append_eq_nil_iff, refusal_eq_nil_iff] at hrest
  obtain ⟨⟨hofferer, hclaimer⟩, hpayee, huser, hsource⟩ := hrest
  have hsame {found : Escrow} (hfound : s.registry.escrow? req.hash = some found) :
      found = escrow := Option.some.inj (hfound.symm.trans hlive)
  -- As for a claim, with two parties and an account of the claimer in place of a funder.
  cases h with
  | escrowAddress h => exact h haddress
  | hash h =>
      rw [hlive] at h
      cases h
  | offerer hfound h =>
      obtain rfl := hsame hfound
      exact h hofferer
  | claimer hfound h =>
      obtain rfl := hsame hfound
      exact h hclaimer
  | destination hfound h =>
      obtain rfl := hsame hfound
      exact h (State.isPayee_of_payeeFaults hpayee)
  | noUserAccount hfound hpay h =>
      obtain rfl := hsame hfound
      simp [claimerFaults, hpay, h] at huser
  | userAccount hfound hpay hnamed h =>
      obtain rfl := hsame hfound
      simp only [claimerFaults, hpay, hnamed, Bool.false_eq_true, if_false,
        Registry.userFaults_eq_nil_iff] at huser
      exact h huser
  | source h => exact h hsource

/-- **Nothing else is wrong with accounts.** Unless a refund misnames one of them, its accounts are
good, but for a credit that may not fit. -/
theorem accountFaults_of_not_misnames (h : ¬req.Misnames s) :
    ∃ escrow, s.registry.escrow? req.hash = some escrow ∧
      req.accountFaults s = if escrow.terms.payIn then [] else
        s.registry.creditFaults escrow.offerer escrow.mint escrow.terms.amount
          "offerer balance overflow" := by
  cases hlive : s.registry.escrow? req.hash with
  | none => exact absurd (.hash hlive) h
  | some escrow =>
      have haddress : s.registry.escrowAddress req.hash = req.escrowAddress :=
        Decidable.not_not.1 fun hne => h (.escrowAddress hne)
      have hparties : req.offerer = escrow.offerer ∧ req.claimer = escrow.claimer :=
        ⟨Decidable.not_not.1 fun hne => h (.offerer hlive hne),
          Decidable.not_not.1 fun hne => h (.claimer hlive hne)⟩
      have hpayee : s.IsPayee escrow escrow.terms.payIn req.offererDestination
          escrow.offererTokenAccount escrow.offerer :=
        Classical.not_not.1 fun hne => h (.destination hlive hne)
      have huser : req.claimerFaults escrow s = [] := by
        unfold claimerFaults
        split
        -- Tokens that would be paid out ask for no account of the claimer.
        case isTrue => rfl
        case isFalse hpay =>
          rw [Bool.not_eq_true] at hpay
          cases hnamed : req.claimerUserAccount with
          | none => exact absurd (.noUserAccount hlive hpay hnamed) h
          | some address =>
              apply Registry.userFaults_eq_nil_iff.2
              exact Classical.not_not.1 fun hne => h (.userAccount hlive hpay hnamed hne)
      have hsource : req.preamble.source = Preamble.trustedSource :=
        Decidable.not_not.1 fun hne => h (.source hne)
      refine ⟨escrow, rfl, ?_⟩
      rw [accountFaults, Registry.escrowFaults_of_live haddress hlive,
        refusal_eq_nil_iff.2 hparties, State.payeeFaults_of_isPayee hpayee, huser,
        refusal_eq_nil_iff.2 hsource, List.nil_append, List.append_nil, List.append_nil]

/-- Nobody but the claimer is the one to name. -/
theorem misnames_of_claimer {other : Pubkey}
    (hlive : s.registry.escrow? escrow.terms.hash = some escrow) (h : other ≠ escrow.claimer)
    (preamble : Preamble) :
    ({ escrow.timeoutRefund s.registry preamble with claimer := other } :
      RefundRequest).Misnames s := .claimer hlive h

/-- The refund asked for in another way, and with other instructions. -/
def withAuthority (req : RefundRequest) (auth : RefundAuth) (instructions : List Instruction) :
    RefundRequest :=
  { req with auth, preamble := { req.preamble with instructions } }

theorem accountFaults_withAuthority (auth : RefundAuth) (instructions : List Instruction) :
    (req.withAuthority auth instructions).accountFaults s = req.accountFaults s := rfl

end RefundRequest

/-! ## Refusals -/

namespace Operation

variable {env : Env} {s : State} {e : EscrowError}

theorem run_claim_of_accountFault {req : ClaimRequest} (h : (req.accountFaults s).head? = some e) :
    (claim env req).run s = (.error e, s) := by
  have hplan : req.plan env s = .error e := by
    rw [ClaimRequest.plan_eq_bind, (ClaimRequest.failsFirst_checkAccounts e).2 h]
    rfl
  rw [run_claim]
  simp only [ClaimRequest.effect, hplan]
  rfl

theorem run_refund_of_accountFault {req : RefundRequest}
    (h : (req.accountFaults s).head? = some e) : (refund env req).run s = (.error e, s) := by
  have hplan : req.plan env s = .error e := by
    rw [RefundRequest.plan_eq_bind, (RefundRequest.failsFirst_checkAccounts e).2 h]
    rfl
  rw [run_refund]
  simp only [RefundRequest.effect, hplan]
  rfl

/-- **Accounts are decided before evidence.** A claim that misnames an account is refused, with one
and the same error about accounts, whatever its secret, what is in the data buffers, and whatever
was attested before it. So is a refund that misnames an account, whichever way it is asked for,
whenever, and whatever was attested before it. Nothing is changed. -/
theorem accounts_before_evidence (s : State) :
    (∀ req : ClaimRequest, req.Misnames s → ∃ e : EscrowError, e.OnAccounts ∧
      ∀ (env : Env) (secret : Bytes) (instructions : List Instruction) (s' : State),
        s.SameButContents s' →
          (claim env (req.withEvidence secret instructions)).run s' = (.error e, s')) ∧
    (∀ req : RefundRequest, req.Misnames s → ∃ e : EscrowError, e.OnAccounts ∧
      ∀ (env : Env) (auth : RefundAuth) (instructions : List Instruction),
        (refund env (req.withAuthority auth instructions)).run s = (.error e, s)) := by
  refine ⟨fun req hmisnames => ?_, fun req hmisnames => ?_⟩
  · obtain ⟨e, rest, hfaults⟩ :=
      List.exists_cons_of_ne_nil (ClaimRequest.accountFaults_ne_nil hmisnames)
    -- The head of the list does not depend on the evidence, and it is what the request fails with.
    have hmem : e ∈ req.accountFaults s := hfaults ▸ List.mem_cons_self ..
    refine ⟨e, ClaimRequest.allOnAccounts_accountFaults e hmem, ?_⟩
    intro env secret instructions s' hsame
    apply run_claim_of_accountFault
    rw [ClaimRequest.accountFaults_withEvidence hsame, hfaults]
    rfl
  · obtain ⟨e, rest, hfaults⟩ :=
      List.exists_cons_of_ne_nil (RefundRequest.accountFaults_ne_nil hmisnames)
    have hmem : e ∈ req.accountFaults s := hfaults ▸ List.mem_cons_self ..
    refine ⟨e, RefundRequest.allOnAccounts_accountFaults e hmem, ?_⟩
    intro env auth instructions
    apply run_refund_of_accountFault
    rw [RefundRequest.accountFaults_withAuthority, hfaults]
    rfl

open Engine in
/-- Somebody else wants the rest of a pot, and a refund names another claimer. The answer does not
tell whether the secret was right, or whether the time had come. -/
theorem accounts_before_evidence_of_ownPot :
    let s := ((Engine.new .standard 0 .empty).run ownPot).state
    let stolen : ClaimRequest :=
      { escrowOfPot.inlineClaim s.registry someOwner someSecret.toList .empty with
        funder := someMint }
    let refunded : RefundRequest :=
      { escrowOfPot.timeoutRefund s.registry .empty with claimer := someMint }
    (∃ e : EscrowError, e.OnAccounts ∧ ∀ secret now,
      (claim ⟨.standard, now⟩ (stolen.withEvidence secret [])).run s = (.error e, s)) ∧
    (∃ e : EscrowError, e.OnAccounts ∧ ∀ auth now,
      (refund ⟨.standard, now⟩ (refunded.withAuthority auth [])).run s = (.error e, s)) := by
  have hlive : ((Engine.new .standard 0 .empty).run ownPot).state.registry.escrow?
      escrowOfPot.terms.hash = some escrowOfPot := by
    rw [funded_ownPot.hash_eq]
    exact funded_ownPot.live
  -- Of the history only this matters, so it is not looked into again.
  obtain ⟨before, hbefore⟩ : ∃ before, before = (Engine.new .standard 0 .empty).run ownPot :=
    ⟨_, rfl⟩
  rw [← hbefore] at hlive ⊢
  intro s stolen refunded
  have hfunder : someMint ≠ escrowOfPot.funder := by decide
  have hclaim : stolen.Misnames s := ClaimRequest.misnames_of_funder hlive hfunder _ _ _
  have hclaimer : someMint ≠ escrowOfPot.claimer := by decide
  have hrefund : refunded.Misnames s := RefundRequest.misnames_of_claimer hlive hclaimer _
  obtain ⟨e, he, hstolen⟩ := (accounts_before_evidence s).1 stolen hclaim
  obtain ⟨e', he', hrefunded⟩ := (accounts_before_evidence s).2 refunded hrefund
  refine ⟨⟨e, he, fun secret now => ?_⟩, ⟨e', he', fun auth now => ?_⟩⟩
  · exact hstolen _ secret [] s ⟨rfl, rfl, rfl, rfl, fun _ => rfl⟩
  · exact hrefunded _ auth []

end Operation

end AtomicEscrow
