import AtomicEscrow.Record.Escrow
import AtomicEscrow.Record.UserAccount
import AtomicEscrow.Wire.Basic

set_option autoImplicit false

/-! # Terms and records as JSON -/

namespace AtomicEscrow

def SwapKind.ofName? (name : String) : Option SwapKind :=
  SwapKind.all.find? fun kind => kind.name = name

instance : Wire SwapKind where
  write kind := .text kind.name
  read j := do
    let name ← j.plainChoice?
    SwapKind.ofName? name

instance : Wire Terms where
  write t := .record [
    ("kind", write t.kind), ("confirmations", write t.confirmations), ("nonce", write t.nonce),
    ("hash", write t.hash), ("pay_in", write t.payIn), ("pay_out", write t.payOut),
    ("amount", write t.amount), ("expiry", write t.expiry), ("sequence", write t.sequence)]
  read j := do
    let [kind, confirmations, nonce, hash, payIn, payOut, amount, expiry, sequence] ←
      j.fields? ["kind", "confirmations", "nonce", "hash", "pay_in", "pay_out", "amount",
        "expiry", "sequence"] | none
    return {
      kind := ← Json.required kind
      confirmations := ← Json.required confirmations
      nonce := ← Json.required nonce
      hash := ← Json.required hash
      payIn := ← Json.required payIn
      payOut := ← Json.required payOut
      amount := ← Json.required amount
      expiry := ← Json.required expiry
      sequence := ← Json.required sequence }

instance : Wire Escrow where
  write e := .record [
    ("data", write e.terms), ("offerer", write e.offerer),
    ("offerer_ata", write e.offererTokenAccount), ("claimer", write e.claimer),
    ("claimer_ata", write e.claimerTokenAccount), ("mint", write e.mint),
    ("claimer_bounty", write e.claimerBounty), ("security_deposit", write e.securityDeposit)]
  read j := do
    let [terms, offerer, offererAccount, claimer, claimerAccount, mint, bounty, deposit] ←
      j.fields? ["data", "offerer", "offerer_ata", "claimer", "claimer_ata", "mint",
        "claimer_bounty", "security_deposit"] | none
    return {
      terms := ← Json.required terms
      offerer := ← Json.required offerer
      offererTokenAccount := ← Json.optional offererAccount
      claimer := ← Json.required claimer
      claimerTokenAccount := ← Json.optional claimerAccount
      mint := ← Json.required mint
      claimerBounty := ← Json.required bounty
      securityDeposit := ← Json.required deposit }

instance : Wire BalanceAccount where
  write
    | .token address => .choice "Token" (write address)
    | .internal address => .choice "Internal" (write address)
  read j := do
    match j.choice? with
    | some ("Token", some content) => return .token (← Wire.read content)
    | some ("Internal", some content) => return .internal (← Wire.read content)
    | _ => none

instance : Wire FundingSource where
  write
    | .payIn account => .choice "PayIn" (.record [("offerer_token_account", write account)])
    | .internal account deposit bounty =>
        .choice "Internal" (.record [
          ("offerer_user_account", write account), ("security_deposit", write deposit),
          ("claimer_bounty", write bounty)])
  read j := do
    match j.choice? with
    | some ("PayIn", some content) =>
        let [account] ← content.fields? ["offerer_token_account"] | none
        return .payIn (← Json.required account)
    | some ("Internal", some content) =>
        let [account, deposit, bounty] ←
          content.fields? ["offerer_user_account", "security_deposit", "claimer_bounty"] | none
        return .internal (← Json.required account) (← Json.required deposit)
          (← Json.required bounty)
    | _ => none

instance : Wire DataBuffer where
  write b := .record [("owner", write b.owner), ("data", write b.data)]
  read j := do
    let [owner, data] ← j.fields? ["owner", "data"] | none
    return { owner := ← Json.required owner, data := ← Json.required data }

instance : Wire Tally where
  write t := write t.toList
  read j := do
    let [htlc, chain, chainNonced, chainTxhash] ← (Wire.read j : Option (List UInt64)) | none
    return ⟨htlc, chain, chainNonced, chainTxhash⟩

instance : Wire UserAccount where
  write a := .record [
    ("owner", write a.owner), ("mint", write a.mint), ("amount", write a.amount),
    ("success_volume", write a.success.volume), ("success_count", write a.success.count),
    ("fail_volume", write a.failure.volume), ("fail_count", write a.failure.count),
    ("coop_close_volume", write a.cooperativeClose.volume),
    ("coop_close_count", write a.cooperativeClose.count)]
  read j := do
    let [owner, mint, amount, successVolume, successCount, failVolume, failCount, closeVolume,
        closeCount] ←
      j.fields? ["owner", "mint", "amount", "success_volume", "success_count", "fail_volume",
        "fail_count", "coop_close_volume", "coop_close_count"] | none
    return {
      owner := ← Json.required owner
      mint := ← Json.required mint
      amount := ← Json.required amount
      success := ⟨← Json.required successCount, ← Json.required successVolume⟩
      failure := ⟨← Json.required failCount, ← Json.required failVolume⟩
      cooperativeClose := ⟨← Json.required closeCount, ← Json.required closeVolume⟩ }

instance : Wire ReputationSummary where
  write s := .record [
    ("kind", write s.kind), ("success_count", write s.successCount),
    ("success_volume", write s.successVolume),
    ("coop_close_count", write s.cooperativeCloseCount),
    ("coop_close_volume", write s.cooperativeCloseVolume),
    ("fail_count", write s.failureCount), ("fail_volume", write s.failureVolume)]
  read j := do
    let [kind, successCount, successVolume, closeCount, closeVolume, failCount, failVolume] ←
      j.fields? ["kind", "success_count", "success_volume", "coop_close_count",
        "coop_close_volume", "fail_count", "fail_volume"] | none
    return {
      kind := ← Json.required kind
      successCount := ← Json.required successCount
      successVolume := ← Json.required successVolume
      cooperativeCloseCount := ← Json.required closeCount
      cooperativeCloseVolume := ← Json.required closeVolume
      failureCount := ← Json.required failCount
      failureVolume := ← Json.required failVolume }

end AtomicEscrow
