import AtomicEscrow.Failure.Data
import AtomicEscrow.Failure.Ledger

set_option autoImplicit false

/-! # Refused requests

Why the escrow program refuses a request. Each cause has a name, a number that clients match
on, a category and a message, all in one table (`EscrowError.entry`). Causes that arise in the
data or in the ledger are turned into causes of the program by `ofData` and `ofLedger`.
-/

namespace AtomicEscrow

/-- What kind of mistake a refusal points to. -/
inductive ErrorCategory
  /-- The accounts of the request do not fit together. -/
  | structural
  /-- Nobody allowed it, or not now. -/
  | authorization
  /-- The evidence does not prove what it should. -/
  | proof
  /-- The terms are outside what the program honours. -/
  | configuration
  /-- The program cannot go on. -/
  | fault
deriving DecidableEq

def ErrorCategory.name : ErrorCategory → String
  | structural => "Structural"
  | authorization => "Authorization"
  | proof => "Proof"
  | configuration => "Configuration"
  | fault => "Fault"

/-- A cause for refusing a request. -/
inductive EscrowError
  | authExpired
  | notExpiredYet
  | invalidSecret
  | kindUnknown
  | tooManyConfirmations
  | invalidTxVerifyProgramId
  | invalidTxVerifyIx
  | invalidTxVerifyTxid
  | invalidTxVerifyConfirmations
  | invalidTx
  | invalidNonce
  | invalidVout
  | invalidUserData
  | invalidBlockheightVerifyProgramId
  | invalidBlockheightVerifyIx
  | invalidBlockheightVerifyHeight
  | invalidBlockheightVerifyOperation
  | signatureVerificationFailedInvalidProgram
  | signatureVerificationFailedInvalidData
  | invalidSwapDataPayIn
  | invalidSwapDataNonce
  | constraintRaw
  | constraintSeeds
  | constraintAddress
  | constraintTokenMint
  | accountNotInitialized
  | accountAlreadyInitialized
  | programFault (reason : String)
deriving DecidableEq

/-- What clients are told about a cause. -/
structure ErrorEntry where
  name : String
  code : Nat
  category : ErrorCategory
  message : String

namespace EscrowError

/-- The table of causes. -/
def entry : EscrowError → ErrorEntry
  | authExpired => ⟨"AuthExpired", 6000, .authorization, "Authorization expired"⟩
  | notExpiredYet => ⟨"NotExpiredYet", 6001, .authorization, "Request not expired yet"⟩
  | invalidSecret => ⟨"InvalidSecret", 6003, .proof, "Invalid secret provided"⟩
  | kindUnknown => ⟨"KindUnknown", 6005, .configuration, "Unknown type of the contract"⟩
  | tooManyConfirmations =>
      ⟨"TooManyConfirmations", 6006, .configuration, "Too many confirmations required"⟩
  | invalidTxVerifyProgramId =>
      ⟨"InvalidTxVerifyProgramId", 6007, .proof, "Invalid program id for transaction verification"⟩
  | invalidTxVerifyIx =>
      ⟨"InvalidTxVerifyIx", 6008, .proof, "Invalid instruction for transaction verification"⟩
  | invalidTxVerifyTxid =>
      ⟨"InvalidTxVerifyTxid", 6009, .proof, "Invalid txid for transaction verification"⟩
  | invalidTxVerifyConfirmations =>
      ⟨"InvalidTxVerifyConfirmations", 6010, .proof,
        "Invalid confirmations for transaction verification"⟩
  | invalidTx => ⟨"InvalidTx", 6011, .proof, "Invalid transaction/nSequence"⟩
  | invalidNonce => ⟨"InvalidNonce", 6012, .proof, "Invalid nonce used"⟩
  | invalidVout => ⟨"InvalidVout", 6013, .proof, "Invalid vout of the output used"⟩
  | invalidUserData => ⟨"InvalidUserData", 6016, .structural, "Invalid user data account"⟩
  | invalidBlockheightVerifyProgramId =>
      ⟨"InvalidBlockheightVerifyProgramId", 6017, .proof,
        "Invalid program id for blockheight verification"⟩
  | invalidBlockheightVerifyIx =>
      ⟨"InvalidBlockheightVerifyIx", 6018, .proof,
        "Invalid instruction for blockheight verification"⟩
  | invalidBlockheightVerifyHeight =>
      ⟨"InvalidBlockheightVerifyHeight", 6019, .proof,
        "Invalid height for blockheight verification"⟩
  | invalidBlockheightVerifyOperation =>
      ⟨"InvalidBlockheightVerifyOperation", 6020, .proof,
        "Invalid operation for blockheight verification"⟩
  | signatureVerificationFailedInvalidProgram =>
      ⟨"SignatureVerificationFailedInvalidProgram", 6021, .authorization,
        "Signature verification failed: invalid ed25519 program id"⟩
  | signatureVerificationFailedInvalidData =>
      ⟨"SignatureVerificationFailedInvalidData", 6025, .authorization,
        "Signature verification failed: invalid data"⟩
  | invalidSwapDataPayIn =>
      ⟨"InvalidSwapDataPayIn", 6026, .configuration, "Invalid swap data: pay in"⟩
  | invalidSwapDataNonce =>
      ⟨"InvalidSwapDataNonce", 6027, .configuration, "Invalid swap data: nonce"⟩
  | constraintRaw => ⟨"ConstraintRaw", 2003, .structural, "A raw constraint was violated"⟩
  | constraintSeeds => ⟨"ConstraintSeeds", 2006, .structural, "A seeds constraint was violated"⟩
  | constraintAddress =>
      ⟨"ConstraintAddress", 2012, .structural, "An address constraint was violated"⟩
  | constraintTokenMint =>
      ⟨"ConstraintTokenMint", 2014, .structural, "A token mint constraint was violated"⟩
  | accountNotInitialized =>
      ⟨"AccountNotInitialized", 3012, .structural,
        "The program expected this account to be already initialized"⟩
  | accountAlreadyInitialized =>
      ⟨"AccountAlreadyInitialized", 0, .structural, "Account already in use"⟩
  | programFault reason =>
      ⟨"ProgramFault", 1, .fault, s!"Program failed to complete: {reason}"⟩

def name (e : EscrowError) : String := e.entry.name

def code (e : EscrowError) : Nat := e.entry.code

def category (e : EscrowError) : ErrorCategory := e.entry.category

def message (e : EscrowError) : String := e.entry.message

/-- The causes that need no further words. -/
def plain : List EscrowError :=
  [authExpired, notExpiredYet, invalidSecret, kindUnknown, tooManyConfirmations,
   invalidTxVerifyProgramId, invalidTxVerifyIx, invalidTxVerifyTxid, invalidTxVerifyConfirmations,
   invalidTx, invalidNonce, invalidVout, invalidUserData, invalidBlockheightVerifyProgramId,
   invalidBlockheightVerifyIx, invalidBlockheightVerifyHeight, invalidBlockheightVerifyOperation,
   signatureVerificationFailedInvalidProgram, signatureVerificationFailedInvalidData,
   invalidSwapDataPayIn, invalidSwapDataNonce, constraintRaw, constraintSeeds, constraintAddress,
   constraintTokenMint, accountNotInitialized, accountAlreadyInitialized]

/-- The cause of a given name; a fault also needs its reason. -/
def ofName? (wanted reason : String) : Option EscrowError :=
  (plain ++ [programFault reason]).find? fun e => e.name = wanted

def ofData : DataError → EscrowError
  | .unknownSwapKind _ => kindUnknown
  | .merkleNodeLength _ => invalidTx
  | .malformedTransaction _ => invalidTx
  | .witnessNotStripped => invalidTx
  | .nonUniformSequence => invalidTx
  | .sequenceHasConsensusMeaning _ => invalidTx
  | e@(.invalidLength _ _) => programFault e.message
  | e@(.invalidBool _) => programFault e.message
  | e@(.invalidPubkey _) => programFault e.message

def ofLedger : LedgerError → EscrowError
  | .insufficientFunds .. => constraintRaw
  | .accountNotFound _ => accountNotInitialized
  | .mintMismatch .. => constraintTokenMint
  | .accountExists _ => accountAlreadyInitialized
  | .overflow => programFault "ledger balance overflow"

end EscrowError

end AtomicEscrow
