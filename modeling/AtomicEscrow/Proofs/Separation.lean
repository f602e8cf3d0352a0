import AtomicEscrow.Bytes.Positional
import AtomicEscrow.Ledger.Basic
import AtomicEscrow.Record.Registry
import Mathlib.Data.Set.Function

set_option autoImplicit false

/-! # Derived addresses stay apart

What is hashed into an address is seeds, the key of a program and a marker, put one after the other
without lengths or separators. It can still be read back. The key and the marker have fixed lengths
and come last, so the program is always told (`addressPreimage_inj`). Of the five kinds of accounts
only escrows and vaults have seeds of one length, and these start with different words
(`Derivation.eq_of_seeds`). So two accounts meet at one address only if SHA-256 gives two byte
strings one digest, and to assume of a set of accounts that their addresses are distinct is to
assume that none of their byte strings collide (`Derivation.separated`).
-/

namespace AtomicEscrow

/-- Two different byte strings with one digest. -/
def Sha256.Collision (message message' : Bytes) : Prop :=
  message ≠ message' ∧ Sha256.digest message = Sha256.digest message'

/-- What has one digest is one byte string, or a collision. -/
theorem Sha256.digest_eq_digest_iff {message message' : Bytes} :
    Sha256.digest message = Sha256.digest message' ↔
      message = message' ∨ Sha256.Collision message message' := by
  constructor
  · intro h
    by_cases hsame : message = message'
    · exact .inl hsame
    · exact .inr ⟨hsame, h⟩
  · rintro (rfl | ⟨-, h⟩)
    · rfl
    · exact h

/-! ## Reading the seeds back -/

theorem Pubkey.toList_inj {key key' : Pubkey} : key.toList = key'.toList ↔ key = key' := by
  constructor
  · intro h
    exact congrArg Pubkey.mk (Bytes32.ext h)
  · rintro rfl
    rfl

/-- The program can be told from the bytes, whatever the seeds are. -/
theorem addressPreimage_inj {seeds seeds' : List Bytes} {program program' : Pubkey}
    (h : addressPreimage seeds program = addressPreimage seeds' program') :
    seeds.flatten = seeds'.flatten ∧ program = program' := by
  obtain ⟨hkeyed, -⟩ := List.append_inj' h rfl
  have hlength : program.toList.length = program'.toList.length := by
    rw [program.length_toList, program'.length_toList]
  obtain ⟨hseeds, hprogram⟩ := List.append_inj' hkeyed hlength
  exact ⟨hseeds, Pubkey.toList_inj.1 hprogram⟩

namespace Derivation

/-- How many bytes the seeds of a kind of accounts have. -/
def seedsLength : Derivation → Nat
  | escrow .. => 37
  | userAccount .. => 73
  | vault .. => 37
  | vaultAuthority .. => 9
  | tokenAccount .. => 77

theorem length_flatten_seeds (d : Derivation) : d.seeds.flatten.length = d.seedsLength := by
  have hstate : (asciiBytes "state").length = 5 := rfl
  have huser : (asciiBytes "uservault").length = 9 := rfl
  have hvault : (asciiBytes "vault").length = 5 := rfl
  have hauthority : (asciiBytes "authority").length = 9 := rfl
  have htoken : (asciiBytes "token").length = 5 := rfl
  cases d <;>
    simp [seeds, seedsLength, Pubkey.length_toList, Bytes32.length_toList, hstate, huser, hvault,
      hauthority, htoken]

theorem flatten_seeds_escrow_ne_vault (program program' mint : Pubkey) (hash : Hash) :
    (escrow program hash).seeds.flatten ≠ (vault program' mint).seeds.flatten := by
  intro h
  have hlength : (asciiBytes "state").length = (asciiBytes "vault").length := by simp [asciiBytes]
  have hseeds : asciiBytes "state" ++ (hash.toList ++ []) =
      asciiBytes "vault" ++ (mint.toList ++ []) := h
  have hwords : asciiBytes "state" = asciiBytes "vault" := (List.append_inj hseeds hlength).1
  exact absurd hwords (by decide)

/-- The seeds and the program of an account tell which it is. -/
theorem eq_of_seeds {d d' : Derivation} (hseeds : d.seeds.flatten = d'.seeds.flatten)
    (hprogram : d.program = d'.program) : d = d' := by
  have hlength := congrArg List.length hseeds
  rw [length_flatten_seeds, length_flatten_seeds] at hlength
  -- The lengths leave each kind against itself, and escrows against vaults. Within a kind all
  -- arguments but the last have fixed lengths.
  cases d with
  | escrow program hash =>
      cases d' with
      | escrow program' hash' =>
          obtain ⟨-, harguments⟩ := List.append_inj hseeds rfl
          obtain ⟨hhash, -⟩ := List.append_inj' harguments rfl
          cases Bytes32.ext hhash
          cases hprogram
          rfl
      | vault => exact absurd hseeds (flatten_seeds_escrow_ne_vault _ _ _ _)
      | _ => cases hlength
  | userAccount program owner mint =>
      cases d' with
      | userAccount program' owner' mint' =>
          obtain ⟨-, harguments⟩ := List.append_inj hseeds rfl
          obtain ⟨howner, hrest⟩ := List.append_inj harguments
            (by rw [owner.length_toList, owner'.length_toList])
          obtain ⟨hmint, -⟩ := List.append_inj' hrest rfl
          cases Pubkey.toList_inj.1 howner
          cases Pubkey.toList_inj.1 hmint
          cases hprogram
          rfl
      | _ => cases hlength
  | vault program mint =>
      cases d' with
      | vault program' mint' =>
          obtain ⟨-, harguments⟩ := List.append_inj hseeds rfl
          obtain ⟨hmint, -⟩ := List.append_inj' harguments rfl
          cases Pubkey.toList_inj.1 hmint
          cases hprogram
          rfl
      | escrow => exact absurd hseeds.symm (flatten_seeds_escrow_ne_vault _ _ _ _)
      | _ => cases hlength
  | vaultAuthority program =>
      cases d' with
      | vaultAuthority program' =>
          cases hprogram
          rfl
      | _ => cases hlength
  | tokenAccount owner mint serial =>
      cases d' with
      | tokenAccount owner' mint' serial' =>
          cases hprogram
          obtain ⟨-, harguments⟩ := List.append_inj hseeds rfl
          obtain ⟨howner, hrest⟩ := List.append_inj harguments
            (by rw [owner.length_toList, owner'.length_toList])
          obtain ⟨hserial, -⟩ := List.append_inj' (List.append_cancel_left hrest) rfl
          cases Pubkey.toList_inj.1 howner
          cases littleEndian_word_inj.1 hserial
          rfl
      | _ => cases hlength

/-- **What is hashed tells the account.** -/
theorem preimage_inj {d d' : Derivation} : d.preimage = d'.preimage ↔ d = d' := by
  constructor
  · intro h
    obtain ⟨hseeds, hprogram⟩ := addressPreimage_inj h
    exact eq_of_seeds hseeds hprogram
  · rintro rfl
    rfl

/-- Two accounts at one address are one account, or a collision. -/
theorem eq_or_collision_of_address {d d' : Derivation} (h : d.address = d'.address) :
    d = d' ∨ Sha256.Collision d.preimage d'.preimage :=
  (Sha256.digest_eq_digest_iff.1 (congrArg Pubkey.bytes h)).imp_left preimage_inj.1

end Derivation

/-! ## The addresses that the program gives -/

/-- Where the program puts its accounts, and the ledger those that are opened for others: the
account, and the address that is given for it. -/
inductive Placed : Derivation → Pubkey → Prop
  | escrow (r : Registry) (hash : Hash) :
      Placed (.escrow r.programId hash) (r.escrowAddress hash)
  | userAccount (r : Registry) (owner mint : Pubkey) :
      Placed (.userAccount r.programId owner mint) (r.userAddress owner mint)
  | vault (r : Registry) (mint : Pubkey) :
      Placed (.vault r.programId mint) (r.vaultAddress mint)
  | vaultAuthority (r : Registry) : Placed (.vaultAuthority r.programId) r.vaultAuthority
  | tokenAccount (l : Ledger) (owner mint : Pubkey) :
      Placed (.tokenAccount owner mint (l.created + 1)) (l.createTokenAccount owner mint).1

theorem Placed.address_eq {d : Derivation} {address : Pubkey} (h : Placed d address) :
    address = d.address := by
  cases h <;> rfl

/-- **Addresses are separated by kind, arguments and program.** The byte strings that are hashed are
equal only for one and the same account. So two accounts that are put at one address, by whatever
programs and ledgers, come with two byte strings that collide, and the addresses of a set of
accounts are distinct exactly if no two of its byte strings collide. -/
theorem Derivation.separated :
    (∀ d d' : Derivation, d.preimage = d'.preimage ↔ d = d') ∧
    (∀ d address, Placed d address → address = ⟨Sha256.digest d.preimage⟩) ∧
    (∀ d d' address, Placed d address → Placed d' address →
      d = d' ∨ Sha256.Collision d.preimage d'.preimage) ∧
    ∀ D : Set Derivation, D.InjOn Derivation.address ↔
      ∀ d ∈ D, ∀ d' ∈ D, ¬Sha256.Collision d.preimage d'.preimage := by
  refine ⟨fun d d' => preimage_inj, fun d address h => h.address_eq.trans d.address_eq, ?_,
    fun D => ?_⟩
  · intro d d' address h h'
    exact eq_or_collision_of_address (h.address_eq.symm.trans h'.address_eq)
  · constructor
    · rintro hdistinct d hd d' hd' ⟨hne, hdigest⟩
      have hsame : d = d' := hdistinct hd hd' (congrArg Pubkey.mk hdigest)
      exact hne (preimage_inj.2 hsame)
    · intro hnone d hd d' hd' haddress
      exact (eq_or_collision_of_address haddress).resolve_right (hnone d hd d' hd')

end AtomicEscrow
