import Supersede.Ledger.Amount
import Supersede.Ledger.Party
import Supersede.Transaction.Digest

/-!
# Transactions that both parties sign

Updates, settlements and closes are built by each party on its own and then signed by both. The
*subject* of such a document says what exactly is signed: the transaction, the script and value
of its one input, the mode, and the key of each side. `Cosigned` adds the signatures to a document;
two cosigned documents stand for the same agreement when their documents are equal, whatever
signatures they carry.
-/

namespace Supersede

/-- What both parties sign. -/
structure SigningSubject where
  transaction : Transaction
  scriptCode : Bytes
  value : Amount
  mode : SigningMode
  key : Role → PublicKey
  /-- How messages name a side's signature. -/
  describe : Role → String

/-- A document that both parties sign. -/
class Signable (α : Type) where
  subject : α → SigningSubject

/-- A document and the signatures given on it so far. -/
structure Cosigned (α : Type) where
  document : α
  funderSig : Option ChannelSignature := none
  counterpartySig : Option ChannelSignature := none
deriving DecidableEq

namespace SigningSubject

variable [KeyScheme]

/-- The signature of a secret key, in the subject's mode. -/
def sign (s : SigningSubject) (key : SecretKey) : Result ChannelSignature :=
  s.transaction.signInput 0 s.scriptCode s.value s.mode key

/-- Checks a side's signature: present, in the right mode and valid. -/
def check (s : SigningSubject) (role : Role) (sig? : Option ChannelSignature) : Result Unit :=
  match sig? with
  | none => .error (.protocol (.missingSignature (s.describe role)))
  | some sig =>
    if sig.mode ≠ s.mode then
      .error (.protocol (.invalidSignature
        (s.describe role ++ ": expected " ++ s.mode.name ++ ", got " ++ sig.mode.name)))
    else
      match s.transaction.verifyInput 0 s.scriptCode s.value sig (s.key role) with
      | .error e => .error e
      | .ok true => .ok ()
      | .ok false => .error (.protocol (.invalidSignature (s.describe role)))

end SigningSubject

namespace Cosigned

variable {α : Type}

/-- The document without signatures. -/
def unsigned (document : α) : Cosigned α := { document }

/-- The signature of a side. -/
def signature (d : Cosigned α) : Role → Option ChannelSignature
  | .funder => d.funderSig
  | .counterparty => d.counterpartySig

/-- The document with the signature of a side set. -/
def withSignature (d : Cosigned α) (role : Role) (sig : ChannelSignature) : Cosigned α :=
  match role with
  | .funder => { d with funderSig := some sig }
  | .counterparty => { d with counterpartySig := some sig }

variable [KeyScheme] [Signable α]

/-- Checks the signature of a side. -/
def verifySignature (d : Cosigned α) (role : Role) : Result Unit :=
  (Signable.subject d.document).check role (d.signature role)

/-- Checks the signatures of both sides. -/
def verify (d : Cosigned α) : Result Unit := do
  d.verifySignature .funder
  d.verifySignature .counterparty

/-- Both signatures, the funder's first, after they were checked. -/
def verifiedSignatures (d : Cosigned α) : Result (ChannelSignature × ChannelSignature) := do
  d.verify
  match d.funderSig, d.counterpartySig with
  | some f, some c => .ok (f, c)
  | _, _ => .error (.protocol (.missingSignature "both parties"))

end Cosigned

end Supersede
