import Supersede.Address.Bech32
import Supersede.Key.Basic
import Supersede.Script.Instruction

/-!
# The scripts of a channel

An *update script* locks the channel's funds in one state. Two update signatures pass the funds on
to a later state: the lock time of the spending transaction must have reached the state's own.
Two settle signatures pay the balances out, once the dispute window has gone by.

A *payment script* locks one offered payment: the receiver takes it with the preimage of a hash,
the sender after the expiry. The leaf scripts are the same conditions for taproot outputs, where
the key `1` stands for the output's internal key.

Every script is a list of instructions with the keys, hashes and numbers as pushes, so that both
parties build the same bytes from the same data.
-/

namespace Supersede

open Instruction (number)

/-- The four keys of an update script. -/
structure UpdateKeys where
  funderUpdate : PublicKey
  otherUpdate : PublicKey
  funderSettle : PublicKey
  otherSettle : PublicKey
deriving DecidableEq

namespace Script

/-! ## Witness scripts -/

/-- The instructions of an update script. -/
def updateCode (keys : UpdateKeys) (disputeWindow : UInt16) (stateLockTime : UInt32) :
    List Instruction :=
  [number 2, .push keys.funderUpdate.toBytes, .push keys.otherUpdate.toBytes, number 2,
    .op .checkMultisig,
    .op .ifFalse,
    number 2, .push keys.funderSettle.toBytes, .push keys.otherSettle.toBytes, number 2,
    .op .checkMultisigVerify, number disputeWindow.toNat, .op .checkSequence,
    .op .otherwise,
    number stateLockTime.toNat, .op .checkLockTime,
    .op .endIf]

/-- The script that locks the funds in one state. -/
def update (keys : UpdateKeys) (disputeWindow : UInt16) (stateLockTime : UInt32) : Bytes :=
  encode (updateCode keys disputeWindow stateLockTime)

/-- The instructions of a payment script. -/
def paymentCode (refundKey paymentKey : PublicKey) (hash : Hash160) (expiry : UInt32) :
    List Instruction :=
  [.op .ifTrue,
    .op .hash160, .push hash.toBytes, .op .equalVerify, .push paymentKey.toBytes,
    .op .otherwise,
    number expiry.toNat, .op .checkLockTime, .op .drop, .push refundKey.toBytes,
    .op .endIf,
    .op .checkSig]

/-- The script that locks an offered payment. -/
def payment (refundKey paymentKey : PublicKey) (hash : Hash160) (expiry : UInt32) : Bytes :=
  encode (paymentCode refundKey paymentKey hash expiry)

/-! ## Leaf scripts -/

/-- The leaf by which a later state spends an output. -/
def updateLeaf (stateLockTime : UInt32) : Bytes :=
  encode [number stateLockTime.toNat, .op .checkLockTime, .op .drop, number 1, .op .checkSig]

/-- The leaf by which a state is settled. -/
def settleLeaf (disputeWindow : UInt16) : Bytes :=
  encode [number disputeWindow.toNat, .op .checkSequence, .op .drop, number 1, .op .checkSig]

/-- The leaf by which the receiver takes a payment. -/
def claimLeaf (hash : Hash160) (claimKey : XOnlyKey) : Bytes :=
  encode [.op .hash160, .push hash.toBytes, .op .equalVerify, .push claimKey.toBytes,
    .op .checkSig]

/-- The leaf by which the sender takes a payment back. -/
def refundLeaf (expiry : UInt32) (refundKey : XOnlyKey) : Bytes :=
  encode [number expiry.toNat, .op .checkLockTime, .op .drop, .push refundKey.toBytes,
    .op .checkSig]

/-! ## Output scripts -/

/-- A witness program: a version and a push. -/
def witnessProgram (version : Nat) (program : Bytes) : Bytes :=
  encode [number version, .push program]

/-- The output script for a witness script. -/
def lock (witnessScript : Bytes) : Bytes := witnessProgram 0 (sha256 witnessScript).toBytes

/-- The output script that pays to a key. -/
def payout (key : PublicKey) : Bytes := witnessProgram 0 key.hash.toBytes

/-- What a signature for an output that pays to a key commits to as its script. -/
def payoutCode (key : PublicKey) : Bytes :=
  encode [.op (.other 0x76), .op .hash160, .push key.hash.toBytes, .op .equalVerify, .op .checkSig]

/-- The output script of a taproot output. -/
def taproot (outputKey : XOnlyKey) : Bytes := witnessProgram 1 outputKey.toBytes

/-- The address of a witness script. -/
def address (witnessScript : Bytes) (network : Network) : String :=
  Bech32.address network 0 (sha256 witnessScript).toBytes

end Script

/-! ## Kinds of output script -/

/-- How an output is unlocked. -/
inductive OutputKind where
  | keyHash
  | scriptHash
  | taproot
  | other
deriving DecidableEq

/-- The kind of an output script: decided by its length and its first two bytes. -/
def OutputKind.of (script : Bytes) : OutputKind :=
  match script with
  | a :: b :: program =>
    if a = 0x00 ∧ b = 0x14 ∧ program.length = 20 then .keyHash
    else if a = 0x00 ∧ b = 0x20 ∧ program.length = 32 then .scriptHash
    else if a = 0x51 ∧ b = 0x20 ∧ program.length = 32 then .taproot
    else .other
  | _ => .other

/-- The usual abbreviation of the kind. -/
def OutputKind.name : OutputKind → String
  | keyHash => "P2WPKH"
  | scriptHash => "P2WSH"
  | taproot => "P2TR"
  | other => "Unknown"

end Supersede
