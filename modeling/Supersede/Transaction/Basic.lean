import Supersede.Hash.Digest

/-!
# Transactions

A transaction spends outputs of earlier ones and creates new outputs. Its identifier is the double
hash of its serialization without witnesses, so witnesses can be attached or changed without
changing the identifier.
-/

namespace Supersede

/-- A transaction identifier, in the byte order in which it is hashed. -/
abbrev Txid := Hash256

/-- A reference to an output of a transaction. -/
structure OutPoint where
  txid : Txid
  vout : UInt32
deriving DecidableEq

/-- An input: the output it spends, and what it shows to spend it. -/
structure TxIn where
  outpoint : OutPoint
  scriptSig : Bytes := []
  sequence : UInt32 := 0xffffffff
  witness : List Bytes := []
deriving DecidableEq

/-- An output: a value and the script that locks it. -/
structure TxOut where
  value : UInt64
  script : Bytes
deriving DecidableEq

/-- A transaction. -/
structure Transaction where
  version : Int32
  lockTime : UInt32
  inputs : List TxIn
  outputs : List TxOut
deriving DecidableEq

/-! ## Identifiers -/

/-- Identifiers are shown with their bytes reversed. -/
def Txid.display (t : Txid) : String := t.reverse.toHex

namespace OutPoint

/-- The reference that names no output. -/
def null : OutPoint := ⟨FixedBytes.zero 32, 0xffffffff⟩

/-- The identifier and the output's position, divided by a colon. -/
def display (o : OutPoint) : String := Txid.display o.txid ++ ":" ++ toString o.vout.toNat

/-- The identifier, then the position. -/
def serialize (o : OutPoint) : Bytes := o.txid.toBytes ++ Bytes.le32 o.vout

/-- Ordered by identifier, then by position. -/
instance : Ord OutPoint := ⟨compareLex (compareOn (·.txid)) (compareOn (·.vout))⟩

instance : Std.TransOrd OutPoint :=
  inferInstanceAs (Std.TransCmp (compareLex (compareOn OutPoint.txid) (compareOn OutPoint.vout)))

instance : Std.LawfulEqOrd OutPoint where
  compare_self {a} := by
    show (compare a.txid a.txid).then (compare a.vout a.vout) = .eq
    simp
  eq_of_compare {a b} h := by
    have h' : (compare a.txid b.txid).then (compare a.vout b.vout) = .eq := h
    rw [Ordering.then_eq_eq] at h'
    cases a; cases b
    simp_all

end OutPoint

/-! ## Serialization -/

/-- The value, then the script with its length. -/
def TxOut.serialize (o : TxOut) : Bytes := Bytes.le64 o.value ++ Bytes.withLength o.script

/-- The spent output, the script with its length, and the sequence number. -/
def TxIn.serialize (i : TxIn) : Bytes :=
  i.outpoint.serialize ++ Bytes.withLength i.scriptSig ++ Bytes.le32 i.sequence

namespace Transaction

/-- The version number as four bytes. -/
def versionBytes (tx : Transaction) : Bytes := Bytes.le32 tx.version.toUInt32

/-- The serialization without witnesses. -/
def serialize (tx : Transaction) : Bytes :=
  tx.versionBytes ++ Bytes.withCount TxIn.serialize tx.inputs ++
    Bytes.withCount TxOut.serialize tx.outputs ++ Bytes.le32 tx.lockTime

/-- The identifier. -/
def txid (tx : Transaction) : Txid := sha256d tx.serialize

/-- The outputs one after the other, without their number. -/
def outputBytes (tx : Transaction) : Bytes := tx.outputs.flatMap TxOut.serialize

/-- Changes the input at a position, if there is one. -/
def modifyInput (tx : Transaction) (i : Nat) (f : TxIn → TxIn) : Transaction :=
  { tx with inputs := tx.inputs.modify i f }

/-- Puts a witness on the input at a position. -/
def withWitness (tx : Transaction) (i : Nat) (witness : List Bytes) : Transaction :=
  tx.modifyInput i fun input => { input with witness }

end Transaction

end Supersede
