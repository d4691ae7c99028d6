import Supersede.Signature.Mode

/-!
# What signatures commit to

The digest of an input is the hash of a byte string that lists what the signature commits to. For
each kind of signature there is a function for that byte string, and one that checks the input and
hashes it.
-/

namespace Supersede

/-- The message for an input that does not exist. -/
def inputOutOfRange {α : Type} (tx : Transaction) (index : Nat) : Result α :=
  .error (.signing (.inputOutOfRange index tx.inputs.length))

namespace Transaction

/-! ## Channel signatures -/

/-- The outpoints of all inputs. -/
def outpointBytes (tx : Transaction) : Bytes := tx.inputs.flatMap (·.outpoint.serialize)

/-- The sequence numbers of all inputs. -/
def sequenceBytes (tx : Transaction) : Bytes := tx.inputs.flatMap (Bytes.le32 ·.sequence)

/-- The flag of a mode as four bytes. -/
def flagBytes (mode : SigningMode) : Bytes := Bytes.le32 mode.flag.toUInt32

/-- What a signature in mode `all` commits to. -/
def boundPreimage (tx : Transaction) (input : TxIn) (scriptCode : Bytes) (value : UInt64) : Bytes :=
  tx.versionBytes ++ (sha256d tx.outpointBytes).toBytes ++ (sha256d tx.sequenceBytes).toBytes ++
    input.outpoint.serialize ++ Bytes.withLength scriptCode ++ Bytes.le64 value ++
    Bytes.le32 input.sequence ++ (sha256d tx.outputBytes).toBytes ++ Bytes.le32 tx.lockTime ++
    flagBytes .all

/-- What a signature in another mode commits to: zeros stand for the hashes over all inputs, the
outpoint is left out, and so is the script unless the mode commits to it. -/
def floatingPreimage (tx : Transaction) (input : TxIn) (scriptCode : Bytes) (value : UInt64)
    (mode : SigningMode) : Bytes :=
  tx.versionBytes ++ List.replicate 64 0 ++
    (if mode.commitsToScript then Bytes.withLength scriptCode else []) ++ Bytes.le64 value ++
    Bytes.le32 input.sequence ++ (sha256d tx.outputBytes).toBytes ++ Bytes.le32 tx.lockTime ++
    flagBytes mode

/-- What a channel signature in a mode commits to. -/
def signaturePreimage (tx : Transaction) (input : TxIn) (scriptCode : Bytes) (value : UInt64)
    (mode : SigningMode) : Bytes :=
  match mode with
  | .all => tx.boundPreimage input scriptCode value
  | mode => tx.floatingPreimage input scriptCode value mode

/-- The digest of an input for a channel signature. -/
def signatureHash (tx : Transaction) (index : Nat) (scriptCode : Bytes) (value : UInt64)
    (mode : SigningMode) : Result Hash256 :=
  match tx.inputs[index]? with
  | none => inputOutOfRange tx index
  | some input => .ok (sha256d (tx.signaturePreimage input scriptCode value mode))

/-! ## Leaf signatures with a mode -/

/-- The version byte of leaf scripts. -/
def leafVersion : UInt8 := 0xc0

/-- The hash of a leaf of the given version. -/
def leafHashOf (version : UInt8) (script : Bytes) : Hash256 :=
  taggedHash "TapLeaf" (version :: Bytes.withLength script)

/-- The hash of a leaf script. -/
def leafHash (script : Bytes) : Hash256 := leafHashOf leafVersion script

/-- What a leaf signature commits to in a mode other than `all`. -/
def tapscriptPreimage (tx : Transaction) (input : TxIn) (spent : TxOut) (leaf : Bytes)
    (mode : SigningMode) : Bytes :=
  [0x00, mode.flag] ++ tx.versionBytes ++ Bytes.le32 tx.lockTime ++
    (sha256 tx.outputBytes).toBytes ++ [0x02] ++
    (if mode.commitsToScript then Bytes.le64 spent.value ++ Bytes.withLength spent.script
      else []) ++
    Bytes.le32 input.sequence ++
    (if mode.commitsToScript then (leafHash leaf).toBytes else []) ++
    [0x01] ++ Bytes.le32 0xffffffff

/-- The digest of an input for a leaf signature with a mode. Mode `all` is refused. -/
def tapscriptHash (tx : Transaction) (index : Nat) (spent : TxOut) (leaf : Bytes)
    (mode : SigningMode) : Result Hash256 :=
  match tx.inputs[index]? with
  | none => inputOutOfRange tx index
  | some input =>
    if mode.commitsToPrevOut then .error (.signing (.unknownMode mode.flag))
    else .ok (taggedHash "TapSighash" (tx.tapscriptPreimage input spent leaf mode))

/-! ## Leaf signatures without a mode -/

/-- What a leaf signature without a mode commits to: the whole transaction, the outputs it spends
and the leaf. -/
def leafPreimage (tx : Transaction) (index : Nat) (prevouts : List TxOut) (leaf : Bytes) : Bytes :=
  [0x00, 0x00] ++ tx.versionBytes ++ Bytes.le32 tx.lockTime ++
    (sha256 tx.outpointBytes).toBytes ++
    (sha256 (prevouts.flatMap (Bytes.le64 ·.value))).toBytes ++
    (sha256 (prevouts.flatMap (Bytes.withLength ·.script))).toBytes ++
    (sha256 tx.sequenceBytes).toBytes ++ (sha256 tx.outputBytes).toBytes ++
    [0x02] ++ Bytes.ofNatLE 4 index ++ (leafHash leaf).toBytes ++ [0x00] ++
    Bytes.le32 0xffffffff

/-- The digest of an input for a leaf signature without a mode. Each input needs its spent
output. -/
def leafSignatureHash (tx : Transaction) (index : Nat) (prevouts : List TxOut) (leaf : Bytes) :
    Result Hash256 :=
  if prevouts.length = tx.inputs.length then
    .ok (taggedHash "TapSighash" (tx.leafPreimage index prevouts leaf))
  else .error (.signing (.digest "prevouts size"))

end Transaction

/-! ## Signing and checking an input -/

section Scheme

variable [KeyScheme]

namespace Transaction

/-- Signs an input. -/
def signInput (tx : Transaction) (index : Nat) (scriptCode : Bytes) (value : UInt64)
    (mode : SigningMode) (key : SecretKey) : Result ChannelSignature :=
  (tx.signatureHash index scriptCode value mode).map fun digest =>
    ⟨KeyScheme.ecdsaSign key digest, mode⟩

/-- Whether a signature of an input is valid for a key, in the mode it carries. -/
def verifyInput (tx : Transaction) (index : Nat) (scriptCode : Bytes) (value : UInt64)
    (sig : ChannelSignature) (key : PublicKey) : Result Bool :=
  (tx.signatureHash index scriptCode value sig.mode).map fun digest =>
    KeyScheme.ecdsaVerify key digest sig.signature

/-- Signs an input that spends a taproot leaf. -/
def signTapscript (tx : Transaction) (index : Nat) (spent : TxOut) (leaf : Bytes)
    (mode : SigningMode) (key : SecretKey) : Result TapscriptSignature :=
  (tx.tapscriptHash index spent leaf mode).map fun digest =>
    ⟨KeyScheme.schnorrSign key digest, mode⟩

/-- Whether a leaf signature of an input is valid for a key, in the mode it carries. -/
def verifyTapscript (tx : Transaction) (index : Nat) (spent : TxOut) (leaf : Bytes)
    (sig : TapscriptSignature) (key : XOnlyKey) : Result Bool :=
  (tx.tapscriptHash index spent leaf sig.mode).map fun digest =>
    KeyScheme.schnorrVerify key digest sig.signature

end Transaction

end Scheme

end Supersede
