import Supersede.Proofs.Binding

/-!
# What signatures commit to

A signature is made over the hash of a byte string that lists what it commits to, without names or
separators: some parts have a fixed length, a script stands behind its length, and which parts there
are depends on the mode. Two such strings could be equal although they list different things, if
bytes of one part could pass for bytes of another. They cannot.

**Theorem (`SigningContext.signature_commits`).** The byte strings of two channel signatures are
equal exactly if the modes are equal and the contexts agree on all that the mode commits to. The
outputs enter as a hash of their serializations one after the other; these determine the outputs.

**Theorem (`LeafContext.leaf_signature_commits`).** The same for leaf signatures with a mode.
Besides, no byte string of a leaf signature with a mode is one of a leaf signature without.

In the byte string of a channel signature the last 52 bytes have the same layout in all modes, and a
script is the last part in front of them; so the string is taken apart from its end. A list of
outputs has no such end, and is read from its front (`Bytes.readSize`).
-/

namespace Supersede

/-! ## Parts of a byte string -/

namespace Bytes

theorem append_eq_iff {a b r r' : Bytes} (h : a.length = b.length) :
    a ++ r = b ++ r' ↔ a = b ∧ r = r' := by
  constructor
  · intro heq
    exact List.append_inj heq h
  · rintro ⟨rfl, rfl⟩
    rfl

/-- As `append_eq_iff`, for last parts of the same length. -/
theorem append_eq_iff_of_last {a b r r' : Bytes} (h : r.length = r'.length) :
    a ++ r = b ++ r' ↔ a = b ∧ r = r' := by
  constructor
  · intro heq
    exact List.append_inj' heq h
  · rintro ⟨rfl, rfl⟩
    rfl

theorem toNatLE_ofNatLE {w n : Nat} (h : n < 256 ^ w) : toNatLE (ofNatLE w n) = n := by
  induction w generalizing n with
  | zero =>
    obtain rfl : n = 0 := by simpa using h
    rfl
  | succ w ih =>
    have hdiv : n / 256 < 256 ^ w := Nat.div_lt_of_lt_mul (by rwa [← pow_succ'])
    rw [ofNatLE, toNatLE, ih hdiv, UInt8.toNat_ofNat', Nat.mod_add_div]

@[simp] theorem length_le32 (x : UInt32) : (le32 x).length = 4 := length_ofNatLE 4 _

@[simp] theorem length_le64 (x : UInt64) : (le64 x).length = 8 := length_ofNatLE 8 _

@[simp] theorem le32_inj {x y : UInt32} : le32 x = le32 y ↔ x = y := by
  refine ⟨fun h => ?_, congrArg le32⟩
  have hvalue := congrArg toNatLE h
  rw [le32, le32, toNatLE_ofNatLE x.toNat_lt, toNatLE_ofNatLE y.toNat_lt] at hvalue
  exact UInt32.toNat_inj.1 hvalue

@[simp] theorem le64_inj {x y : UInt64} : le64 x = le64 y ↔ x = y := by
  refine ⟨fun h => ?_, congrArg le64⟩
  have hvalue := congrArg toNatLE h
  rw [le64, le64, toNatLE_ofNatLE x.toNat_lt, toNatLE_ofNatLE y.toNat_lt] at hvalue
  exact UInt64.toNat_inj.1 hvalue

/-- How many bytes of a size follow its first byte. -/
def sizeWidth (first : UInt8) : Nat :=
  if first < 0xfd then 0 else if first = 0xfd then 2 else if first = 0xfe then 4 else 8

/-- Reads a size in compact form and returns the bytes after it. -/
def readSize : Bytes → Nat × Bytes
  | [] => (0, [])
  | first :: rest =>
    match sizeWidth first with
    | 0 => (first.toNat, rest)
    | w => (toNatLE (rest.take w), rest.drop w)

theorem readSize_digits {first : UInt8} {w n : Nat} (hw : sizeWidth first = w + 1)
    (hn : n < 256 ^ (w + 1)) (rest : Bytes) :
    readSize (first :: (ofNatLE (w + 1) n ++ rest)) = (n, rest) := by
  have hlength : (ofNatLE (w + 1) n).length = w + 1 := length_ofNatLE _ _
  simp only [readSize, hw, List.take_left' hlength, List.drop_left' hlength, toNatLE_ofNatLE hn]

/-- A size that fits 64 bits is read back, whatever follows it. -/
theorem readSize_compactSize {n : Nat} (h : n < 2 ^ 64) (rest : Bytes) :
    readSize (compactSize n ++ rest) = (n, rest) := by
  unfold compactSize
  split_ifs with hone htwo hfour
  · have hvalue : (UInt8.ofNat n).toNat = n := by
      rw [UInt8.toNat_ofNat']
      omega
    have hwidth : sizeWidth (UInt8.ofNat n) = 0 := by
      rw [sizeWidth, if_pos]
      rw [UInt8.lt_iff_toNat_lt, hvalue]
      exact hone
    simp only [ofNatLE, List.cons_append, List.nil_append, readSize, hwidth, hvalue]
  · exact readSize_digits (w := 1) rfl (by omega) rest
  · exact readSize_digits (w := 3) rfl (by omega) rest
  · exact readSize_digits (w := 7) rfl (by omega) rest

/-- A byte string behind its length can be told from what follows it. -/
theorem withLength_append_inj {a b r r' : Bytes} (ha : a.length < 2 ^ 64) (hb : b.length < 2 ^ 64)
    (h : withLength a ++ r = withLength b ++ r') : a = b ∧ r = r' := by
  rw [withLength, withLength, List.append_assoc, List.append_assoc] at h
  have hread := congrArg readSize h
  rw [readSize_compactSize ha, readSize_compactSize hb] at hread
  obtain ⟨hlength, hrest⟩ := Prod.mk.inj hread
  exact List.append_inj hrest hlength

end Bytes

theorem TxOut.serialize_append_inj {o o' : TxOut} {r r' : Bytes} (ho : o.script.length < 2 ^ 64)
    (ho' : o'.script.length < 2 ^ 64) (h : o.serialize ++ r = o'.serialize ++ r') :
    o = o' ∧ r = r' := by
  rw [serialize, serialize, List.append_assoc, List.append_assoc,
    Bytes.append_eq_iff (by simp), Bytes.le64_inj] at h
  obtain ⟨hvalue, hrest⟩ := h
  obtain ⟨hscript, hr⟩ := Bytes.withLength_append_inj ho ho' hrest
  cases o
  cases o'
  exact ⟨congrArg₂ mk hvalue hscript, hr⟩

/-- Outputs that are serialized one after the other, without their number, can be told apart. -/
theorem TxOut.eq_of_flatMap_serialize {os os' : List TxOut}
    (hos : ∀ o ∈ os, o.script.length < 2 ^ 64) (hos' : ∀ o ∈ os', o.script.length < 2 ^ 64)
    (h : os.flatMap serialize = os'.flatMap serialize) : os = os' := by
  have hne (o : TxOut) (r : Bytes) : o.serialize ++ r ≠ [] := by
    intro hnil
    have hlength := congrArg List.length hnil
    simp [serialize] at hlength
  induction os generalizing os' with
  | nil =>
    cases os' with
    | nil => rfl
    | cons o' os' => exact absurd h.symm (hne o' _)
  | cons o os ih =>
    cases os' with
    | nil => exact absurd h (hne o _)
    | cons o' os' =>
      obtain ⟨ho, htail⟩ := List.forall_mem_cons.1 hos
      obtain ⟨ho', htail'⟩ := List.forall_mem_cons.1 hos'
      obtain ⟨rfl, hrest⟩ := serialize_append_inj ho ho' h
      exact congrArg (o :: ·) (ih htail htail' hrest)

theorem Transaction.versionBytes_inj {tx tx' : Transaction} :
    tx.versionBytes = tx'.versionBytes ↔ tx.version = tx'.version := by
  rw [versionBytes, versionBytes, Bytes.le32_inj]
  refine ⟨fun h => ?_, congrArg Int32.toUInt32⟩
  exact Int32.toBitVec_inj.1 (congrArg UInt32.toBitVec h)

@[simp] theorem Transaction.length_versionBytes (tx : Transaction) : tx.versionBytes.length = 4 :=
  Bytes.length_le32 _

@[simp] theorem FixedBytes.toBytes_inj {n : Nat} {a b : FixedBytes n} :
    a.toBytes = b.toBytes ↔ a = b :=
  ⟨FixedBytes.ext, congrArg FixedBytes.toBytes⟩

@[simp] theorem OutPoint.length_serialize (o : OutPoint) : o.serialize.length = 36 := by
  simp [serialize]

theorem OutPoint.serialize_inj {o o' : OutPoint} : o.serialize = o'.serialize ↔ o = o' := by
  rw [serialize, serialize, Bytes.append_eq_iff (by simp), FixedBytes.toBytes_inj, Bytes.le32_inj]
  cases o
  cases o'
  simp

theorem SigningMode.flagBytes_inj {mode mode' : SigningMode} :
    Transaction.flagBytes mode = Transaction.flagBytes mode' ↔ mode = mode' := by
  cases mode <;> cases mode' <;> decide

/-! ## Channel signatures -/

/-- An input of a transaction that is signed in a mode, with the script and the value of the output
that it spends. -/
structure SigningContext where
  tx : Transaction
  index : Fin tx.inputs.length
  scriptCode : Bytes
  value : UInt64
  mode : SigningMode

namespace SigningContext

/-- The input that is signed. -/
def input (s : SigningContext) : TxIn := s.tx.inputs.get s.index

/-- The byte string that lists what the signature commits to. -/
def message (s : SigningContext) : Bytes :=
  s.tx.signaturePreimage s.input s.scriptCode s.value s.mode

/-- What is signed. -/
def digest (s : SigningContext) : Result Hash256 :=
  s.tx.signatureHash s.index s.scriptCode s.value s.mode

/-- Two contexts agree on all that the mode of the first commits to. -/
structure Agree (a b : SigningContext) : Prop where
  mode : a.mode = b.mode
  version : a.tx.version = b.tx.version
  value : a.value = b.value
  sequence : a.input.sequence = b.input.sequence
  outputs : sha256d a.tx.outputBytes = sha256d b.tx.outputBytes
  lockTime : a.tx.lockTime = b.tx.lockTime
  script : a.mode ≠ .anyPrevOutAnyScript → a.scriptCode = b.scriptCode
  outpoint : a.mode = .all → a.input.outpoint = b.input.outpoint
  outpoints : a.mode = .all → sha256d a.tx.outpointBytes = sha256d b.tx.outpointBytes
  sequences : a.mode = .all → sha256d a.tx.sequenceBytes = sha256d b.tx.sequenceBytes

theorem digest_eq (s : SigningContext) : s.digest = .ok (sha256d s.message) := by
  have hinput : s.tx.inputs[s.index.val]? = some s.input := List.getElem?_eq_getElem s.index.isLt
  simp only [digest, Transaction.signatureHash, hinput]
  rfl

/-! ### Taking the byte string apart -/

/-- What the byte string says about the spent output. -/
def spentPart (s : SigningContext) : Bytes :=
  match s.mode with
  | .all => s.tx.versionBytes ++ ((sha256d s.tx.outpointBytes).toBytes ++
      ((sha256d s.tx.sequenceBytes).toBytes ++
        (s.input.outpoint.serialize ++ Bytes.withLength s.scriptCode)))
  | .anyPrevOut => s.tx.versionBytes ++ (List.replicate 64 0 ++ Bytes.withLength s.scriptCode)
  | .anyPrevOutAnyScript => s.tx.versionBytes ++ List.replicate 64 0

/-- The end of the byte string, which has one layout in all modes. -/
def lastPart (s : SigningContext) : Bytes :=
  Bytes.le64 s.value ++ (Bytes.le32 s.input.sequence ++ ((sha256d s.tx.outputBytes).toBytes ++
    (Bytes.le32 s.tx.lockTime ++ Transaction.flagBytes s.mode)))

theorem message_eq (s : SigningContext) : s.message = s.spentPart ++ s.lastPart := by
  unfold message spentPart lastPart
  cases s.mode <;>
    simp only [Transaction.signaturePreimage, Transaction.boundPreimage,
      Transaction.floatingPreimage, SigningMode.commitsToScript, if_true, Bool.false_eq_true,
      if_false, List.append_assoc, List.nil_append]

@[simp] theorem length_lastPart (s : SigningContext) : s.lastPart.length = 52 := by
  simp [lastPart, Transaction.flagBytes]

theorem lastPart_eq_iff {a b : SigningContext} : a.lastPart = b.lastPart ↔
    a.value = b.value ∧ a.input.sequence = b.input.sequence ∧
      sha256d a.tx.outputBytes = sha256d b.tx.outputBytes ∧ a.tx.lockTime = b.tx.lockTime ∧
      a.mode = b.mode := by
  rw [lastPart, lastPart, Bytes.append_eq_iff (by simp), Bytes.append_eq_iff (by simp),
    Bytes.append_eq_iff (by simp), Bytes.append_eq_iff (by simp), Bytes.le64_inj, Bytes.le32_inj,
    FixedBytes.toBytes_inj, Bytes.le32_inj, SigningMode.flagBytes_inj]

/-- In one mode, the byte strings say the same about the spent outputs exactly if all that the mode
commits to is the same. -/
theorem spentPart_eq_iff {a b : SigningContext} (hmode : a.mode = b.mode) :
    a.spentPart = b.spentPart ↔ a.tx.version = b.tx.version ∧
      (a.mode ≠ .anyPrevOutAnyScript → a.scriptCode = b.scriptCode) ∧
      (a.mode = .all → a.input.outpoint = b.input.outpoint ∧
        sha256d a.tx.outpointBytes = sha256d b.tx.outpointBytes ∧
        sha256d a.tx.sequenceBytes = sha256d b.tx.sequenceBytes) := by
  unfold spentPart
  rw [← hmode]
  cases a.mode with
  | all =>
    simp only [ne_eq, reduceCtorEq, not_false_eq_true, true_implies]
    rw [Bytes.append_eq_iff (by simp), Bytes.append_eq_iff (by simp),
      Bytes.append_eq_iff (by simp), Bytes.append_eq_iff (by simp), Transaction.versionBytes_inj,
      FixedBytes.toBytes_inj, FixedBytes.toBytes_inj, OutPoint.serialize_inj,
      Bytes.withLength_injective.eq_iff]
    constructor
    · rintro ⟨hversion, houtpoints, hsequences, houtpoint, hscript⟩
      exact ⟨hversion, hscript, houtpoint, houtpoints, hsequences⟩
    · rintro ⟨hversion, hscript, houtpoint, houtpoints, hsequences⟩
      exact ⟨hversion, houtpoints, hsequences, houtpoint, hscript⟩
  | anyPrevOut =>
    simp only [ne_eq, reduceCtorEq, not_false_eq_true, true_implies, false_implies, and_true]
    rw [Bytes.append_eq_iff (by simp), List.append_right_inj, Transaction.versionBytes_inj,
      Bytes.withLength_injective.eq_iff]
  | anyPrevOutAnyScript =>
    simp only [ne_eq, reduceCtorEq, not_true_eq_false, false_implies, and_true]
    rw [List.append_left_inj, Transaction.versionBytes_inj]

theorem message_eq_iff {a b : SigningContext} : a.message = b.message ↔ a.Agree b := by
  rw [message_eq, message_eq, Bytes.append_eq_iff_of_last (by simp), lastPart_eq_iff]
  constructor
  · rintro ⟨hspent, hvalue, hsequence, houtputs, hlockTime, hmode⟩
    obtain ⟨hversion, hscript, hall⟩ := (spentPart_eq_iff hmode).1 hspent
    exact ⟨hmode, hversion, hvalue, hsequence, houtputs, hlockTime, hscript,
      fun h => (hall h).1, fun h => (hall h).2.1, fun h => (hall h).2.2⟩
  · intro h
    refine ⟨(spentPart_eq_iff h.mode).2 ⟨h.version, h.script, fun hall => ?_⟩, h.value, h.sequence,
      h.outputs, h.lockTime, h.mode⟩
    exact ⟨h.outpoint hall, h.outpoints hall, h.sequences hall⟩

/-- **What a channel signature commits to.** The byte string that is hashed and signed is the same
for two contexts exactly if they agree on all that its mode commits to, and the outputs are
determined by the bytes that are hashed for them. So a digest in a floating mode does not depend on
outpoints, other inputs and witnesses, one in mode `anyPrevOutAnyScript` not on the script either,
and the byte strings of different modes differ. -/
theorem signature_commits (a b : SigningContext) :
    a.digest = .ok (sha256d a.message) ∧
    (a.message = b.message ↔ a.Agree b) ∧
    ((∀ o ∈ a.tx.outputs, o.script.length < 2 ^ 64) →
      (∀ o ∈ b.tx.outputs, o.script.length < 2 ^ 64) →
      (a.tx.outputBytes = b.tx.outputBytes ↔ a.tx.outputs = b.tx.outputs)) ∧
    (a.mode = b.mode → a.mode ≠ .all → a.tx.version = b.tx.version → a.value = b.value →
      a.input.sequence = b.input.sequence → a.tx.outputs = b.tx.outputs →
      a.tx.lockTime = b.tx.lockTime → (a.mode = .anyPrevOut → a.scriptCode = b.scriptCode) →
      a.digest = b.digest) ∧
    (a.mode ≠ b.mode → a.message ≠ b.message) := by
  refine ⟨a.digest_eq, message_eq_iff, ?_, ?_, ?_⟩
  · intro ha hb
    exact ⟨TxOut.eq_of_flatMap_serialize ha hb, congrArg (List.flatMap TxOut.serialize)⟩
  · intro hmode hfloating hversion hvalue hsequence houtputs hlockTime hscript
    have hbytes : a.tx.outputBytes = b.tx.outputBytes :=
      congrArg (List.flatMap TxOut.serialize) houtputs
    have hcode : a.mode ≠ .anyPrevOutAnyScript → a.scriptCode = b.scriptCode := by
      intro hany
      apply hscript
      cases hcases : a.mode <;> simp_all
    have hagree : a.Agree b :=
      ⟨hmode, hversion, hvalue, hsequence, congrArg sha256d hbytes, hlockTime, hcode,
        fun h => absurd h hfloating, fun h => absurd h hfloating, fun h => absurd h hfloating⟩
    rw [digest_eq, digest_eq, message_eq_iff.2 hagree]
  · intro hmode heq
    exact hmode (message_eq_iff.1 heq).mode

end SigningContext

/-! ## Leaf signatures with a mode -/

/-- An input of a transaction that is signed for a leaf of the output that it spends, in a mode in
which leaves can be signed. -/
structure LeafContext where
  tx : Transaction
  index : Fin tx.inputs.length
  spent : TxOut
  leaf : Bytes
  mode : SigningMode
  floating : mode ≠ .all

namespace LeafContext

/-- The input that is signed. -/
def input (s : LeafContext) : TxIn := s.tx.inputs.get s.index

/-- The byte string that lists what the signature commits to. -/
def message (s : LeafContext) : Bytes := s.tx.tapscriptPreimage s.input s.spent s.leaf s.mode

/-- What is signed. -/
def digest (s : LeafContext) : Result Hash256 := s.tx.tapscriptHash s.index s.spent s.leaf s.mode

/-- Two contexts agree on all that the mode of the first commits to. -/
structure Agree (a b : LeafContext) : Prop where
  mode : a.mode = b.mode
  version : a.tx.version = b.tx.version
  lockTime : a.tx.lockTime = b.tx.lockTime
  outputs : sha256 a.tx.outputBytes = sha256 b.tx.outputBytes
  sequence : a.input.sequence = b.input.sequence
  value : a.mode = .anyPrevOut → a.spent.value = b.spent.value
  script : a.mode = .anyPrevOut → a.spent.script = b.spent.script
  leaf : a.mode = .anyPrevOut → Transaction.leafHash a.leaf = Transaction.leafHash b.leaf

theorem digest_eq (s : LeafContext) : s.digest = .ok (taggedHash "TapSighash" s.message) := by
  have hinput : s.tx.inputs[s.index.val]? = some s.input := List.getElem?_eq_getElem s.index.isLt
  have hfloating : s.mode.commitsToPrevOut = false := by
    have hne := s.floating
    cases hmode : s.mode <;> simp_all [SigningMode.commitsToPrevOut]
  simp only [digest, Transaction.tapscriptHash, hinput, hfloating, Bool.false_eq_true, if_false]
  rfl

/-- The beginning of the byte string, which has one layout in all modes. -/
def firstPart (s : LeafContext) : Bytes :=
  [0x00, s.mode.flag] ++ (s.tx.versionBytes ++ (Bytes.le32 s.tx.lockTime ++
    ((sha256 s.tx.outputBytes).toBytes ++ [0x02])))

/-- What the byte string says about the spent output, the input and the leaf. -/
def spentPart (s : LeafContext) : Bytes :=
  match s.mode with
  | .anyPrevOutAnyScript => Bytes.le32 s.input.sequence ++ ([0x01] ++ Bytes.le32 0xffffffff)
  | _ => Bytes.le64 s.spent.value ++ (Bytes.withLength s.spent.script ++
      (Bytes.le32 s.input.sequence ++ ((Transaction.leafHash s.leaf).toBytes ++
        ([0x01] ++ Bytes.le32 0xffffffff))))

theorem message_eq (s : LeafContext) : s.message = s.firstPart ++ s.spentPart := by
  unfold message firstPart spentPart
  cases s.mode <;>
    simp only [Transaction.tapscriptPreimage, SigningMode.commitsToScript, if_true,
      Bool.false_eq_true, if_false, List.append_assoc, List.append_nil]

@[simp] theorem length_firstPart (s : LeafContext) : s.firstPart.length = 43 := by
  simp [firstPart]

theorem firstPart_eq_iff {a b : LeafContext} : a.firstPart = b.firstPart ↔
    a.mode = b.mode ∧ a.tx.version = b.tx.version ∧ a.tx.lockTime = b.tx.lockTime ∧
      sha256 a.tx.outputBytes = sha256 b.tx.outputBytes := by
  have hflag : [0x00, a.mode.flag] = [0x00, b.mode.flag] ↔ a.mode = b.mode := by
    cases a.mode <;> cases b.mode <;> decide
  rw [firstPart, firstPart, Bytes.append_eq_iff (by simp), Bytes.append_eq_iff (by simp),
    Bytes.append_eq_iff (by simp), List.append_left_inj, hflag, Transaction.versionBytes_inj,
    Bytes.le32_inj, FixedBytes.toBytes_inj]

theorem spentPart_eq_iff {a b : LeafContext} (hmode : a.mode = b.mode) :
    a.spentPart = b.spentPart ↔ a.input.sequence = b.input.sequence ∧
      (a.mode = .anyPrevOut → a.spent.value = b.spent.value ∧ a.spent.script = b.spent.script ∧
        Transaction.leafHash a.leaf = Transaction.leafHash b.leaf) := by
  have hfloating := a.floating
  unfold spentPart
  rw [← hmode]
  cases hcases : a.mode with
  | all => exact absurd hcases hfloating
  | anyPrevOut =>
    -- The script has parts of fixed length on both sides, so its own length is fixed too.
    simp only [true_implies]
    rw [Bytes.append_eq_iff (by simp), Bytes.append_eq_iff_of_last (by simp),
      Bytes.append_eq_iff (by simp), List.append_left_inj, Bytes.le64_inj,
      Bytes.withLength_injective.eq_iff, Bytes.le32_inj, FixedBytes.toBytes_inj]
    constructor
    · rintro ⟨hvalue, hscript, hsequence, hleaf⟩
      exact ⟨hsequence, hvalue, hscript, hleaf⟩
    · rintro ⟨hsequence, hvalue, hscript, hleaf⟩
      exact ⟨hvalue, hscript, hsequence, hleaf⟩
  | anyPrevOutAnyScript =>
    simp only [reduceCtorEq, false_implies, and_true]
    rw [List.append_left_inj, Bytes.le32_inj]

theorem message_eq_iff {a b : LeafContext} : a.message = b.message ↔ a.Agree b := by
  rw [message_eq, message_eq, Bytes.append_eq_iff (by simp), firstPart_eq_iff]
  constructor
  · rintro ⟨⟨hmode, hversion, hlockTime, houtputs⟩, hspent⟩
    obtain ⟨hsequence, hany⟩ := (spentPart_eq_iff hmode).1 hspent
    exact ⟨hmode, hversion, hlockTime, houtputs, hsequence, fun h => (hany h).1,
      fun h => (hany h).2.1, fun h => (hany h).2.2⟩
  · intro h
    refine ⟨⟨h.mode, h.version, h.lockTime, h.outputs⟩, (spentPart_eq_iff h.mode).2
      ⟨h.sequence, fun hany => ?_⟩⟩
    exact ⟨h.value hany, h.script hany, h.leaf hany⟩

/-- The second byte tells the two kinds of leaf signature apart: no mode has the flag zero. -/
theorem message_ne_leafPreimage (s : LeafContext) (tx : Transaction) (index : Nat)
    (prevouts : List TxOut) (leaf : Bytes) : s.message ≠ tx.leafPreimage index prevouts leaf := by
  intro heq
  have hsecond := congrArg (·[1]?) heq
  have hflag : s.message[1]? = some s.mode.flag := by
    rw [message_eq, firstPart]
    rfl
  have hzero : (tx.leafPreimage index prevouts leaf)[1]? = some 0x00 := by
    simp only [Transaction.leafPreimage, List.append_assoc]
    rfl
  rw [hflag, hzero, Option.some.injEq] at hsecond
  cases hmode : s.mode <;> rw [hmode] at hsecond <;> revert hsecond <;> decide

/-- **What a leaf signature commits to.** The byte string that is hashed and signed is the same for
two contexts exactly if they agree on all that its mode commits to, and it is none that a leaf
signature without a mode is made over. So in mode `anyPrevOut` outputs with different scripts have
different byte strings, and in mode `anyPrevOutAnyScript` neither the spent output nor the leaf
matters. -/
theorem leaf_signature_commits (a b : LeafContext) :
    a.digest = .ok (taggedHash "TapSighash" a.message) ∧
    (a.message = b.message ↔ a.Agree b) ∧
    (∀ (tx : Transaction) (index : Nat) (prevouts : List TxOut) (leaf : Bytes),
      prevouts.length = tx.inputs.length →
      tx.leafSignatureHash index prevouts leaf =
        .ok (taggedHash "TapSighash" (tx.leafPreimage index prevouts leaf)) ∧
      a.message ≠ tx.leafPreimage index prevouts leaf) ∧
    (a.mode = .anyPrevOut → b.mode = .anyPrevOut → a.spent.script ≠ b.spent.script →
      a.message ≠ b.message) ∧
    (a.mode = .anyPrevOutAnyScript → ∀ (spent : TxOut) (leaf : Bytes),
      { a with spent, leaf }.message = a.message) := by
  refine ⟨a.digest_eq, message_eq_iff, ?_, ?_, ?_⟩
  · intro tx index prevouts leaf hcount
    exact ⟨if_pos hcount, a.message_ne_leafPreimage tx index prevouts leaf⟩
  · intro ha _ hscript heq
    exact hscript ((message_eq_iff.1 heq).script ha)
  · intro hmode spent leaf
    have hne : a.mode ≠ .anyPrevOut := by
      rw [hmode]
      decide
    exact message_eq_iff.2 ⟨rfl, rfl, rfl, rfl, rfl, fun h => absurd h hne, fun h => absurd h hne,
      fun h => absurd h hne⟩

end LeafContext

end Supersede
