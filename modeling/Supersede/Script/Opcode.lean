import Supersede.Bytes.Encoding

/-!
# Operations of the script language

The operations that channel scripts use have a constructor each. Every other operation is known by
its code and name only; executing it is an error.
-/

namespace Supersede

/-- An operation that is not a push of bytes. -/
inductive Op where
  /-- Pushes a number from 1 to 16: one more than the argument. -/
  | number (pred : Fin 16)
  | ifTrue
  | ifFalse
  | otherwise
  | endIf
  | drop
  | hash160
  | equalVerify
  | checkSig
  | checkMultisig
  | checkMultisigVerify
  | checkLockTime
  | checkSequence
  | other (code : UInt8)
deriving DecidableEq

namespace Op

/-- The byte that stands for the operation in a script. -/
def code : Op → UInt8
  | number pred => 0x51 + UInt8.ofNat pred.val
  | ifTrue => 0x63
  | ifFalse => 0x64
  | otherwise => 0x67
  | endIf => 0x68
  | drop => 0x75
  | hash160 => 0xa9
  | equalVerify => 0x88
  | checkSig => 0xac
  | checkMultisig => 0xae
  | checkMultisigVerify => 0xaf
  | checkLockTime => 0xb1
  | checkSequence => 0xb2
  | other code => code

/-- The operations with a constructor of their own, apart from the numbers. -/
def named : List Op :=
  [ifTrue, ifFalse, otherwise, endIf, drop, hash160, equalVerify, checkSig, checkMultisig,
    checkMultisigVerify, checkLockTime, checkSequence]

/-- The operation for a byte. -/
def ofCode (c : UInt8) : Op :=
  if h : 0x51 ≤ c.toNat ∧ c.toNat ≤ 0x60 then number ⟨c.toNat - 0x51, by omega⟩
  else (named.find? (·.code == c)).getD (other c)

/-! ## Names -/

/-- Names of the codes from `0x61` to `0xba`. -/
def names : Array String :=
  #["OP_NOP", "OP_VER", "OP_IF", "OP_NOTIF", "OP_VERIF", "OP_VERNOTIF", "OP_ELSE", "OP_ENDIF",
    "OP_VERIFY", "OP_RETURN", "OP_TOALTSTACK", "OP_FROMALTSTACK", "OP_2DROP", "OP_2DUP", "OP_3DUP",
    "OP_2OVER", "OP_2ROT", "OP_2SWAP", "OP_IFDUP", "OP_DEPTH", "OP_DROP", "OP_DUP", "OP_NIP",
    "OP_OVER", "OP_PICK", "OP_ROLL", "OP_ROT", "OP_SWAP", "OP_TUCK", "OP_CAT", "OP_SUBSTR",
    "OP_LEFT", "OP_RIGHT", "OP_SIZE", "OP_INVERT", "OP_AND", "OP_OR", "OP_XOR", "OP_EQUAL",
    "OP_EQUALVERIFY", "OP_RESERVED1", "OP_RESERVED2", "OP_1ADD", "OP_1SUB", "OP_2MUL", "OP_2DIV",
    "OP_NEGATE", "OP_ABS", "OP_NOT", "OP_0NOTEQUAL", "OP_ADD", "OP_SUB", "OP_MUL", "OP_DIV",
    "OP_MOD", "OP_LSHIFT", "OP_RSHIFT", "OP_BOOLAND", "OP_BOOLOR", "OP_NUMEQUAL",
    "OP_NUMEQUALVERIFY", "OP_NUMNOTEQUAL", "OP_LESSTHAN", "OP_GREATERTHAN", "OP_LESSTHANOREQUAL",
    "OP_GREATERTHANOREQUAL", "OP_MIN", "OP_MAX", "OP_WITHIN", "OP_RIPEMD160", "OP_SHA1",
    "OP_SHA256", "OP_HASH160", "OP_HASH256", "OP_CODESEPARATOR", "OP_CHECKSIG",
    "OP_CHECKSIGVERIFY", "OP_CHECKMULTISIG", "OP_CHECKMULTISIGVERIFY", "OP_NOP1", "OP_CLTV",
    "OP_CSV", "OP_NOP4", "OP_NOP5", "OP_NOP6", "OP_NOP7", "OP_NOP8", "OP_NOP9", "OP_NOP10",
    "OP_CHECKSIGADD"]

/-- The name of a code. The codes above the last named one all end the script. -/
def codeName (c : UInt8) : String :=
  let n := c.toNat
  if n ≤ 0x4b then s!"OP_PUSHBYTES_{n}"
  else if n = 0x4c then "OP_PUSHDATA1"
  else if n = 0x4d then "OP_PUSHDATA2"
  else if n = 0x4e then "OP_PUSHDATA4"
  else if n = 0x4f then "OP_PUSHNUM_NEG1"
  else if n = 0x50 then "OP_RESERVED"
  else if n ≤ 0x60 then s!"OP_PUSHNUM_{n - 0x50}"
  else if n = 0xff then "OP_INVALIDOPCODE"
  else names.getD (n - 0x61) s!"OP_RETURN_{n}"

/-- The name of the operation. -/
def name (op : Op) : String := codeName op.code

end Op

end Supersede
