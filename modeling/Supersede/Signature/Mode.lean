import Supersede.Error
import Supersede.Key.Scheme

/-!
# Signing modes

Every signature of a channel is made in one of three modes, which decide what of the spent output
it commits to:

* `all`: the output and its script; for transactions that leave the channel,
* `anyPrevOut`: the script only; for the settlement of one state, wherever that state appears,
* `anyPrevOutAnyScript`: neither; for updates, which can replace any earlier state.

The mode travels as a flag byte at the end of the signature.
-/

namespace Supersede

/-- What of the spent output a signature commits to. -/
inductive SigningMode where
  | all
  | anyPrevOut
  | anyPrevOutAnyScript
deriving DecidableEq

namespace SigningMode

/-- The flag byte. -/
def flag : SigningMode → UInt8
  | all => 0x01
  | anyPrevOut => 0x41
  | anyPrevOutAnyScript => 0xc1

/-- Reads a flag byte. -/
def ofFlag (f : UInt8) : Result SigningMode :=
  if f = 0x01 then .ok all
  else if f = 0x41 then .ok anyPrevOut
  else if f = 0xc1 then .ok anyPrevOutAnyScript
  else .error (.signing (.unknownMode f))

/-- Whether the mode commits to the spent output. -/
def commitsToPrevOut : SigningMode → Bool
  | all => true
  | _ => false

/-- Whether the mode commits to the script of the spent output. -/
def commitsToScript : SigningMode → Bool
  | anyPrevOutAnyScript => false
  | _ => true

/-- The name of the mode in messages. -/
def name : SigningMode → String
  | all => "All"
  | anyPrevOut => "AnyPrevOut"
  | anyPrevOutAnyScript => "AnyPrevOutAnyScript"

/-- The mode with a name. -/
def ofName? (s : String) : Option SigningMode :=
  [all, anyPrevOut, anyPrevOutAnyScript].find? (·.name == s)

end SigningMode

/-! ## Signatures with their mode -/

/-- An ECDSA signature of a channel transaction. -/
structure ChannelSignature where
  signature : EcdsaSignature
  mode : SigningMode
deriving DecidableEq

namespace ChannelSignature

/-- The DER form and the flag. -/
def toBytes (sig : ChannelSignature) : Bytes := sig.signature.toDer ++ [sig.mode.flag]

/-- Reads the DER form and the flag. An unknown flag is reported before a malformed signature. -/
def ofBytes (b : Bytes) : Result ChannelSignature :=
  match b.getLast? with
  | none => .error (.signing (.malformedSignature "empty signature"))
  | some f =>
    match SigningMode.ofFlag f with
    | .error e => .error e
    | .ok mode =>
      match EcdsaSignature.ofDer? b.dropLast with
      | none => .error (.signing (.malformedSignature "malformed signature"))
      | some signature => .ok ⟨signature, mode⟩

end ChannelSignature

/-- A Schnorr signature for a taproot leaf. -/
structure TapscriptSignature where
  signature : SchnorrSignature
  mode : SigningMode
deriving DecidableEq

namespace TapscriptSignature

/-- The 64 bytes and the flag. -/
def toBytes (sig : TapscriptSignature) : Bytes := sig.signature.toBytes ++ [sig.mode.flag]

/-- Reads 64 bytes and a flag. -/
def ofBytes (b : Bytes) : Result TapscriptSignature :=
  if h : b.length = 65 then
    match SigningMode.ofFlag (b.getLastD 0) with
    | .error e => .error e
    | .ok mode => .ok ⟨⟨b.dropLast, by simp [h]⟩, mode⟩
  else
    .error (.signing (.malformedSignature
      s!"tapscript signature must be 65 bytes, got {b.length}"))

end TapscriptSignature

end Supersede
