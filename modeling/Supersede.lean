import Supersede.Address.Base58
import Supersede.Address.Bech32
import Supersede.Address.Network
import Supersede.Bytes
import Supersede.Bytes.Encoding
import Supersede.Chain.Basic
import Supersede.Chain.Machine
import Supersede.Chain.Spend
import Supersede.Contract.Closing
import Supersede.Contract.Cosigned
import Supersede.Contract.Settlement
import Supersede.Contract.Sweep
import Supersede.Contract.Update
import Supersede.Contract.Witness
import Supersede.Error
import Supersede.Hash.Digest
import Supersede.Hash.Ripemd160
import Supersede.Hash.Sha256
import Supersede.Hash.Sha512
import Supersede.Key.Basic
import Supersede.Key.Extended
import Supersede.Key.Scheme
import Supersede.Ledger.Amount
import Supersede.Ledger.FeeSplit
import Supersede.Ledger.Invoice
import Supersede.Ledger.Params
import Supersede.Ledger.Party
import Supersede.Ledger.Snapshot
import Supersede.Node.Basic
import Supersede.Node.Closure
import Supersede.Node.Entropy
import Supersede.Node.Exchange
import Supersede.Node.Opening
import Supersede.Script.Instruction
import Supersede.Script.Number
import Supersede.Script.Opcode
import Supersede.Script.Template
import Supersede.Secp256k1.Ecdsa
import Supersede.Secp256k1.Field
import Supersede.Secp256k1.Group
import Supersede.Secp256k1.Point
import Supersede.Secp256k1.Scheme
import Supersede.Secp256k1.Schnorr
import Supersede.Signature.Ecdsa
import Supersede.Signature.Mode
import Supersede.SortedMap
import Supersede.Taproot.Output
import Supersede.Taproot.Tree
import Supersede.Transaction.Basic
import Supersede.Transaction.Digest
import Supersede.Transaction.LockTime
import Supersede.Proofs.Field
import Supersede.Proofs.Curve
import Supersede.Proofs.Encoding
import Supersede.Proofs.Scheme
import Supersede.Proofs.SortedMap
import Supersede.Proofs.Ledger
import Supersede.Proofs.FeeSplit
import Supersede.Proofs.Derivation
import Supersede.Proofs.Signing
import Supersede.Proofs.Operations
import Supersede.Proofs.Atomicity
import Supersede.Proofs.Moves
import Supersede.Proofs.Handshake
import Supersede.Proofs.Soundness
import Supersede.Proofs.Directory
import Supersede.Proofs.Completion
import Supersede.Proofs.Finality
import Supersede.Proofs.Fairness
import Supersede.Proofs.Agreement
import Supersede.Proofs.Equivocation
import Supersede.Proofs.Script
import Supersede.Proofs.Execution
import Supersede.Proofs.Unlocking
import Supersede.Proofs.Validation
import Supersede.Proofs.Supersession
import Supersede.Proofs.TimeLocks
import Supersede.Proofs.Settling
import Supersede.Proofs.Binding
import Supersede.Proofs.ChainRuns
import Supersede.Proofs.Sweeping
import Supersede.Proofs.Expiry
import Supersede.Proofs.Secrets
import Supersede.Proofs.ChainHistory
import Supersede.Proofs.Conservation
import Supersede.Proofs.DoubleSpend
import Supersede.Proofs.Commitments
import Supersede.Proofs.CooperativeClose
import Supersede.Proofs.CloseProposals
import Supersede.Proofs.Taproot
import Supersede.Proofs.Resolution
import Supersede.Proofs.Receiving
import Supersede.Proofs.OfferOrder
import Supersede.Proofs.Layout
import Supersede.Proofs.Entitlement
import Supersede.Proofs.SignatureForms
import Supersede.Proofs.ScriptForms
import Supersede.Proofs.SettleKeys
import Supersede.Proofs.CloseAdoption
import Supersede.Proofs.Multisig
import Supersede.Proofs.Conditionals
import Supersede.Proofs.Numbers
