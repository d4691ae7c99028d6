/-!
# Networks

The chains on which a channel can live. They differ in the texts of addresses and keys only.
-/

namespace Supersede

/-- A chain by its conventional name. -/
inductive Network where
  | bitcoin
  | testnet
  | testnet4
  | signet
  | regtest
deriving DecidableEq

namespace Network

/-- The conventional name. -/
def name : Network → String
  | bitcoin => "bitcoin"
  | testnet => "testnet"
  | testnet4 => "testnet4"
  | signet => "signet"
  | regtest => "regtest"

/-- All networks. -/
def all : List Network := [bitcoin, testnet, testnet4, signet, regtest]

/-- The network with a name. -/
def ofName? (s : String) : Option Network := all.find? (·.name == s)

/-- Whether coins on the network have value. Extended keys distinguish networks by this alone. -/
def isMain : Network → Bool
  | bitcoin => true
  | _ => false

/-- The human-readable part of segregated-witness addresses. -/
def addressTag : Network → String
  | bitcoin => "bc"
  | regtest => "bcrt"
  | _ => "tb"

end Network

end Supersede
