/-!
# Lock times

A transaction's lock time is absolute: a block height below `LockTime.threshold`, a time from there
on. An input's sequence number can hold a relative lock: a number of blocks that must pass after
the spent output confirmed. Relative locks guard the dispute window; absolute ones order the states
of a channel and let payments expire.
-/

namespace Supersede.LockTime

/-- Lock times from here on are times, below it heights. -/
def threshold : UInt32 := 500000000

/-- The bit of a sequence number that turns its relative lock off. -/
def disableFlag : UInt32 := 0x80000000

/-- The bit of a sequence number that makes its relative lock one of time. -/
def timeFlag : UInt32 := 0x00400000

/-- The bits of a sequence number that hold the lock's length. -/
def lengthMask : UInt32 := 0x0000ffff

/-- The sequence number that turns the transaction's lock time off for an input. -/
def finalSequence : UInt32 := 0xffffffff

/-- A sequence number without relative lock that leaves the transaction's lock time on. -/
def enabledSequence : UInt32 := 0xfffffffe

/-- The sequence number with a relative lock of some blocks. -/
def sequenceForBlocks (blocks : UInt16) : UInt32 := blocks.toUInt32

/-- The blocks of a sequence number's relative lock, if it has one counted in blocks. -/
def relativeBlocks? (sequence : UInt32) : Option UInt16 :=
  if sequence &&& disableFlag ≠ 0 ∨ sequence &&& timeFlag ≠ 0 then none
  else some (sequence &&& lengthMask).toUInt16

/-- The difference of two heights, or zero if the second is higher. -/
def heightGap (later earlier : UInt32) : UInt32 := if earlier ≤ later then later - earlier else 0

/-- Whether an output confirmed at one height can be spent at another under a sequence number's
lock by blocks. -/
def isMature (sequence spendHeight confirmationHeight : UInt32) : Bool :=
  match relativeBlocks? sequence with
  | some blocks => blocks.toUInt32 ≤ heightGap spendHeight confirmationHeight
  | none => true

/-- Whether an expiry has been reached. -/
def isExpired (expiry blockTime : UInt32) : Bool := expiry ≤ blockTime

end Supersede.LockTime
