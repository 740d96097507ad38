import NodeLedger.Value.Access

/-!
Channels of the node, open and closed.  A channel is funded by an output of a transaction, its
channel point.

The names that records hold (ids, hashes, keys, labels) are values as the node gives them.  They
are texts as a rule, and no record depends on that.
-/

namespace NodeLedger

open NodeLedger.Numeral

/-- Who began something with a channel. -/
inductive Initiator where
  | unknown
  | us
  | peer
  | both
  deriving DecidableEq, Repr, Inhabited

/-- How a channel was closed. -/
inductive CloseType where
  | cooperative
  | localForce
  | remoteForce
  | breach
  | fundingCanceled
  | abandoned
  | unknown
  deriving DecidableEq, Repr, Inhabited

namespace Initiator

/-- The name of an initiator. -/
def name : Initiator → String
  | unknown => "unknown"
  | us => "local"
  | peer => "remote"
  | both => "both"

/-- All initiators. -/
def all : List Initiator := [unknown, us, peer, both]

end Initiator

namespace CloseType

/-- The name of a way to close a channel. -/
def name : CloseType → String
  | cooperative => "cooperative"
  | localForce => "local_force"
  | remoteForce => "remote_force"
  | breach => "breach"
  | fundingCanceled => "funding_canceled"
  | abandoned => "abandoned"
  | unknown => "unknown"

/-- All ways to close a channel. -/
def all : List CloseType :=
  [cooperative, localForce, remoteForce, breach, fundingCanceled, abandoned, unknown]

end CloseType

/-- A channel that is open. -/
structure OpenChannel where
  channelPoint : Value
  channelId : Value
  remotePubkey : Value
  capacity : Int
  openedByUs : Bool
  deriving Repr

/-- A channel that is closed. -/
structure ClosedChannel where
  channelPoint : Value
  channelId : Value
  remotePubkey : Value
  capacity : Int
  closingTxid : Value
  settledBalance : Int := 0
  closeType : CloseType := .unknown
  openInitiator : Initiator := .unknown
  closeInitiator : Initiator := .unknown
  deriving Repr

namespace ChannelPoint

/-- The parts of a text between its colons. -/
def parts (channelPoint : String) : List (List Char) :=
  channelPoint.toList.splitOnP (· == ':')

/-- The funding transaction of a channel point: 64 characters in front of a colon and an integer. -/
def txid (channelPoint : String) : Except Failure String :=
  match parts channelPoint with
  | [txid, index] =>
    match readInteger .decimal (String.ofList index) with
    | .error _ => .error (.value (.channelPointIndex channelPoint))
    | .ok _ =>
      if txid.length = 64 then .ok (String.ofList txid)
      else .error (.value (.channelPointTxid channelPoint))
  | ps => .error (.value (.channelPointParts ps.length))

/-- The funding transaction of the channel point that a value is. -/
def txidOf : Value → Except Failure String
  | .text channelPoint => txid channelPoint
  | v => .error (.shape (.missingMember v.kind "split"))

end ChannelPoint

/-- The transaction that funds an open channel. -/
def OpenChannel.fundingTxid (channel : OpenChannel) : Except Failure String :=
  ChannelPoint.txidOf channel.channelPoint

/-- The transaction that funded a closed channel. -/
def ClosedChannel.fundingTxid (channel : ClosedChannel) : Except Failure String :=
  ChannelPoint.txidOf channel.channelPoint

end NodeLedger
