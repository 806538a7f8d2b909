import Mathlib.Data.List.Basic

/-!
# The node's API, as the harness sees it

The harness talks to each Avalanche node through a client handle: the keystore, X-chain,
P-chain and info APIs. Every call a modelled function makes is a constructor of `Call`, and
`Call.Ret` is the type of the value the Go client method returns beside its `error`. A call
is answered by a `Node`, which may answer the `n`-th call of a run however it likes: the
theorems of the development quantify over every node, that is, over every sequence of API
responses.

Errors keep the format strings and arguments of the source, so that a statement about a
message is a statement about the code.
-/

namespace AvalancheTesting

/-- A handle on one node's API endpoint (`*services.Client`). -/
structure Client where
  id : Nat
  deriving DecidableEq, Repr

/-- Keystore credentials (`api.UserPass`). -/
structure UserPass where
  username : String
  password : String
  deriving DecidableEq, Repr

/-- A transaction ID (`ids.ID`). -/
structure TxID where
  val : Nat
  deriving DecidableEq, Repr

/-- `ids.Empty`, the zero value of `ids.ID`. -/
def TxID.empty : TxID := ⟨0⟩

/-- Serialized bytes (`[]byte`). -/
abbrev Bytes := List UInt8

/-- Status of an X-chain transaction (`choices.Status`). -/
inductive XStatus where
  | unknown | processing | rejected | accepted
  deriving DecidableEq, Repr

/-- Status of a P-chain transaction (`platformvm.Status`). -/
inductive PStatus where
  | unknown | preferred | committed | aborted | processing | dropped
  deriving DecidableEq, Repr

/-- Reply of the P-chain `getTxStatus` with `includeReason` (`platformvm.GetTxStatusResponse`). -/
structure PStatusReply where
  status : PStatus
  reason : String
  deriving DecidableEq, Repr

/-- A format argument of an error message. -/
inductive Arg where
  | str (s : String)
  | num (n : Nat)
  | tx (id : TxID)
  | pStatus (s : PStatus)
  deriving DecidableEq, Repr

/-- A Go `error` value, by how it was built. -/
inductive Err where
  /-- An error made outside this repository: by the node's API or by a library. -/
  | remote (msg : String)
  /-- `stacktrace.NewError(format, args...)`. -/
  | newError (format : String) (args : List Arg)
  /-- `stacktrace.Propagate(cause, format, args...)`. -/
  | propagate (cause : Err) (format : String) (args : List Arg)
  /-- `fmt.Errorf(format, args...)`. -/
  | errorf (format : String) (args : List Arg)
  /-- `fmt.Errorf(format, args..., wrapped)`, whose format ends in a `%w`. -/
  | errorfWrap (format : String) (args : List Arg) (wrapped : Err)
  deriving DecidableEq, Repr

/-- The API calls the modelled code makes. The `from addrs` and `change addr` arguments,
`nil` and `""` at every call site, are left out. -/
inductive Call where
  | keystoreCreateUser (user : UserPass)
  | xImportKey (user : UserPass) (privateKey : String)
  | xListAddresses (user : UserPass)
  | xCreateAddress (user : UserPass)
  | pCreateAddress (user : UserPass)
  | infoGetNodeID
  | xSend (user : UserPass) (amount : UInt64) (assetID : String) (toAddr : String)
  | xExportAVAX (user : UserPass) (amount : UInt64) (toAddr : String)
  | xImportAVAX (user : UserPass) (toAddr : String) (sourceChain : String)
  | pExportAVAX (user : UserPass) (toAddr : String) (amount : UInt64)
  | pImportAVAX (user : UserPass) (toAddr : String) (sourceChain : String)
  | pAddValidator (user : UserPass) (rewardAddress nodeID : String) (stakeAmount : UInt64)
      (startTime endTime : UInt64) (delegationFeeRate : Nat)
  | pAddDelegator (user : UserPass) (rewardAddress nodeID : String) (stakeAmount : UInt64)
      (startTime endTime : UInt64)
  | xIssueTx (tx : Bytes)
  | xGetTxStatus (txID : TxID)
  | pGetTxStatus (txID : TxID)
  | pGetTxStatusWithReason (txID : TxID) (includeReason : Bool)
  | xGetBalance (address assetID : String)
  | pGetBalance (address : String)
  | xGetUTXOs (addrs : List String) (limit : Nat) (startAddress startUTXO : String)
  | xExportKey (user : UserPass) (address : String)
  deriving DecidableEq, Repr

/-- The value a call returns beside its `error`. -/
def Call.Ret : Call → Type
  | .keystoreCreateUser _ => Bool
  | .xImportKey .. | .xCreateAddress _ | .pCreateAddress _ | .infoGetNodeID
  | .xExportKey .. => String
  | .xListAddresses _ => List String
  | .xSend .. | .xExportAVAX .. | .xImportAVAX .. | .pExportAVAX .. | .pImportAVAX ..
  | .pAddValidator .. | .pAddDelegator .. | .xIssueTx _ => TxID
  | .xGetTxStatus _ => XStatus
  | .pGetTxStatus _ => PStatus
  | .pGetTxStatusWithReason .. => PStatusReply
  | .xGetBalance .. | .pGetBalance _ => UInt64
  | .xGetUTXOs .. => List Bytes

/-- A call made by the harness, with the reply it got and the clock when it was made. -/
structure Event where
  client : Client
  call : Call
  reply : call.Ret
  err : Option Err
  time : Nat

/-- The environment of a run: the node's answers and the passage of time.
Time moves while a call is answered (by `latency`), when the clock is read (by `skew`) and when
the harness sleeps. -/
structure Node where
  /-- The answer to the `n`-th call of the run, made through `client`. -/
  answer : Nat → Client → (c : Call) → c.Ret × Option Err
  /-- The time the `n`-th call of the run takes to return. -/
  latency : Nat → Nat
  /-- The time that passes before the `n`-th read of the clock. -/
  skew : Nat → Nat
  /-- The value of the `n`-th call of `rand.Int`. -/
  rand : Nat → Nat

/-- The state of a run: the calls made so far, oldest first, and the monotonic clock. -/
structure World where
  trace : List Event
  clock : Nat
  reads : Nat
  draws : Nat

end AvalancheTesting
