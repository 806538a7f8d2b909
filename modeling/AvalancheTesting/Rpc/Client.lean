import AvalancheTesting.Rpc.Prog

/-!
# Client methods

One program per method of the node's API clients (`KeystoreAPI()`, `XChainAPI()`,
`PChainAPI()`, `InfoAPI()`), each a single `Prog.call` at the type the Go method returns.
-/

namespace AvalancheTesting

namespace Client

variable (cl : Client)

/-- `KeystoreAPI().CreateUser(user)`. -/
def createUser (user : UserPass) : Prog (Bool × Option Err) :=
  Prog.call cl (.keystoreCreateUser user)

/-- `XChainAPI().ImportKey(user, privateKey)`. -/
def xImportKey (user : UserPass) (privateKey : String) : Prog (String × Option Err) :=
  Prog.call cl (.xImportKey user privateKey)

/-- `XChainAPI().ListAddresses(user)`. -/
def xListAddresses (user : UserPass) : Prog (List String × Option Err) :=
  Prog.call cl (.xListAddresses user)

/-- `XChainAPI().CreateAddress(user)`. -/
def xCreateAddress (user : UserPass) : Prog (String × Option Err) :=
  Prog.call cl (.xCreateAddress user)

/-- `PChainAPI().CreateAddress(user)`. -/
def pCreateAddress (user : UserPass) : Prog (String × Option Err) :=
  Prog.call cl (.pCreateAddress user)

/-- `InfoAPI().GetNodeID()`. -/
def infoGetNodeID : Prog (String × Option Err) :=
  Prog.call cl .infoGetNodeID

/-- `XChainAPI().Send(user, amount, assetID, to, nil, "")`. -/
def xSend (user : UserPass) (amount : UInt64) (assetID toAddr : String) :
    Prog (TxID × Option Err) :=
  Prog.call cl (.xSend user amount assetID toAddr)

/-- `XChainAPI().ExportAVAX(user, amount, to, nil, "")`. -/
def xExportAVAX (user : UserPass) (amount : UInt64) (toAddr : String) :
    Prog (TxID × Option Err) :=
  Prog.call cl (.xExportAVAX user amount toAddr)

/-- `XChainAPI().ImportAVAX(user, to, sourceChain)`. -/
def xImportAVAX (user : UserPass) (toAddr sourceChain : String) : Prog (TxID × Option Err) :=
  Prog.call cl (.xImportAVAX user toAddr sourceChain)

/-- `PChainAPI().ExportAVAX(user, to, amount, nil, "")`. -/
def pExportAVAX (user : UserPass) (toAddr : String) (amount : UInt64) :
    Prog (TxID × Option Err) :=
  Prog.call cl (.pExportAVAX user toAddr amount)

/-- `PChainAPI().ImportAVAX(user, to, sourceChain, nil, "")`. -/
def pImportAVAX (user : UserPass) (toAddr sourceChain : String) : Prog (TxID × Option Err) :=
  Prog.call cl (.pImportAVAX user toAddr sourceChain)

/-- `PChainAPI().AddValidator(user, rewardAddress, nodeID, stakeAmount, startTime, endTime,
delegationFeeRate)`. -/
def pAddValidator (user : UserPass) (rewardAddress nodeID : String)
    (stakeAmount startTime endTime : UInt64) (delegationFeeRate : Nat) :
    Prog (TxID × Option Err) :=
  Prog.call cl (.pAddValidator user rewardAddress nodeID stakeAmount startTime endTime
    delegationFeeRate)

/-- `PChainAPI().AddDelegator(user, rewardAddress, nodeID, stakeAmount, startTime, endTime, nil,
"")`. -/
def pAddDelegator (user : UserPass) (rewardAddress nodeID : String)
    (stakeAmount startTime endTime : UInt64) : Prog (TxID × Option Err) :=
  Prog.call cl (.pAddDelegator user rewardAddress nodeID stakeAmount startTime endTime)

/-- `XChainAPI().IssueTx(txBytes)`. -/
def xIssueTx (tx : Bytes) : Prog (TxID × Option Err) :=
  Prog.call cl (.xIssueTx tx)

/-- `XChainAPI().GetTxStatus(txID)`. -/
def xGetTxStatus (txID : TxID) : Prog (XStatus × Option Err) :=
  Prog.call cl (.xGetTxStatus txID)

/-- `PChainAPI().GetTxStatus(txID)`. -/
def pGetTxStatus (txID : TxID) : Prog (PStatus × Option Err) :=
  Prog.call cl (.pGetTxStatus txID)

/-- `PChainAPI().GetTxStatus(txID, includeReason)`, of the newer client. -/
def pGetTxStatusWithReason (txID : TxID) (includeReason : Bool) :
    Prog (PStatusReply × Option Err) :=
  Prog.call cl (.pGetTxStatusWithReason txID includeReason)

/-- `XChainAPI().GetBalance(address, assetID)`, its `Balance` field. -/
def xGetBalance (address assetID : String) : Prog (UInt64 × Option Err) :=
  Prog.call cl (.xGetBalance address assetID)

/-- `PChainAPI().GetBalance(address)`, its `Balance` field. -/
def pGetBalance (address : String) : Prog (UInt64 × Option Err) :=
  Prog.call cl (.pGetBalance address)

/-- `XChainAPI().GetUTXOs(addrs, limit, startAddress, startUTXO)`, without the end index. -/
def xGetUTXOs (addrs : List String) (limit : Nat) (startAddress startUTXO : String) :
    Prog (List Bytes × Option Err) :=
  Prog.call cl (.xGetUTXOs addrs limit startAddress startUTXO)

/-- `XChainAPI().ExportKey(user, address)`. -/
def xExportKey (user : UserPass) (address : String) : Prog (String × Option Err) :=
  Prog.call cl (.xExportKey user address)

end Client

end AvalancheTesting
