import AvalancheTesting.Rpc.Prog
import AvalancheTesting.Go.Strings

/-!
# The command line that starts a node

`GeckoServiceInitializerCore.GetStartCommand` builds the command line of a node from the core's
settings and the services it depends on. The two current versions of the core
(`avalanche/services` and `commons/ava_services`) differ only in their fee flag, so both are
`startCommand` applied to their own flag and service type; the older version of `commons/ava_services` has a
different loop over the dependencies and keeps its own body.

A Go map is ranged over in no fixed order: `additionalCLIArgs` is the list of its entries in the
order of one such iteration, and the theorems hold for every order.
-/

namespace AvalancheTesting

/-- A service socket (`services.ServiceSocket`). -/
structure ServiceSocket where
  ipAddr : String
  port : Nat
  deriving DecidableEq, Repr

/-- A dependency of a node (`services.Service`): an `AvalancheService` with its staking socket,
or a service of another type. -/
inductive Service where
  | avalanche (stakingSocket : ServiceSocket)
  | other
  deriving DecidableEq, Repr

/-- `fmt.Sprintf("%s:%d", socket.GetIpAddr(), socket.GetPort().Int())`. -/
def ServiceSocket.str (s : ServiceSocket) : String := s.ipAddr ++ ":" ++ toString s.port

/-- The loop asserting the type of each dependency (`service.(AvalancheService)`): their
staking sockets, or `none` when an assertion panics. -/
def avaDependencies : List Service → Option (List ServiceSocket)
  | [] => some []
  | .avalanche s :: rest => (avaDependencies rest).map (s :: ·)
  | .other :: _ => none

namespace Services

/-- `httpPort`, `"9650/tcp"`. -/
def httpPort : Nat := 9650

/-- `stakingPort`, `"9651/tcp"`. -/
def stakingPort : Nat := 9651

/-- `stakingTLSCertFileID`. -/
def stakingTLSCertFileID : String := "staking-tls-cert"

/-- `stakingTLSKeyFileID`. -/
def stakingTLSKeyFileID : String := "staking-tls-key"

/-- `avalancheBinary`. -/
def avalancheBinary : String := "/gecko/build/avalanche"

/-- The settings of `GeckoServiceInitializerCore` that `GetStartCommand` reads. -/
structure GeckoServiceInitializerCore where
  snowSampleSize : Int
  snowQuorumSize : Int
  stakingEnabled : Bool
  txFee : UInt64
  additionalCLIArgs : List (String × String)
  bootstrapperNodeIDs : List String
  logLevel : String

/-- `commandList` before the optional flags are appended. -/
def commandList (txFeeFlag : String) (core : GeckoServiceInitializerCore) (publicIPAddr : String) :
    List String :=
  [avalancheBinary, "--public-ip=" ++ publicIPAddr, "--network-id=local",
    "--http-port=" ++ toString httpPort, "--http-host=",
    "--staking-port=" ++ toString stakingPort, "--log-level=" ++ core.logLevel,
    "--snow-sample-size=" ++ toString core.snowSampleSize,
    "--snow-quorum-size=" ++ toString core.snowQuorumSize,
    "--staking-enabled=" ++ toString core.stakingEnabled, txFeeFlag]

/-- The flags for the staking TLS files and the bootstrapper IDs, or the error for a missing
file. -/
def stakingFlags (core : GeckoServiceInitializerCore) (mountedFileFilepaths : String → Option String) :
    Except Err (List String) :=
  match mountedFileFilepaths stakingTLSCertFileID with
  | none => .error (.newError
      "Could not find file key '%v' in the mounted filepaths map; this is likely a code bug"
      [.str stakingTLSCertFileID])
  | some certFilepath =>
    match mountedFileFilepaths stakingTLSKeyFileID with
    | none => .error (.newError
        "Could not find file key '%v' in the mounted filepaths map; this is likely a code bug"
        [.str stakingTLSKeyFileID])
    | some keyFilepath =>
      .ok ["--staking-tls-cert-file=" ++ certFilepath, "--staking-tls-key-file=" ++ keyFilepath,
        "--bootstrap-ids=" ++ join core.bootstrapperNodeIDs ","]

/-- The `--bootstrap-ips` flag, present when there is a dependency; the dependencies are
asserted to be of type `serviceType`. -/
def bootstrapIPsFlags (serviceType : String) (dependencies : List Service) :
    Except Panic (List String) :=
  if dependencies.length > 0 then
    match avaDependencies dependencies with
    | none => .error (.typeAssertion serviceType)
    | some sockets => .ok ["--bootstrap-ips=" ++ join (sockets.map ServiceSocket.str) ","]
  else .ok []

/-- `GetStartCommand(mountedFileFilepaths, publicIPAddr, dependencies)` with fee flag
`txFeeFlag`, asserting the dependencies to be of type `serviceType`: the command, an error, or
the panic of a failed type assertion. -/
def startCommand (txFeeFlag serviceType : String) (core : GeckoServiceInitializerCore)
    (mountedFileFilepaths : String → Option String) (publicIPAddr : String)
    (dependencies : List Service) : Except Panic (Except Err (List String)) :=
  let numBootNodeIDs := core.bootstrapperNodeIDs.length
  let numDependencies := dependencies.length
  if numDependencies > numBootNodeIDs then
    .ok (.error (.newError
      "Gecko service is being started with %v dependencies but only %v boot node IDs have been configured"
      [.num numDependencies, .num numBootNodeIDs]))
  else
    match (if core.stakingEnabled then stakingFlags core mountedFileFilepaths else .ok []) with
    | .error e => .ok (.error e)
    | .ok staking =>
      (bootstrapIPsFlags serviceType dependencies).map fun ips =>
        .ok (commandList txFeeFlag core publicIPAddr ++ staking ++ ips ++
          core.additionalCLIArgs.map fun (param, argument) => "--" ++ param ++ "=" ++ argument)

/-- `GetStartCommand` of `avalanche/services`. -/
def GeckoServiceInitializerCore.getStartCommand (core : GeckoServiceInitializerCore) :
    (String → Option String) → String → List Service → Except Panic (Except Err (List String)) :=
  startCommand ("--tx-fee=" ++ toString core.txFee) "AvalancheService" core

/-- `GetStartCommand` of the current `commons/ava_services`, whose core has no fee setting. -/
def GeckoServiceInitializerCore.getStartCommandAvaServices
    (core : GeckoServiceInitializerCore) :
    (String → Option String) → String → List Service → Except Panic (Except Err (List String)) :=
  startCommand ("--avax-tx-fee=" ++ toString 0) "AvaService" core

end Services

namespace AvaServicesLegacy

/-- `stakingTlsCertPath`. -/
def stakingTlsCertPath : String := "/data/service/node.crt"

/-- `stakingTlsKeyPath`. -/
def stakingTlsKeyPath : String := "/data/service/node.key"

/-- The settings of the older `GeckoServiceInitializerCore`. -/
structure GeckoServiceInitializerCore where
  snowSampleSize : Int
  snowQuorumSize : Int
  stakingTlsEnabled : Bool
  logLevel : String

/-- The loop over the dependencies' sockets: each socket is listed; with staking TLS the
hardcoded bootstrapper ID is added after the first and the loop breaks. The listed sockets,
and the `--bootstrap-ids` flags added. -/
def socketLoop (stakingTlsEnabled : Bool) (staker1NodeID : String) :
    List ServiceSocket → List String × List String
  | [] => ([], [])
  | socket :: sockets =>
    if stakingTlsEnabled then ([socket.str], ["--bootstrap-ids=" ++ staker1NodeID])
    else
      let rest := socketLoop stakingTlsEnabled staker1NodeID sockets
      (socket.str :: rest.1, rest.2)

/-- `commandList` before the optional flags are appended. -/
def commandList (g : GeckoServiceInitializerCore) (publicIpAddr : String) : List String :=
  ["/gecko/build/ava", "--public-ip=" ++ publicIpAddr, "--network-id=local",
    "--http-port=" ++ toString Services.httpPort,
    "--staking-port=" ++ toString Services.stakingPort, "--log-level=" ++ g.logLevel,
    "--snow-sample-size=" ++ toString g.snowSampleSize,
    "--snow-quorum-size=" ++ toString g.snowQuorumSize,
    "--staking-tls-enabled=" ++ toString g.stakingTlsEnabled]

/-- `GetStartCommand(publicIpAddr, dependencies)`, with `STAKER_1_NODE_ID` as
`staker1NodeID`. -/
def GeckoServiceInitializerCore.getStartCommand (g : GeckoServiceInitializerCore)
    (staker1NodeID publicIpAddr : String) (dependencies : List Service) :
    Except Panic (Except Err (List String)) :=
  let tls := if g.stakingTlsEnabled then
    ["--staking-tls-cert-file=" ++ stakingTlsCertPath, "--staking-tls-key-file=" ++ stakingTlsKeyPath]
    else []
  if dependencies.length > 0 then
    match avaDependencies dependencies with
    | none => .error (.typeAssertion "AvaService")
    | some sockets =>
      let loop := socketLoop g.stakingTlsEnabled staker1NodeID sockets
      .ok (.ok (commandList g publicIpAddr ++ tls ++ loop.2 ++ ["--bootstrap-ips=" ++ join loop.1 ","]))
  else .ok (.ok (commandList g publicIpAddr ++ tls))

end AvaServicesLegacy

end AvalancheTesting
