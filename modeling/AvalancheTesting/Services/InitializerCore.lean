import AvalancheTesting.Services.StartCommand

/-!
# The other methods of the initializer cores

Besides `GetStartCommand`, a `GeckoServiceInitializerCore` implements the rest of Kurtosis'
`ServiceInitializerCore`: the ports the node uses, the files it needs mounted, how those files
are initialized before the node starts, and the service handle of a started node, which the nodes
started after it receive among their dependencies.

The certificate provider, the TLS identities and the file system are outside this repository:
what the provider or the certificate generator returns, the bytes of the hardcoded identity, and
what the file system answers to a write are parameters. `osFiles` maps a file ID (a path, for the
older version) to the file created for it; an ID it lacks stands for a nil `*os.File`. A file is
named by a string, and the writes a method makes are returned in order, each with its file and
its bytes.
-/

namespace AvalancheTesting

/-- `os.ErrInvalid`, which `Write` returns on a nil `*os.File`. -/
def errInvalid : Err := .remote "invalid argument"

namespace Services

/-- `NewGeckoServiceInitializerCore(...)`: the settings `GetStartCommand` reads, with a defensive
copy of the bootstrapper IDs. -/
def newGeckoServiceInitializerCore (snowSampleSize snowQuorumSize : Int) (txFee : UInt64)
    (stakingEnabled : Bool) (additionalCLIArgs : List (String × String))
    (bootstrapperNodeIDs : List String) (logLevel : String) : GeckoServiceInitializerCore :=
  let bootstrapperIDsCopy := bootstrapperNodeIDs.foldl (fun copy nodeID => copy ++ [nodeID]) []
  ⟨snowSampleSize, snowQuorumSize, stakingEnabled, txFee, additionalCLIArgs, bootstrapperIDsCopy,
    logLevel⟩

namespace GeckoServiceInitializerCore

variable (core : GeckoServiceInitializerCore)

/-- `GetUsedPorts()`: the numbers of the TCP ports of the map. -/
def getUsedPorts (_core : GeckoServiceInitializerCore) : List Nat := [httpPort, stakingPort]

/-- `GetFilesToMount()`: the IDs of the map. -/
def getFilesToMount : List String :=
  if core.stakingEnabled then [stakingTLSCertFileID, stakingTLSKeyFileID] else []

end GeckoServiceInitializerCore

/-- `file.Write(b)`, where `write` is the file system's answer to a write: a nil file writes
nothing and fails with `os.ErrInvalid`. The writes made, and the error. -/
def fileWrite (write : String → Bytes → Option Err) : Option String → Bytes →
    List (String × Bytes) × Option Err
  | none, _ => ([], some errInvalid)
  | some file, b => ([(file, b)], write file b)

/-- `InitializeMountedFiles(osFiles, dependencies)` of both current versions, with `certAndKey`
what `certProvider.GetCertAndKey()` returns: it writes the cert, then the key, and returns the
first error. The writes made, and the error returned. -/
def initializeMountedFiles (certAndKey : Except Err (Bytes × Bytes))
    (write : String → Bytes → Option Err) (osFiles : String → Option String) :
    List (String × Bytes) × Option Err :=
  let certFilePointer := osFiles stakingTLSCertFileID
  let keyFilePointer := osFiles stakingTLSKeyFileID
  match certAndKey with
  | .error err =>
    ([], some (.propagate err "Could not get cert & key when initializing service" []))
  | .ok (certPEM, keyPEM) =>
    match fileWrite write certFilePointer certPEM with
    | (written, some err) => (written, some err)
    | (written, none) =>
      let key := fileWrite write keyFilePointer keyPEM
      (written ++ key.1, key.2)

end Services

namespace AvaServicesLegacy

/-- `GeckoService`, the handle of a started node. -/
structure GeckoService where
  ipAddr : String
  deriving DecidableEq, Repr

namespace GeckoService

variable (g : GeckoService)

/-- `GetStakingSocket()`. `nat.NewPort` never fails on the constant port, so its panic is
unreachable. -/
def getStakingSocket : ServiceSocket := ⟨g.ipAddr, Services.stakingPort⟩

/-- `GetJsonRpcSocket()`, whose panic is unreachable in the same way. -/
def getJsonRpcSocket : ServiceSocket := ⟨g.ipAddr, Services.httpPort⟩

/-- The handle as a dependency: an `AvaService`, whose staking socket `GetStartCommand` reads. -/
def toService : Service := .avalanche g.getStakingSocket

end GeckoService

namespace GeckoServiceInitializerCore

variable (g : GeckoServiceInitializerCore)

/-- `GetUsedPorts()`. -/
def getUsedPorts (_g : GeckoServiceInitializerCore) : List Nat :=
  [Services.httpPort, Services.stakingPort]

/-- `GetFilepathsToMount()`: the paths of the map. -/
def getFilepathsToMount : List String :=
  if g.stakingTlsEnabled then [stakingTlsCertPath, stakingTlsKeyPath] else []

/-- `GetServiceFromIp(ipAddr)`. -/
def getServiceFromIp (_g : GeckoServiceInitializerCore) (ipAddr : String) : GeckoService :=
  ⟨ipAddr⟩

/-- `file.Write(b)` or `file.WriteString(s)` whose result is discarded: a nil file writes
nothing. -/
def writeIgnoringError : Option String → Bytes → List (String × Bytes)
  | none, _ => []
  | some file, b => [(file, b)]

/-- `InitializeMountedFiles(osFiles, dependencies)`, with `staker1Cert` and `staker1PrivateKey`
the bytes of `STAKER_1_CERT` and `STAKER_1_PRIVATE_KEY`, and `serviceCertAndKey` what
`getServiceCertAndKeyFiles(getServiceCert(), getRootCA())` returns: a node without dependencies
gets the first staker's identity, any other a freshly generated one. The writes made, and the
error returned. -/
def initializeMountedFiles (_g : GeckoServiceInitializerCore)
    (staker1Cert staker1PrivateKey : Bytes) (serviceCertAndKey : Except Err (Bytes × Bytes)) (osFiles : String → Option String)
    (dependencies : List Service) : List (String × Bytes) × Option Err :=
  let certFilePointer := osFiles stakingTlsCertPath
  let keyFilePointer := osFiles stakingTlsKeyPath
  if dependencies.length = 0 then
    (writeIgnoringError certFilePointer staker1Cert ++
      writeIgnoringError keyFilePointer staker1PrivateKey, none)
  else
    match serviceCertAndKey with
    | .error err => ([], some (.propagate err "Failed to write files." []))
    | .ok (certPEM, keyPEM) =>
      (writeIgnoringError certFilePointer certPEM ++ writeIgnoringError keyFilePointer keyPEM,
        none)

end GeckoServiceInitializerCore

end AvaServicesLegacy

end AvalancheTesting
