import AvalancheTesting.Services.InitializerCore
import AvalancheTesting.Proofs.StartCommandProofs

/-!
# Proofs: what the initializer cores mount, write and start

Kurtosis starts a node in steps: it asks the core which files to mount, creates a file for each
and mounts it in the node's container, lets the core write them (`InitializeMountedFiles`),
starts the node with the core's command line (`GetStartCommand`), and hands the node's handle
(`GetServiceFromIp`) to the nodes started after it. `CreatedFiles` and `MountedFiles` state what
the first step provides: a file, and a path, for each declared file and for no other.

With the current cores the steps agree: `GetStartCommand` never reports a missing file, and with
staking the node is pointed at the mounted files that received the provider's cert and key
(`initializer_core_files_agree`). Without staking no file is declared, so the cert is written to
a nil file and `InitializeMountedFiles` fails whatever the provider answers
(`initializeMountedFiles_fails_without_staking`). With the older core and staking TLS, a node
bootstraps from its first dependency's staking socket expecting the first staker's node ID, which
that dependency holds only when it was itself started without dependencies
(`tls_bootstrapper_is_first_staker`).
-/

namespace AvalancheTesting

/-! ## The files Kurtosis provides -/

/-- The files Kurtosis creates for a service whose core declares the files `declared`: one for
each declared file, and none for any other. -/
structure CreatedFiles (declared : List String) where
  /-- The file created for each declared file. -/
  osFiles : String → Option String
  created : ∀ id, (osFiles id).isSome ↔ id ∈ declared

/-- The files created for a service, each also mounted at a path in the service's container. -/
structure MountedFiles (declared : List String) extends CreatedFiles declared where
  /-- The path in the container of each declared file. -/
  filepaths : String → Option String
  mounted : ∀ id, (filepaths id).isSome ↔ id ∈ declared

namespace CreatedFiles

variable {declared : List String} (files : CreatedFiles declared)

/-- Files named by their own IDs: for every list of declared files there are such files. -/
def byName (declared : List String) : CreatedFiles declared :=
  ⟨fun id => if id ∈ declared then some id else none, fun id => by
    by_cases h : id ∈ declared <;> simp [h]⟩

theorem exists_of_mem (id : String) (h : id ∈ declared) : ∃ f, files.osFiles id = some f :=
  Option.isSome_iff_exists.1 ((files.created id).2 h)

theorem eq_none_of_not_mem (id : String) (h : id ∉ declared) : files.osFiles id = none :=
  Option.not_isSome_iff_eq_none.1 (mt (files.created id).1 h)

end CreatedFiles

/-- Files named by their own IDs and mounted at paths named the same way. -/
def MountedFiles.byName (declared : List String) : MountedFiles declared :=
  { CreatedFiles.byName declared with
    filepaths := (CreatedFiles.byName declared).osFiles
    mounted := (CreatedFiles.byName declared).created }

theorem MountedFiles.exists_path_of_mem {declared : List String} (files : MountedFiles declared)
    (id : String) (h : id ∈ declared) : ∃ p, files.filepaths id = some p :=
  Option.isSome_iff_exists.1 ((files.mounted id).2 h)

/-! ## The current cores -/

namespace Services

/-- The two TLS file flags. -/
def tlsFileFlags : List String := ["--staking-tls-cert-file=", "--staking-tls-key-file="]

/-- No fixed argument of the command is a TLS file flag. -/
theorem commandList_no_tls_file_flag {txFeeFlag flag : String} (hflag : flag ∈ tlsFileFlags)
    (hfee : hasPrefix txFeeFlag flag = false) (core : GeckoServiceInitializerCore)
    (publicIPAddr : String) :
    ∀ a ∈ commandList txFeeFlag core publicIPAddr, hasPrefix a flag = false := by
  simp only [tlsFileFlags, List.mem_cons, List.mem_singleton, List.not_mem_nil, or_false]
    at hflag
  simp only [commandList, List.mem_cons, List.mem_singleton, List.not_mem_nil, or_false]
  rintro a (rfl | rfl | rfl | rfl | rfl | rfl | rfl | rfl | rfl | rfl | rfl) <;>
    rcases hflag with rfl | rfl <;>
    first
    | exact hfee
    | decide
    | exact hasPrefix_append_of_diverge (by decide) (by decide) _

/-- The fee flag of either current version is not a TLS file flag. -/
theorem feeFlags_no_tls_file_flag (core : GeckoServiceInitializerCore) :
    ∀ flag ∈ tlsFileFlags, hasPrefix ("--tx-fee=" ++ toString core.txFee) flag = false ∧
      hasPrefix ("--avax-tx-fee=" ++ toString 0) flag = false := by
  simp only [tlsFileFlags, List.mem_cons, List.mem_singleton, List.not_mem_nil, or_false]
  rintro flag (rfl | rfl) <;>
    exact ⟨hasPrefix_append_of_diverge (by decide) (by decide) _, by decide⟩

/-- The defensive copy of `NewGeckoServiceInitializerCore` keeps the bootstrapper IDs, in
order. -/
@[simp] theorem newGeckoServiceInitializerCore_bootstrapperNodeIDs
    (snowSampleSize snowQuorumSize : Int) (txFee : UInt64) (stakingEnabled : Bool)
    (additionalCLIArgs : List (String × String)) (bootstrapperNodeIDs : List String)
    (logLevel : String) :
    (newGeckoServiceInitializerCore snowSampleSize snowQuorumSize txFee stakingEnabled
      additionalCLIArgs bootstrapperNodeIDs logLevel).bootstrapperNodeIDs =
      bootstrapperNodeIDs := by
  have copy : ∀ acc : List String,
      bootstrapperNodeIDs.foldl (fun copy nodeID => copy ++ [nodeID]) acc =
        acc ++ bootstrapperNodeIDs := by
    induction bootstrapperNodeIDs with
    | nil => simp
    | cons nodeID rest ih => intro acc; simp [ih]
  simpa [newGeckoServiceInitializerCore] using copy []

variable {core : GeckoServiceInitializerCore} {txFeeFlag serviceType publicIPAddr : String}
  {dependencies : List Service}

theorem getFilesToMount_of_staking (h : core.stakingEnabled = true) :
    core.getFilesToMount = [stakingTLSCertFileID, stakingTLSKeyFileID] := by
  simp [GeckoServiceInitializerCore.getFilesToMount, h]

theorem getFilesToMount_of_no_staking (h : core.stakingEnabled = false) :
    core.getFilesToMount = [] := by
  simp [GeckoServiceInitializerCore.getFilesToMount, h]

/-- The command after the dependency check and the staking flags: a command, or a panic. -/
theorem bootstrapIPsFlags_map_ne_error (staking : List String) {e : Err} :
    (bootstrapIPsFlags serviceType dependencies).map (fun ips =>
      (.ok (commandList txFeeFlag core publicIPAddr ++ staking ++ ips ++
        core.additionalCLIArgs.map fun (param, argument) => "--" ++ param ++ "=" ++ argument) :
        Except Err (List String))) ≠ .ok (.error e) := by
  cases bootstrapIPsFlags serviceType dependencies <;> nofun

/-- With every declared file mounted, the only error `GetStartCommand` returns is the one for
more dependencies than bootstrapper IDs. -/
theorem startCommand_error_of_mounted (files : MountedFiles core.getFilesToMount) {e : Err}
    (h : startCommand txFeeFlag serviceType core files.filepaths publicIPAddr dependencies =
      .ok (.error e)) :
    e = .newError
      "Gecko service is being started with %v dependencies but only %v boot node IDs have been configured"
      [.num dependencies.length, .num core.bootstrapperNodeIDs.length] := by
  unfold startCommand at h
  by_cases hlen : dependencies.length > core.bootstrapperNodeIDs.length
  · rw [if_pos hlen] at h
    cases h
    rfl
  rw [if_neg hlen] at h
  cases hs : core.stakingEnabled
  · rw [hs, if_neg Bool.false_ne_true] at h
    exact absurd h (bootstrapIPsFlags_map_ne_error [])
  · obtain ⟨cert, hcert⟩ := files.exists_path_of_mem stakingTLSCertFileID
      (by simp [getFilesToMount_of_staking hs])
    obtain ⟨key, hkey⟩ := files.exists_path_of_mem stakingTLSKeyFileID
      (by simp [getFilesToMount_of_staking hs])
    rw [hs, if_pos rfl, stakingFlags, hcert, hkey] at h
    exact absurd h (bootstrapIPsFlags_map_ne_error _)

/-- With staking, a command built from the mounted paths `certFilepath` and `keyFilepath` of the
cert and key passes them in the TLS file flags. -/
theorem startCommand_tls_files {mountedFileFilepaths : String → Option String}
    {certFilepath keyFilepath : String} {cmd : List String}
    (hcert : mountedFileFilepaths stakingTLSCertFileID = some certFilepath)
    (hkey : mountedFileFilepaths stakingTLSKeyFileID = some keyFilepath)
    (hfee : ∀ flag ∈ tlsFileFlags, hasPrefix txFeeFlag flag = false)
    (hs : core.stakingEnabled = true)
    (h : startCommand txFeeFlag serviceType core mountedFileFilepaths publicIPAddr dependencies =
      .ok (.ok cmd)) :
    flagValue cmd "--staking-tls-cert-file=" = some certFilepath ∧
      flagValue cmd "--staking-tls-key-file=" = some keyFilepath := by
  unfold startCommand at h
  by_cases hlen : dependencies.length > core.bootstrapperNodeIDs.length
  · rw [if_pos hlen] at h; cases h
  rw [if_neg hlen, hs, if_pos rfl, stakingFlags, hcert, hkey] at h
  cases hips : bootstrapIPsFlags serviceType dependencies with
  | error p => rw [hips] at h; cases h
  | ok ips =>
    rw [hips] at h
    cases h
    have hbase := fun flag hflag => commandList_no_tls_file_flag hflag (hfee flag hflag) core
      publicIPAddr
    constructor <;>
      rw [List.append_assoc, List.append_assoc, flagValue_append_of_absent
        (hbase _ (by simp [tlsFileFlags]))] <;>
      simp (disch := decide) only [List.cons_append, flagValue, List.find?,
        hasPrefix_append_of_diverge, hasPrefix_append_self, Option.map_some',
        trimPrefix_append_self]

/-- With the cert and key files created, `InitializeMountedFiles` writes the cert to the cert
file and, unless that write fails, the key to the key file. -/
theorem initializeMountedFiles_of_created {osFiles : String → Option String}
    {write : String → Bytes → Option Err} {certFile keyFile : String} {certPEM keyPEM : Bytes}
    (hcert : osFiles stakingTLSCertFileID = some certFile)
    (hkey : osFiles stakingTLSKeyFileID = some keyFile) :
    initializeMountedFiles (.ok (certPEM, keyPEM)) write osFiles =
      match write certFile certPEM with
      | some err => ([(certFile, certPEM)], some err)
      | none => ([(certFile, certPEM), (keyFile, keyPEM)], write keyFile keyPEM) := by
  cases hw : write certFile certPEM <;> simp [initializeMountedFiles, fileWrite, hcert, hkey, hw]

/-- Without a cert file, `InitializeMountedFiles` writes nothing and fails: with the provider's
error, or with `os.ErrInvalid` from the write to the nil file. -/
theorem initializeMountedFiles_of_no_cert_file {osFiles : String → Option String}
    (certAndKey : Except Err (Bytes × Bytes)) (write : String → Bytes → Option Err)
    (hcert : osFiles stakingTLSCertFileID = none) :
    (initializeMountedFiles certAndKey write osFiles).1 = [] ∧
      (∀ err, certAndKey = .error err → (initializeMountedFiles certAndKey write osFiles).2 =
        some (.propagate err "Could not get cert & key when initializing service" [])) ∧
      ∀ certPEM keyPEM, certAndKey = .ok (certPEM, keyPEM) →
        (initializeMountedFiles certAndKey write osFiles).2 = some errInvalid := by
  refine ⟨?_, fun err h => by rw [h]; rfl, fun certPEM keyPEM h => ?_⟩
  · cases certAndKey <;> simp [initializeMountedFiles, fileWrite, hcert]
  · rw [h]
    simp [initializeMountedFiles, fileWrite, hcert]

/-- The Kurtosis steps with either current core agree: whatever files Kurtosis mounts for the
files `GetFilesToMount` declares, `GetStartCommand` returns no error but the one for more
dependencies than bootstrapper IDs; and with staking, the cert and key files are created and
mounted, every command passes their mounted paths in the TLS file flags, and
`InitializeMountedFiles`, once the provider returns a cert and key, writes the cert to the cert
file and then the key to the key file, and returns `nil` only after both writes. Each TLS file
flag is read where the code sets it (`flagValue`): an entry of `additionalCLIArgs` that sets the
same flag comes after it and overrides it in the node. -/
theorem initializer_core_files_agree (core : GeckoServiceInitializerCore)
    (files : MountedFiles core.getFilesToMount) (certAndKey : Except Err (Bytes × Bytes))
    (write : String → Bytes → Option Err) (publicIPAddr : String) (dependencies : List Service) :
    (∀ e, (core.getStartCommand files.filepaths publicIPAddr dependencies = .ok (.error e) ∨
        core.getStartCommandAvaServices files.filepaths publicIPAddr dependencies =
          .ok (.error e)) →
      e = .newError
        "Gecko service is being started with %v dependencies but only %v boot node IDs have been configured"
        [.num dependencies.length, .num core.bootstrapperNodeIDs.length]) ∧
    (core.stakingEnabled = true → ∃ certFile keyFile certFilepath keyFilepath,
      files.osFiles stakingTLSCertFileID = some certFile ∧
      files.osFiles stakingTLSKeyFileID = some keyFile ∧
      files.filepaths stakingTLSCertFileID = some certFilepath ∧
      files.filepaths stakingTLSKeyFileID = some keyFilepath ∧
      (∀ cmd, (core.getStartCommand files.filepaths publicIPAddr dependencies = .ok (.ok cmd) ∨
          core.getStartCommandAvaServices files.filepaths publicIPAddr dependencies =
            .ok (.ok cmd)) →
        flagValue cmd "--staking-tls-cert-file=" = some certFilepath ∧
        flagValue cmd "--staking-tls-key-file=" = some keyFilepath) ∧
      ∀ certPEM keyPEM, certAndKey = .ok (certPEM, keyPEM) →
        (initializeMountedFiles certAndKey write files.osFiles).1 <+:
          [(certFile, certPEM), (keyFile, keyPEM)] ∧
        ((initializeMountedFiles certAndKey write files.osFiles).2 = none →
          (initializeMountedFiles certAndKey write files.osFiles).1 =
            [(certFile, certPEM), (keyFile, keyPEM)])) := by
  refine ⟨fun e he => he.elim (startCommand_error_of_mounted files)
    (startCommand_error_of_mounted files), fun hs => ?_⟩
  have hdeclared := getFilesToMount_of_staking hs
  obtain ⟨certFile, hcf⟩ := files.exists_of_mem stakingTLSCertFileID (by simp [hdeclared])
  obtain ⟨keyFile, hkf⟩ := files.exists_of_mem stakingTLSKeyFileID (by simp [hdeclared])
  obtain ⟨certFilepath, hcp⟩ := files.exists_path_of_mem stakingTLSCertFileID (by simp [hdeclared])
  obtain ⟨keyFilepath, hkp⟩ := files.exists_path_of_mem stakingTLSKeyFileID (by simp [hdeclared])
  refine ⟨certFile, keyFile, certFilepath, keyFilepath, hcf, hkf, hcp, hkp, fun cmd hcmd => ?_,
    fun certPEM keyPEM hok => ?_⟩
  · exact hcmd.elim
      (startCommand_tls_files hcp hkp
        (fun flag hflag => (feeFlags_no_tls_file_flag core flag hflag).1) hs)
      (startCommand_tls_files hcp hkp
        (fun flag hflag => (feeFlags_no_tls_file_flag core flag hflag).2) hs)
  · rw [hok, initializeMountedFiles_of_created hcf hkf]
    cases write certFile certPEM <;> simp

/-- A core with staking, its files mounted by name, and a provider that returns a cert and key:
the cert and key files are mounted, the command passes their paths, and both are written. -/
theorem initializer_core_files_agree_by_name :
    let core : GeckoServiceInitializerCore := ⟨2, 2, true, 0, [], ["a", "b"], "info"⟩
    let files := MountedFiles.byName core.getFilesToMount
    core.stakingEnabled = true ∧ ∃ certFile keyFile certFilepath keyFilepath,
      files.osFiles stakingTLSCertFileID = some certFile ∧
      files.osFiles stakingTLSKeyFileID = some keyFile ∧
      files.filepaths stakingTLSCertFileID = some certFilepath ∧
      files.filepaths stakingTLSKeyFileID = some keyFilepath ∧
      (∀ cmd, (core.getStartCommand files.filepaths "1.2.3.4" [.avalanche ⟨"10.0.0.1", 9651⟩] =
          .ok (.ok cmd) ∨
          core.getStartCommandAvaServices files.filepaths "1.2.3.4"
            [.avalanche ⟨"10.0.0.1", 9651⟩] = .ok (.ok cmd)) →
        flagValue cmd "--staking-tls-cert-file=" = some certFilepath ∧
        flagValue cmd "--staking-tls-key-file=" = some keyFilepath) ∧
      ∀ certPEM keyPEM, (.ok ([1], [2]) : Except Err (Bytes × Bytes)) = .ok (certPEM, keyPEM) →
        (initializeMountedFiles (.ok ([1], [2])) (fun _ _ => none) files.osFiles).1 <+:
          [(certFile, certPEM), (keyFile, keyPEM)] ∧
        ((initializeMountedFiles (.ok ([1], [2])) (fun _ _ => none) files.osFiles).2 = none →
          (initializeMountedFiles (.ok ([1], [2])) (fun _ _ => none) files.osFiles).1 =
            [(certFile, certPEM), (keyFile, keyPEM)]) :=
  ⟨rfl, (initializer_core_files_agree ⟨2, 2, true, 0, [], ["a", "b"], "info"⟩
    (MountedFiles.byName _) (.ok ([1], [2])) (fun _ _ => none) "1.2.3.4"
    [.avalanche ⟨"10.0.0.1", 9651⟩]).2 rfl⟩

/-- Without staking, `GetFilesToMount` declares no file, so whatever files Kurtosis creates for
it, `InitializeMountedFiles` of either current core writes nothing and returns an error: the
provider's, or `os.ErrInvalid` from writing the provider's cert to the nil cert file. -/
theorem initializeMountedFiles_fails_without_staking (core : GeckoServiceInitializerCore)
    (files : CreatedFiles core.getFilesToMount) (certAndKey : Except Err (Bytes × Bytes))
    (write : String → Bytes → Option Err) (hs : core.stakingEnabled = false) :
    (initializeMountedFiles certAndKey write files.osFiles).1 = [] ∧
    (initializeMountedFiles certAndKey write files.osFiles).2 ≠ none ∧
    ∀ certPEM keyPEM, certAndKey = .ok (certPEM, keyPEM) →
      (initializeMountedFiles certAndKey write files.osFiles).2 = some errInvalid := by
  have hnone := files.eq_none_of_not_mem stakingTLSCertFileID
    (by simp [getFilesToMount_of_no_staking hs])
  obtain ⟨hwrites, herr, hinvalid⟩ := initializeMountedFiles_of_no_cert_file
    certAndKey write hnone
  refine ⟨hwrites, fun h => ?_, hinvalid⟩
  cases certAndKey with
  | error err => exact Option.some_ne_none _ ((herr err rfl).symm.trans h)
  | ok pems => exact Option.some_ne_none _ ((hinvalid pems.1 pems.2 rfl).symm.trans h)

/-- A core without staking, a provider that returns a cert and key, and the files Kurtosis
creates for it: `InitializeMountedFiles` fails with `os.ErrInvalid`. -/
theorem initializeMountedFiles_without_staking_nil_cert_file :
    (⟨1, 1, false, 0, [], [], "info"⟩ : GeckoServiceInitializerCore).stakingEnabled =
        false ∧
      (initializeMountedFiles (.ok ([1], [2])) (fun _ _ => none)
        (CreatedFiles.byName []).osFiles).1 = [] ∧
      (initializeMountedFiles (.ok ([1], [2])) (fun _ _ => none)
        (CreatedFiles.byName []).osFiles).2 ≠ none ∧
      ∀ certPEM keyPEM, (.ok ([1], [2]) : Except Err (Bytes × Bytes)) = .ok (certPEM, keyPEM) →
        (initializeMountedFiles (.ok ([1], [2])) (fun _ _ => none)
          (CreatedFiles.byName []).osFiles).2 = some errInvalid :=
  ⟨rfl, initializeMountedFiles_fails_without_staking ⟨1, 1, false, 0, [], [], "info"⟩
    (CreatedFiles.byName []) (.ok ([1], [2])) (fun _ _ => none) rfl⟩

end Services

/-! ## The older core with staking TLS -/

namespace AvaServicesLegacy

/-- No fixed argument of the older command is a TLS file flag. -/
theorem commandList_no_tls_file_flag (g : GeckoServiceInitializerCore) (publicIpAddr : String) :
    ∀ a ∈ commandList g publicIpAddr, hasPrefix a "--staking-tls-cert-file=" = false := by
  simp only [commandList, List.mem_cons, List.mem_singleton, List.not_mem_nil, or_false]
  rintro a (rfl | rfl | rfl | rfl | rfl | rfl | rfl | rfl | rfl) <;>
    first
    | decide
    | exact hasPrefix_append_of_diverge (by decide) (by decide) _

namespace GeckoServiceInitializerCore

variable {g : GeckoServiceInitializerCore} {staker1NodeID : String}

theorem getFilepathsToMount_of_tls (h : g.stakingTlsEnabled = true) :
    g.getFilepathsToMount = [stakingTlsCertPath, stakingTlsKeyPath] := by
  simp [getFilepathsToMount, h]

/-- The first arguments of the older command, up to the staking port. -/
theorem commandList_eq (publicIpAddr : String) :
    commandList g publicIpAddr = ["/gecko/build/ava", "--public-ip=" ++ publicIpAddr,
      "--network-id=local", "--http-port=" ++ toString Services.httpPort] ++
      ("--staking-port=" ++ toString Services.stakingPort) :: [
      "--log-level=" ++ g.logLevel, "--snow-sample-size=" ++ toString g.snowSampleSize,
      "--snow-quorum-size=" ++ toString g.snowQuorumSize,
      "--staking-tls-enabled=" ++ toString g.stakingTlsEnabled] := rfl

/-- A command of the older core passes the staking port, and with staking TLS the path of the
cert file. -/
theorem getStartCommand_staking_flags {publicIpAddr : String} {dependencies : List Service}
    {cmd : List String} (htls : g.stakingTlsEnabled = true)
    (h : g.getStartCommand staker1NodeID publicIpAddr dependencies = .ok (.ok cmd)) :
    flagValue cmd "--staking-port=" = some (toString Services.stakingPort) ∧
      flagValue cmd "--staking-tls-cert-file=" = some stakingTlsCertPath := by
  obtain ⟨rest, rfl⟩ : ∃ rest, cmd = commandList g publicIpAddr ++
      ("--staking-tls-cert-file=" ++ stakingTlsCertPath) :: rest := by
    unfold getStartCommand at h
    simp only [htls, if_true] at h
    split_ifs at h
    · split at h
      · cases h
      · cases h
        exact ⟨_, by rw [List.append_assoc, List.append_assoc]; rfl⟩
    · cases h
      exact ⟨_, rfl⟩
  constructor
  · rw [commandList_eq, List.append_assoc, flagValue_append_of_absent (by
      simp only [List.mem_cons, List.mem_singleton, List.not_mem_nil, or_false]
      rintro a (rfl | rfl | rfl | rfl) <;>
        first
        | decide
        | exact hasPrefix_append_of_diverge (by decide) (by decide) _),
      List.cons_append, flagValue_cons_self]
  · rw [flagValue_append_of_absent (commandList_no_tls_file_flag g publicIpAddr),
      flagValue_cons_self]

/-- With the cert and key files created, the older `InitializeMountedFiles` writes the first
staker's identity to a node without dependencies, and the generated one to any other. -/
theorem initializeMountedFiles_of_created {staker1Cert staker1PrivateKey : Bytes}
    {serviceCertAndKey : Except Err (Bytes × Bytes)} {osFiles : String → Option String}
    {certFile keyFile : String} (hcert : osFiles stakingTlsCertPath = some certFile)
    (hkey : osFiles stakingTlsKeyPath = some keyFile) (dependencies : List Service) :
    g.initializeMountedFiles staker1Cert staker1PrivateKey serviceCertAndKey osFiles dependencies =
      if dependencies = [] then ([(certFile, staker1Cert), (keyFile, staker1PrivateKey)], none)
      else match serviceCertAndKey with
        | .error err => ([], some (.propagate err "Failed to write files." []))
        | .ok (certPEM, keyPEM) => ([(certFile, certPEM), (keyFile, keyPEM)], none) := by
  by_cases hdeps : dependencies = []
  · simp [initializeMountedFiles, hcert, hkey, writeIgnoringError, hdeps]
  · rcases serviceCertAndKey with _ | ⟨certPEM, keyPEM⟩ <;>
      simp [initializeMountedFiles, hcert, hkey, writeIgnoringError, hdeps]

end GeckoServiceInitializerCore

/-- With the older core and staking TLS: a node `B` started with node `A`'s handle first among its
dependencies bootstraps from `A`'s staking socket, expecting the first staker's node ID; `A`
declares that port used, listens on it, and reads its cert from the path where its cert file is
mounted; and the cert `InitializeMountedFiles` writes to that file is the first staker's when `A`
has no dependencies, and otherwise the one freshly generated. When the generated cert is not the
first staker's, `A`'s cert file receives the first staker's cert exactly when `A` has no
dependencies: only then does `A` hold the identity `B` expects. -/
theorem tls_bootstrapper_is_first_staker (g : GeckoServiceInitializerCore)
    (htls : g.stakingTlsEnabled = true) (staker1NodeID : String)
    (staker1Cert staker1PrivateKey : Bytes) (serviceCertAndKey : Except Err (Bytes × Bytes))
    (hgenerated : ∀ certPEM keyPEM, serviceCertAndKey = .ok (certPEM, keyPEM) →
      certPEM ≠ staker1Cert)
    (ipA : String) (dependenciesA : List Service) (filesA : CreatedFiles g.getFilepathsToMount)
    (publicIpB : String) (dependenciesB : List Service) :
    (∀ cmdB, g.getStartCommand staker1NodeID publicIpB
        ((g.getServiceFromIp ipA).toService :: dependenciesB) = .ok (.ok cmdB) →
      flagValue cmdB "--bootstrap-ips=" = some (ipA ++ ":" ++ toString Services.stakingPort) ∧
      flagValue cmdB "--bootstrap-ids=" = some staker1NodeID) ∧
    Services.stakingPort ∈ g.getUsedPorts ∧
    (∀ cmdA, g.getStartCommand staker1NodeID ipA dependenciesA = .ok (.ok cmdA) →
      flagValue cmdA "--staking-port=" = some (toString Services.stakingPort) ∧
      flagValue cmdA "--staking-tls-cert-file=" = some stakingTlsCertPath) ∧
    ∃ certFile keyFile, filesA.osFiles stakingTlsCertPath = some certFile ∧
      filesA.osFiles stakingTlsKeyPath = some keyFile ∧
      (dependenciesA = [] → g.initializeMountedFiles staker1Cert staker1PrivateKey
        serviceCertAndKey filesA.osFiles dependenciesA =
          ([(certFile, staker1Cert), (keyFile, staker1PrivateKey)], none)) ∧
      (dependenciesA ≠ [] → ∀ certPEM keyPEM, serviceCertAndKey = .ok (certPEM, keyPEM) →
        g.initializeMountedFiles staker1Cert staker1PrivateKey serviceCertAndKey filesA.osFiles
          dependenciesA = ([(certFile, certPEM), (keyFile, keyPEM)], none)) ∧
      ((g.initializeMountedFiles staker1Cert staker1PrivateKey serviceCertAndKey filesA.osFiles
        dependenciesA).1.head? = some (certFile, staker1Cert) ↔ dependenciesA = []) := by
  have hdeclared := GeckoServiceInitializerCore.getFilepathsToMount_of_tls htls
  obtain ⟨certFile, hcf⟩ := filesA.exists_of_mem stakingTlsCertPath (by simp [hdeclared])
  obtain ⟨keyFile, hkf⟩ := filesA.exists_of_mem stakingTlsKeyPath (by simp [hdeclared])
  have hwrites := @GeckoServiceInitializerCore.initializeMountedFiles_of_created g staker1Cert
    staker1PrivateKey serviceCertAndKey _ _ _ hcf hkf dependenciesA
  refine ⟨fun cmdB hB => ?_, by simp [GeckoServiceInitializerCore.getUsedPorts],
    fun cmdA hA => GeckoServiceInitializerCore.getStartCommand_staking_flags
      htls hA, certFile, keyFile, hcf, hkf, fun hnil => by rw [hwrites, if_pos hnil],
    fun hne certPEM keyPEM hok => by rw [hwrites, if_neg hne, hok], ?_⟩
  · obtain ⟨s, rest, hdeps, hips, hids⟩ :=
      getStartCommand_tls_flags htls hB (List.cons_ne_nil _ _)
    simp only [avaDependencies, GeckoService.toService,
      Option.map_eq_some'] at hdeps
    obtain ⟨_, -, hs⟩ := hdeps
    cases (List.cons.inj hs).1
    exact ⟨hips, hids⟩
  · rw [hwrites]
    by_cases hnil : dependenciesA = []
    · simp [hnil]
    · rw [if_neg hnil]
      rcases serviceCertAndKey with _ | ⟨certPEM, keyPEM⟩
      · simp [hnil]
      · simpa [hnil] using hgenerated certPEM keyPEM rfl

/-- Node `A` of an older core with staking TLS started with a dependency, and a generated cert
that is not the first staker's: `A`'s cert file receives the generated cert, not the first
staker's. -/
theorem tls_bootstrapper_dependent_node_generated_cert :
    let g : GeckoServiceInitializerCore := ⟨1, 1, true, "info"⟩
    let dependenciesA := [(g.getServiceFromIp "10.0.0.3").toService]
    let filesA := CreatedFiles.byName g.getFilepathsToMount
    g.stakingTlsEnabled = true ∧
    (∀ certPEM keyPEM, (.ok ([3], [4]) : Except Err (Bytes × Bytes)) = .ok (certPEM, keyPEM) →
      certPEM ≠ [1]) ∧
    ∃ certFile keyFile, filesA.osFiles stakingTlsCertPath = some certFile ∧
      filesA.osFiles stakingTlsKeyPath = some keyFile ∧
      (dependenciesA = [] → g.initializeMountedFiles [1] [2] (.ok ([3], [4])) filesA.osFiles
        dependenciesA = ([(certFile, [1]), (keyFile, [2])], none)) ∧
      (dependenciesA ≠ [] → ∀ certPEM keyPEM,
        (.ok ([3], [4]) : Except Err (Bytes × Bytes)) = .ok (certPEM, keyPEM) →
        g.initializeMountedFiles [1] [2] (.ok ([3], [4])) filesA.osFiles dependenciesA =
          ([(certFile, certPEM), (keyFile, keyPEM)], none)) ∧
      ((g.initializeMountedFiles [1] [2] (.ok ([3], [4])) filesA.osFiles dependenciesA).1.head? =
        some (certFile, [1]) ↔ dependenciesA = []) :=
  have hgenerated : ∀ certPEM keyPEM,
      (.ok ([3], [4]) : Except Err (Bytes × Bytes)) = .ok (certPEM, keyPEM) → certPEM ≠ [1] :=
    fun _ _ h => by cases h; decide
  ⟨rfl, hgenerated, (tls_bootstrapper_is_first_staker ⟨1, 1, true, "info"⟩ rfl "NodeID-1" [1] [2]
    (.ok ([3], [4])) hgenerated "10.0.0.1" _ (CreatedFiles.byName _) "10.0.0.2" []).2.2.2⟩

end AvaServicesLegacy

end AvalancheTesting
