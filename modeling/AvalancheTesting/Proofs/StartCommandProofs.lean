import AvalancheTesting.Services.StartCommand

/-!
# Proofs: the bootstrap flags of the start command

A node is told its bootstrappers by two comma-separated flags, `--bootstrap-ids` and
`--bootstrap-ips`, whose entries it pairs one to one. The current `GetStartCommand` lists every
configured bootstrapper ID and every dependency's staking socket, and refuses only more
dependencies than IDs, so fewer dependencies than IDs give a command whose flags do not pair
(`startCommand_bootstrap_flags`, `startCommand_ids_outnumber_ips`). The older version with
staking TLS lists only the first dependency, with one hardcoded ID.
-/

namespace AvalancheTesting

/-! ## Flags of a command line -/

/-- The value of the first argument of `cmd` that starts with `flag`. The node's flag parser keeps
the last value of a repeated flag; in the commands of the current cores only the entries of
`additionalCLIArgs`, which come last, can repeat a flag the code sets, so `flagValue` reads the
value the code sets, which is the node's unless an entry of `additionalCLIArgs` sets the same
flag. -/
def flagValue (cmd : List String) (flag : String) : Option String :=
  (cmd.find? fun arg => hasPrefix arg flag).map fun arg => trimPrefix arg flag

/-- The entries of a comma-separated flag value: none for an absent flag or an empty value. -/
def flagEntries : Option String → List String
  | none => []
  | some v => if v = "" then [] else (v.toList.splitOn ',').map String.mk

theorem hasPrefix_append_self (pre x : String) : hasPrefix (pre ++ x) pre = true := by
  simp [hasPrefix, List.isPrefixOf_iff_prefix, String.toList]

theorem trimPrefix_append_self (pre x : String) : trimPrefix (pre ++ x) pre = x := by
  rw [trimPrefix, if_pos (hasPrefix_append_self pre x)]
  obtain ⟨p⟩ := pre
  obtain ⟨s⟩ := x
  simp [String.toList, String.length]

/-- An argument starting with `a` does not start with `pre` when neither of `a` and `pre` is a
prefix of the other. -/
theorem hasPrefix_append_of_diverge {a pre : String} (h₁ : pre.toList.isPrefixOf a.toList = false)
    (h₂ : a.toList.isPrefixOf pre.toList = false) (x : String) : hasPrefix (a ++ x) pre = false := by
  rw [hasPrefix, Bool.eq_false_iff]
  intro h
  rw [List.isPrefixOf_iff_prefix] at h
  have ha : a.toList <+: (a ++ x).toList := List.prefix_append _ _
  rcases List.prefix_or_prefix_of_prefix h ha with hp | hp
  · rw [← List.isPrefixOf_iff_prefix, h₁] at hp; cases hp
  · rw [← List.isPrefixOf_iff_prefix, h₂] at hp; cases hp

theorem flagValue_cons_self (flag v : String) (rest : List String) :
    flagValue ((flag ++ v) :: rest) flag = some v := by
  simp [flagValue, List.find?, hasPrefix_append_self, trimPrefix_append_self]

theorem flagValue_append_of_absent {args : List String} {flag : String}
    (h : ∀ a ∈ args, hasPrefix a flag = false) (rest : List String) :
    flagValue (args ++ rest) flag = flagValue rest flag := by
  rw [flagValue, flagValue, List.find?_append, List.find?_eq_none.2 (by simpa using h)]
  rfl

theorem join_singleton (x sep : String) : join [x] sep = x := rfl

theorem intercalate_go_toList (acc s : String) : ∀ xs : List String,
    (String.intercalate.go acc s xs).toList =
      acc.toList ++ (xs.map (s.toList ++ ·.toList)).flatten
  | [] => by simp [String.intercalate.go]
  | a :: as => by
    rw [String.intercalate.go, intercalate_go_toList]
    simp [String.toList, String.append]

/-- The characters of `strings.Join`: the first element, then each other one after the
separator. -/
theorem join_toList (x : String) (xs : List String) (sep : String) :
    (join (x :: xs) sep).toList = x.toList ++ (xs.map (sep.toList ++ ·.toList)).flatten :=
  intercalate_go_toList x sep xs

theorem not_comma_of_not_mem {x : List Char} (hx : ',' ∉ x) : ∀ c ∈ x, ¬(c == ',') = true :=
  fun c hc hcomma => hx (by rw [beq_iff_eq] at hcomma; rwa [hcomma] at hc)

/-- Splitting on commas undoes joining comma-free entries with commas. -/
theorem splitOn_comma_join : ∀ {x : List Char} {ys : List (List Char)}, ',' ∉ x →
    (∀ y ∈ ys, ',' ∉ y) → (x ++ (ys.map (',' :: ·)).flatten).splitOn ',' = x :: ys
  | x, [], hx, _ => by
    simpa using List.splitOnP_eq_single _ x (not_comma_of_not_mem hx)
  | x, y :: ys, hx, hys => by
    rw [List.map_cons, List.flatten_cons, List.cons_append, List.splitOn,
      List.splitOnP_first _ _ (not_comma_of_not_mem hx) _ (by simp), ← List.splitOn,
      splitOn_comma_join (hys y (List.mem_cons_self _ _))
        fun y' hy' => hys y' (List.mem_cons_of_mem _ hy')]

/-- A list of nonempty entries without a comma is read back from its join. -/
theorem flagEntries_join {xs : List String} (h : ∀ x ∈ xs, x ≠ "" ∧ ',' ∉ x.toList) :
    flagEntries (some (join xs ",")) = xs := by
  cases xs with
  | nil => rfl
  | cons x xs =>
    have hx := h x (List.mem_cons_self _ _)
    have hchars : (join (x :: xs) ",").toList = x.toList ++ ((xs.map String.toList).map
        (',' :: ·)).flatten := by
      rw [join_toList, List.map_map]; rfl
    have hne : join (x :: xs) "," ≠ "" := fun h0 => hx.1 (by
      have := congrArg String.toList h0
      rw [hchars] at this
      exact String.ext (List.append_eq_nil.1 this).1)
    rw [flagEntries, if_neg hne, hchars, splitOn_comma_join hx.2 (by simpa using
      fun y hy => (h y (List.mem_cons_of_mem _ hy)).2)]
    simp [Function.comp_def]

theorem comma_not_mem_toDigitsCore : ∀ (fuel n : Nat) (ds : List Char), ',' ∉ ds →
    ',' ∉ Nat.toDigitsCore 10 fuel n ds
  | 0, _, _, h => h
  | fuel + 1, n, ds, h => by
    have hdigit : ∀ m < 10, Nat.digitChar m ≠ ',' := by decide
    have hd : ',' ∉ Nat.digitChar (n % 10) :: ds :=
      List.not_mem_cons_of_ne_of_not_mem (hdigit _ (Nat.mod_lt _ (by decide))).symm h
    show ',' ∉ if n / 10 = 0 then Nat.digitChar (n % 10) :: ds
      else Nat.toDigitsCore 10 fuel (n / 10) (Nat.digitChar (n % 10) :: ds)
    split
    · exact hd
    · exact comma_not_mem_toDigitsCore fuel _ _ hd

/-- A socket whose IP address has no comma is written as a nonempty entry without a comma. -/
theorem ServiceSocket.str_entry (s : ServiceSocket) (h : ',' ∉ s.ipAddr.toList) :
    s.str ≠ "" ∧ ',' ∉ s.str.toList := by
  have hport : ',' ∉ (toString s.port).toList := comma_not_mem_toDigitsCore _ _ _ (by simp)
  refine ⟨fun h0 => absurd (congrArg String.length h0) ?_,
    by simpa [str, String.toList, String.append] using ⟨h, hport⟩⟩
  rw [str, String.length_append, String.length_append]
  show _ + 1 + _ ≠ 0
  omega

theorem mem_of_avaDependencies : ∀ {deps : List Service} {sockets : List ServiceSocket},
    avaDependencies deps = some sockets → ∀ s ∈ sockets, Service.avalanche s ∈ deps
  | [], _, h, _, hs => by cases h; cases hs
  | .avalanche s' :: rest, sockets, h, s, hs => by
    simp only [avaDependencies, Option.map_eq_some'] at h
    obtain ⟨ss, hss, rfl⟩ := h
    rcases List.mem_cons.1 hs with rfl | hs
    · exact List.mem_cons_self _ _
    · exact List.mem_cons_of_mem _ (mem_of_avaDependencies hss s hs)
  | .other :: _, _, h, _, _ => by cases h

theorem avaDependencies_length : ∀ {deps : List Service} {sockets : List ServiceSocket},
    avaDependencies deps = some sockets → sockets.length = deps.length
  | [], _, h => by cases h; rfl
  | .avalanche s :: rest, sockets, h => by
    simp only [avaDependencies, Option.map_eq_some'] at h
    obtain ⟨ss, hss, rfl⟩ := h
    simp [avaDependencies_length hss]
  | .other :: _, _, h => by cases h

/-! ## The command of the current versions -/

namespace Services

/-- The two bootstrap flags. -/
def bootstrapFlags : List String := ["--bootstrap-ids=", "--bootstrap-ips="]

/-- No fixed argument of the command is a bootstrap flag. -/
theorem commandList_no_bootstrap_flag {txFeeFlag flag : String} (hflag : flag ∈ bootstrapFlags)
    (hfee : hasPrefix txFeeFlag flag = false) (core : GeckoServiceInitializerCore)
    (publicIPAddr : String) : ∀ a ∈ commandList txFeeFlag core publicIPAddr, hasPrefix a flag = false := by
  simp only [bootstrapFlags, List.mem_cons, List.mem_singleton, List.not_mem_nil, or_false]
    at hflag
  simp only [commandList, List.mem_cons, List.mem_singleton, List.not_mem_nil, or_false]
  rintro a (rfl | rfl | rfl | rfl | rfl | rfl | rfl | rfl | rfl | rfl | rfl) <;>
    rcases hflag with rfl | rfl <;>
    first
    | exact hfee
    | decide
    | exact hasPrefix_append_of_diverge (by decide) (by decide) _

theorem stakingFlags_ok {core : GeckoServiceInitializerCore} {mountedFileFilepaths : String → Option String}
    {staking : List String} (h : stakingFlags core mountedFileFilepaths = .ok staking) :
    ∃ certFilepath keyFilepath, staking = ["--staking-tls-cert-file=" ++ certFilepath,
      "--staking-tls-key-file=" ++ keyFilepath, "--bootstrap-ids=" ++ join core.bootstrapperNodeIDs ","] := by
  unfold stakingFlags at h
  split at h
  · cases h
  · split at h
    · cases h
    · cases h
      exact ⟨_, _, rfl⟩

theorem bootstrapIPsFlags_ok {serviceType : String} {dependencies : List Service} {ips : List String}
    (h : bootstrapIPsFlags serviceType dependencies = .ok ips) :
    (dependencies = [] ∧ ips = []) ∨ ∃ sockets, avaDependencies dependencies = some sockets ∧
      ips = ["--bootstrap-ips=" ++ join (sockets.map ServiceSocket.str) ","] := by
  unfold bootstrapIPsFlags at h
  split_ifs at h with hdeps
  · split at h
    · cases h
    · cases h
      exact .inr ⟨_, ‹_›, rfl⟩
  · cases h
    exact .inl ⟨List.eq_nil_of_length_eq_zero (by omega), rfl⟩

/-- With staking, a command `GetStartCommand` returns lists every configured bootstrapper ID,
and, when there is a dependency, every dependency's staking socket, in order; it is returned
only for no more dependencies than IDs. -/
theorem startCommand_bootstrap_flags {txFeeFlag serviceType : String}
    {core : GeckoServiceInitializerCore} {mountedFileFilepaths : String → Option String}
    {publicIPAddr : String} {dependencies : List Service} {cmd : List String}
    (hfee : ∀ flag ∈ bootstrapFlags, hasPrefix txFeeFlag flag = false)
    (hstaking : core.stakingEnabled = true)
    (h : startCommand txFeeFlag serviceType core mountedFileFilepaths publicIPAddr dependencies =
      .ok (.ok cmd)) :
    dependencies.length ≤ core.bootstrapperNodeIDs.length ∧
    flagValue cmd "--bootstrap-ids=" = some (join core.bootstrapperNodeIDs ",") ∧
    (dependencies ≠ [] → ∃ sockets, avaDependencies dependencies = some sockets ∧
      flagValue cmd "--bootstrap-ips=" = some (join (sockets.map ServiceSocket.str) ",")) := by
  unfold startCommand at h
  by_cases hlen : dependencies.length > core.bootstrapperNodeIDs.length
  · rw [if_pos hlen] at h; cases h
  rw [if_neg hlen, hstaking, if_pos rfl] at h
  cases hst : stakingFlags core mountedFileFilepaths with
  | error e => rw [hst] at h; cases h
  | ok staking =>
    rw [hst] at h
    cases hips : bootstrapIPsFlags serviceType dependencies with
    | error p => rw [hips] at h; cases h
    | ok ips =>
      rw [hips] at h
      cases h
      obtain ⟨cert, key, rfl⟩ := stakingFlags_ok hst
      have hbase := fun flag hflag => commandList_no_bootstrap_flag hflag (hfee flag hflag) core
        publicIPAddr
      refine ⟨by omega, ?_, fun hne => ?_⟩
      · rw [List.append_assoc, List.append_assoc, flagValue_append_of_absent
          (hbase _ (by simp [bootstrapFlags]))]
        simp (disch := decide) only [List.cons_append, flagValue, List.find?,
          hasPrefix_append_of_diverge, hasPrefix_append_self, Option.map_some',
          trimPrefix_append_self]
      · obtain ⟨rfl, -⟩ | ⟨sockets, hsockets, rfl⟩ := bootstrapIPsFlags_ok hips
        · exact absurd rfl hne
        refine ⟨sockets, hsockets, ?_⟩
        rw [List.append_assoc, List.append_assoc, flagValue_append_of_absent
          (hbase _ (by simp [bootstrapFlags]))]
        simp (disch := decide) only [List.cons_append, flagValue, List.find?,
          hasPrefix_append_of_diverge, hasPrefix_append_self, Option.map_some',
          trimPrefix_append_self]

/-- With staking, IDs that are nonempty and without a comma, and dependencies whose IP
addresses have no comma, the `--bootstrap-ids` flag of a returned command has the configured
IDs as its entries, and, when there is a dependency, the `--bootstrap-ips` flag has the
dependencies' sockets. -/
theorem startCommand_bootstrap_entries {txFeeFlag serviceType : String}
    {core : GeckoServiceInitializerCore} {mountedFileFilepaths : String → Option String}
    {publicIPAddr : String} {dependencies : List Service} {cmd : List String}
    (hfee : ∀ flag ∈ bootstrapFlags, hasPrefix txFeeFlag flag = false)
    (hstaking : core.stakingEnabled = true)
    (h : startCommand txFeeFlag serviceType core mountedFileFilepaths publicIPAddr dependencies =
      .ok (.ok cmd))
    (hids : ∀ id ∈ core.bootstrapperNodeIDs, id ≠ "" ∧ ',' ∉ id.toList)
    (hips : ∀ s, Service.avalanche s ∈ dependencies → ',' ∉ s.ipAddr.toList) :
    dependencies.length ≤ core.bootstrapperNodeIDs.length ∧
    flagEntries (flagValue cmd "--bootstrap-ids=") = core.bootstrapperNodeIDs ∧
    (dependencies ≠ [] → ∃ sockets, avaDependencies dependencies = some sockets ∧
      sockets.length = dependencies.length ∧
      flagEntries (flagValue cmd "--bootstrap-ips=") = sockets.map ServiceSocket.str) := by
  obtain ⟨hlen, hidsFlag, hipsFlag⟩ := startCommand_bootstrap_flags hfee hstaking h
  refine ⟨hlen, by rw [hidsFlag, flagEntries_join hids], fun hne => ?_⟩
  obtain ⟨sockets, hsockets, hflag⟩ := hipsFlag hne
  refine ⟨sockets, hsockets, avaDependencies_length hsockets, ?_⟩
  rw [hflag, flagEntries_join]
  intro x hx
  obtain ⟨s, hs, rfl⟩ := List.mem_map.1 hx
  exact s.str_entry (hips s (mem_of_avaDependencies hsockets s hs))

/-- The fee flag of either current version is not a bootstrap flag. -/
theorem feeFlags_no_bootstrap_flag (core : GeckoServiceInitializerCore) :
    ∀ flag ∈ bootstrapFlags, hasPrefix ("--tx-fee=" ++ toString core.txFee) flag = false ∧
      hasPrefix ("--avax-tx-fee=" ++ toString 0) flag = false := by
  simp only [bootstrapFlags, List.mem_cons, List.mem_singleton, List.not_mem_nil, or_false]
  rintro flag (rfl | rfl) <;> exact ⟨hasPrefix_append_of_diverge (by decide) (by decide) _, by decide⟩

end Services

/-! ## The command of the older version -/

namespace AvaServicesLegacy

/-- No fixed argument of the older command is a bootstrap flag. -/
theorem commandList_no_bootstrap_flag {flag : String} (hflag : flag ∈ Services.bootstrapFlags)
    (g : GeckoServiceInitializerCore) (publicIpAddr : String) :
    ∀ a ∈ commandList g publicIpAddr, hasPrefix a flag = false := by
  simp only [Services.bootstrapFlags, List.mem_cons, List.mem_singleton, List.not_mem_nil,
    or_false] at hflag
  simp only [commandList, List.mem_cons, List.mem_singleton, List.not_mem_nil, or_false]
  rintro a (rfl | rfl | rfl | rfl | rfl | rfl | rfl | rfl | rfl) <;>
    rcases hflag with rfl | rfl <;>
    first
    | decide
    | exact hasPrefix_append_of_diverge (by decide) (by decide) _

/-- With staking TLS and a dependency, the older `GetStartCommand` lists only the first
dependency's staking socket, with the one hardcoded bootstrapper ID. -/
theorem getStartCommand_tls_flags {g : GeckoServiceInitializerCore}
    {staker1NodeID publicIpAddr : String} {dependencies : List Service} {cmd : List String}
    (htls : g.stakingTlsEnabled = true)
    (h : g.getStartCommand staker1NodeID publicIpAddr dependencies = .ok (.ok cmd))
    (hne : dependencies ≠ []) :
    ∃ s rest, avaDependencies dependencies = some (s :: rest) ∧
      flagValue cmd "--bootstrap-ips=" = some s.str ∧
      flagValue cmd "--bootstrap-ids=" = some staker1NodeID := by
  unfold GeckoServiceInitializerCore.getStartCommand at h
  rw [if_pos (List.length_pos.2 hne)] at h
  cases hdeps : avaDependencies dependencies with
  | none => rw [hdeps] at h; cases h
  | some sockets =>
    rw [hdeps] at h
    obtain _ | ⟨s, rest⟩ := sockets
    · exact absurd (List.length_eq_zero.1 (avaDependencies_length hdeps).symm) hne
    · cases h
      refine ⟨s, rest, rfl, ?_, ?_⟩ <;>
        rw [List.append_assoc, List.append_assoc, flagValue_append_of_absent
          (commandList_no_bootstrap_flag (by simp [Services.bootstrapFlags]) g publicIpAddr)] <;>
        simp (disch := decide) only [htls, if_true, socketLoop, List.cons_append,
          List.nil_append, flagValue, List.find?, hasPrefix_append_of_diverge,
          hasPrefix_append_self, Option.map_some', trimPrefix_append_self, join_singleton]

end AvaServicesLegacy

/-- A core with staking, two bootstrapper IDs and one dependency: `GetStartCommand` returns a
command whose `--bootstrap-ids` flag lists two IDs and whose `--bootstrap-ips` flag lists one
socket. -/
theorem startCommand_ids_outnumber_ips :
    let core : Services.GeckoServiceInitializerCore := ⟨2, 2, true, 0, [], ["a", "b"], "info"⟩
    ∃ cmd, core.getStartCommand (fun k => some ("/files/" ++ k)) "1.2.3.4"
        [.avalanche ⟨"10.0.0.1", 9651⟩] = .ok (.ok cmd) ∧
      (flagEntries (flagValue cmd "--bootstrap-ids=")).length = 2 ∧
      (flagEntries (flagValue cmd "--bootstrap-ips=")).length = 1 :=
  ⟨_, rfl, by decide, by decide⟩

/-- With staking, the current `GetStartCommand` lists every configured bootstrapper ID and,
when there is a dependency, every dependency's staking socket in order; it refuses only more
dependencies than IDs, so the two flags pair one to one exactly when the dependencies are as
many as the IDs. With staking TLS, the older `GetStartCommand` lists only the first
dependency's socket, with the one hardcoded ID. Each flag is read where the code sets it
(`flagValue`): an entry of `additionalCLIArgs` that sets the same flag comes after it and
overrides it in the node. -/
theorem bootstrap_flags_of_start_command :
    (∀ (core : Services.GeckoServiceInitializerCore) (mountedFileFilepaths : String → Option String)
      (publicIPAddr : String) (dependencies : List Service) (cmd : List String),
      core.stakingEnabled = true →
      (core.getStartCommand mountedFileFilepaths publicIPAddr dependencies = .ok (.ok cmd) ∨
        core.getStartCommandAvaServices mountedFileFilepaths publicIPAddr dependencies =
          .ok (.ok cmd)) →
      (∀ id ∈ core.bootstrapperNodeIDs, id ≠ "" ∧ ',' ∉ id.toList) →
      (∀ s, Service.avalanche s ∈ dependencies → ',' ∉ s.ipAddr.toList) →
      dependencies.length ≤ core.bootstrapperNodeIDs.length ∧
      flagEntries (flagValue cmd "--bootstrap-ids=") = core.bootstrapperNodeIDs ∧
      (dependencies ≠ [] → ∃ sockets, avaDependencies dependencies = some sockets ∧
        sockets.length = dependencies.length ∧
        flagEntries (flagValue cmd "--bootstrap-ips=") = sockets.map ServiceSocket.str)) ∧
    (∀ (g : AvaServicesLegacy.GeckoServiceInitializerCore) (staker1NodeID publicIpAddr : String)
      (dependencies : List Service) (cmd : List String),
      g.stakingTlsEnabled = true →
      g.getStartCommand staker1NodeID publicIpAddr dependencies = .ok (.ok cmd) →
      dependencies ≠ [] → ∃ s rest, avaDependencies dependencies = some (s :: rest) ∧
        flagValue cmd "--bootstrap-ips=" = some s.str ∧
        flagValue cmd "--bootstrap-ids=" = some staker1NodeID) :=
  ⟨fun core _ _ _ _ hstaking hcmd hids hips => hcmd.elim
      (fun h => Services.startCommand_bootstrap_entries
        (fun flag hflag => (Services.feeFlags_no_bootstrap_flag core flag hflag).1) hstaking h hids
        hips)
      (fun h => Services.startCommand_bootstrap_entries
        (fun flag hflag => (Services.feeFlags_no_bootstrap_flag core flag hflag).2) hstaking h hids
        hips),
    fun _ _ _ _ _ htls h hne => AvaServicesLegacy.getStartCommand_tls_flags htls h hne⟩

/-- The core with staking, two bootstrapper IDs and one dependency meets every hypothesis: the
IDs flag lists both IDs and the IPs flag the one socket. -/
theorem bootstrap_flags_two_ids_one_dependency :
    let core : Services.GeckoServiceInitializerCore := ⟨2, 2, true, 0, [], ["a", "b"], "info"⟩
    let dependencies := [Service.avalanche ⟨"10.0.0.1", 9651⟩]
    ∃ cmd, core.getStartCommand (fun k => some ("/files/" ++ k)) "1.2.3.4" dependencies =
        .ok (.ok cmd) ∧
      (∀ id ∈ core.bootstrapperNodeIDs, id ≠ "" ∧ ',' ∉ id.toList) ∧
      (∀ s, Service.avalanche s ∈ dependencies → ',' ∉ s.ipAddr.toList) ∧
      dependencies.length ≤ core.bootstrapperNodeIDs.length ∧
      flagEntries (flagValue cmd "--bootstrap-ids=") = core.bootstrapperNodeIDs ∧
      (dependencies ≠ [] → ∃ sockets, avaDependencies dependencies = some sockets ∧
        sockets.length = dependencies.length ∧
        flagEntries (flagValue cmd "--bootstrap-ips=") = sockets.map ServiceSocket.str) :=
  have hids : ∀ id ∈ ["a", "b"], id ≠ "" ∧ ',' ∉ id.toList := by decide
  have hips : ∀ s, Service.avalanche s ∈ [Service.avalanche ⟨"10.0.0.1", 9651⟩] →
      ',' ∉ s.ipAddr.toList := fun s hs => by
    rw [List.mem_singleton, Service.avalanche.injEq] at hs
    subst hs
    decide
  ⟨_, rfl, hids, hips, bootstrap_flags_of_start_command.1 ⟨2, 2, true, 0, [], ["a", "b"], "info"⟩
    (fun k => some ("/files/" ++ k)) "1.2.3.4" _ _ rfl (.inl rfl) hids hips⟩

end AvalancheTesting
