import Mathlib.Data.UInt
import AvalancheTesting.Bombard.Executor
import AvalancheTesting.Proofs.TraceProofs
import AvalancheTesting.Proofs.GatingProofs

/-!
# Proofs: what `ExecuteTest` has observed when it issues a transaction

`ExecuteTest` funds every account, checks each balance, fetches each address's UTXOs, builds a
chain of transactions per account, and only then issues the chains. In every run, against every
node, the calls split into those before the issue phase, among which there is no `IssueTx`, and
the rest. When the run reaches the issue phase, the calls before it show every funding send seen
accepted by an X-chain status query, and for every account `i` the address `secondaryClients[i]` created, its checked
balance, and the UTXO fetched and the key exported for that address, from which `txLists[i]` was
built (`IssueReady`); the `IssueTx` calls are then, in order, a prefix of `txLists[0]` through
`secondaryClients[0]`, then `txLists[1]` through `secondaryClients[1]`, and so on
(`executeTest_issues_funded_chains`), and a run that returns `nil` has issued every chain in full
(`executeTest_nil_issues_every_chain`).

The source's loops index the slices `xChainAddrs`, `utxoLists`, `secondaryClients` and
`txLists` by the loop variable. The lemma of each loop follows it from its start index `i`, so
that the alignment of the indices across the loops is proved, not assumed; it also gives that
no loop indexes past the end of a slice, so that the only panics of a run are an empty
`normalClients` or UTXO page, a key that is not a SECP256K1R key, and the panic of
`issueTxsAsync` (`executeTest_panics_only_on_empty_lists_or_bad_keys`).

Three runs against one node (`bombardNode`) show what these laws leave open: the confirm loop
drops the error of `AwaitXChainTxs`, so a run whose chain is rejected still returns `nil`; an
empty UTXO page and a key the factory turns into nil are panics, not errors; and the seed amount
`(numTxs + 1) * txFee` is computed in `uint64` and wraps.
-/

namespace AvalancheTesting

open Prog

/-! ## Calls of a run -/

/-- The call is an X-chain `IssueTx`. -/
def Call.isIssue : Call → Bool
  | .xIssueTx _ => true
  | _ => false

/-- The call `c` through `cl` returned `reply` without error among `evs`. -/
def Replied (evs : List Event) (cl : Client) (c : Call) (reply : c.Ret) : Prop :=
  ∃ t, (⟨cl, c, reply, none, t⟩ : Event) ∈ evs

theorem Replied.mono {evs evs' : List Event} {cl : Client} {c : Call} {reply : c.Ret}
    (h : Replied evs cl c reply) (hsub : evs ⊆ evs') : Replied evs' cl c reply :=
  h.imp fun _ hm => hsub hm

/-- No call among `evs` submits a transaction. -/
def Quiet (evs : List Event) : Prop := ∀ ev ∈ evs, ev.submitted = none

@[simp] theorem quiet_nil : Quiet [] := fun _ h => nomatch h

@[simp] theorem quiet_cons {ev : Event} {evs : List Event} :
    Quiet (ev :: evs) ↔ ev.submitted = none ∧ Quiet evs := List.forall_mem_cons

@[simp] theorem quiet_append {a b : List Event} : Quiet (a ++ b) ↔ Quiet a ∧ Quiet b :=
  List.forall_mem_append

/-- An `IssueTx` submits the transaction it issues. -/
theorem Quiet.not_issue {evs : List Event} (h : Quiet evs) :
    ∀ ev ∈ evs, ev.call.isIssue = false := fun ⟨_, c, _, _, _⟩ hev => by
  cases c with
  | xIssueTx => exact absurd (h _ hev) (Option.some_ne_none _)
  | _ => rfl

/-- The submissions among `evs`, with the clients they were made through. -/
def submissionCalls (evs : List Event) : List (Client × Call) :=
  (evs.filter fun ev => ev.submitted.isSome).map fun ev => (ev.client, ev.call)

/-- Every submission among `evs` is seen accepted, by the ledger it was submitted to, by a later
call among `evs`. -/
def submissionsAccepted : List Event → Bool
  | [] => true
  | ev :: evs => (match ev.submitted with
      | some t => evs.any (·.observesAccepted t)
      | none => true) && submissionsAccepted evs

theorem submissionsAccepted_append {b : List Event} (hb : submissionsAccepted b = true) :
    ∀ {a : List Event}, submissionsAccepted a = true → submissionsAccepted (a ++ b) = true
  | [], _ => hb
  | ev :: a, ha => by
    simp only [submissionsAccepted, Bool.and_eq_true, List.cons_append] at ha ⊢
    refine ⟨?_, submissionsAccepted_append hb ha.2⟩
    split at ha <;> simp_all

theorem submissionsAccepted_cons_of_submitted {ev : Event} {t : Chain × TxID} {evs : List Event}
    (hs : ev.submitted = some t) (hseen : evs.any (·.observesAccepted t) = true)
    (h : submissionsAccepted evs = true) : submissionsAccepted (ev :: evs) = true := by
  simp [submissionsAccepted, hs, hseen, h]

theorem Quiet.submissionsAccepted {evs : List Event} (h : Quiet evs) :
    submissionsAccepted evs = true := by
  induction evs with
  | nil => rfl
  | cons ev evs ih =>
    rw [quiet_cons] at h
    simp [AvalancheTesting.submissionsAccepted, h.1, ih h.2]

theorem Quiet.submissionCalls {evs : List Event} (h : Quiet evs) : submissionCalls evs = [] := by
  simp only [AvalancheTesting.submissionCalls, List.map_eq_nil_iff, List.filter_eq_nil_iff]
  exact fun ev hev => by simp [h ev hev]

@[simp] theorem submissionCalls_append (a b : List Event) :
    submissionCalls (a ++ b) = submissionCalls a ++ submissionCalls b := by
  simp [submissionCalls]

/-- The `IssueTx` calls among `evs`, with the clients they were made through. -/
def issueCalls (evs : List Event) : List (Client × Call) :=
  (evs.filter fun ev => ev.call.isIssue).map fun ev => (ev.client, ev.call)

@[simp] theorem issueCalls_append (a b : List Event) :
    issueCalls (a ++ b) = issueCalls a ++ issueCalls b := by
  simp [issueCalls]

theorem issueCalls_eq_nil {evs : List Event} (h : ∀ ev ∈ evs, ev.call.isIssue = false) :
    issueCalls evs = [] := by
  simp only [issueCalls, List.map_eq_nil_iff, List.filter_eq_nil_iff]
  exact fun ev hev => by simp [h ev hev]

/-- The `IssueTx` calls of the issue loop when every chain is issued: `txLists[i]`, in order,
through `secondaryClients[i]`, for one account after the other. -/
def chainCalls (secondaryClients : List RPCWorkFlowRunner) (txLists : List (List Bytes)) :
    List (Client × Call) :=
  (List.zipWith (fun runner txs => txs.map fun tx => (runner.client, Call.xIssueTx tx))
    secondaryClients txLists).flatten

theorem chainCalls_cons (runner : RPCWorkFlowRunner) (runners : List RPCWorkFlowRunner)
    (txs : List Bytes) (txLists : List (List Bytes)) :
    chainCalls (runner :: runners) (txs :: txLists) =
      txs.map (fun tx => (runner.client, Call.xIssueTx tx)) ++ chainCalls runners txLists := rfl

/-! ## The setup loop -/

/-- `randomUserPass` draws two random numbers and makes no call. -/
theorem runs_randomUserPass :
    Runs Bombard.randomUserPass fun r evs => (∃ user, r = .ok user) ∧ evs = [] :=
  fun _ _ => ⟨[], (List.append_nil _).symm, ⟨_, rfl⟩, rfl⟩

/-- `CreateDefaultAddresses` submits nothing, and when it returns no error the address it returns
is the reply of its X-chain `CreateAddress`. -/
theorem runs_createDefaultAddresses (runner : RPCWorkFlowRunner) :
    Runs runner.createDefaultAddresses fun r evs => Quiet evs ∧ ∃ v, r = .ok v ∧
      (v.2.2 = none → Replied evs runner.client (.xCreateAddress runner.userPass) v.1) := by
  unfold RPCWorkFlowRunner.createDefaultAddresses Client.createUser Client.xCreateAddress
    Client.pCreateAddress
  refine runs_call_bind fun r t => ?_
  rcases r with ⟨_, _ | _⟩
  · refine runs_call_bind fun x t' => ?_
    rcases x with ⟨addr, _ | _⟩
    · exact runs_call_bind fun p t'' =>
        runs_pure _ ⟨quiet_cons.2 ⟨rfl, quiet_cons.2 ⟨rfl, quiet_cons.2 ⟨rfl, quiet_nil⟩⟩⟩, _, rfl,
          fun _ => ⟨t', by simp⟩⟩
    · exact runs_pure _ ⟨quiet_cons.2 ⟨rfl, quiet_cons.2 ⟨rfl, quiet_nil⟩⟩, _, rfl, nofun⟩
  · exact runs_pure _ ⟨quiet_cons.2 ⟨rfl, quiet_nil⟩, _, rfl, nofun⟩

/-- The setup loop from index `i` submits nothing; when it returns runners and addresses, the
runners wrap the clients in order, and the address at each index is the one the runner at that
index created. -/
theorem runs_setupLoop (timeout : Nat) : ∀ (i : Nat) (clients : List Client),
    Runs (Bombard.setupLoop timeout i clients) fun r evs => Quiet evs ∧ ∃ v, r = .ok v ∧
      ∀ (runners : List RPCWorkFlowRunner) (addrs : List String), v = .ok (runners, addrs) →
        runners.map (·.client) = clients ∧ addrs.length = runners.length ∧
        ∀ (j : Nat) (runner : RPCWorkFlowRunner) (addr : String),
          runners[j]? = some runner → addrs[j]? = some addr →
          Replied evs runner.client (.xCreateAddress runner.userPass) addr
  | _, [] => runs_pure _ ⟨quiet_nil, _, rfl, by
    rintro _ _ ⟨⟩; exact ⟨rfl, rfl, fun _ _ _ h => by simp at h⟩⟩
  | i, client :: clients => by
    unfold Bombard.setupLoop
    refine runs_randomUserPass.bind (fun user evs ⟨_, hevs⟩ => ?_) (fun _ _ ⟨⟨_, h⟩, _⟩ => nomatch h)
    subst hevs
    refine (runs_createDefaultAddresses _).bind (fun v evs ⟨hq, _, hv, hcreated⟩ => ?_)
      (fun _ _ ⟨_, _, h, _⟩ => nomatch h)
    cases hv
    rcases v with ⟨addr, _, _ | _⟩
    · refine (runs_setupLoop timeout (i + 1) clients).bind
        (fun rest evs' ⟨hq', _, hrest, hspec⟩ => runs_pure _ ⟨by simp [hq, hq'], _, rfl, ?_⟩)
        (fun _ _ ⟨_, _, h, _⟩ => nomatch h)
      cases hrest
      rcases rest with _ | ⟨runners, addrs⟩
      · rintro _ _ ⟨⟩
      · rintro _ _ ⟨⟩
        obtain ⟨hclients, hlen, hrep⟩ := hspec runners addrs rfl
        refine ⟨by simp [hclients], by simp [hlen], ?_⟩
        rintro (_ | j) runner addr' hr ha <;>
          simp only [List.getElem?_cons_zero, List.getElem?_cons_succ, Option.some.injEq] at hr ha
        · subst hr ha
          exact (hcreated rfl).mono (by simp)
        · exact (hrep j runner addr' hr ha).mono (by simp)
    · exact runs_pure _ ⟨by simpa using hq, _, rfl, by rintro _ _ ⟨⟩⟩

/-! ## Funding -/

/-- `ImportGenesisFunds` submits nothing and returns. -/
theorem runs_importGenesisFunds (runner : RPCWorkFlowRunner) (consts : NetworkConstants) :
    Runs (runner.importGenesisFunds consts) fun r evs => Quiet evs ∧ ∃ v, r = .ok v := by
  unfold RPCWorkFlowRunner.importGenesisFunds Client.createUser Client.xImportKey
  refine runs_call_bind fun r t => ?_
  rcases r with ⟨_, _ | _⟩
  · refine runs_call_bind fun k t' => ?_
    rcases k with ⟨_, _ | _⟩ <;>
      exact runs_pure _ ⟨quiet_cons.2 ⟨rfl, quiet_cons.2 ⟨rfl, quiet_nil⟩⟩, _, rfl⟩
  · exact runs_pure _ ⟨quiet_cons.2 ⟨rfl, quiet_nil⟩, _, rfl⟩

/-- A query of the X-chain poller that returned `Accepted` without error sees its ID accepted by
the X chain. -/
theorem queryEvent_observesAccepted {cl : Client} {t : TxID} {q : XStatus × Option Err × Nat}
    (ha : (q.1 == .accepted) = true) (hn : q.2.1 = none) :
    (queryEvent cl (.xGetTxStatus t) q).observesAccepted (.x, t) = true := by
  simpa [Event.observesAccepted, queryEvent, Call.observesAccepted, hn] using ha

/-- `FundXChainAddresses` issues no `IssueTx`; when it returns `nil`, its submissions are one send
of `amount` to each address, in order, each seen accepted by a later X-chain status query. -/
theorem runs_fundXChainAddresses (runner : RPCWorkFlowRunner) :
    ∀ (addresses : List String) (amount : UInt64),
    Runs (runner.fundXChainAddresses addresses amount) fun r evs =>
      (∀ ev ∈ evs, ev.call.isIssue = false) ∧ ∃ v, r = .ok v ∧
      (v = none → submissionCalls evs = addresses.map (fun addr =>
          (runner.client, .xSend runner.userPass amount avaxAssetID addr)) ∧
        submissionsAccepted evs = true)
  | [], _ => runs_pure _ ⟨List.forall_mem_nil _, _, rfl, fun _ => ⟨rfl, rfl⟩⟩
  | address :: addresses, amount => by
    unfold RPCWorkFlowRunner.fundXChainAddresses Client.xSend
    refine runs_call_bind fun r t => ?_
    rcases r with ⟨txID, _ | _⟩
    · refine (runs_of_pollerRun (waitForXchainTransactionAcceptance_pollerRun · runner txID ·)).bind
        (fun err evs ⟨qs, _, ha, hevs, hacc⟩ => ?_) (fun _ _ ⟨_, _, h, _⟩ => nomatch h)
      cases ha
      subst hevs
      have hquiet : Quiet (qs.map (queryEvent runner.client (.xGetTxStatus txID))) :=
        queryEvent_submitted qs fun _ => rfl
      rcases err with _ | _
      · obtain ⟨q, hq, ha, hn⟩ := hacc rfl
        refine (runs_fundXChainAddresses runner addresses amount).mono
          fun o evs' ⟨hno, v, hv, hspec⟩ => ⟨?_, v, hv, fun hnone => ?_⟩
        · exact List.forall_mem_cons.2 ⟨rfl, List.forall_mem_append.2 ⟨hquiet.not_issue, hno⟩⟩
        · obtain ⟨hcalls, hacc'⟩ := hspec hnone
          refine ⟨?_, submissionsAccepted_cons_of_submitted rfl ?_
            (submissionsAccepted_append hacc' hquiet.submissionsAccepted)⟩
          · rw [← List.singleton_append, submissionCalls_append, submissionCalls_append,
              hquiet.submissionCalls, hcalls]
            rfl
          · exact List.any_eq_true.2 ⟨_, List.mem_append_left _ (List.mem_map_of_mem _ hq),
              queryEvent_observesAccepted ha hn⟩
      · exact runs_pure _ ⟨List.forall_mem_cons.2 ⟨rfl, List.forall_mem_append.2
          ⟨hquiet.not_issue, List.forall_mem_nil _⟩⟩, _, rfl, nofun⟩
    · exact runs_pure _ ⟨by simp [Call.isIssue], _, rfl, nofun⟩

/-! ## The verify loop -/

/-- Indexing a slice panics out of range, and reads the element in range. -/
theorem runs_index_bind {xs : List α} {i : Nat} {f : α → Prog β}
    {Q : Except Panic β → List Event → Prop} (h : ∀ x, xs[i]? = some x → Runs (f x) Q)
    (hp : xs.length ≤ i → Q (.error (.indexOutOfRange i xs.length)) []) :
    Runs (Prog.index xs i >>= f) Q := by
  unfold Prog.index
  cases hx : xs[i]? with
  | none => exact fun _ _ => ⟨[], (List.append_nil _).symm, hp (List.getElem?_eq_none_iff.1 hx)⟩
  | some x => exact h x hx

/-- A loop at index `i` over `x :: xs`, on a slice that reaches past its last iteration, indexes
the slice in range. -/
theorem not_add_length_cons_le {i n : Nat} {x : α} {xs : List α} (hle : n ≤ i) :
    ¬i + (x :: xs).length ≤ n := by
  rw [List.length_cons]; omega

/-- A slice that reaches past the last iteration of a loop at index `i` also reaches past that of
the loop's next iteration. -/
theorem add_length_le_of_cons {i n : Nat} {x : α} {xs : List α} (h : i + (x :: xs).length ≤ n) :
    i + 1 + xs.length ≤ n := by
  rw [List.length_cons] at h; omega

/-- `VerifyXChainAVABalance` submits nothing and returns; it returns `nil` only when the node
replied with the expected balance. -/
theorem runs_verifyXChainAVABalance (runner : RPCWorkFlowRunner) (address : String)
    (expectedBalance : UInt64) :
    Runs (runner.verifyXChainAVABalance address expectedBalance) fun r evs => Quiet evs ∧
      ∃ v, r = .ok v ∧
        (v = none → Replied evs runner.client (.xGetBalance address avaxAssetID) expectedBalance) := by
  unfold RPCWorkFlowRunner.verifyXChainAVABalance RPCWorkFlowRunner.verifyBalance Client.xGetBalance
  refine runs_call_bind fun r t => ?_
  have hq : (⟨runner.client, .xGetBalance address avaxAssetID, r.1, r.2, t⟩ : Event).submitted = none :=
    rfl
  rcases r with ⟨balance, _ | _⟩
  · dsimp only
    split
    · exact runs_pure _ ⟨by simpa using hq, _, rfl, nofun⟩
    · rename_i hb
      obtain rfl : balance = expectedBalance := by simpa using hb
      exact runs_pure _ ⟨by simpa using hq, _, rfl, fun _ => ⟨t, by simp⟩⟩
  · exact runs_pure _ ⟨by simpa using hq, _, rfl, nofun⟩

/-- The verify loop from index `i` submits nothing, and returns when the addresses reach past
each of its runners; when it returns UTXO lists, there is one per runner, and the list at index
`j` decodes the page fetched through the genesis client for the address at index `i + j`, whose
balance the runner at index `j` found to be the seed amount. -/
theorem runs_verifyLoop (lib : BombardLib) (genesisClient : Client) (xChainAddrs : List String)
    (seedAmount : UInt64) : ∀ (i : Nat) (clients : List RPCWorkFlowRunner),
    Runs (Bombard.verifyLoop lib genesisClient xChainAddrs seedAmount i clients) fun r evs =>
      Quiet evs ∧ (i + clients.length ≤ xChainAddrs.length → ∃ v, r = .ok v) ∧
      ∀ utxoLists, r = .ok (.ok utxoLists) → utxoLists.length = clients.length ∧
        ∀ (j : Nat) (client : RPCWorkFlowRunner) (utxos : List UTXO),
          clients[j]? = some client → utxoLists[j]? = some utxos →
          ∃ addr, xChainAddrs[i + j]? = some addr ∧
            Replied evs client.client (.xGetBalance addr avaxAssetID) seedAmount ∧
            ∃ utxoBytes, Replied evs genesisClient (.xGetUTXOs [addr] 10 "" "") utxoBytes ∧
              Bombard.unmarshalUTXOs lib utxoBytes = .ok utxos
  | _, [] => runs_pure _ ⟨quiet_nil, fun _ => ⟨_, rfl⟩, by
    rintro _ ⟨⟩; exact ⟨rfl, fun _ _ _ h => by simp at h⟩⟩
  | i, client :: clients => by
    unfold Bombard.verifyLoop
    refine runs_index_bind (fun addr haddr => ?_)
      fun hle => ⟨quiet_nil, fun h => (not_add_length_cons_le hle h).elim, nofun⟩
    refine (runs_verifyXChainAVABalance client addr seedAmount).bind
      (fun err evs ⟨hq, _, hv, hbal⟩ => ?_) (fun _ _ ⟨_, _, h, _⟩ => nomatch h)
    cases hv
    rcases err with _ | _
    · refine runs_index_bind (fun addr' haddr' => ?_)
        fun hle => ⟨by simpa using hq, fun h => (not_add_length_cons_le hle h).elim, nofun⟩
      rw [haddr, Option.some.injEq] at haddr'
      subst haddr'
      unfold Client.xGetUTXOs
      refine runs_call_bind fun u t => ?_
      have hqu : (⟨genesisClient, .xGetUTXOs [addr] 10 "" "", u.1, u.2, t⟩ : Event).submitted =
        none := rfl
      rcases u with ⟨utxoBytes, _ | _⟩
      · dsimp only
        cases hu : Bombard.unmarshalUTXOs lib utxoBytes with
        | error => exact runs_pure _ ⟨by simp [hq, hqu], fun _ => ⟨_, rfl⟩, nofun⟩
        | ok utxos =>
          refine (runs_verifyLoop lib genesisClient xChainAddrs seedAmount (i + 1) clients).bind
            (fun rest evs' ⟨hq', _, hspec⟩ => runs_pure _ ⟨by simp [hq, hqu, hq'],
              fun _ => ⟨_, rfl⟩, ?_⟩)
            (fun _ evs' ⟨hq', hok, _⟩ => ⟨by simp [hq, hqu, hq'],
              fun hlen => hok (add_length_le_of_cons hlen), nofun⟩)
          rintro utxoLists h
          rcases rest with _ | rest
          · cases h
          · cases h
            obtain ⟨hlen, hrest⟩ := hspec rest rfl
            refine ⟨by simp [hlen], ?_⟩
            rintro (_ | j) client' utxos' hc hu' <;>
              simp only [List.getElem?_cons_zero, List.getElem?_cons_succ, Option.some.injEq]
                at hc hu'
            · subst hc hu'
              exact ⟨addr, haddr, (hbal rfl).mono (by simp),
                utxoBytes, ⟨t, by simp⟩, hu⟩
            · obtain ⟨addr'', haddr'', hbal'', utxoBytes'', hfetch, hdec⟩ :=
                hrest j client' utxos' hc hu'
              refine ⟨addr'', by rwa [Nat.add_right_comm] at haddr'', hbal''.mono (by simp),
                utxoBytes'', hfetch.mono (by simp), hdec⟩
      · exact runs_pure _ ⟨by simp [hq, hqu], fun _ => ⟨_, rfl⟩, nofun⟩
    · exact runs_pure _ ⟨by simpa using hq, fun _ => ⟨_, rfl⟩, nofun⟩

/-! ## The build loop -/

/-- `txs` is the chain built from `utxo` with the key that `client` exported, among `evs`, for
`addr` from `runner`'s user. -/
def ChainBuilt (lib : BombardLib) (numTxs seedAmount txFee : UInt64) (evs : List Event)
    (client : Client) (runner : RPCWorkFlowRunner) (addr : String) (utxo : UTXO)
    (txs : List Bytes) : Prop :=
  ∃ key pkBytes sk txIDs, Replied evs client (.xExportKey runner.user addr) key ∧
    Bombard.decodePrivateKey lib key = .ok pkBytes ∧ (lib.toPrivateKey pkBytes).1 = some sk ∧
    lib.createConsecutiveTransactions utxo numTxs seedAmount txFee sk = (txs, txIDs, none)

theorem ChainBuilt.mono {lib : BombardLib} {numTxs seedAmount txFee : UInt64}
    {evs evs' : List Event} {client : Client} {runner : RPCWorkFlowRunner} {addr : String}
    {utxo : UTXO} {txs : List Bytes}
    (h : ChainBuilt lib numTxs seedAmount txFee evs client runner addr utxo txs)
    (hsub : evs ⊆ evs') : ChainBuilt lib numTxs seedAmount txFee evs' client runner addr utxo txs :=
  let ⟨key, pkBytes, sk, txIDs, hk, hrest⟩ := h
  ⟨key, pkBytes, sk, txIDs, hk.mono hsub, hrest⟩

/-- The build loop from index `i` submits nothing. When `utxoLists`, `secondaryClients` and
`xChainAddrs` reach past its last iteration, it panics only on an empty UTXO list or on a key that
is not a SECP256K1R key. When it returns chains, there is one per client, and the chain at index
`j` is built from the first UTXO of the list at index `i + j`, with the key that the client at
index `j` exported for the address at index `i + j` from the user of the runner at index
`i + j`. -/
theorem runs_buildLoop (lib : BombardLib) (secondaryClients : List RPCWorkFlowRunner)
    (xChainAddrs : List String) (utxoLists : List (List UTXO)) (numTxs seedAmount txFee : UInt64) :
    ∀ (i : Nat) (clients : List Client),
    Runs (Bombard.buildLoop lib secondaryClients xChainAddrs utxoLists numTxs seedAmount txFee i
      clients) fun r evs =>
      Quiet evs ∧
      (i + clients.length ≤ utxoLists.length → i + clients.length ≤ secondaryClients.length →
        i + clients.length ≤ xChainAddrs.length → ∀ p, r = .error p →
        p = .indexOutOfRange 0 0 ∨ p = .typeAssertion "*crypto.PrivateKeySECP256K1R") ∧
      ∀ txLists txIDLists, r = .ok (.ok (txLists, txIDLists)) →
        txLists.length = clients.length ∧
        ∀ (j : Nat) (client : Client) (txs : List Bytes),
          clients[j]? = some client → txLists[j]? = some txs →
          ∃ runner addr utxo utxos, secondaryClients[i + j]? = some runner ∧
            xChainAddrs[i + j]? = some addr ∧ utxoLists[i + j]? = some (utxo :: utxos) ∧
            ChainBuilt lib numTxs seedAmount txFee evs client runner addr utxo txs
  | _, [] => runs_pure _ ⟨quiet_nil, nofun, by
    rintro _ _ ⟨⟩; exact ⟨rfl, fun _ _ _ h => by simp at h⟩⟩
  | i, client :: clients => by
    unfold Bombard.buildLoop
    refine runs_index_bind (fun utxos hutxos => ?_)
      fun hle => ⟨quiet_nil, fun h => (not_add_length_cons_le hle h).elim, nofun⟩
    refine runs_index_bind (fun utxo hutxo => ?_) fun hle =>
      ⟨quiet_nil, fun _ _ _ _ h => .inl (by rw [← Except.error.inj h, Nat.le_zero.1 hle]), nofun⟩
    obtain ⟨rest, rfl⟩ := List.head?_eq_some_iff.1 ((List.head?_eq_getElem? _).trans hutxo)
    refine runs_index_bind (fun runner hrunner => ?_)
      fun hle => ⟨quiet_nil, fun _ h => (not_add_length_cons_le hle h).elim, nofun⟩
    refine runs_index_bind (fun addr haddr => ?_)
      fun hle => ⟨quiet_nil, fun _ _ h => (not_add_length_cons_le hle h).elim, nofun⟩
    unfold Client.xExportKey
    refine runs_call_bind fun k t => ?_
    have hqk : (⟨client, .xExportKey runner.user addr, k.1, k.2, t⟩ : Event).submitted = none := rfl
    rcases k with ⟨key, _ | _⟩
    · dsimp only
      cases hkey : Bombard.decodePrivateKey lib key with
      | error => exact runs_pure _ ⟨by simpa using hqk, nofun, nofun⟩
      | ok pkBytes =>
        dsimp only
        cases hsk : (lib.toPrivateKey pkBytes).1 with
        | none => exact runs_panic _ ⟨by simpa using hqk, fun _ _ _ _ h => .inr (Except.error.inj h).symm, nofun⟩
        | some sk =>
          dsimp only
          rcases hc : lib.createConsecutiveTransactions utxo numTxs seedAmount txFee sk with
            ⟨txs, txIDs, _ | _⟩
          · refine (runs_buildLoop lib secondaryClients xChainAddrs utxoLists numTxs seedAmount
              txFee (i + 1) clients).bind
              (fun more evs' ⟨hq', _, hspec⟩ => runs_pure _ ⟨by simp [hqk, hq'], nofun, ?_⟩)
              (fun _ evs' ⟨hq', hpanic, _⟩ => ⟨by simp [hqk, hq'], fun h₁ h₂ h₃ =>
                hpanic (add_length_le_of_cons h₁) (add_length_le_of_cons h₂)
                  (add_length_le_of_cons h₃), nofun⟩)
            rintro txLists txIDLists h
            rcases more with _ | ⟨moreTxs, moreIDs⟩
            · cases h
            · cases h
              obtain ⟨hlen, hmore⟩ := hspec moreTxs moreIDs rfl
              refine ⟨by simp [hlen], ?_⟩
              rintro (_ | j) client' txs' hc' htx <;>
                simp only [List.getElem?_cons_zero, List.getElem?_cons_succ, Option.some.injEq]
                  at hc' htx
              · subst hc' htx
                exact ⟨runner, addr, utxo, rest, hrunner, haddr, hutxos,
                  key, pkBytes, sk, txIDs, ⟨t, by simp⟩, hkey, hsk, hc⟩
              · obtain ⟨runner', addr', utxo', rest', hr', ha', hu', hb'⟩ := hmore j client' txs' hc' htx
                rw [Nat.add_right_comm] at hr' ha' hu'
                exact ⟨runner', addr', utxo', rest', hr', ha', hu', hb'.mono (by simp)⟩
          · exact runs_pure _ ⟨by simpa using hqk, nofun, nofun⟩
    · exact runs_pure _ ⟨by simpa using hqk, nofun, nofun⟩

/-! ## The issue and confirm loops -/

/-- An `IssueTx` of `tx` through `cl`, then the calls `evs`. -/
theorem issueCalls_cons_issue (cl : Client) (tx : Bytes) (r : TxID) (err : Option Err) (t : Nat)
    (evs : List Event) :
    issueCalls (⟨cl, .xIssueTx tx, r, err, t⟩ :: evs) = (cl, .xIssueTx tx) :: issueCalls evs := rfl

/-- `IssueTxList` issues a prefix of its list, in order, through its runner's client, and the
whole list when it returns `nil`. -/
theorem runs_issueTxList (runner : RPCWorkFlowRunner) : ∀ txList : List Bytes,
    Runs (runner.issueTxList txList) fun r evs => ∃ v, r = .ok v ∧
      issueCalls evs <+: txList.map (fun tx => (runner.client, Call.xIssueTx tx)) ∧
      (v = none → issueCalls evs = txList.map fun tx => (runner.client, Call.xIssueTx tx))
  | [] => runs_pure _ ⟨_, rfl, List.prefix_refl _, fun _ => rfl⟩
  | tx :: txList => by
    unfold RPCWorkFlowRunner.issueTxList Client.xIssueTx
    refine runs_call_bind fun r t => ?_
    rcases r with ⟨_, _ | _⟩
    · refine (runs_issueTxList runner txList).mono fun _ evs ⟨v, hv, hpre, hall⟩ =>
        ⟨v, hv, ?_, fun hn => ?_⟩ <;> rw [issueCalls_cons_issue, List.map_cons]
      · exact (List.prefix_cons_inj _).2 hpre
      · rw [hall hn]
    · exact runs_pure _ ⟨_, rfl, (List.prefix_cons_inj _).2 List.nil_prefix, nofun⟩

/-- `issueTxsAsync` issues a prefix of its list, and the whole list when it returns; it panics only
with the error of `IssueTxList`. -/
theorem runs_issueTxsAsync (runner : RPCWorkFlowRunner) (txList : List Bytes) :
    Runs (Bombard.issueTxsAsync runner txList) fun r evs =>
      issueCalls evs <+: txList.map (fun tx => (runner.client, Call.xIssueTx tx)) ∧
      (∀ u, r = .ok u → issueCalls evs = txList.map fun tx => (runner.client, Call.xIssueTx tx)) ∧
      ∀ p, r = .error p → ∃ err, p = .err err := by
  unfold Bombard.issueTxsAsync
  refine (runs_issueTxList runner txList).bind (fun err evs ⟨_, hv, hpre, hall⟩ => ?_)
    (fun _ _ ⟨_, h, _⟩ => nomatch h)
  cases hv
  rcases err with _ | _
  · exact runs_pure _ ⟨by simpa using hpre, fun _ _ => by simpa using hall rfl, nofun⟩
  · exact runs_panic _ ⟨by simpa using hpre, nofun, fun _ h => ⟨_, (Except.error.inj h).symm⟩⟩

/-- The issue loop from index `i` issues, in order, a prefix of the chain at index `i` through
the first runner, then of the chain at index `i + 1` through the second, and so on, and every
chain in full when it returns. When `txLists` reaches past its last iteration, it panics only with
the error of an `IssueTxList`. -/
theorem runs_issueLoop (txLists : List (List Bytes)) :
    ∀ (i : Nat) (runners : List RPCWorkFlowRunner),
    Runs (Bombard.issueLoop txLists i runners) fun r evs =>
      issueCalls evs <+: chainCalls runners (txLists.drop i) ∧
      (∀ u, r = .ok u → issueCalls evs = chainCalls runners (txLists.drop i)) ∧
      (i + runners.length ≤ txLists.length → ∀ p, r = .error p → ∃ err, p = .err err)
  | _, [] => runs_pure _ ⟨List.nil_prefix, fun _ _ => rfl, nofun⟩
  | i, runner :: runners => by
    unfold Bombard.issueLoop
    refine runs_index_bind (fun txs htxs => ?_)
      fun hle => ⟨List.nil_prefix, nofun, fun h => (not_add_length_cons_le hle h).elim⟩
    obtain ⟨hi, htxs⟩ := List.getElem?_eq_some_iff.1 htxs
    rw [List.drop_eq_getElem_cons hi, htxs, chainCalls_cons]
    refine (runs_issueTxsAsync runner txs).bind
      (fun u evs ⟨_, hall, _⟩ => (runs_issueLoop txLists (i + 1) runners).mono
        fun _ evs' ⟨h, hfull, hpanic⟩ => ⟨?_, fun v hv => ?_,
          fun hlen => hpanic (add_length_le_of_cons hlen)⟩)
      (fun _ _ ⟨hpre, _, hpanic⟩ => ⟨hpre.trans (List.prefix_append _ _), nofun, fun _ => hpanic⟩)
    all_goals rw [issueCalls_append, hall u rfl]
    · exact (List.prefix_append_right_inj _).2 h
    · rw [hfull v hv]

/-- A poller issues nothing and returns. -/
theorem runs_waitForXchainTransactionAcceptance (runner : RPCWorkFlowRunner) (txID : TxID) :
    Runs (runner.waitForXchainTransactionAcceptance txID) fun r evs =>
      (∃ v, r = .ok v) ∧ issueCalls evs = [] :=
  (runs_of_pollerRun (waitForXchainTransactionAcceptance_pollerRun · runner txID ·)).mono
    fun _ _ ⟨_, v, hv, hevs, _⟩ => ⟨⟨v, hv⟩, issueCalls_eq_nil fun _ h => by
      obtain ⟨_, _, rfl⟩ := List.mem_map.1 (hevs ▸ h)
      rfl⟩

/-- `AwaitXChainTxs` and `AwaitPChainTxs` issue nothing and return when each wait does. -/
theorem runs_awaitTxs {wait : TxID → Prog (Option Err)}
    (hwait : ∀ t, Runs (wait t) fun r evs => (∃ v, r = .ok v) ∧ issueCalls evs = []) :
    ∀ txIDs : List TxID, Runs (RPCWorkFlowRunner.awaitTxs wait txIDs) fun r evs =>
      (∃ v, r = .ok v) ∧ issueCalls evs = []
  | [] => runs_pure _ ⟨⟨_, rfl⟩, rfl⟩
  | t :: ts => by
    unfold RPCWorkFlowRunner.awaitTxs
    refine (hwait t).bind (fun err evs ⟨_, h⟩ => ?_) (fun _ _ ⟨⟨_, h⟩, _⟩ => nomatch h)
    rcases err with _ | _
    · exact (runs_awaitTxs hwait ts).mono fun _ evs' ⟨hv, h'⟩ => ⟨hv, by rw [issueCalls_append, h, h']; rfl⟩
    · exact runs_pure _ ⟨⟨_, rfl⟩, by simpa using h⟩

/-- The confirm loop issues nothing and returns. -/
theorem runs_confirmLoop (highLevelGenesisClient : RPCWorkFlowRunner) :
    ∀ txIDLists : List (List TxID),
    Runs (Bombard.confirmLoop highLevelGenesisClient txIDLists) fun r evs =>
      (∃ v, r = .ok v) ∧ issueCalls evs = []
  | [] => runs_pure _ ⟨⟨_, rfl⟩, rfl⟩
  | txIDs :: txIDLists => by
    unfold Bombard.confirmLoop
    refine (runs_awaitTxs (runs_waitForXchainTransactionAcceptance highLevelGenesisClient)
      txIDs).bind (fun _ evs ⟨_, h⟩ => (runs_confirmLoop highLevelGenesisClient txIDLists).mono
        fun _ evs' ⟨hv, h'⟩ => ⟨hv, by rw [issueCalls_append, h, h']; rfl⟩)
      (fun _ _ ⟨⟨_, h⟩, _⟩ => nomatch h)

/-! ## The phases of `ExecuteTest` -/

/-- What the calls `pre` show of an account of a bombard run, with `runner`, `addr` and `txs` its
entries of `secondaryClients`, `xChainAddrs` and `txLists`: the balance of `addr` was found to be
the seed amount, and `txs` was built from the first UTXO of the page fetched for `addr` through
the genesis client, with the key exported for `addr` from the runner's user. -/
structure AccountBuilt (lib : BombardLib) (e : BombardExecutor) (genesisClient : Client)
    (pre : List Event) (runner : RPCWorkFlowRunner) (addr : String) (txs : List Bytes) : Prop where
  verified : Replied pre runner.client (.xGetBalance addr avaxAssetID) e.seedAmount
  built : ∃ utxoBytes utxo utxos,
    Replied pre genesisClient (.xGetUTXOs [addr] 10 "" "") utxoBytes ∧
    Bombard.unmarshalUTXOs lib utxoBytes = .ok (utxo :: utxos) ∧
    ChainBuilt lib e.numTxs e.seedAmount e.txFee pre runner.client runner addr utxo txs

/-- What the calls `pre` of a bombard run show once its addresses are funded: the runners wrap
the clients after the genesis client, the address at each index is the one the runner at that
index created, and the submissions are one send of the seed amount from the genesis user to each
address, in order, each seen accepted by a later X-chain status query. -/
structure Funded (e : BombardExecutor) (pre : List Event) (genesisClient : Client)
    (genesisUser : UserPass) (secondaryClients : List RPCWorkFlowRunner)
    (xChainAddrs : List String) : Prop where
  clients : e.normalClients = genesisClient :: secondaryClients.map (·.client)
  addrs_length : xChainAddrs.length = secondaryClients.length
  created : ∀ (i : Nat) (runner : RPCWorkFlowRunner) (addr : String),
    secondaryClients[i]? = some runner → xChainAddrs[i]? = some addr →
    Replied pre runner.client (.xCreateAddress runner.userPass) addr
  funded : submissionCalls pre = xChainAddrs.map fun addr =>
    (genesisClient, .xSend genesisUser e.seedAmount avaxAssetID addr)
  accepted : submissionsAccepted pre = true

theorem Funded.append_quiet {e : BombardExecutor} {pre evs : List Event} {genesisClient : Client}
    {genesisUser : UserPass} {secondaryClients : List RPCWorkFlowRunner}
    {xChainAddrs : List String} (h : Funded e pre genesisClient genesisUser secondaryClients xChainAddrs)
    (hq : Quiet evs) : Funded e (pre ++ evs) genesisClient genesisUser secondaryClients xChainAddrs where
  clients := h.clients
  addrs_length := h.addrs_length
  created i runner addr hr ha := (h.created i runner addr hr ha).mono (List.subset_append_left _ _)
  funded := by rw [submissionCalls_append, hq.submissionCalls, List.append_nil, h.funded]
  accepted := submissionsAccepted_append hq.submissionsAccepted h.accepted

/-- What the calls `pre` of a bombard run show when it starts issuing: its addresses are funded,
and every account's chain was built from what was fetched and exported for its address. -/
structure IssueReady (lib : BombardLib) (e : BombardExecutor) (pre : List Event)
    (genesisClient : Client) (genesisUser : UserPass) (secondaryClients : List RPCWorkFlowRunner)
    (xChainAddrs : List String) (txLists : List (List Bytes))
    extends Funded e pre genesisClient genesisUser secondaryClients xChainAddrs : Prop where
  txLists_length : txLists.length = secondaryClients.length
  accounts : ∀ (i : Nat) (runner : RPCWorkFlowRunner) (addr : String) (txs : List Bytes),
    secondaryClients[i]? = some runner → xChainAddrs[i]? = some addr → txLists[i]? = some txs →
    AccountBuilt lib e genesisClient pre runner addr txs

/-- The calls `evs` of a bombard run with outcome `r` are calls `pre` with no `IssueTx`
followed by calls `post`. Either `post` is empty and the run did not return `nil`, or `pre` is
ready for the issue phase, the `IssueTx` calls of `post` are a prefix of the chains' calls, and
all of them when the run returns `nil`. -/
def IssueOrder (lib : BombardLib) (e : BombardExecutor) (r : Except Panic (Option Err))
    (evs : List Event) : Prop :=
  ∃ pre post, evs = pre ++ post ∧ (∀ ev ∈ pre, ev.call.isIssue = false) ∧
    ((post = [] ∧ r ≠ .ok none) ∨
      ∃ genesisClient genesisUser secondaryClients xChainAddrs txLists,
        IssueReady lib e pre genesisClient genesisUser secondaryClients xChainAddrs txLists ∧
        issueCalls post <+: chainCalls secondaryClients txLists ∧
        (r = .ok none → issueCalls post = chainCalls secondaryClients txLists))

theorem issueOrder_of_no_issue {lib : BombardLib} {e : BombardExecutor}
    {r : Except Panic (Option Err)} {evs : List Event} (h : ∀ ev ∈ evs, ev.call.isIssue = false)
    (hr : r ≠ .ok none) : IssueOrder lib e r evs :=
  ⟨evs, [], (List.append_nil _).symm, h, .inl ⟨rfl, hr⟩⟩

/-- From the verify loop on, a run of `ExecuteTest` whose calls so far show its addresses funded
keeps the issue order, and panics only on an empty UTXO list, on a key that is not a SECP256K1R
key, or with the error of an `IssueTxList`. -/
theorem runs_executeFromVerify {e : BombardExecutor} {lib : BombardLib} {pre : List Event}
    {genesisClient : Client} {genesisUser : UserPass} {secondaryClients : List RPCWorkFlowRunner}
    {xChainAddrs : List String}
    (hf : Funded e pre genesisClient genesisUser secondaryClients xChainAddrs)
    (hno : ∀ ev ∈ pre, ev.call.isIssue = false) (highLevelGenesisClient : RPCWorkFlowRunner) :
    Runs (e.executeFromVerify lib genesisClient highLevelGenesisClient secondaryClients xChainAddrs)
      fun r evs => IssueOrder lib e r (pre ++ evs) ∧ ∀ p, r = .error p →
        p = .indexOutOfRange 0 0 ∨ p = .typeAssertion "*crypto.PrivateKeySECP256K1R" ∨
          ∃ err, p = .err err := by
  unfold BombardExecutor.executeFromVerify
  have haddrs := hf.addrs_length
  have htail : e.normalClients.tail = secondaryClients.map (·.client) := by simp [hf.clients]
  have htailLen : e.normalClients.tail.length = secondaryClients.length := by simp [htail]
  refine (runs_verifyLoop lib genesisClient xChainAddrs e.seedAmount 0 secondaryClients).bind
    (fun v evs₁ ⟨hq₁, _, hv⟩ => ?_)
    (fun _ _ ⟨_, hok, _⟩ => (hok (by omega)).elim fun _ h => nomatch h)
  rcases v with _ | utxoLists
  · exact runs_pure _ ⟨issueOrder_of_no_issue (by
      simpa only [List.append_nil] using List.forall_mem_append.2 ⟨hno, hq₁.not_issue⟩) nofun, nofun⟩
  obtain ⟨hutxosLen, hverified⟩ := hv utxoLists rfl
  refine (runs_buildLoop lib secondaryClients xChainAddrs utxoLists e.numTxs e.seedAmount e.txFee 0
    e.normalClients.tail).bind (fun b evs₂ ⟨hq₂, _, hb⟩ => ?_)
    (fun _ _ ⟨hq₂, hpanic, _⟩ => ⟨issueOrder_of_no_issue (by
      simpa only [List.append_nil] using
        List.forall_mem_append.2 ⟨hno, (quiet_append.2 ⟨hq₁, hq₂⟩).not_issue⟩) nofun,
      fun _ h => by cases h; exact (hpanic (by omega) (by omega) (by omega) _ rfl).imp_right .inl⟩)
  rcases b with _ | ⟨txLists, txIDLists⟩
  · exact runs_pure _ ⟨issueOrder_of_no_issue (by
      simpa only [List.append_nil] using
        List.forall_mem_append.2 ⟨hno, (quiet_append.2 ⟨hq₁, hq₂⟩).not_issue⟩) nofun, nofun⟩
  obtain ⟨hlen, hbuilt⟩ := hb txLists txIDLists rfl
  have htxsLen : txLists.length = secondaryClients.length := by rw [hlen, htailLen]
  have hready : IssueReady lib e (pre ++ evs₁ ++ evs₂) genesisClient genesisUser secondaryClients
      xChainAddrs txLists :=
    { (hf.append_quiet hq₁).append_quiet hq₂ with
      txLists_length := htxsLen
      accounts := fun i runner addr txs hr ha ht => by
        obtain ⟨runner', addr', utxo, utxos, hr', ha', hu, hchain⟩ :=
          hbuilt i runner.client txs (by simp [htail, hr]) ht
        rw [Nat.zero_add, hr, Option.some.injEq] at hr'
        rw [Nat.zero_add, ha, Option.some.injEq] at ha'
        subst hr' ha'
        obtain ⟨addr'', ha'', hbal, utxoBytes, hfetch, hdec⟩ := hverified i runner _ hr (by simpa using hu)
        rw [Nat.zero_add, ha, Option.some.injEq] at ha''
        subst ha''
        exact ⟨hbal.mono (by simp), utxoBytes, utxo, utxos, hfetch.mono (by simp), hdec,
          hchain.mono (by simp)⟩ }
  have hno' : ∀ ev ∈ pre ++ evs₁ ++ evs₂, ev.call.isIssue = false :=
    List.forall_mem_append.2 ⟨List.forall_mem_append.2 ⟨hno, hq₁.not_issue⟩, hq₂.not_issue⟩
  refine runs_clock_bind fun _ => (runs_issueLoop txLists 0 secondaryClients).bind
    (fun u evs₃ ⟨h₃, hfull, _⟩ => runs_clock_bind fun _ => (runs_confirmLoop _ txIDLists).bind
      (fun _ evs₄ ⟨_, h₄⟩ => runs_pure _ ⟨?_, nofun⟩) (fun _ _ ⟨⟨_, h⟩, _⟩ => nomatch h))
    (fun _ evs₃ ⟨h₃, _, hpanic⟩ =>
      ⟨?_, fun _ h => by cases h; exact .inr (.inr (hpanic (by omega) _ rfl))⟩)
  · have hissued : issueCalls (evs₃ ++ (evs₄ ++ [])) = chainCalls secondaryClients txLists := by
      rw [issueCalls_append, hfull u rfl, List.append_nil, h₄, List.append_nil, List.drop_zero]
    exact ⟨pre ++ evs₁ ++ evs₂, evs₃ ++ (evs₄ ++ []), by simp, hno',
      .inr ⟨_, _, _, _, _, hready, hissued ▸ List.prefix_refl _, fun _ => hissued⟩⟩
  · exact ⟨pre ++ evs₁ ++ evs₂, evs₃, by simp, hno',
      .inr ⟨_, _, _, _, _, hready, by simpa using h₃, nofun⟩⟩

/-- Every run of `ExecuteTest` keeps the issue order, and panics only on an empty
`normalClients` or UTXO list, on a key that is not a SECP256K1R key, or with the error of an
`IssueTxList`. -/
theorem runs_executeTest (e : BombardExecutor) (consts : NetworkConstants) (lib : BombardLib) :
    Runs (e.executeTest consts lib) fun r evs => IssueOrder lib e r evs ∧ ∀ p, r = .error p →
      p = .indexOutOfRange 0 0 ∨ p = .typeAssertion "*crypto.PrivateKeySECP256K1R" ∨
        ∃ err, p = .err err := by
  unfold BombardExecutor.executeTest
  refine runs_index_bind (fun genesisClient hg => ?_) fun hle =>
    ⟨issueOrder_of_no_issue (List.forall_mem_nil _) nofun,
      fun _ h => .inl (by rw [← Except.error.inj h, Nat.le_zero.1 hle])⟩
  refine (runs_setupLoop e.acceptanceTimeout 0 e.normalClients.tail).bind
    (fun s evs₁ ⟨hq₁, _, hs, hsetup⟩ => ?_) (fun _ _ ⟨_, _, h, _⟩ => nomatch h)
  cases hs
  rcases s with _ | ⟨secondaryClients, xChainAddrs⟩
  · exact runs_pure _ ⟨issueOrder_of_no_issue (by
    simpa only [List.append_nil, List.nil_append] using hq₁.not_issue) nofun, nofun⟩
  obtain ⟨hclients, haddrs, hcreated⟩ := hsetup _ _ rfl
  refine runs_randomUserPass.bind (fun genesisUser evs₂ ⟨_, hevs₂⟩ => ?_)
    (fun _ _ ⟨⟨_, h⟩, _⟩ => nomatch h)
  subst hevs₂
  refine (runs_importGenesisFunds ⟨genesisClient, genesisUser, e.acceptanceTimeout⟩ consts).bind
    (fun g evs₃ ⟨hq₃, _, hg'⟩ => ?_) (fun _ _ ⟨_, _, h⟩ => nomatch h)
  cases hg'
  have hq : Quiet (evs₁ ++ ([] ++ evs₃)) := by simp [hq₁, hq₃]
  rcases g with ⟨_, _ | _⟩
  swap
  · exact runs_pure _ ⟨issueOrder_of_no_issue (by
    simpa only [List.append_nil, List.nil_append] using hq.not_issue) nofun, nofun⟩
  unfold Client.xListAddresses
  refine runs_call_bind fun a t => ?_
  have hq' : Quiet (evs₁ ++ ([] ++ (evs₃ ++ [⟨genesisClient, .xListAddresses genesisUser, a.1, a.2,
      t⟩]))) := by simp only [quiet_append, quiet_cons, quiet_nil, hq₁, hq₃, and_true, true_and]; rfl
  rcases a with ⟨addrs, _ | _⟩
  swap
  · exact runs_pure _ ⟨issueOrder_of_no_issue (by
    simpa only [List.append_nil, List.nil_append] using hq'.not_issue) nofun, nofun⟩
  dsimp only
  split
  · exact runs_pure _ ⟨issueOrder_of_no_issue (by
    simpa only [List.append_nil, List.nil_append] using hq'.not_issue) nofun, nofun⟩
  refine (runs_fundXChainAddresses _ xChainAddrs e.seedAmount).bind
    (fun f evs₄ ⟨hno₄, _, hf, hfund⟩ => ?_)
    (fun _ _ ⟨_, _, h, _⟩ => nomatch h)
  cases hf
  have hno : ∀ ev ∈ (evs₁ ++ ([] ++ (evs₃ ++ [⟨genesisClient, .xListAddresses genesisUser, addrs,
      none, t⟩]))) ++ evs₄, ev.call.isIssue = false :=
    List.forall_mem_append.2 ⟨hq'.not_issue, hno₄⟩
  rcases f with _ | _
  swap
  · exact runs_pure _ ⟨issueOrder_of_no_issue (by
    simpa only [List.append_nil, List.nil_append, List.append_assoc, List.singleton_append] using hno) nofun, nofun⟩
  obtain ⟨hcalls, hacc⟩ := hfund rfl
  dsimp only
  split
  · exact runs_pure _ ⟨issueOrder_of_no_issue (by
    simpa only [List.append_nil, List.nil_append, List.append_assoc, List.singleton_append] using hno) nofun, nofun⟩
  obtain ⟨_ | ⟨c, cs⟩, hnormal⟩ : ∃ cs, e.normalClients = cs := ⟨_, rfl⟩
  · simp [hnormal] at hg
  rw [hnormal, List.getElem?_cons_zero, Option.some.injEq] at hg
  subst hg
  have hfunded : Funded e (_ ++ evs₄) c genesisUser secondaryClients xChainAddrs :=
    { clients := by rw [hnormal, hclients, hnormal]; rfl
      addrs_length := haddrs
      created := fun i runner addr hr ha => (hcreated i runner addr hr ha).mono (by simp)
      funded := by rw [submissionCalls_append, hq'.submissionCalls, List.nil_append, hcalls]
      accepted := submissionsAccepted_append hacc hq'.submissionsAccepted }
  exact (runs_executeFromVerify hfunded hno _).mono fun _ _ h => ⟨by simpa using h.1, h.2⟩

/-! ## Every run of `ExecuteTest` -/

/-- The library of the concrete runs: every step succeeds, the exported key parses into `key`,
and each account's chain is the one transaction `[7]`, of ID 200. -/
def demoLib (key : Option PrivateKey) : BombardLib where
  createXChainCodec := none
  unmarshal b := (⟨b⟩, none)
  secretKeyPrefix := "PrivateKey-"
  decodeCB58 _ := ([1], none)
  toPrivateKey _ := (key, none)
  createConsecutiveTransactions _ _ _ _ _ := ([[7]], [⟨200⟩], none)

/-- The network constants of the concrete runs. -/
def demoConstants : NetworkConstants := ⟨"key", "X", "P"⟩

/-- A node for one bombard run: every call succeeds at once; every send returns ID 100, which is
accepted, while every other transaction is rejected; each address holds `balance`, and
`GetUTXOs` returns `utxos`. -/
def bombardNode (balance : UInt64) (utxos : List Bytes) : Node where
  answer _ _ c := match c with
    | .xCreateAddress _ => ("X-addr", none)
    | .xListAddresses _ => (["X-genesis"], none)
    | .xSend .. => (TxID.mk 100, none)
    | .xGetTxStatus t => (if t = TxID.mk 100 then XStatus.accepted else XStatus.rejected, none)
    | .xGetBalance .. => (balance, none)
    | .xGetUTXOs .. => (utxos, none)
    | .xExportKey .. => ("PrivateKey-abc", none)
    | .xIssueTx _ => (TxID.mk 200, none)
    | c => (c.defaultReply, none)
  latency _ := 0
  skew _ := 0
  rand := id

/-- In every run of `ExecuteTest`, against every node and from every world, the calls are calls
`pre` among which there is no `IssueTx`, followed by calls `post`. When `post` is not empty, the
calls `pre` show the run ready to issue: each funding send of the seed amount to an address of
`xChainAddrs`, from the genesis client, was seen accepted by an X-chain status query, and for
every account `i` the address `xChainAddrs[i]` is the one `secondaryClients[i]` created, its
balance was checked, and `txLists[i]` was built from the UTXO fetched for it and the key exported
for it from the user of `secondaryClients[i]`. The `IssueTx` calls of `post` are, in order, a prefix of `txLists[0]`
through `secondaryClients[0]`, then `txLists[1]` through `secondaryClients[1]`, and so on. -/
theorem executeTest_issues_funded_chains (e : BombardExecutor) (consts : NetworkConstants)
    (lib : BombardLib) (node : Node) (w : World) :
    ∃ pre post, (run node (e.executeTest consts lib) w).2.trace = w.trace ++ pre ++ post ∧
      (∀ ev ∈ pre, ev.call.isIssue = false) ∧
      (post = [] ∨ ∃ genesisClient genesisUser secondaryClients xChainAddrs txLists,
        IssueReady lib e pre genesisClient genesisUser secondaryClients xChainAddrs txLists ∧
        issueCalls post <+: chainCalls secondaryClients txLists) := by
  obtain ⟨_, htr, ⟨pre, post, rfl, hno, hpost⟩, -⟩ := runs_executeTest e consts lib node w
  exact ⟨pre, post, by rw [htr, List.append_assoc], hno,
    hpost.imp And.left fun ⟨g, u, s, x, t, hready, hprefix, _⟩ => ⟨g, u, s, x, t, hready, hprefix⟩⟩

/-- A run of `ExecuteTest` that returns `nil` has issued every account's chain in full: its calls
are calls `pre`, with no `IssueTx`, that show the run ready to issue as above, followed by calls
`post` whose `IssueTx` calls are exactly `txLists[0]` through `secondaryClients[0]`, then
`txLists[1]` through `secondaryClients[1]`, and so on. -/
theorem executeTest_nil_issues_every_chain (e : BombardExecutor) (consts : NetworkConstants)
    (lib : BombardLib) (node : Node) (w : World)
    (h : (run node (e.executeTest consts lib) w).1 = .ok none) :
    ∃ pre post, (run node (e.executeTest consts lib) w).2.trace = w.trace ++ pre ++ post ∧
      (∀ ev ∈ pre, ev.call.isIssue = false) ∧
      ∃ genesisClient genesisUser secondaryClients xChainAddrs txLists,
        IssueReady lib e pre genesisClient genesisUser secondaryClients xChainAddrs txLists ∧
        issueCalls post = chainCalls secondaryClients txLists := by
  obtain ⟨_, htr, ⟨pre, post, rfl, hno, hpost⟩, -⟩ := runs_executeTest e consts lib node w
  refine ⟨pre, post, by rw [htr, List.append_assoc], hno, ?_⟩
  rcases hpost with ⟨_, hne⟩ | ⟨g, u, s, x, t, hready, _, hfull⟩
  · exact absurd h hne
  · exact ⟨g, u, s, x, t, hready, hfull h⟩

theorem executeTest_nil_issues_demo_chain :
    let e : BombardExecutor := ⟨[⟨0⟩, ⟨1⟩], second, 1, 1⟩
    let lib := demoLib (some ⟨[1]⟩)
    let R := run (bombardNode 2 [[1]]) (e.executeTest demoConstants lib) World.initial
    R.1 = .ok none ∧ ∃ pre post, R.2.trace = World.initial.trace ++ pre ++ post ∧
      (∀ ev ∈ pre, ev.call.isIssue = false) ∧
      ∃ genesisClient genesisUser secondaryClients xChainAddrs txLists,
        IssueReady lib e pre genesisClient genesisUser secondaryClients xChainAddrs txLists ∧
        issueCalls post = chainCalls secondaryClients txLists :=
  ⟨rfl, executeTest_nil_issues_every_chain ⟨[⟨0⟩, ⟨1⟩], second, 1, 1⟩ demoConstants
    (demoLib (some ⟨[1]⟩)) (bombardNode 2 [[1]]) World.initial rfl⟩

/-- With one account and every step succeeding, the node rejects the account's transaction when
it is confirmed, and `ExecuteTest` returns `nil`. -/
theorem executeTest_ignores_rejected_confirmation :
    let e : BombardExecutor := ⟨[⟨0⟩, ⟨1⟩], second, 1, 1⟩
    let R := run (bombardNode 2 [[1]]) (e.executeTest demoConstants (demoLib (some ⟨[1]⟩)))
      World.initial
    (∀ n cl, (bombardNode 2 [[1]]).answer n cl (.xGetTxStatus ⟨200⟩) = (XStatus.rejected, none)) ∧
    (R.2.trace.map (·.call)).getLast? = some (.xGetTxStatus ⟨200⟩) ∧ R.1 = .ok none :=
  ⟨fun _ _ => rfl, rfl, rfl⟩

/-- With a zero fee, an empty UTXO page behind the verified zero balance makes `ExecuteTest`
panic on `utxoLists[0][0]`; with a key the factory turns into a nil interface value, the type
assertion panics. -/
theorem executeTest_panics_on_empty_utxos_or_nil_key :
    (run (bombardNode 0 []) ((⟨[⟨0⟩, ⟨1⟩], second, 1, 0⟩ : BombardExecutor).executeTest
      demoConstants (demoLib (some ⟨[1]⟩))) World.initial).1 = .error (.indexOutOfRange 0 0) ∧
    (run (bombardNode 2 [[1]]) ((⟨[⟨0⟩, ⟨1⟩], second, 1, 1⟩ : BombardExecutor).executeTest
      demoConstants (demoLib none)) World.initial).1 =
      .error (.typeAssertion "*crypto.PrivateKeySECP256K1R") :=
  ⟨rfl, rfl⟩

/-- With `numTxs = 2 ^ 63` and `txFee = 2`, the seed amount wraps to 2, and `ExecuteTest` funds
the account with 2. -/
theorem executeTest_funds_wrapped_seed_amount :
    let e : BombardExecutor := ⟨[⟨0⟩, ⟨1⟩], second, 9223372036854775808, 2⟩
    (e.numTxs.toNat + 1) * e.txFee.toNat = 2 ^ 64 + 2 ∧ e.seedAmount = 2 ∧
    ((run (bombardNode 2 [[1]]) (e.executeTest demoConstants (demoLib (some ⟨[1]⟩)))
      World.initial).2.trace.map (·.call)).contains
      (.xSend ⟨"rand:2", "rand:3"⟩ 2 avaxAssetID "X-addr") :=
  ⟨rfl, rfl, rfl⟩

end AvalancheTesting
