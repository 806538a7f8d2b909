import AvalancheTesting.Proofs.IssueOrderProofs

/-!
# Proofs: what `ImportGenesisFundsAndStartValidating` did when it returns an address

`ImportGenesisFundsAndStartValidating` gets the node's ID, takes control of the genesis funds,
creates a P-chain address, moves `seedAmount` from the X chain to that address, and adds the node
as a validator rewarded at that address. When it returns an address without error, the calls of
the run show each of these steps with the values the next step used: the address returned is the
reply of the P-chain `CreateAddress`, the export and the import moved the funds to it, the
export seen accepted by the X chain and the import committed by the P chain, and the validator
added is the node ID that `GetNodeID` replied, with that address as reward address, in a
transaction seen committed by the P chain
(`importGenesisFundsAndStartValidating_stakes_funded_address`).
-/

namespace AvalancheTesting

open Prog

/-- A call among `evs` saw transaction `s.2` accepted by ledger `s.1`: `Accepted` on the X chain,
`Committed` on the P chain. -/
def SeenAccepted (evs : List Event) (s : Chain × TxID) : Prop :=
  ∃ ev ∈ evs, ev.observesAccepted s = true

theorem SeenAccepted.mono {evs evs' : List Event} {s : Chain × TxID} (h : SeenAccepted evs s)
    (hsub : evs ⊆ evs') : SeenAccepted evs' s :=
  let ⟨ev, hev, hseen⟩ := h
  ⟨ev, hsub hev, hseen⟩

/-- A query of the P-chain poller that returned `Committed` without error sees its ID
committed by the P chain. -/
theorem queryEvent_observesCommitted {cl : Client} {t : TxID} {q : PStatus × Option Err × Nat}
    (ha : (q.1 == .committed) = true) (hn : q.2.1 = none) :
    (queryEvent cl (.pGetTxStatus t) q).observesAccepted (.p, t) = true := by
  simpa [Event.observesAccepted, queryEvent, Call.observesAccepted, hn] using ha

/-- What the calls `evs` of a run of `ImportGenesisFundsAndStartValidating` show when it returns
`addr`: `GetNodeID` replied `nodeID`, the P-chain `CreateAddress` replied `addr`, the export of
`seedAmount` to `addr` was replied and seen accepted by the X chain, the import to `addr` was
replied and seen committed by the P chain, and `nodeID` was added as a validator of
`stakeAmount` rewarded at `addr`, in a transaction seen committed by the P chain. -/
structure StartedValidating (runner : RPCWorkFlowRunner) (consts : NetworkConstants)
    (seedAmount stakeAmount : UInt64) (evs : List Event) (nodeID addr : String) : Prop where
  nodeID_replied : Replied evs runner.client .infoGetNodeID nodeID
  address_created : Replied evs runner.client (.pCreateAddress runner.userPass) addr
  exported : ∃ exportID, Replied evs runner.client (.xExportAVAX runner.userPass seedAmount addr)
    exportID ∧ SeenAccepted evs (.x, exportID)
  imported : ∃ importID, Replied evs runner.client
    (.pImportAVAX runner.userPass addr consts.xChainID) importID ∧ SeenAccepted evs (.p, importID)
  validating : ∃ startTime endTime validatorID, Replied evs runner.client
    (.pAddValidator runner.userPass addr nodeID stakeAmount startTime endTime
      defaultDelegationFeeRate) validatorID ∧ SeenAccepted evs (.p, validatorID)

namespace RPCWorkFlowRunner

variable (runner : RPCWorkFlowRunner) (consts : NetworkConstants)

/-- The X-chain poller returns; when it returns `nil`, one of its queries saw the transaction
accepted by the X chain. -/
theorem runs_waitForXchainTransactionAcceptance_seen (txID : TxID) :
    Runs (runner.waitForXchainTransactionAcceptance txID) fun r evs =>
      ∃ v, r = .ok v ∧ (v = none → SeenAccepted evs (.x, txID)) :=
  (runs_of_pollerRun (waitForXchainTransactionAcceptance_pollerRun · runner txID ·)).mono
    fun _ _ ⟨_, v, hv, hevs, hacc⟩ => ⟨v, hv, fun hn =>
      let ⟨_, hq, ha, hn'⟩ := hacc hn
      ⟨_, hevs ▸ List.mem_map_of_mem _ hq, queryEvent_observesAccepted ha hn'⟩⟩

/-- The P-chain poller returns; when it returns `nil`, one of its queries saw the transaction
committed by the P chain. -/
theorem runs_waitForPChainTransactionAcceptance_seen (txID : TxID) :
    Runs (runner.waitForPChainTransactionAcceptance txID) fun r evs =>
      ∃ v, r = .ok v ∧ (v = none → SeenAccepted evs (.p, txID)) :=
  (runs_of_pollerRun (waitForPChainTransactionAcceptance_pollerRun · runner txID ·)).mono
    fun _ _ ⟨_, v, hv, hevs, hacc⟩ => ⟨v, hv, fun hn =>
      let ⟨_, hq, ha, hn'⟩ := hacc hn
      ⟨_, hevs ▸ List.mem_map_of_mem _ hq, queryEvent_observesCommitted ha hn'⟩⟩

/-- `TransferAvaXChainToPChain` returns; when it returns `nil`, its export of `amount` to
`pChainAddress` and its import to `pChainAddress` were each replied without error, and seen
accepted by the X chain and committed by the P chain. -/
theorem runs_transferAvaXChainToPChain (pChainAddress : String) (amount : UInt64) :
    Runs (runner.transferAvaXChainToPChain consts pChainAddress amount) fun r evs =>
      ∃ v, r = .ok v ∧ (v = none →
        (∃ exportID, Replied evs runner.client (.xExportAVAX runner.userPass amount pChainAddress)
          exportID ∧ SeenAccepted evs (.x, exportID)) ∧
        ∃ importID, Replied evs runner.client
          (.pImportAVAX runner.userPass pChainAddress consts.xChainID) importID ∧
          SeenAccepted evs (.p, importID)) := by
  unfold transferAvaXChainToPChain Client.xExportAVAX Client.pImportAVAX
  refine runs_call_bind fun r t => ?_
  rcases r with ⟨exportID, _ | _⟩
  · refine (runner.runs_waitForXchainTransactionAcceptance_seen exportID).bind
      (fun err evs ⟨_, hv, hexport⟩ => ?_) (fun _ _ ⟨_, h, _⟩ => nomatch h)
    cases hv
    rcases err with _ | _
    · refine runs_call_bind fun i t' => ?_
      rcases i with ⟨importID, _ | _⟩
      · refine (runner.runs_waitForPChainTransactionAcceptance_seen importID).bind
          (fun err evs' ⟨_, hv, himport⟩ => ?_) (fun _ _ ⟨_, h, _⟩ => nomatch h)
        cases hv
        rcases err with _ | _
        · exact runs_pure _ ⟨_, rfl, fun _ => ⟨⟨exportID, ⟨t, by simp⟩,
            (hexport rfl).mono (by simp)⟩, importID, ⟨t', by simp⟩, (himport rfl).mono fun _ h => by simp [h]⟩⟩
        · exact runs_pure _ ⟨_, rfl, nofun⟩
      · exact runs_pure _ ⟨_, rfl, nofun⟩
    · exact runs_pure _ ⟨_, rfl, nofun⟩
  · exact runs_pure _ ⟨_, rfl, nofun⟩

/-- `AddValidatorToPrimaryNetwork` returns; when it returns `nil`, its `AddValidator` of `nodeID`
with reward address `pchainAddress` was replied without error and seen committed by the P
chain. -/
theorem runs_addValidatorToPrimaryNetwork (nodeID pchainAddress : String) (stakeAmount : UInt64) :
    Runs (runner.addValidatorToPrimaryNetwork nodeID pchainAddress stakeAmount) fun r evs =>
      ∃ v, r = .ok v ∧ (v = none → ∃ startTime endTime validatorID,
        Replied evs runner.client (.pAddValidator runner.userPass pchainAddress nodeID stakeAmount
          startTime endTime defaultDelegationFeeRate) validatorID ∧
        SeenAccepted evs (.p, validatorID)) := by
  unfold addValidatorToPrimaryNetwork addStaker Client.pAddValidator
  refine runs_clock_bind fun _ => runs_call_bind fun r t => ?_
  rcases r with ⟨validatorID, _ | _⟩
  · refine (runner.runs_waitForPChainTransactionAcceptance_seen validatorID).bind
      (fun err evs ⟨_, hv, hseen⟩ => ?_) (fun _ _ ⟨_, h, _⟩ => nomatch h)
    cases hv
    rcases err with _ | _
    · exact runs_clock_bind fun _ => runs_sleepFor_bind <| runs_pure _
        ⟨_, rfl, fun _ => ⟨_, _, validatorID, ⟨t, by simp⟩, (hseen rfl).mono (by simp)⟩⟩
    · exact runs_pure _ ⟨_, rfl, nofun⟩
  · exact runs_pure _ ⟨_, rfl, nofun⟩

/-- `ImportGenesisFundsAndStartValidating` returns; when it returns an address without error, its
calls show the node started validating with that address. -/
theorem runs_importGenesisFundsAndStartValidating (seedAmount stakeAmount : UInt64) :
    Runs (runner.importGenesisFundsAndStartValidating consts seedAmount stakeAmount)
      fun r evs => ∀ addr, r = .ok (addr, none) → ∃ nodeID,
        StartedValidating runner consts seedAmount stakeAmount evs nodeID addr := by
  unfold importGenesisFundsAndStartValidating Client.infoGetNodeID Client.pCreateAddress
  refine runs_call_bind fun n t => ?_
  rcases n with ⟨nodeID, _ | _⟩
  swap
  · exact runs_pure _ fun _ h => by cases h
  refine (runs_importGenesisFunds runner consts).bind (fun g evs₁ ⟨_, _, hg⟩ => ?_)
    (fun _ _ ⟨_, _, h⟩ => nomatch h)
  cases hg
  rcases g with ⟨_, _ | _⟩
  swap
  · exact runs_pure _ fun _ h => by cases h
  refine runs_call_bind fun p t' => ?_
  rcases p with ⟨addr, _ | _⟩
  swap
  · exact runs_pure _ fun _ h => by cases h
  refine (runner.runs_transferAvaXChainToPChain consts addr seedAmount).bind
    (fun err evs₂ ⟨_, hv, htransfer⟩ => ?_) (fun _ _ ⟨_, h, _⟩ => nomatch h)
  cases hv
  rcases err with _ | _
  swap
  · exact runs_pure _ fun _ h => by cases h
  refine (runner.runs_addValidatorToPrimaryNetwork nodeID addr stakeAmount).bind
    (fun err evs₃ ⟨_, hv, hvalidator⟩ => ?_) (fun _ _ ⟨_, h, _⟩ => nomatch h)
  cases hv
  rcases err with _ | _
  swap
  · exact runs_pure _ fun _ h => by cases h
  refine runs_pure _ fun _ h => ?_
  cases h
  obtain ⟨⟨exportID, hexport, hexportSeen⟩, importID, himport, himportSeen⟩ := htransfer rfl
  obtain ⟨startTime, endTime, validatorID, hvalidator, hvalidatorSeen⟩ := hvalidator rfl
  refine ⟨nodeID, ⟨t, by simp⟩, ⟨t', by simp⟩,
    ⟨exportID, hexport.mono ?_, hexportSeen.mono ?_⟩, ⟨importID, himport.mono ?_, himportSeen.mono ?_⟩,
    ⟨startTime, endTime, validatorID, hvalidator.mono ?_, hvalidatorSeen.mono ?_⟩⟩ <;>
    exact fun _ h => by simp [h]

/-- When `ImportGenesisFundsAndStartValidating` returns an address without error, the calls of the
run show that the address is the one the P-chain `CreateAddress` replied, that `seedAmount` was
exported to it on the X chain, in a transaction seen accepted by the X chain, and imported to it
on the P chain, in a transaction seen committed by the P chain, and that the node ID `GetNodeID`
replied was added as a validator of `stakeAmount` rewarded at the address, in a transaction seen
committed by the P chain. -/
theorem importGenesisFundsAndStartValidating_stakes_funded_address (seedAmount stakeAmount : UInt64)
    (node : Node) (w : World) (addr : String)
    (h : (run node (runner.importGenesisFundsAndStartValidating consts seedAmount stakeAmount)
      w).1 = .ok (addr, none)) :
    ∃ evs nodeID, (run node (runner.importGenesisFundsAndStartValidating consts seedAmount
        stakeAmount) w).2.trace = w.trace ++ evs ∧
      StartedValidating runner consts seedAmount stakeAmount evs nodeID addr :=
  let ⟨evs, htr, hstarted⟩ := runner.runs_importGenesisFundsAndStartValidating consts seedAmount
    stakeAmount node w
  let ⟨nodeID, hnode⟩ := hstarted addr h
  ⟨evs, nodeID, htr, hnode⟩

end RPCWorkFlowRunner

/-- A node on which every call succeeds and every transaction is accepted; `GetNodeID` replies
`NodeID-1` and the P-chain `CreateAddress` replies `P-addr`. -/
def stakingNode : Node where
  answer _ _ c := match c with
    | .infoGetNodeID => ("NodeID-1", none)
    | .pCreateAddress _ => ("P-addr", none)
    | .xGetTxStatus _ => (XStatus.accepted, none)
    | .pGetTxStatus _ => (PStatus.committed, none)
    | c => (c.defaultReply, none)
  latency _ := 0
  skew _ := 0
  rand := id

theorem importGenesisFundsAndStartValidating_on_stakingNode :
    let runner : RPCWorkFlowRunner := ⟨⟨0⟩, ⟨"staker", "pass"⟩, second⟩
    let R := run stakingNode (runner.importGenesisFundsAndStartValidating demoConstants 2 1)
      World.initial
    R.1 = .ok ("P-addr", none) ∧ ∃ evs nodeID, R.2.trace = World.initial.trace ++ evs ∧
      StartedValidating runner demoConstants 2 1 evs nodeID "P-addr" :=
  ⟨rfl, RPCWorkFlowRunner.importGenesisFundsAndStartValidating_stakes_funded_address
    ⟨⟨0⟩, ⟨"staker", "pass"⟩, second⟩ demoConstants 2 1 stakingNode World.initial "P-addr" rfl⟩

end AvalancheTesting
