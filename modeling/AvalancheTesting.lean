import AvalancheTesting.Rpc.Api
import AvalancheTesting.Rpc.Prog
import AvalancheTesting.Rpc.Client
import AvalancheTesting.Go.Strings
import AvalancheTesting.Helpers.Poller
import AvalancheTesting.Helpers.WorkFlowRunner
import AvalancheTesting.Bombard.Executor
import AvalancheTesting.Services.StartCommand
import AvalancheTesting.Services.InitializerCore
import AvalancheTesting.TestSuite.GetUTXOs
import AvalancheTesting.Proofs.PollerProofs
import AvalancheTesting.Proofs.PollerLawProofs
import AvalancheTesting.Proofs.RunProofs
import AvalancheTesting.Proofs.MonitorProofs
import AvalancheTesting.Proofs.GatingProofs
import AvalancheTesting.Proofs.FailEagerProofs
import AvalancheTesting.Proofs.StartCommandProofs
import AvalancheTesting.Proofs.InitializerCoreProofs
import AvalancheTesting.Proofs.TraceProofs
import AvalancheTesting.Proofs.AwaitProofs
import AvalancheTesting.Proofs.SendBackAndForthProofs
import AvalancheTesting.Proofs.GetUTXOsProofs
import AvalancheTesting.Proofs.IssueOrderProofs
import AvalancheTesting.Proofs.StakingProofs
import AvalancheTesting.Proofs.StartValidatingProofs
import AvalancheTesting.Proofs.LatencyProofs
