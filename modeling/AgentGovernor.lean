import AgentGovernor.Derived.Promotion
import AgentGovernor.Effect.CanonicalPaths
import AgentGovernor.Effect.ProposalState
import AgentGovernor.Engine.Custody
import AgentGovernor.Engine.Postcondition
import AgentGovernor.EventStore.Barrier
import AgentGovernor.EventStore.Folded
import AgentGovernor.EventStore.Resume
import AgentGovernor.Governed.Outstanding
import AgentGovernor.Governed.Probe
import AgentGovernor.Ingress.Results
import AgentGovernor.Issuance.Docket
import AgentGovernor.Kernel.Recomposition
import AgentGovernor.Lifecycle.OneHistory
import AgentGovernor.Operator.Links
import AgentGovernor.Protocol.StrictJson
import AgentGovernor.Provider.Custody
import AgentGovernor.Rpc.ReplayGuard
import AgentGovernor.Session.Custody
import AgentGovernor.Store.ExactWork
import AgentGovernor.Store.Interventions
import AgentGovernor.Store.Reopenable
import AgentGovernor.Store.Writers
import AgentGovernor.Store.Discharge
import AgentGovernor.Governed.Obligations
