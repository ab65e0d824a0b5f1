import LabFunctions.Library.Runs
import LabFunctions.Library.Tables
import LabFunctions.Types
import LabFunctions.Context
import LabFunctions.Database
import LabFunctions.Managers
import LabFunctions.Control
import LabFunctions.WorkflowsCore
import LabFunctions.WorkflowsScheduled
import LabFunctions.WorkflowsIsolation
import LabFunctions.WorkflowsRoundTrip
import LabFunctions.Executions
import LabFunctions.HistoryRows
import LabFunctions.Builder
import LabFunctions.ProjectAgents
import LabFunctions.RuntimeImages
import LabFunctions.HistoryOutputs
import LabFunctions.Authentication
import LabFunctions.RefreshFlow
import LabFunctions.AgentDeploy
import LabFunctions.ClusterRegistry
import LabFunctions.DisabledUsers
import LabFunctions.HistoryDownloads
import LabFunctions.InstanceCreation
import LabFunctions.InstanceDestruction
import LabFunctions.RefreshRaces
import LabFunctions.TaskRuntimes
import LabFunctions.WorkflowHistory
import LabFunctions.EventListening
import LabFunctions.WorkflowFaults
import LabFunctions.WorkflowRaces
import LabFunctions.TokenLifetimes
import LabFunctions.TokenExpiry
import LabFunctions.WebRoutes
import LabFunctions.LabStates
import LabFunctions.EventChannels
import LabFunctions.UploadKeys
import LabFunctions.ProjectRecords
import LabFunctions.ProjectTransactions
import LabFunctions.RuntimeRegistry
import LabFunctions.HistoryQueries
import LabFunctions.Secrets
import LabFunctions.KVStores
import LabFunctions.ResultCache
import LabFunctions.WorkflowsPush
import LabFunctions.ScopeSets
import LabFunctions.RefreshFailures
import LabFunctions.NotebookContexts
import LabFunctions.DockerTasks
import LabFunctions.BuildStreams
import LabFunctions.PasswordChanges
import LabFunctions.Upserts
import LabFunctions.AgentLookups
import LabFunctions.AgentRegisters
import LabFunctions.WorkflowRegistrations
import LabFunctions.ClusterProviders
import LabFunctions.PushReports
import LabFunctions.LabAliases
import LabFunctions.SecretBundles
import LabFunctions.NotebookWorkflows
import LabFunctions.AdminScopes
import LabFunctions.UtcTimes
import LabFunctions.FrozenResults
import LabFunctions.PutStreams
import LabFunctions.Hashes
import LabFunctions.Pages
import LabFunctions.ExecIds
import LabFunctions.Heartbeats
import LabFunctions.AgentRuns
import LabFunctions.IdleAgents
import LabFunctions.AgentQueues
import LabFunctions.HeartbeatGaps
import LabFunctions.Library.Naming
import LabFunctions.Library.Sharing
import LabFunctions.MachineRegisters
import LabFunctions.AgentFleets
import LabFunctions.AgentShutdowns
import LabFunctions.TokenProvenance
import LabFunctions.ClientSessions
import LabFunctions.QueueRouting
import LabFunctions.ProjectLists
import LabFunctions.StartProjects
import LabFunctions.ClusterRaces
import LabFunctions.ProjectIsolation
import LabFunctions.Library.Traces
import LabFunctions.RuntimeBuilds
import LabFunctions.RuntimeDeliveries
