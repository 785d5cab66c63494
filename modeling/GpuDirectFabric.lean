import GpuDirectFabric.RoundTrip
import GpuDirectFabric.FailedRecovery
import GpuDirectFabric.Restart
import GpuDirectFabric.Owners
import GpuDirectFabric.RegistrationIds
import GpuDirectFabric.Revalidation
import GpuDirectFabric.DeadOwners
import GpuDirectFabric.LatestRegistrations
import GpuDirectFabric.OwnedRecords
import GpuDirectFabric.FailedCalls
import GpuDirectFabric.Incarnations
import GpuDirectFabric.Finality
import GpuDirectFabric.Messages
import GpuDirectFabric.Disconnects
import GpuDirectFabric.Approval
import GpuDirectFabric.Withdrawals
import GpuDirectFabric.LiveEvidence
import GpuDirectFabric.AcceptedFiles
import GpuDirectFabric.Corruption
import GpuDirectFabric.Verifications
import GpuDirectFabric.Deregistering
import GpuDirectFabric.CachedRegistrations
import GpuDirectFabric.Labels
import GpuDirectFabric.LiveSources
import GpuDirectFabric.Limits
import GpuDirectFabric.FreshIds
import GpuDirectFabric.Generations
import GpuDirectFabric.Transport
import GpuDirectFabric.WorkerClient
import GpuDirectFabric.WriterBounds
import GpuDirectFabric.RestartFences
import GpuDirectFabric.Explanations
import GpuDirectFabric.Capabilities
import GpuDirectFabric.Queries
import GpuDirectFabric.Replacement
import GpuDirectFabric.PayloadFields
import GpuDirectFabric.Library.Machine
import GpuDirectFabric.Listings
import GpuDirectFabric.Traversal
import GpuDirectFabric.Classification
import GpuDirectFabric.Streams
import GpuDirectFabric.Backends
import GpuDirectFabric.Seeding
import GpuDirectFabric.RegisteredPaths
import GpuDirectFabric.Smoke
import GpuDirectFabric.Sessions
import GpuDirectFabric.Leases
import GpuDirectFabric.Reopening
import GpuDirectFabric.Library.Draws
import GpuDirectFabric.PropertyTest
import GpuDirectFabric.StableRestarts
