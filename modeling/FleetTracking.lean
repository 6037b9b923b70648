import FleetTracking.AcceptedFixes
import FleetTracking.AllOrNothing
import FleetTracking.Api
import FleetTracking.ApiStore
import FleetTracking.AssignmentContract
import FleetTracking.Columns
import FleetTracking.Concurrency.Assignments
import FleetTracking.Concurrency.Calls
import FleetTracking.Concurrency.Creates
import FleetTracking.Concurrency.Fixes
import FleetTracking.Concurrency.History
import FleetTracking.Concurrency.Ingestion
import FleetTracking.Concurrency.Isolation
import FleetTracking.Concurrency.Liveness
import FleetTracking.Config
import FleetTracking.Credentials
import FleetTracking.Deliveries
import FleetTracking.Edits
import FleetTracking.Exceptions
import FleetTracking.Exclusivity
import FleetTracking.FaultIsolation
import FleetTracking.Freshness
import FleetTracking.Guards
import FleetTracking.HistoryFollowing
import FleetTracking.HistoryPaging
import FleetTracking.HistoryWindow
import FleetTracking.Http.Routing
import FleetTracking.Kinematics.Shuttle
import FleetTracking.LatestLocation
import FleetTracking.Models
import FleetTracking.Mqtt.Client
import FleetTracking.Mqtt.Handler
import FleetTracking.Mqtt.Payload
import FleetTracking.Mqtt.Subscriber
import FleetTracking.Mqtt.Topics
import FleetTracking.Noninterference
import FleetTracking.Operations
import FleetTracking.Parsing
import FleetTracking.PartialUpdates
import FleetTracking.Persistence
import FleetTracking.PoisonedReads
import FleetTracking.Privilege
import FleetTracking.Python.Bisect
import FleetTracking.Python.Pydantic
import FleetTracking.Python.Text
import FleetTracking.Python.Values
import FleetTracking.Raising
import FleetTracking.ReadsAgree
import FleetTracking.Redelivery
import FleetTracking.Relational.Footprint
import FleetTracking.Relational.GrowingPages
import FleetTracking.Relational.Locking
import FleetTracking.Relational.Paging
import FleetTracking.Relational.Progress
import FleetTracking.Relational.ReadCommitted
import FleetTracking.Relational.SlidingPages
import FleetTracking.Relational.Table
import FleetTracking.Reseeding
import FleetTracking.Responses
import FleetTracking.Schemas
import FleetTracking.Security
import FleetTracking.Seed
import FleetTracking.Seeding
import FleetTracking.Services.AssignmentTxn
import FleetTracking.Services.Auth
import FleetTracking.Services.CallEffects
import FleetTracking.Services.CallLocks
import FleetTracking.Services.CallTxn
import FleetTracking.Services.CallWrites
import FleetTracking.Services.Constraints
import FleetTracking.Services.FleetAdmin
import FleetTracking.Services.Tracking
import FleetTracking.Sessions
import FleetTracking.Shown
import FleetTracking.Simulator.ArcLength
import FleetTracking.Simulator.Contract
import FleetTracking.Simulator.LiveTrack
import FleetTracking.Simulator.Outages
import FleetTracking.Simulator.PingPong
import FleetTracking.Simulator.Runner
import FleetTracking.Simulator.Walk
import FleetTracking.StatusRule
import FleetTracking.Tokens
