import SensorLink.Bench.Ingestion
import SensorLink.Bench.Interface
import SensorLink.Bench.Session
import SensorLink.Bluetooth.BusError
import SensorLink.Exposition
import SensorLink.Guard
import SensorLink.Link.Seconds
import SensorLink.Main
import SensorLink.Proofs.Bench.Operations
import SensorLink.Proofs.CommandLine.Giving
import SensorLink.Proofs.Connection.Generations
import SensorLink.Proofs.Connection.Sessions
import SensorLink.Proofs.Device.Acceptance
import SensorLink.Proofs.Device.Precedence
import SensorLink.Proofs.Exposition.Interleaving
import SensorLink.Proofs.Exposition.Rendering
import SensorLink.Proofs.Gatt.Indexes
import SensorLink.Proofs.Gatt.Selection
import SensorLink.Proofs.Ingestion.Agreement
import SensorLink.Proofs.Ingestion.Discipline
import SensorLink.Proofs.Ingestion.Complaints
import SensorLink.Proofs.Interface.Cycle
import SensorLink.Proofs.Publication.Broadcast
import SensorLink.Proofs.Retry.Bounds
import SensorLink.Proofs.Sensor.Encoding
import SensorLink.Proofs.Store.History
import SensorLink.Proofs.Supervisor.Attending
import SensorLink.Proofs.Supervisor.Coherence
import SensorLink.Proofs.Supervisor.Discovery
import SensorLink.Proofs.Supervisor.Freshness
import SensorLink.Proofs.Supervisor.Isolation
import SensorLink.Proofs.Supervisor.Pacing
import SensorLink.Proofs.Supervisor.Release
import SensorLink.Proofs.Supervisor.Retry
import SensorLink.Proofs.Supervisor.Verbosity
import SensorLink.Publication
import SensorLink.Reactor
