import HealthWatch.Main
import HealthWatch.Proofs.Health.History
import HealthWatch.Proofs.Healthcheck.Annotations
import HealthWatch.Proofs.Healthcheck.Bundle
import HealthWatch.Proofs.Registry.Shutdown
import HealthWatch.Proofs.Registry.Simulation
import HealthWatch.Proofs.Report.Conservation
import HealthWatch.Proofs.Report.Transmission
import HealthWatch.Proofs.Timer.Refinement
import HealthWatch.Proofs.Timer.View
import HealthWatch.Report.Descriptor
import HealthWatch.Proofs.Registry.Separation
import HealthWatch.Proofs.Registry.Handles
import HealthWatch.Proofs.Registry.WindUp
import HealthWatch.Proofs.Registry.Service
import HealthWatch.Proofs.Supervisor.Agreement
import HealthWatch.Proofs.CommandLine.Exactness
import HealthWatch.Proofs.CommandLine.ProbeLine
import HealthWatch.Proofs.Supervisor.Probing
import HealthWatch.Proofs.Probe.Draining
import HealthWatch.Proofs.Health.Lenience
import HealthWatch.Proofs.Probe.Terminations
import HealthWatch.Proofs.Probe.Flooding
import HealthWatch.Proofs.Supervisor.Validation
import HealthWatch.Proofs.Probe.Arguments
import HealthWatch.Proofs.Registry.Admission
import HealthWatch.Proofs.Timer.LastCheck
import HealthWatch.Proofs.Health.Convergence
import HealthWatch.Proofs.Healthcheck.Positional
import HealthWatch.Proofs.Settings.Loading
import HealthWatch.Proofs.Supervisor.Sources
import HealthWatch.Proofs.Healthcheck.Listing
import HealthWatch.Proofs.Probe.Capturing
import HealthWatch.Proofs.Report.Reception
import HealthWatch.Proofs.Timer.Announcement
