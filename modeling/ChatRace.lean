import ChatRace.Attempt.Pool
import ChatRace.Gateway.Setup
import ChatRace.Main
import ChatRace.Proofs.Attempt.Alone
import ChatRace.Proofs.Attempt.Cancellation
import ChatRace.Proofs.Attempt.FirstUnit
import ChatRace.Proofs.Attempt.Pool
import ChatRace.Proofs.Backend.Greeting
import ChatRace.Proofs.Backend.Registrations
import ChatRace.Proofs.Chat.Candidates
import ChatRace.Proofs.Config.Backends
import ChatRace.Proofs.Config.Environment
import ChatRace.Proofs.Gateway.Attempts
import ChatRace.Proofs.Gateway.Attribution
import ChatRace.Proofs.Gateway.Calls
import ChatRace.Proofs.Gateway.Conservation
import ChatRace.Proofs.Gateway.Departure
import ChatRace.Proofs.Gateway.Directory
import ChatRace.Proofs.Gateway.Ending
import ChatRace.Proofs.Gateway.Forwarding
import ChatRace.Proofs.Gateway.FrontDoor
import ChatRace.Proofs.Gateway.Handover
import ChatRace.Proofs.Gateway.History
import ChatRace.Proofs.Gateway.Independence
import ChatRace.Proofs.Gateway.Interruption
import ChatRace.Proofs.Gateway.Laziness
import ChatRace.Proofs.Gateway.RoundTrip
import ChatRace.Proofs.Gateway.Server
import ChatRace.Proofs.Gateway.Session
import ChatRace.Proofs.Gateway.StreamedAnswer
import ChatRace.Proofs.Gateway.Timing
import ChatRace.Proofs.Gateway.WholeAnswer
import ChatRace.Proofs.Gateway.Winner
import ChatRace.Proofs.Http.Settings
import ChatRace.Proofs.Metrics.Account
import ChatRace.Proofs.Provider.Framing
import ChatRace.Proofs.Provider.Lines
import ChatRace.Proofs.Provider.Remarks
import ChatRace.Proofs.Provider.Silence
import ChatRace.Proofs.Race.Connections
import ChatRace.Proofs.Race.Coordinator
import ChatRace.Proofs.Race.Course
import ChatRace.Proofs.Race.Decision
import ChatRace.Proofs.Race.Forecast
import ChatRace.Proofs.Race.Later
import ChatRace.Proofs.Race.Modes
import ChatRace.Proofs.Race.Reports
import ChatRace.Proofs.Race.Result
import ChatRace.Proofs.Relay.Clock
import ChatRace.Proofs.Relay.Grammar
import ChatRace.Proofs.Relay.Lines
import ChatRace.Proofs.Relay.Receipts
import ChatRace.Proofs.Relay.Record
import ChatRace.Proofs.Turn
import ChatRace.Proofs.Json.BoundedReading
import ChatRace.Proofs.Chat.Contents
import ChatRace.Proofs.Chat.Usage
import ChatRace.Proofs.Gateway.Admission
import ChatRace.Proofs.Gateway.Estimates
