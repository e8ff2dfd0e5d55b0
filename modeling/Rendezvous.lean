import Rendezvous.Text.Character
import Rendezvous.Text.Quoted
import Rendezvous.Decimal
import Rendezvous.Numeral
import Rendezvous.Json.Reader
import Rendezvous.Json.Printer
import Rendezvous.Replay.StoreBench
import Rendezvous.Replay.Session
import Rendezvous.Replay.SweeperBench
import Rendezvous.EnvFile
import Rendezvous.Launch.Matchmaking
import Rendezvous.Launch.EchoEndpoint
import Rendezvous.Replay.Sources
import Rendezvous.Main
import Rendezvous.Proofs.Matching
import Rendezvous.Proofs.Freshness
import Rendezvous.Proofs.Staleness
import Rendezvous.Proofs.Bindings
import Rendezvous.Proofs.Membership
import Rendezvous.Proofs.Independence
import Rendezvous.Proofs.Messages
import Rendezvous.Proofs.Notifications
import Rendezvous.Proofs.Partners
import Rendezvous.Proofs.Survivor
import Rendezvous.Proofs.Retirement
import Rendezvous.Proofs.Provisional
import Rendezvous.Proofs.Retransmission
import Rendezvous.Proofs.Couples
import Rendezvous.Proofs.Truncation
import Rendezvous.Proofs.SendFailures
import Rendezvous.Proofs.Restart
import Rendezvous.Proofs.Json.RoundTrip
import Rendezvous.Proofs.Wire
import Rendezvous.Proofs.Delivery
import Rendezvous.Proofs.Shutdown
import Rendezvous.Proofs.Ports
import Rendezvous.Proofs.Handling
import Rendezvous.Proofs.Expiry
import Rendezvous.Proofs.EnvFile.Merge
import Rendezvous.Proofs.EnvFile.Quoted
import Rendezvous.Proofs.Numerals
import Rendezvous.Proofs.Reals
import Rendezvous.Proofs.Threads
import Rendezvous.Proofs.Logging
import Rendezvous.Proofs.Echo
