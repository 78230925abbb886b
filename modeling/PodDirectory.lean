import PodDirectory.Main
import PodDirectory.Log.Line
import PodDirectory.Watch.Run
import PodDirectory.Proofs.LastWriter
import PodDirectory.Proofs.Relisting
import PodDirectory.Proofs.TrackerContract
import PodDirectory.Proofs.FirstListings
import PodDirectory.Proofs.MonitorMoves
import PodDirectory.Proofs.InitialSync
import PodDirectory.Proofs.VisitingOrder
import PodDirectory.Proofs.SeparateKinds
import PodDirectory.Proofs.Interleavings
import PodDirectory.Proofs.ListingAttempts
import PodDirectory.Proofs.RunSync
import PodDirectory.Proofs.AfterListing
import PodDirectory.Proofs.FailedAttempts
import PodDirectory.Proofs.LostAddresses
import PodDirectory.Proofs.SliceAccounting
import PodDirectory.Proofs.ListingAgain
import PodDirectory.Proofs.DifferentPods
import PodDirectory.Proofs.LobbyContract
import PodDirectory.Proofs.RunEnds
import PodDirectory.Proofs.SettingsErrors
import PodDirectory.Proofs.Unobservable
import PodDirectory.Proofs.Announcements
import PodDirectory.Proofs.SharedNames
