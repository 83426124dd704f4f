import SharedEditing.Feed.Engine
import SharedEditing.Gateway.Sockets
import SharedEditing.Json.Diagnosis
import SharedEditing.Settings.Environment
import SharedEditing.Settings.Record
import SharedEditing.Startup
import SharedEditing.Store.Session
import SharedEditing.Proofs.Registry.Views
import SharedEditing.Proofs.Registry.WellFormed
import SharedEditing.Proofs.Registry.Shift
import SharedEditing.Proofs.Registry.Operations
import SharedEditing.Proofs.Gateway.Journal
import SharedEditing.Proofs.Gateway.Agreement
import SharedEditing.Proofs.Change.Entitlement
import SharedEditing.Proofs.Change.Presentation
import SharedEditing.Proofs.Store.Redaction
import SharedEditing.Proofs.Store.Announcements
import SharedEditing.Proofs.Gateway.Delivery
import SharedEditing.Proofs.Gateway.Seats
import SharedEditing.Proofs.Presence.Roster
import SharedEditing.Proofs.Presence.Snapshots
import SharedEditing.Proofs.Presence.Attendance
import SharedEditing.Proofs.Gateway.Chronicle
import SharedEditing.Proofs.Gateway.Offers
import SharedEditing.Proofs.Gateway.Deferral
import SharedEditing.Proofs.Registry.Absence
import SharedEditing.Proofs.Registry.Families
import SharedEditing.Proofs.Gateway.Families
import SharedEditing.Proofs.Gateway.Invisibility
import SharedEditing.Proofs.Gateway.Logins
import SharedEditing.Proofs.Gateway.Pointers
import SharedEditing.Proofs.Json.Numerals
import SharedEditing.Proofs.Json.Reading
import SharedEditing.Proofs.Json.Members
import SharedEditing.Proofs.Json.FreeForm
import SharedEditing.Proofs.Frame.Buffering
import SharedEditing.Proofs.Gateway.Frames
import SharedEditing.Proofs.Frame.RoundTrip
import SharedEditing.Proofs.Gateway.Departure
import SharedEditing.Proofs.Gateway.Readers
import SharedEditing.Proofs.Feed.Moves
import SharedEditing.Proofs.Feed.Watch
import SharedEditing.Proofs.Feed.Settling
import SharedEditing.Proofs.Feed.Newsroom
import SharedEditing.Proofs.Feed.Course
import SharedEditing.Proofs.Feed.Restarts
import SharedEditing.Proofs.Feed.Shutdown
import SharedEditing.Proofs.Feed.Interleaving
import SharedEditing.Proofs.Feed.Projection
import SharedEditing.Proofs.Feed.Isolation
import SharedEditing.Proofs.Change.Outcomes
import SharedEditing.Proofs.Change.Policies
import SharedEditing.Proofs.Gateway.Kinds
import SharedEditing.Proofs.Gateway.Passing
import SharedEditing.Proofs.Feed.Backoff
import SharedEditing.Proofs.Presence.Farewells
import SharedEditing.Proofs.Presence.Rejoining
import SharedEditing.Proofs.Json.Records
import SharedEditing.Proofs.Session.Resolution
import SharedEditing.Proofs.Gateway.Refusals
import SharedEditing.Proofs.Presence.Editors
import SharedEditing.Proofs.Session.Cookies
import SharedEditing.Proofs.Frame.Spellings
import SharedEditing.Proofs.Gateway.Independence
import SharedEditing.Proofs.Settings.Soundness
import SharedEditing.Proofs.Settings.IdentityUrl
import SharedEditing.Proofs.Http.Origins
