import Walkthrough.Config.Sources
import Walkthrough.Guide.Setup
import Walkthrough.Json.Writer
import Walkthrough.Rehearsal.Browser
import Walkthrough.Rehearsal.Connection
import Walkthrough.Rehearsal.Desk
import Walkthrough.Rehearsal.Intervention
import Walkthrough.Proofs.Asking
import Walkthrough.Proofs.Moves
import Walkthrough.Proofs.Course
import Walkthrough.Proofs.Running
import Walkthrough.Proofs.Attempts
import Walkthrough.Proofs.Choreography
import Walkthrough.Proofs.Commitments
import Walkthrough.Proofs.Rendering
import Walkthrough.Proofs.Markers
import Walkthrough.Proofs.Gates
import Walkthrough.Proofs.Escapes
import Walkthrough.Proofs.Confinement
import Walkthrough.Proofs.Reports
import Walkthrough.Proofs.Settling
import Walkthrough.Proofs.Tours
import Walkthrough.Proofs.Publishing
import Walkthrough.Proofs.Inspection
import Walkthrough.Proofs.Meeting
import Walkthrough.Proofs.Composing
import Walkthrough.Proofs.Activity
import Walkthrough.Proofs.Contracts
import Walkthrough.Proofs.Presses
import Walkthrough.Proofs.Custody
import Walkthrough.Proofs.Previews
import Walkthrough.Proofs.Evidence
import Walkthrough.Proofs.Itinerary
import Walkthrough.Proofs.Chronicle
import Walkthrough.Proofs.Logbook
import Walkthrough.Proofs.Overtaking
import Walkthrough.Proofs.Having
import Walkthrough.Proofs.Filtering
import Walkthrough.Proofs.Assessing
import Walkthrough.Proofs.Identities
import Walkthrough.Proofs.Layers
import Walkthrough.Proofs.Containing
import Walkthrough.Proofs.Freshness
import Walkthrough.Proofs.Incidents
import Walkthrough.Proofs.Scoping
import Walkthrough.Proofs.Sifting
import Walkthrough.Proofs.Indexing
import Walkthrough.Proofs.Baseless
import Walkthrough.Proofs.Casing
import Walkthrough.Proofs.Surfacing
import Walkthrough.Proofs.Pursuit
import Walkthrough.Proofs.Verbatim
import Walkthrough.Proofs.Enclosing
import Walkthrough.Proofs.Hearing
import Walkthrough.Proofs.Versions
import Walkthrough.Proofs.Ranks
import Walkthrough.Proofs.Grouping
import Walkthrough.Proofs.Entrances
import Walkthrough.Proofs.Splicing
import Walkthrough.Proofs.Recalling
import Walkthrough.Proofs.Spacing
import Walkthrough.Proofs.Connecting
import Walkthrough.Proofs.Probing
import Walkthrough.Proofs.Handles
