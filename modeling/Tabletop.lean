import Tabletop.Failure
import Tabletop.Journal
import Tabletop.Main
import Tabletop.Proofs.Additivity
import Tabletop.Proofs.Budget
import Tabletop.Proofs.Canonical
import Tabletop.Proofs.Composition
import Tabletop.Proofs.Conversation
import Tabletop.Proofs.Cut
import Tabletop.Proofs.Faults
import Tabletop.Proofs.Joining
import Tabletop.Proofs.Labels
import Tabletop.Proofs.Range
import Tabletop.Proofs.Reach
import Tabletop.Proofs.Strays
import Tabletop.Proofs.Variants
import Tabletop.Random.Pick
import Tabletop.Roller.Fixed
import Tabletop.Proofs.FairDice
import Tabletop.Proofs.Steady
import Tabletop.Proofs.Interval
import Tabletop.Proofs.Picking
import Tabletop.Proofs.Throws
import Tabletop.Proofs.Pairing
import Tabletop.Proofs.Wording
