import RadioScan.Agenda.Rehearsal
import RadioScan.Bench.Mailroom
import RadioScan.Bench.Service
import RadioScan.Clock
import RadioScan.Config.File
import RadioScan.Coordinator
import RadioScan.Proofs.Admission
import RadioScan.Proofs.Announcement
import RadioScan.Proofs.CanonicalOrder
import RadioScan.Proofs.Delivery
import RadioScan.Proofs.Elements
import RadioScan.Proofs.Errands
import RadioScan.Proofs.Findings
import RadioScan.Proofs.Gathering
import RadioScan.Proofs.Independence
import RadioScan.Proofs.Layout
import RadioScan.Proofs.Limits
import RadioScan.Proofs.Mailboxes
import RadioScan.Proofs.Orders
import RadioScan.Proofs.Rehearsals
import RadioScan.Proofs.Renewal
import RadioScan.Proofs.Rounds
import RadioScan.Proofs.Selection
import RadioScan.Proofs.Tasks
import RadioScan.Proofs.Workbench
