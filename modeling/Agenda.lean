import Agenda.Proofs.Deletion.Correspondence
import Agenda.Proofs.Deletion.Dropping
import Agenda.Proofs.Deletion.Emptying
import Agenda.Proofs.Deletion.Freezing
import Agenda.Proofs.Deletion.Lapsing
import Agenda.Proofs.Heap.Mending
import Agenda.Proofs.Heap.Priority
import Agenda.Proofs.Isolation.Isolation
import Agenda.Proofs.Ledger.Balancing
import Agenda.Proofs.Ledger.Issuing
import Agenda.Proofs.Ledger.Prolonging
import Agenda.Proofs.Plan.Refinement
import Agenda.Proofs.Rejection.Rejection
import Agenda.Proofs.Scheduler.Ordering
import Agenda.Proofs.Scheduler.Selecting
import Agenda.Proofs.Scheduler.Tying
import Agenda.Proofs.Session.Logging
import Agenda.Proofs.Shelf.Refinement
import Agenda.Proofs.System.Draining
import Agenda.Proofs.System.Standing
import Agenda.Proofs.System.Stopping
import Agenda.Proofs.System.Wakeups
