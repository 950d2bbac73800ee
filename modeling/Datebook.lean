import Datebook.Main
import Datebook.Program
import Datebook.Proofs.Absence
import Datebook.Proofs.Agreement
import Datebook.Proofs.Attendees
import Datebook.Proofs.Availability
import Datebook.Proofs.Bounds
import Datebook.Proofs.Breakdown
import Datebook.Proofs.Calendar.Printed
import Datebook.Proofs.Event.Listed
import Datebook.Proofs.Failure
import Datebook.Proofs.Line
import Datebook.Proofs.Literal
import Datebook.Proofs.Prose
import Datebook.Proofs.Reading
import Datebook.Proofs.Record
import Datebook.Proofs.Retry
import Datebook.Proofs.Revision
import Datebook.Proofs.Stale
import Datebook.Proofs.Target
import Datebook.Proofs.Time.Acceptance
import Datebook.Proofs.Time.Day
import Datebook.Proofs.Time.Notation
import Datebook.Proofs.Time.Order
import Datebook.Proofs.Vacancy
import Datebook.Proofs.WireFormat
import Datebook.Rehearsal.Service
