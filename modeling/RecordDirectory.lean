import RecordDirectory.Json.Printer
import RecordDirectory.Json.Reader
import RecordDirectory.Proofs.Session.Conformance
import RecordDirectory.Proofs.Session.Frames
import RecordDirectory.Proofs.Session.Identities
import RecordDirectory.Proofs.Session.Pages
import RecordDirectory.Proofs.Session.Refusals
import RecordDirectory.Proofs.Session.Resubmission
import RecordDirectory.Proofs.Session.Rollback
import RecordDirectory.Proofs.Session.Separation
import RecordDirectory.Proofs.Session.Tallies
import RecordDirectory.Proofs.Session.Traceless
import RecordDirectory.Proofs.Sql.Discipline
import RecordDirectory.Proofs.Sql.Refinement
import RecordDirectory.Proofs.Sql.Texts
import RecordDirectory.Proofs.Stored.RoundTrip
import RecordDirectory.Proofs.Typing.Overflow
import RecordDirectory.Proofs.Typing.Plain
import RecordDirectory.Settings.Document
import RecordDirectory.Sql.Script
import RecordDirectory.Wire.Settings
import RecordDirectory.Proofs.Directory.FirstFault
import RecordDirectory.Proofs.Store.FieldByField
import RecordDirectory.Proofs.Predicate.Search
import RecordDirectory.Proofs.Session.Search
import RecordDirectory.Proofs.Store.Targets
import RecordDirectory.Proofs.Typing.Fieldwise
import RecordDirectory.Proofs.Typing.WholeNumbers
import RecordDirectory.Proofs.Session.Independence
import RecordDirectory.Proofs.Page.Exact
import RecordDirectory.Proofs.Predicate.Conjunction
import RecordDirectory.Proofs.Settings.Windows
