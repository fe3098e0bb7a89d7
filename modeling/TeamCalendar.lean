import TeamCalendar.Http.Target
import TeamCalendar.Main
import TeamCalendar.Outage
import TeamCalendar.Proofs.AllOrNothing
import TeamCalendar.Proofs.Amendment.Sequence
import TeamCalendar.Proofs.Authorization
import TeamCalendar.Proofs.CommitDiscipline
import TeamCalendar.Proofs.Delivery.Topic
import TeamCalendar.Proofs.Directory.Replies
import TeamCalendar.Proofs.Directory.Visits
import TeamCalendar.Proofs.Enrichment
import TeamCalendar.Proofs.Forms
import TeamCalendar.Proofs.History
import TeamCalendar.Proofs.Http.BodyLimit
import TeamCalendar.Proofs.Http.RefusalOrder
import TeamCalendar.Proofs.Http.Token
import TeamCalendar.Proofs.Listing
import TeamCalendar.Proofs.OwnResponse
import TeamCalendar.Proofs.Run.Accounts
import TeamCalendar.Proofs.Run.Announcements
import TeamCalendar.Proofs.Separation.Noninterference
import TeamCalendar.Proofs.Store.Refinement
import TeamCalendar.Proofs.Traffic.Serializability
import TeamCalendar.Rehearsal
import TeamCalendar.Standalone
import TeamCalendar.Startup
import TeamCalendar.Proofs.Normalization
import TeamCalendar.Proofs.Sql.Reading
import TeamCalendar.Proofs.Instant.Micros
import TeamCalendar.Proofs.Sql.Attendance
import TeamCalendar.Proofs.Sql.Insertion
import TeamCalendar.Proofs.Sql.Revision
import TeamCalendar.Proofs.Role
import TeamCalendar.Proofs.Settings.Roles
import TeamCalendar.Proofs.Sql.Status
import TeamCalendar.Proofs.Settings.Override
import TeamCalendar.Proofs.Identifier.Readers
