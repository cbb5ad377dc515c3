import QueryStream.Described
import QueryStream.Loop.Handled
import QueryStream.Scenario.Play
import QueryStream.Vocabulary.Draft
import QueryStream.Proofs.Run
import QueryStream.Proofs.Stream.Steps
import QueryStream.Proofs.Engine.Agenda
import QueryStream.Proofs.Engine.Frames
import QueryStream.Proofs.Cursor.Steps
import QueryStream.Proofs.Engine.Evolution
import QueryStream.Proofs.Engine.Turns
import QueryStream.Proofs.Consumers
import QueryStream.Proofs.Requests.Ledger
import QueryStream.Proofs.Requests.Outcome
import QueryStream.Proofs.Requests.Waiters
import QueryStream.Proofs.Requests
import QueryStream.Proofs.Reading.Reader
import QueryStream.Proofs.Reading.Recipient
import QueryStream.Proofs.Reading.Demand
import QueryStream.Proofs.Reading.Account
import QueryStream.Proofs.Reading.Waiting
import QueryStream.Proofs.Reading
import QueryStream.Proofs.Engine.Roles
import QueryStream.Proofs.Engine.Settling
import QueryStream.Proofs.Engine.Offering
import QueryStream.Proofs.Course
import QueryStream.Proofs.Resolution
import QueryStream.Proofs.Stream.Ending
import QueryStream.Proofs.Stream.Attendance
import QueryStream.Proofs.Engine.Household
import QueryStream.Proofs.Cursor.Attachment
import QueryStream.Proofs.Cursor.Errands
import QueryStream.Proofs.Cursor.Valediction
import QueryStream.Proofs.Disclosure
import QueryStream.Proofs.Notices
import QueryStream.Proofs.Conclusion
import QueryStream.Proofs.Readout.Comes
import QueryStream.Proofs.Readout.Jobs
import QueryStream.Proofs.Readout.Rounds
import QueryStream.Proofs.Aftermath
import QueryStream.Proofs.Readout
import QueryStream.Proofs.Reports
import QueryStream.Proofs.Engine.Leads
import QueryStream.Proofs.Raised
import QueryStream.Proofs.Stream.Poised
import QueryStream.Proofs.GivingUp
import QueryStream.Proofs.Engine.Origin
import QueryStream.Proofs.Rows
import QueryStream.Proofs.Unserved
import QueryStream.Proofs.FailedStart.Unopened
import QueryStream.Proofs.FailedStart.Passing
import QueryStream.Proofs.FailedStart.Reading
import QueryStream.Proofs.FailedStart
import QueryStream.Proofs.Engine.Tending
import QueryStream.Proofs.Backpressure
import QueryStream.Proofs.Asking
import QueryStream.Proofs.Pulls
import QueryStream.Proofs.FailedWrite
import QueryStream.Proofs.LeavingEarly
import QueryStream.Proofs.StartResponses
import QueryStream.Proofs.Releasing
import QueryStream.Proofs.ResultOptions
import QueryStream.Proofs.Buffered
import QueryStream.Proofs.Columns
import QueryStream.Proofs.Loops
import QueryStream.Proofs.Words
import QueryStream.Proofs.Handled
import QueryStream.Proofs.Granting
import QueryStream.Proofs.Overrides
import QueryStream.Proofs.Statistics
