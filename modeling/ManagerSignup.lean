import ManagerSignup.Agenda
import ManagerSignup.Application
import ManagerSignup.Decimal.Binary64
import ManagerSignup.Decimal.Layout
import ManagerSignup.Decimal.Shortest
import ManagerSignup.Failure
import ManagerSignup.Failure.AppError
import ManagerSignup.Failure.Casebook
import ManagerSignup.Failure.Fault
import ManagerSignup.Failure.Fault.Arguments
import ManagerSignup.Failure.Fault.Coding
import ManagerSignup.Failure.Fault.Raising
import ManagerSignup.Failure.Fault.Syntax
import ManagerSignup.Failure.Fault.System
import ManagerSignup.Failure.Redaction
import ManagerSignup.Failure.Report
import ManagerSignup.Field
import ManagerSignup.Field.Grammar
import ManagerSignup.Field.Insertion
import ManagerSignup.Form
import ManagerSignup.Form.Style
import ManagerSignup.History
import ManagerSignup.Journal
import ManagerSignup.LineEdit
import ManagerSignup.LineEdit.Guard
import ManagerSignup.Proofs.Completion
import ManagerSignup.Proofs.Editing
import ManagerSignup.Proofs.Guarding
import ManagerSignup.Proofs.Pasting
import ManagerSignup.Proofs.Typing
import ManagerSignup.Settings.Location
import ManagerSignup.Settings.Logging
import ManagerSignup.Settings.Organization
import ManagerSignup.Submission
import ManagerSignup.Submission.Backend
import ManagerSignup.Submission.Check
import ManagerSignup.Submission.Entries
import ManagerSignup.Submission.Record
import ManagerSignup.Table
import ManagerSignup.Text
import ManagerSignup.Text.Blank
import ManagerSignup.Text.Case
import ManagerSignup.Text.CaseTable
import ManagerSignup.Text.Pattern
import ManagerSignup.Text.Printable
import ManagerSignup.Text.Quoted
import ManagerSignup.Text.Utf8
import ManagerSignup.Tracker
import ManagerSignup.Tracker.Check
import ManagerSignup.Tracker.Widget
import ManagerSignup.UnknownName
import ManagerSignup.Value
import ManagerSignup.Value.Reader
import ManagerSignup.Value.Shown
import ManagerSignup.Value.Writer
import ManagerSignup.Proofs.Agendas
import ManagerSignup.Proofs.Tables
import ManagerSignup.Proofs.Tracking
import ManagerSignup.Proofs.Freshness
import ManagerSignup.Proofs.FormRuns
import ManagerSignup.Proofs.FormVerdicts
import ManagerSignup.Proofs.Blanks
import ManagerSignup.Proofs.SubmissionChecks
import ManagerSignup.Proofs.Announcing
import ManagerSignup.Proofs.Announcements
import ManagerSignup.Proofs.SubmitButton
import ManagerSignup.Proofs.HandedRecords
import ManagerSignup.Proofs.Revising
import ManagerSignup.Proofs.TrackerRuns
import ManagerSignup.Proofs.Dealings
import ManagerSignup.Proofs.Submitting
import ManagerSignup.Proofs.Registrations
import ManagerSignup.Proofs.Clicking
import ManagerSignup.Proofs.Deadlines
import ManagerSignup.Proofs.Resting
import ManagerSignup.Proofs.Intrusions
import ManagerSignup.Proofs.Marks
import ManagerSignup.Proofs.Reading
import ManagerSignup.Proofs.Loading
import ManagerSignup.Proofs.Words
import ManagerSignup.Proofs.Discretion
import ManagerSignup.Proofs.Reporting
import ManagerSignup.Proofs.PasteRules
import ManagerSignup.Proofs.Refusals
import ManagerSignup.Proofs.Committing
import ManagerSignup.Proofs.Pieces
import ManagerSignup.Proofs.Carets
import ManagerSignup.Proofs.Deletions
import ManagerSignup.Proofs.Keeping
import ManagerSignup.Proofs.Obstacles
import ManagerSignup.Proofs.Places
import ManagerSignup.Proofs.FirstFaults
import ManagerSignup.Proofs.Capitals
import ManagerSignup.Proofs.Resubmitting
import ManagerSignup.Proofs.Redacting
import ManagerSignup.Proofs.Rejections
import ManagerSignup.Proofs.Rejoining
import ManagerSignup.Proofs.Secrets
import ManagerSignup.Proofs.Timelines
import ManagerSignup.Proofs.Bursts
import ManagerSignup.Proofs.Promptness
import ManagerSignup.Proofs.Debouncing
import ManagerSignup.Proofs.MovingOn
