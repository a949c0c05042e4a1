import Conformance.ErrorKind.Catalogue
import Conformance.Main
import Conformance.Outcome.Lifecycle
import Conformance.Script.Session
import Conformance.Proofs.Program.Changes
import Conformance.Proofs.Program.Growth
import Conformance.Proofs.Hash.Freezing
import Conformance.Proofs.Suite.HookRuns
import Conformance.Proofs.Suite.Turns
import Conformance.Proofs.Suite.Calls
import Conformance.Proofs.Suite.Reports
import Conformance.Proofs.Suite.Activities
import Conformance.Proofs.Program.Likeness
import Conformance.Proofs.Suite.Isolation
import Conformance.Proofs.Hash.Storing
import Conformance.Proofs.Program.Courses
import Conformance.Proofs.Hash.Entries
import Conformance.Proofs.Hash.Fallbacks
import Conformance.Proofs.Program.Variables
import Conformance.Proofs.Stub.Verification
import Conformance.Proofs.Suite.Verdicts
import Conformance.Proofs.Stub.History
import Conformance.Proofs.Stub.Accounts
import Conformance.Proofs.Suite.Tallies
import Conformance.Proofs.Suite.Stopping
import Conformance.Proofs.Suite.Passing
import Conformance.Proofs.Report.Deliveries
import Conformance.Proofs.CommandLine.Listings
import Conformance.Proofs.Report.JsonLines
import Conformance.Proofs.Hash.Assigning
import Conformance.Proofs.Hash.Clearing
import Conformance.Proofs.Program.Returning
import Conformance.Proofs.CommandLine.ExitCodes
import Conformance.Proofs.Corpus.Runs
import Conformance.Proofs.Program.Receiving
import Conformance.Proofs.Hash.Computing
import Conformance.Proofs.Object.Equality
import Conformance.Proofs.Hash.Entangling
import Conformance.Proofs.Object.Inspection
import Conformance.Proofs.Program.Integers
import Conformance.Proofs.Program.GroupLookups
import Conformance.Proofs.Hash.Memoising
import Conformance.Proofs.Report.Failures
import Conformance.Proofs.Outcome.Readings
import Conformance.Proofs.Report.Colours
import Conformance.Proofs.Suite.Raising
import Conformance.Proofs.CommandLine.Platforms
import Conformance.Proofs.Report.Summaries
import Conformance.Proofs.Suite.Lives
import Conformance.Proofs.Text.Reading
