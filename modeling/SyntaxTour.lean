import SyntaxTour.Script.Session
import SyntaxTour.Proofs.Applier
import SyntaxTour.Proofs.Nesting
import SyntaxTour.Proofs.Coverage
import SyntaxTour.Proofs.Independence
import SyntaxTour.Proofs.Completeness
import SyntaxTour.Proofs.Family
import SyntaxTour.Proofs.Dispatch
import SyntaxTour.Proofs.Insertion
import SyntaxTour.Proofs.Splitting
import SyntaxTour.Proofs.Exclusion
import SyntaxTour.Proofs.Lifecycle
import SyntaxTour.Proofs.Lineup
import SyntaxTour.Proofs.LastRequest
import SyntaxTour.Proofs.Files
import SyntaxTour.Proofs.Sharing
import SyntaxTour.Proofs.Descent
import SyntaxTour.Proofs.Requesting
import SyntaxTour.Proofs.Watching
import SyntaxTour.Proofs.Faithful
import SyntaxTour.Proofs.Overloads
import SyntaxTour.Proofs.Passing
import SyntaxTour.Proofs.Fitting
import SyntaxTour.Proofs.Reporting
import SyntaxTour.Proofs.Spelling
import SyntaxTour.Proofs.Visibility
import SyntaxTour.Proofs.Entries
import SyntaxTour.Proofs.Accounts
import SyntaxTour.Proofs.Groups
import SyntaxTour.Proofs.Notification
import SyntaxTour.Proofs.Memoization
import SyntaxTour.Proofs.Acceptance
