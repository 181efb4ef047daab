import FileSearch.Proofs.Index.ContentCriterion
import FileSearch.Proofs.Query.Extensions
import FileSearch.Proofs.Query.FlatSearch
import FileSearch.Proofs.Query.Literal
import FileSearch.Proofs.Query.Rendering
import FileSearch.Proofs.Query.Scopes
import FileSearch.Proofs.Request.Accepted
import FileSearch.Proofs.Request.Faults
import FileSearch.Proofs.Request.Precedence
import FileSearch.Proofs.Search.Answers
import FileSearch.Proofs.Search.Decision
import FileSearch.Proofs.Search.Rejection
import FileSearch.Search.HandleSession
import FileSearch.Proofs.Index.RecordStore
import FileSearch.Proofs.Search.Listing
import FileSearch.Proofs.Path.Home
import FileSearch.Proofs.Path.Order
import FileSearch.Proofs.Index.Reaching
import FileSearch.Proofs.Index.Repeats
import FileSearch.Proofs.Index.ScopeUnion
import FileSearch.Proofs.Index.Arrivals
import FileSearch.Proofs.Index.Capture
import FileSearch.Proofs.Index.Coverage
import FileSearch.Proofs.Index.Listeners
import FileSearch.Proofs.Query.ShownExtension
import FileSearch.Proofs.Search.Readable
import FileSearch.Proofs.Search.Response
import FileSearch.Proofs.Content.Boundaries
import FileSearch.Proofs.Path.Containment
import FileSearch.Proofs.Content.Buffer
