import JoinPlan.Json.Reader
import JoinPlan.Naming.English
import JoinPlan.Proofs.Attach.Frame
import JoinPlan.Proofs.Attach.Order
import JoinPlan.Proofs.Attach.Sessions
import JoinPlan.Proofs.Criteria.FirstFailure
import JoinPlan.Proofs.Criteria.IntegerText
import JoinPlan.Proofs.Criteria.NestedLists
import JoinPlan.Proofs.Criteria.Untouched
import JoinPlan.Proofs.Join.Embedding
import JoinPlan.Proofs.Join.EmptyReferences
import JoinPlan.Proofs.Join.Marks
import JoinPlan.Proofs.Join.Parts
import JoinPlan.Proofs.Naming.BlankNames
import JoinPlan.Proofs.Naming.LastWords
import JoinPlan.Proofs.Naming.Inflection
import JoinPlan.Proofs.Naming.Words
import JoinPlan.Proofs.Pipeline.Accounts
import JoinPlan.Proofs.Pipeline.EmptyCollection
import JoinPlan.Proofs.Pipeline.Equality
import JoinPlan.Proofs.Pipeline.ExcludedPaths
import JoinPlan.Proofs.Pipeline.Outputs
import JoinPlan.Proofs.Schema.Resolution
import JoinPlan.Proofs.Store.OnlyOption
import JoinPlan.Proofs.Store.Ordered
import JoinPlan.Proofs.Store.OuterJoin
import JoinPlan.Proofs.Store.Provenance
import JoinPlan.Proofs.Store.Unread
import JoinPlan.Proofs.Store.Unwound
import JoinPlan.Version
