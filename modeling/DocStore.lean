import DocStore.Json.Convert
import DocStore.Service.Find
import DocStore.Service.Write
import DocStore.Store.Memory
import DocStore.Store.Watched
import DocStore.Proofs.Query.Meaning
import DocStore.Proofs.Store.Held
import DocStore.Proofs.Store.History
import DocStore.Proofs.Store.Revisions
import DocStore.Proofs.Service.Calls
import DocStore.Proofs.Service.Refusal
import DocStore.Proofs.Service.Opened
import DocStore.Proofs.Find.Scan
import DocStore.Proofs.Find.Pages
import DocStore.Proofs.View.Reread
import DocStore.Proofs.Store.Watching
import DocStore.Proofs.Find.Fallback
import DocStore.Proofs.View.CleanUp
import DocStore.Proofs.Find.Untouched
import DocStore.Proofs.Store.Writes
import DocStore.Proofs.Service.Single
import DocStore.Proofs.Service.Update
import DocStore.Proofs.Store.Interference
import DocStore.Proofs.Service.Removal
import DocStore.Proofs.Document.Distinct
import DocStore.Proofs.Document.Public
import DocStore.Proofs.Find.Rows
import DocStore.Proofs.Service.Creation
import DocStore.Proofs.Service.Shared
import DocStore.Proofs.Service.Shape
import DocStore.Proofs.Service.Catalog
import DocStore.Proofs.Find.Selection
import DocStore.Proofs.Service.Opening
import DocStore.Proofs.Service.Isolation
import DocStore.Proofs.View.RoundTrip
import DocStore.Proofs.Number.Rounding
import DocStore.Proofs.Comparand.Equality
import DocStore.Proofs.Comparand.Kinds
import DocStore.Proofs.Comparand.Normal
import DocStore.Proofs.Comparand.Order
import DocStore.Proofs.Find.Returned
import DocStore.Proofs.Service.Naming
import DocStore.Proofs.Document.Masked
import DocStore.Proofs.Find.Blind
import DocStore.Proofs.Service.Reading
import DocStore.Proofs.Service.Order
import DocStore.Proofs.Query.Comparisons
import DocStore.Proofs.Find.Sorted
import DocStore.Proofs.Comparand.Spelling
import DocStore.Proofs.Query.Spelling
import DocStore.Proofs.Store.Locality
import DocStore.Proofs.Service.Identifier
import DocStore.Proofs.Document.Overlay
import DocStore.Proofs.Service.Patching
import DocStore.Proofs.Text.Lowered
import DocStore.Proofs.View.Names
import DocStore.Proofs.Service.Designs
import DocStore.Proofs.View.Stable
import DocStore.Proofs.Query.Filters
import DocStore.Proofs.Find.Restriction
import DocStore.Proofs.Store.Generations
import DocStore.Proofs.Json.Trip
import DocStore.Proofs.Json.Ordinary
