import Depot.Http.Service
import Depot.Main
import Depot.Text.Template
import Depot.Proofs.Encodable
import Depot.Proofs.Filing
import Depot.Proofs.FilingPromise
import Depot.Proofs.Catalogue
import Depot.Proofs.Representation
import Depot.Proofs.Binding
import Depot.Proofs.Meaning
import Depot.Proofs.Comparing
import Depot.Proofs.Matching
import Depot.Proofs.Identifiers
import Depot.Proofs.Selecting
import Depot.Proofs.Handover
import Depot.Proofs.Listing
import Depot.Proofs.Ordering
import Depot.Proofs.Searching
import Depot.Proofs.SearchPromise
import Depot.Proofs.Folders
import Depot.Proofs.Reopening
import Depot.Proofs.Sessions
import Depot.Proofs.Gathering
import Depot.Proofs.Locating
import Depot.Proofs.Storing
import Depot.Proofs.Payloads
import Depot.Proofs.StoringPromise
import Depot.Proofs.Sharing
import Depot.Proofs.Chronicle
import Depot.Proofs.TwoPhases
import Depot.Proofs.Retrieving
import Depot.Proofs.Validity
import Depot.Proofs.PageLimits
import Depot.Proofs.FilingAtOnce
import Depot.Proofs.Fragments
import Depot.Proofs.Reading
import Depot.Proofs.Asking
import Depot.Proofs.Wording
import Depot.Proofs.Collecting
import Depot.Proofs.Filters
import Depot.Proofs.QueryDocuments
import Depot.Proofs.FieldForms
import Depot.Proofs.Inquiries
import Depot.Proofs.SameSearch
import Depot.Proofs.SameShape
import Depot.Proofs.Integrity
import Depot.Proofs.Endings
import Depot.Proofs.Growing
import Depot.Proofs.Sparing
import Depot.Proofs.Responding
import Depot.Proofs.Grammar
import Depot.Proofs.FieldArguments
import Depot.Proofs.Answering
import Depot.Proofs.Alternatives
import Depot.Proofs.Reordering
import Depot.Proofs.Ways
import Depot.Proofs.Opening
import Depot.Proofs.Presence
import Depot.Proofs.AllOrNothing
import Depot.Proofs.Searchable
import Depot.Proofs.Balancing
import Depot.Proofs.Walking
import Depot.Proofs.TypedArguments
