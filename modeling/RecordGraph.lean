import RecordGraph.Execution.Scripted
import RecordGraph.Http.Route
import RecordGraph.Payload.Shared
import RecordGraph.Proofs.Execution.Action
import RecordGraph.Proofs.Execution.Closing
import RecordGraph.Proofs.Execution.Course
import RecordGraph.Proofs.Execution.Ending
import RecordGraph.Proofs.Execution.Journal
import RecordGraph.Proofs.Execution.Requests
import RecordGraph.Proofs.Execution.Sending
import RecordGraph.Proofs.Execution.Shelf
import RecordGraph.Proofs.Execution.Storage
import RecordGraph.Proofs.Execution.Translation
import RecordGraph.Proofs.Execution.Unit
import RecordGraph.Proofs.Expression.Admission
import RecordGraph.Proofs.Expression.Attach
import RecordGraph.Proofs.Expression.Index
import RecordGraph.Proofs.Expression.Offence
import RecordGraph.Proofs.Expression.Overlay
import RecordGraph.Proofs.Expression.Rendering
import RecordGraph.Proofs.Expression.Respacing
import RecordGraph.Proofs.Expression.Trail
import RecordGraph.Proofs.Fetch.Acceptance
import RecordGraph.Proofs.Fetch.Batch
import RecordGraph.Proofs.Fetch.Breadth
import RecordGraph.Proofs.Fetch.Fetched
import RecordGraph.Proofs.Fetch.Filtered
import RecordGraph.Proofs.Fetch.Order
import RecordGraph.Proofs.Fetch.Records
import RecordGraph.Proofs.Fetch.Requestable
import RecordGraph.Proofs.Http.Columns
import RecordGraph.Proofs.Http.Identity
import RecordGraph.Proofs.Http.Keys
import RecordGraph.Proofs.Http.Usable
import RecordGraph.Proofs.Insert.Escapes
import RecordGraph.Proofs.Insert.PerRow
import RecordGraph.Proofs.Plan.Acceptance
import RecordGraph.Proofs.Plan.Assembly
import RecordGraph.Proofs.Plan.Backfill
import RecordGraph.Proofs.Plan.Bundle
import RecordGraph.Proofs.Plan.Faults
import RecordGraph.Proofs.Plan.Levels
import RecordGraph.Proofs.Plan.Links
import RecordGraph.Proofs.Plan.Mirror
import RecordGraph.Proofs.Plan.Reliance
import RecordGraph.Proofs.Plan.Roots
import RecordGraph.Proofs.Plan.Site
import RecordGraph.Proofs.Plan.Spot
import RecordGraph.Proofs.Plan.WellFormed
import RecordGraph.Proofs.Repository.Attached
import RecordGraph.Proofs.Repository.Bulk
import RecordGraph.Proofs.Repository.Call
import RecordGraph.Proofs.Repository.Delivery
import RecordGraph.Proofs.Repository.Disclosure
import RecordGraph.Proofs.Repository.Fetch
import RecordGraph.Proofs.Repository.Found
import RecordGraph.Proofs.Repository.Ignored
import RecordGraph.Proofs.Repository.Limited
import RecordGraph.Proofs.Repository.Linked
import RecordGraph.Proofs.Repository.Missing
import RecordGraph.Proofs.Repository.Patched
import RecordGraph.Proofs.Repository.Queries
import RecordGraph.Proofs.Repository.Refusal
import RecordGraph.Proofs.Repository.Related
import RecordGraph.Proofs.Repository.Retained
import RecordGraph.Proofs.Repository.Schedule
import RecordGraph.Proofs.Repository.Stored
import RecordGraph.Proofs.Repository.Suppressed
import RecordGraph.Proofs.Repository.Translated
import RecordGraph.Proofs.Repository.Unkeyed
import RecordGraph.Proofs.Schema.Attempts
import RecordGraph.Proofs.Schema.Calls
import RecordGraph.Proofs.Text.Spelling
import RecordGraph.Proofs.Value.Record
import RecordGraph.Store.Database
import RecordGraph.Value.Access
