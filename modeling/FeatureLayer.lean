import FeatureLayer.Geometry.Normal
import FeatureLayer.Workspace
import FeatureLayer.Proofs.Store.Work
import FeatureLayer.Proofs.Store.Soundness
import FeatureLayer.Proofs.Layer.Calls
import FeatureLayer.Proofs.Layer.Step
import FeatureLayer.Proofs.Workspace.Step
import FeatureLayer.Proofs.Workspace.Soundness
import FeatureLayer.Proofs.Workspace.Rollback
import FeatureLayer.Proofs.Layer.Filters
import FeatureLayer.Proofs.Store.Reading
import FeatureLayer.Proofs.Layer.Reading
import FeatureLayer.Proofs.Workspace.Filters
import FeatureLayer.Proofs.Workspace.ScanOrder
import FeatureLayer.Proofs.Layer.Tables
import FeatureLayer.Proofs.Workspace.Writes
import FeatureLayer.Proofs.Workspace.Lookup
import FeatureLayer.Proofs.Calendar
import FeatureLayer.Proofs.Row.Typing
import FeatureLayer.Proofs.Row.RoundTrip
import FeatureLayer.Proofs.Store.Restoring
import FeatureLayer.Proofs.Store.Typing
import FeatureLayer.Proofs.Layer.Candid
import FeatureLayer.Proofs.Layer.Alike
import FeatureLayer.Proofs.Layer.RoundTrip
import FeatureLayer.Proofs.Layer.Typing
import FeatureLayer.Proofs.Workspace.Typing
import FeatureLayer.Proofs.Workspace.RoundTrip
import FeatureLayer.Proofs.Workspace.OpeningFilter
import FeatureLayer.Proofs.Store.Growth
import FeatureLayer.Proofs.Layer.Ignoring
import FeatureLayer.Proofs.Workspace.Ignoring
import FeatureLayer.Proofs.Layer.Sparing
import FeatureLayer.Proofs.Layer.Tracking
import FeatureLayer.Proofs.Workspace.Sparing
import FeatureLayer.Proofs.Overlay
import FeatureLayer.Proofs.Workspace.Conformity
import FeatureLayer.Proofs.Workspace.ConcurrentScan
import FeatureLayer.Proofs.Layer.Naming
import FeatureLayer.Proofs.Workspace.Guard
import FeatureLayer.Proofs.OverlayLaws
import FeatureLayer.Proofs.Store.Query
import FeatureLayer.Proofs.Layer.Browsing
import FeatureLayer.Proofs.Layer.Deeds
import FeatureLayer.Proofs.Layer.Queries
import FeatureLayer.Proofs.Workspace.ResultSets
import FeatureLayer.Proofs.Workspace.QueryFilter
import FeatureLayer.Proofs.Workspace.ReadOnly
import FeatureLayer.Proofs.Workspace.Definitions
import FeatureLayer.Proofs.Layer.Holding
import FeatureLayer.Proofs.Workspace.Holding
import FeatureLayer.Proofs.Workspace.ScanProgress
import FeatureLayer.Proofs.Predicate.Grammar
import FeatureLayer.Proofs.Predicate.Logic
import FeatureLayer.Proofs.Predicate.Spelling
import FeatureLayer.Proofs.Workspace.NullTest
import FeatureLayer.Proofs.Workspace.FullRead
import FeatureLayer.Proofs.Number.Rounding
import FeatureLayer.Proofs.Predicate.Comparing
import FeatureLayer.Proofs.Predicate.Identifier
import FeatureLayer.Proofs.Workspace.IdentifierColumn
import FeatureLayer.Proofs.Row.Values
import FeatureLayer.Proofs.Row.Entries
import FeatureLayer.Proofs.Layer.Reinstalling
import FeatureLayer.Proofs.Workspace.Reinstalling
import FeatureLayer.Proofs.Layer.Level
import FeatureLayer.Proofs.Workspace.Rejection
import FeatureLayer.Proofs.Layer.Selecting
import FeatureLayer.Proofs.Workspace.Selecting
import FeatureLayer.Proofs.OverlayFields
import FeatureLayer.Proofs.Workspace.Overlaying
import FeatureLayer.Proofs.Predicate.Like
import FeatureLayer.Proofs.Predicate.Dates
import FeatureLayer.Proofs.Workspace.DateFilter
import FeatureLayer.Proofs.Workspace.Polling
import FeatureLayer.Proofs.Workspace.ResultSchema
import FeatureLayer.Proofs.OverlayProgress
import FeatureLayer.Proofs.TimeZone
import FeatureLayer.Proofs.Workspace.Stopping
import FeatureLayer.Proofs.OptionList
import FeatureLayer.Proofs.Predicate.Literal
