import Trifold.Attributes
import Trifold.Chart.Basic
import Trifold.Coordinator.Basic
import Trifold.Coordinator.Settings
import Trifold.Delivery.Dispatch
import Trifold.Delivery.Inherited
import Trifold.Delivery.Target
import Trifold.Desktop.Convert
import Trifold.Desktop.Widget
import Trifold.Element.Basic
import Trifold.Element.Check
import Trifold.Element.Factory
import Trifold.Element.Kind
import Trifold.Element.Label
import Trifold.Element.Metadata
import Trifold.Element.Tree
import Trifold.Element.Written
import Trifold.Fanout.Race
import Trifold.Fanout.Render
import Trifold.Fault
import Trifold.Fields
import Trifold.Form.Fields
import Trifold.Form.Pattern
import Trifold.Form.Validation
import Trifold.Host
import Trifold.Misuse
import Trifold.Number.Basic
import Trifold.Number.Reading
import Trifold.Number.Shortest
import Trifold.Number.Written
import Trifold.Payload.Hygiene
import Trifold.Payload.Limits
import Trifold.Platform.Builtin
import Trifold.Platform.Details
import Trifold.Platform.Detect
import Trifold.Platform.Handlers
import Trifold.Platform.Helpers
import Trifold.Platform.Name
import Trifold.Platform.Renderer
import Trifold.Platform.State
import Trifold.Platform.Walk
import Trifold.Proofs.Agree
import Trifold.Proofs.Ask
import Trifold.Proofs.Chart.Alike
import Trifold.Proofs.Chart.Bars
import Trifold.Proofs.Chart.Drawn
import Trifold.Proofs.Chart.Extent
import Trifold.Proofs.Chart.Grid
import Trifold.Proofs.Coordinator.Accepted
import Trifold.Proofs.Coordinator.Settings
import Trifold.Proofs.Delivery.Broadcast
import Trifold.Proofs.Delivery.Shape
import Trifold.Proofs.Desktop.Alike
import Trifold.Proofs.Desktop.Captions
import Trifold.Proofs.Desktop.Handlers
import Trifold.Proofs.Element.Caption
import Trifold.Proofs.Element.Drawn
import Trifold.Proofs.Element.Held
import Trifold.Proofs.Element.Label
import Trifold.Proofs.Element.Matched
import Trifold.Proofs.Element.Patched
import Trifold.Proofs.Element.Properties
import Trifold.Proofs.Element.Queries
import Trifold.Proofs.Element.Site
import Trifold.Proofs.Element.Slot
import Trifold.Proofs.Element.Tree
import Trifold.Proofs.Element.Verified
import Trifold.Proofs.Element.Whole
import Trifold.Proofs.Element.Written
import Trifold.Proofs.Fanout.Isolated
import Trifold.Proofs.Fanout.Race
import Trifold.Proofs.Fields
import Trifold.Proofs.Form.Collected
import Trifold.Proofs.Form.Rules
import Trifold.Proofs.Form.Secret
import Trifold.Proofs.Number.Amount
import Trifold.Proofs.Number.Beyond
import Trifold.Proofs.Number.Bounds
import Trifold.Proofs.Number.Count
import Trifold.Proofs.Number.Nearest
import Trifold.Proofs.Number.Rounding
import Trifold.Proofs.Number.Same
import Trifold.Proofs.Number.Scale
import Trifold.Proofs.Number.Sign
import Trifold.Proofs.Number.Zero
import Trifold.Proofs.Payload.Bound
import Trifold.Proofs.Payload.Clean
import Trifold.Proofs.Payload.Depth
import Trifold.Proofs.Payload.Plain
import Trifold.Proofs.Payload.Secret
import Trifold.Proofs.Payload.Stripped
import Trifold.Proofs.Platform.Alike
import Trifold.Proofs.Platform.Bearing
import Trifold.Proofs.Platform.Beside
import Trifold.Proofs.Platform.Captions
import Trifold.Proofs.Platform.Contained
import Trifold.Proofs.Platform.Details
import Trifold.Proofs.Platform.Ended
import Trifold.Proofs.Platform.Fresh
import Trifold.Proofs.Platform.Gate
import Trifold.Proofs.Platform.Handlers
import Trifold.Proofs.Platform.Hidden
import Trifold.Proofs.Platform.Mixed
import Trifold.Proofs.Platform.Paired
import Trifold.Proofs.Platform.Placed
import Trifold.Proofs.Platform.Quiet
import Trifold.Proofs.Platform.Seen
import Trifold.Proofs.Platform.Walk
import Trifold.Proofs.Platform.Widgets
import Trifold.Proofs.Position
import Trifold.Proofs.Signal.Bus
import Trifold.Proofs.Signal.Event
import Trifold.Proofs.Signal.Subscriptions
import Trifold.Proofs.Signal.Type
import Trifold.Proofs.Source.Build
import Trifold.Proofs.Source.Factory
import Trifold.Proofs.Source.Filled
import Trifold.Proofs.Source.Grouped
import Trifold.Proofs.Source.Parsed
import Trifold.Proofs.Source.Proper
import Trifold.Proofs.Source.Spelling
import Trifold.Proofs.Style.Fold
import Trifold.Proofs.Style.Merged
import Trifold.Proofs.Style.Resolved
import Trifold.Proofs.Style.Walk
import Trifold.Proofs.Table.Cells
import Trifold.Proofs.Table.Drawn
import Trifold.Proofs.Table.Kinds
import Trifold.Proofs.Table.Layout
import Trifold.Proofs.Table.Merged
import Trifold.Proofs.Table.Ordered
import Trifold.Proofs.Table.Rectangular
import Trifold.Proofs.Table.Runs
import Trifold.Proofs.Table.Sorted
import Trifold.Proofs.Terminal.Alike
import Trifold.Proofs.Terminal.Captions
import Trifold.Proofs.Terminal.Handlers
import Trifold.Proofs.Terminal.Plain
import Trifold.Proofs.Text.Search
import Trifold.Proofs.Text.Sorted
import Trifold.Proofs.Value.Alike
import Trifold.Proofs.Value.Built
import Trifold.Proofs.Value.Distinct
import Trifold.Proofs.Value.Json
import Trifold.Proofs.Value.Merge
import Trifold.Proofs.Value.Numeric
import Trifold.Proofs.Value.Rearranged
import Trifold.Proofs.Value.Same
import Trifold.Proofs.Value.Spread
import Trifold.Proofs.Web.Alike
import Trifold.Proofs.Web.Drawn
import Trifold.Proofs.Web.Entities
import Trifold.Proofs.Web.Escape
import Trifold.Proofs.Web.Grammar
import Trifold.Proofs.Web.Handlers
import Trifold.Proofs.Web.Ids
import Trifold.Proofs.Web.Scan
import Trifold.Proofs.Web.WellFormed
import Trifold.Run
import Trifold.Signal.Action
import Trifold.Signal.Basic
import Trifold.Signal.Bus
import Trifold.Signal.Event
import Trifold.Signal.Handler
import Trifold.Source.Build
import Trifold.Source.Entity
import Trifold.Style.Basic
import Trifold.Style.Registry
import Trifold.Table.Layout
import Trifold.Table.Order
import Trifold.Table.Runs
import Trifold.Terminal.Convert
import Trifold.Terminal.Handlers
import Trifold.Terminal.Node
import Trifold.Text.Blank
import Trifold.Text.Case
import Trifold.Text.CaseData
import Trifold.Text.Quoted
import Trifold.Text.Repeat
import Trifold.Text.Search
import Trifold.Text.Units
import Trifold.Value.Assign
import Trifold.Value.Basic
import Trifold.Value.Convert
import Trifold.Value.Items
import Trifold.Value.Json
import Trifold.Value.Marked
import Trifold.Value.Member
import Trifold.Value.Merge
import Trifold.Value.Numeric
import Trifold.Value.Read
import Trifold.Value.Same
import Trifold.Value.Sketch
import Trifold.Value.Text
import Trifold.Web.Convert
import Trifold.Web.Css
import Trifold.Web.Handlers
import Trifold.Web.Markup
