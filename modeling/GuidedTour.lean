import GuidedTour.Bubble.Drawing
import GuidedTour.Bubble.Style
import GuidedTour.Bubble.View
import GuidedTour.Command.Arguments
import GuidedTour.Command.Execution
import GuidedTour.Command.Failure
import GuidedTour.Command.Help
import GuidedTour.Command.Options
import GuidedTour.Completion.Flags
import GuidedTour.Completion.Store
import GuidedTour.Content
import GuidedTour.Decimal.Binary
import GuidedTour.Decimal.Reading
import GuidedTour.Decimal.Shortest
import GuidedTour.Decode.Datum
import GuidedTour.Decode.Error
import GuidedTour.Decode.Source
import GuidedTour.Definition.Basic
import GuidedTour.Definition.Building
import GuidedTour.Definition.Checking
import GuidedTour.Definition.Decoding
import GuidedTour.Definition.Encoding
import GuidedTour.Definition.Error
import GuidedTour.Definition.Loading
import GuidedTour.Definition.Reading
import GuidedTour.Geometry
import GuidedTour.Host.Basic
import GuidedTour.Host.Floating
import GuidedTour.Host.Handle
import GuidedTour.Input
import GuidedTour.Json
import GuidedTour.Json.Document
import GuidedTour.Json.Source
import GuidedTour.Layout.Anchors
import GuidedTour.Layout.Constraint
import GuidedTour.Layout.Edge
import GuidedTour.Layout.Placement
import GuidedTour.Main
import GuidedTour.Motion.Easing
import GuidedTour.Motion.Tween
import GuidedTour.Overlay.Hole
import GuidedTour.Overlay.Veil
import GuidedTour.Provider
import GuidedTour.Run.Basic
import GuidedTour.Run.Drawing
import GuidedTour.Run.Input
import GuidedTour.Screen.Blend
import GuidedTour.Screen.Buffer
import GuidedTour.Screen.Division
import GuidedTour.Screen.Frame
import GuidedTour.Screen.Paragraph
import GuidedTour.Screen.Style
import GuidedTour.Settings
import GuidedTour.Showcase.App
import GuidedTour.Showcase.Bubbles
import GuidedTour.Showcase.Screen
import GuidedTour.Showcase.Tour
import GuidedTour.Step
import GuidedTour.Storage.Disk
import GuidedTour.Storage.Environment
import GuidedTour.Storage.Path
import GuidedTour.Text.Blank
import GuidedTour.Text.Grapheme
import GuidedTour.Text.Grapheme.Classes
import GuidedTour.Text.Quoted
import GuidedTour.Text.Quoted.Classes
import GuidedTour.Text.RangeTable
import GuidedTour.Text.Width
import GuidedTour.Text.Width.Classes
import GuidedTour.Warning
import GuidedTour.Yaml.Node
import GuidedTour.Yaml.Scalar
import GuidedTour.Yaml.Source
import GuidedTour.Yaml.Token
import GuidedTour.Proofs.Run.Demand
import GuidedTour.Proofs.Run.Turn
import GuidedTour.Proofs.Run.Course
import GuidedTour.Proofs.Host.Operation
import GuidedTour.Proofs.Host.Bubbles
import GuidedTour.Proofs.Host.Report
import GuidedTour.Proofs.Host.History
import GuidedTour.Proofs.Layout.Span
import GuidedTour.Proofs.Layout.Dominance
import GuidedTour.Proofs.Layout.Greedy
import GuidedTour.Proofs.Layout.Order
import GuidedTour.Proofs.Layout.Translation
import GuidedTour.Proofs.Screen.Coverage
import GuidedTour.Proofs.Screen.Repaint
import GuidedTour.Proofs.Overlay.Complement
import GuidedTour.Proofs.Bubble.Destination
import GuidedTour.Proofs.Overlay.Spotlight
import GuidedTour.Proofs.Bubble.Placement
import GuidedTour.Proofs.Bubble.Anchoring
import GuidedTour.Proofs.Bubble.Arrow
import GuidedTour.Proofs.Bubble.Turning
import GuidedTour.Proofs.Run.Frame
import GuidedTour.Proofs.Run.Scene
import GuidedTour.Proofs.Run.Highlight
import GuidedTour.Proofs.Run.Settled
import GuidedTour.Proofs.Run.Reply
import GuidedTour.Proofs.Host.Custody
import GuidedTour.Proofs.Host.Lifetime
import GuidedTour.Proofs.Host.Admission
import GuidedTour.Proofs.Showcase.Operation
import GuidedTour.Proofs.Showcase.Modal
import GuidedTour.Proofs.Json.Spelling
import GuidedTour.Proofs.Json.Tokens
import GuidedTour.Proofs.Json.Scanning
import GuidedTour.Proofs.Decode.Faithful
import GuidedTour.Proofs.Decode.Reading
import GuidedTour.Proofs.Definition.Reading
import GuidedTour.Proofs.Definition.RoundTrip
import GuidedTour.Proofs.Storage.Disk
import GuidedTour.Proofs.Completion.Flags
import GuidedTour.Proofs.Completion.Refinement
import GuidedTour.Proofs.Completion.Failure
import GuidedTour.Proofs.Definition.Acceptance
import GuidedTour.Proofs.Motion.Rest
import GuidedTour.Proofs.Run.Rest
import GuidedTour.Proofs.Run.Routing
import GuidedTour.Proofs.Host.Rest
import GuidedTour.Proofs.Bubble.Unplaced
import GuidedTour.Proofs.Run.Unplaced
import GuidedTour.Proofs.Host.Unplaced
import GuidedTour.Proofs.Host.Refusal
import GuidedTour.Proofs.Bubble.Room
import GuidedTour.Proofs.Storage.Path
import GuidedTour.Proofs.Storage.Tilde
import GuidedTour.Proofs.Completion.Sharing
import GuidedTour.Proofs.Definition.RichText
import GuidedTour.Proofs.Definition.Wording
import GuidedTour.Proofs.Screen.Change
import GuidedTour.Proofs.Screen.Paragraph
import GuidedTour.Proofs.Bubble.Picture
import GuidedTour.Proofs.Host.Staying
import GuidedTour.Proofs.Showcase.Stranded
import GuidedTour.Proofs.Geometry.Fixed
import GuidedTour.Proofs.Geometry.Clipping
import GuidedTour.Proofs.Bubble.Triangle
import GuidedTour.Proofs.Bubble.FixedArrow
import GuidedTour.Proofs.Screen.Glyphs
import GuidedTour.Proofs.Bubble.Corners
