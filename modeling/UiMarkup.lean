import UiMarkup.Assoc
import UiMarkup.Attrs
import UiMarkup.Build.Block
import UiMarkup.Build.Entry
import UiMarkup.Build.State
import UiMarkup.Build.View
import UiMarkup.Coord
import UiMarkup.Describe
import UiMarkup.Diagnostic
import UiMarkup.Handle
import UiMarkup.Loader
import UiMarkup.LogFilter
import UiMarkup.LogSink
import UiMarkup.Markup.Event
import UiMarkup.Markup.Fault
import UiMarkup.Markup.Forest
import UiMarkup.Markup.Reader
import UiMarkup.Markup.Reference
import UiMarkup.Markup.Tag
import UiMarkup.Numeric.Binary32
import UiMarkup.Numeric.Decimal
import UiMarkup.Paint.Color
import UiMarkup.Paint.Gradient
import UiMarkup.Pattern.Basic
import UiMarkup.Pattern.CharSet
import UiMarkup.Pattern.Reader
import UiMarkup.Preview.Command
import UiMarkup.Preview.Run
import UiMarkup.Reading
import UiMarkup.Registry.Basic
import UiMarkup.Registry.Scope
import UiMarkup.Registry.Style
import UiMarkup.Scene.Basic
import UiMarkup.Scene.Object
import UiMarkup.Scene.Property
import UiMarkup.Scene.Tree
import UiMarkup.Scene.Trigger
import UiMarkup.Style.Basic
import UiMarkup.Style.Property
import UiMarkup.Style.Value
import UiMarkup.Subject
import UiMarkup.Text.Blank
import UiMarkup.Text.Bytes
import UiMarkup.Text.Invisible
import UiMarkup.Text.Quoted
import UiMarkup.Text.Split
import UiMarkup.Vocabulary.Basic
import UiMarkup.Vocabulary.Event
import UiMarkup.Vocabulary.Flags
import UiMarkup.Vocabulary.Layout
import UiMarkup.Vocabulary.Paint
import UiMarkup.Vocabulary.Widget
import UiMarkup.Widget.Env
import UiMarkup.Widget.Modifier
import UiMarkup.Widget.ObjAttr
import UiMarkup.Widget.Processor
import UiMarkup.Widget.Rule
import UiMarkup.Widget.Table
import UiMarkup.Main
import UiMarkup.Proofs.Scene.Access
import UiMarkup.Proofs.Scene.Request
import UiMarkup.Proofs.Scene.Ties
import UiMarkup.Proofs.Scene.Growth
import UiMarkup.Proofs.Scene.Below
import UiMarkup.Proofs.Scene.Refs
import UiMarkup.Proofs.Registry.Bounds
import UiMarkup.Proofs.Widget.Reach
import UiMarkup.Proofs.Build.Sound
import UiMarkup.Proofs.Loader.Run
import UiMarkup.Proofs.Widget.Agreement
import UiMarkup.Proofs.Build.Contexts
import UiMarkup.Proofs.Build.Expansion
import UiMarkup.Proofs.Build.Documents
import UiMarkup.Proofs.Registry.NewScope
import UiMarkup.Proofs.Registry.History
import UiMarkup.Proofs.Loader.Recorded
import UiMarkup.Proofs.Markup.Nesting
import UiMarkup.Proofs.Markup.OpenElements
import UiMarkup.Proofs.Registry.Lookup
import UiMarkup.Proofs.Registry.Styles
import UiMarkup.Proofs.Build.Entries
import UiMarkup.Proofs.Build.Invariant
import UiMarkup.Proofs.Build.Orders
import UiMarkup.Proofs.Build.Starts
import UiMarkup.Proofs.Build.Calls
import UiMarkup.Proofs.Loader.Screens
import UiMarkup.Proofs.Build.Parents
import UiMarkup.Proofs.Loader.Outline
import UiMarkup.Proofs.Loader.Isolation
import UiMarkup.Proofs.Loader.Confinement
import UiMarkup.Proofs.Registry.Refs
import UiMarkup.Proofs.Widget.Refs
import UiMarkup.Proofs.Loader.Intact
import UiMarkup.Proofs.Widget.Unsupported
import UiMarkup.Proofs.Markup.Delivery
import UiMarkup.Proofs.Loader.Kinds
import UiMarkup.Proofs.Build.Blocks
import UiMarkup.Proofs.Loader.Blocks
import UiMarkup.Proofs.Scene.Roots
import UiMarkup.Proofs.Loader.Roots
import UiMarkup.Proofs.Build.Failures
import UiMarkup.Proofs.Loader.Failures
import UiMarkup.Proofs.Widget.Alike
import UiMarkup.Proofs.Registry.Renumbered
import UiMarkup.Proofs.Registry.Define
import UiMarkup.Proofs.Build.Parallel
import UiMarkup.Proofs.Build.Definitions
import UiMarkup.Proofs.Loader.LoadOrder
import UiMarkup.Proofs.Loader.Heeded
import UiMarkup.Proofs.Loader.Placement
import UiMarkup.Proofs.Markup.WrittenTags
import UiMarkup.Proofs.Markup.RoundTrip
import UiMarkup.Proofs.Coord.Pixels
import UiMarkup.Proofs.Coord.Tracks
import UiMarkup.Proofs.Registry.Effective
import UiMarkup.Proofs.Widget.Lookups
import UiMarkup.Proofs.Widget.Dangling
import UiMarkup.Proofs.Loader.Removal
import UiMarkup.Proofs.Loader.Stepping
import UiMarkup.Proofs.Build.Filing
import UiMarkup.Proofs.Build.Gradients
import UiMarkup.Proofs.Build.Timelines
import UiMarkup.Proofs.Loader.Makers
import UiMarkup.Proofs.Loader.Passing
import UiMarkup.Proofs.Registry.StyleNames
import UiMarkup.Proofs.Scene.PreOrder
import UiMarkup.Proofs.Scene.Traversal
import UiMarkup.Proofs.Scene.Lines
import UiMarkup.Proofs.Loader.Mirror
import UiMarkup.Proofs.Loader.Unrolling
import UiMarkup.Proofs.Widget.Noticed
import UiMarkup.Proofs.Build.Telling
import UiMarkup.Proofs.Widget.TabButtons
import UiMarkup.Proofs.Numeric.Words
import UiMarkup.Proofs.Numeric.Saturation
import UiMarkup.Proofs.Coord.Percent
import UiMarkup.Proofs.Reading.TokenSets
import UiMarkup.Proofs.Style.History
import UiMarkup.Proofs.Build.Tracker
import UiMarkup.Proofs.Reading.ColorLiterals
import UiMarkup.Proofs.Reading.Values
import UiMarkup.Proofs.Reading.Gradients
