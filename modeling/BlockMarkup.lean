import BlockMarkup.Text.Basic
import BlockMarkup.Text.Blank
import BlockMarkup.Text.CodePoints
import BlockMarkup.Text.Lower
import BlockMarkup.Text.Printable
import BlockMarkup.Text.Punctuation
import BlockMarkup.Text.Quoted
import BlockMarkup.Text.Word
import BlockMarkup.Text.Slug
import BlockMarkup.Entries
import BlockMarkup.Value
import BlockMarkup.Options.Basic
import BlockMarkup.Options.Setting
import BlockMarkup.Diagnostic
import BlockMarkup.Options.Reading
import BlockMarkup.Component.Basic
import BlockMarkup.Html
import BlockMarkup.Component.Layout
import BlockMarkup.Component.Notice
import BlockMarkup.Component.Link
import BlockMarkup.Marker
import BlockMarkup.OptionSection
import BlockMarkup.Block
import BlockMarkup.Document.Token
import BlockMarkup.Document.Forest
import BlockMarkup.Rendering.Context
import BlockMarkup.Rendering.Nested
import BlockMarkup.Rendering.Passes
import BlockMarkup.Json
import BlockMarkup.Log
import BlockMarkup.Log.Template
import BlockMarkup.Slides
import BlockMarkup.Transpiler
import BlockMarkup.Yaml.Scalar
import BlockMarkup.Yaml.Flow
import BlockMarkup.Yaml.Number
import BlockMarkup.Yaml.Reading
import BlockMarkup.Yaml.Writing
import BlockMarkup.Markdown.Typography
import BlockMarkup.Markdown.Basic
import BlockMarkup.Markdown.Paragraphs
import BlockMarkup.Page
import BlockMarkup.Files.Path
import BlockMarkup.Files.Tree
import BlockMarkup.Config.Basic
import BlockMarkup.Config.Checking
import BlockMarkup.Config.Template
import BlockMarkup.Config.Lookup
import BlockMarkup.Config.Standard
import BlockMarkup.Config.Sample
import BlockMarkup.Publication
import BlockMarkup.Watcher.Event
import BlockMarkup.Watcher.Debouncer
import BlockMarkup.Watcher.Basic
import BlockMarkup.Watcher.Clock
import BlockMarkup.Watcher.Schedule
import BlockMarkup.Watcher.Threads
import BlockMarkup.Watcher.Session
import BlockMarkup.Console.Width
import BlockMarkup.Console.EmojiTable
import BlockMarkup.Console.Emoji
import BlockMarkup.Console.Style
import BlockMarkup.Console.Literal
import BlockMarkup.Console.Markup
import BlockMarkup.Console.Wrapping
import BlockMarkup.Console.Table
import BlockMarkup.Console.Message
import BlockMarkup.Command.Arguments
import BlockMarkup.Command.Outcome
import BlockMarkup.Command.Seconds
import BlockMarkup.Command.Request
import BlockMarkup.Command.Run
import BlockMarkup.Main
import BlockMarkup.Proofs.Entries
import BlockMarkup.Proofs.Text.Lines
import BlockMarkup.Proofs.Text.Trim
import BlockMarkup.Proofs.Text.Occurrences
import BlockMarkup.Proofs.Text.Returns
import BlockMarkup.Proofs.OptionSection
import BlockMarkup.Proofs.Marker
import BlockMarkup.Proofs.Options.Setting
import BlockMarkup.Proofs.Html
import BlockMarkup.Proofs.Html.Tags
import BlockMarkup.Proofs.Component
import BlockMarkup.Proofs.Block
import BlockMarkup.Proofs.Options.Reading
import BlockMarkup.Proofs.Options.Writing
import BlockMarkup.Proofs.Options.Places
import BlockMarkup.Proofs.Block.Choices
import BlockMarkup.Proofs.Block.Badge
import BlockMarkup.Proofs.Block.ChoiceLines
import BlockMarkup.Proofs.Document.Position
import BlockMarkup.Proofs.Document.Layout
import BlockMarkup.Proofs.Document.Coverage
import BlockMarkup.Proofs.Document.Append
import BlockMarkup.Proofs.Document.Relabel
import BlockMarkup.Proofs.Document.Shift
import BlockMarkup.Proofs.Document.Joined
import BlockMarkup.Proofs.Document.Matching
import BlockMarkup.Proofs.Document.Shape
import BlockMarkup.Proofs.Document.Returns
import BlockMarkup.Proofs.Rendering.Recursion
import BlockMarkup.Proofs.Rendering.Preserved
import BlockMarkup.Proofs.Rendering.Loop
import BlockMarkup.Proofs.Rendering.Shift
import BlockMarkup.Proofs.Rendering.Events
import BlockMarkup.Proofs.Rendering.Splice
import BlockMarkup.Proofs.Rendering.Shown
import BlockMarkup.Proofs.Rendering.Complete
import BlockMarkup.Proofs.Rendering.Tidy
import BlockMarkup.Proofs.Rendering.Stage
import BlockMarkup.Proofs.Rendering.Agreement
import BlockMarkup.Proofs.Rendering.Joined
import BlockMarkup.Proofs.Rendering.Matchers
import BlockMarkup.Proofs.Rendering.Placed
import BlockMarkup.Proofs.Rendering.Surroundings
import BlockMarkup.Proofs.Rendering.Unmarked
import BlockMarkup.Proofs.Rendering.Balance
import BlockMarkup.Proofs.Rendering.Numbering
import BlockMarkup.Proofs.Rendering.Returns
import BlockMarkup.Proofs.Rendering.Reports
import BlockMarkup.Proofs.Rendering.Handovers
import BlockMarkup.Proofs.Checked.Access
import BlockMarkup.Proofs.Checked.Document
import BlockMarkup.Proofs.Checked.Rendering
import BlockMarkup.Proofs.Rendering.Greedy
import BlockMarkup.Proofs.Rendering.Substitution
import BlockMarkup.Proofs.Rendering.Sections
import BlockMarkup.Proofs.Rendering.Run
import BlockMarkup.Proofs.Rendering.Drift
import BlockMarkup.Proofs.Rendering.Leftover
import BlockMarkup.Proofs.Files.Tree
import BlockMarkup.Proofs.Slides
import BlockMarkup.Proofs.Config.Template
import BlockMarkup.Proofs.Config.Lookup
import BlockMarkup.Proofs.Watcher.Schedule
import BlockMarkup.Proofs.Watcher.Debouncer
import BlockMarkup.Proofs.Watcher.Progress
import BlockMarkup.Proofs.Watcher.Debounce
import BlockMarkup.Proofs.Watcher.Basic
import BlockMarkup.Proofs.Watcher.Lock
import BlockMarkup.Proofs.Watcher.Threads
import BlockMarkup.Proofs.Watcher.Session
import BlockMarkup.Proofs.Watcher.Clock
import BlockMarkup.Proofs.Watcher.Stop
import BlockMarkup.Proofs.Text.Slug
import BlockMarkup.Proofs.Text.Sigma
import BlockMarkup.Proofs.OptionSection.Position
import BlockMarkup.Proofs.Grammar
import BlockMarkup.Proofs.Document.Walk
import BlockMarkup.Proofs.Document.Source
