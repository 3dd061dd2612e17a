import RailsNavigator.Concrete.Node
import RailsNavigator.Decimal.Rounded
import RailsNavigator.Decimal.Shortest
import RailsNavigator.Definition.Answer
import RailsNavigator.Definition.Query
import RailsNavigator.Dsl
import RailsNavigator.Events.Dispatcher
import RailsNavigator.Events.Listener
import RailsNavigator.Events.Name
import RailsNavigator.Failure
import RailsNavigator.Index.Ancestors
import RailsNavigator.Index.Basic
import RailsNavigator.Index.Documents
import RailsNavigator.Index.Entry
import RailsNavigator.Json.Encoding
import RailsNavigator.Json.Printer
import RailsNavigator.Json.Reader
import RailsNavigator.Json.Token
import RailsNavigator.Json.Value
import RailsNavigator.Location
import RailsNavigator.Log.Level
import RailsNavigator.Log.Logger
import RailsNavigator.Log.Notice
import RailsNavigator.Log.Template
import RailsNavigator.Pattern.Basic
import RailsNavigator.Pattern.CharSet
import RailsNavigator.Pattern.Escape
import RailsNavigator.Pattern.Group
import RailsNavigator.Pattern.Reader
import RailsNavigator.Pattern.Search
import RailsNavigator.Position
import RailsNavigator.Routes
import RailsNavigator.Runner.Conversation
import RailsNavigator.Runner.Frame
import RailsNavigator.Runner.Host
import RailsNavigator.Server.Documents
import RailsNavigator.Server.Requests
import RailsNavigator.Server.State
import RailsNavigator.Settings
import RailsNavigator.Source
import RailsNavigator.Syntax.Build
import RailsNavigator.Syntax.Context
import RailsNavigator.Syntax.Conversion
import RailsNavigator.Syntax.Literal
import RailsNavigator.Syntax.Node
import RailsNavigator.Syntax.Outline
import RailsNavigator.Syntax.Parse
import RailsNavigator.Syntax.Program
import RailsNavigator.Syntax.Size
import RailsNavigator.Text.Blank
import RailsNavigator.Text.Case
import RailsNavigator.Text.Digit
import RailsNavigator.Text.Invisible
import RailsNavigator.Text.Letter
import RailsNavigator.Text.Name
import RailsNavigator.Text.Name.Aliases
import RailsNavigator.Text.Name.Alphabets
import RailsNavigator.Text.Name.Forms
import RailsNavigator.Text.Name.Historic
import RailsNavigator.Text.Name.Pictographs
import RailsNavigator.Text.Name.Run
import RailsNavigator.Text.Name.Supplements
import RailsNavigator.Text.Name.Symbols
import RailsNavigator.Text.Numeral
import RailsNavigator.Text.Quoted
import RailsNavigator.Text.Turns
import RailsNavigator.Text.Utf16
import RailsNavigator.Text.Utf8
import RailsNavigator.Trace
import RailsNavigator.Uri
import RailsNavigator.Uri.Host
import RailsNavigator.Workspace.FileTree
import RailsNavigator.Proofs.Index.Entries
import RailsNavigator.Proofs.Index.History
import RailsNavigator.Proofs.Index.Operations
import RailsNavigator.Proofs.Syntax.Order
import RailsNavigator.Proofs.Syntax.Translation
import RailsNavigator.Proofs.Syntax.Assembly
import RailsNavigator.Proofs.Syntax.Claims
import RailsNavigator.Proofs.Syntax.Links
import RailsNavigator.Proofs.Syntax.Parents
import RailsNavigator.Proofs.Events.Walk
import RailsNavigator.Proofs.Index.Scopes
import RailsNavigator.Proofs.Index.Owners
import RailsNavigator.Proofs.Syntax.Enclosing
import RailsNavigator.Proofs.Definition.Queries
import RailsNavigator.Proofs.Trace
import RailsNavigator.Proofs.Definition.Locations
import RailsNavigator.Proofs.Json.Printer
import RailsNavigator.Proofs.Runner.Stream
import RailsNavigator.Proofs.Text.Numeral
import RailsNavigator.Proofs.Runner.Frames
import RailsNavigator.Proofs.Runner.Calls
import RailsNavigator.Proofs.Server.Steps
import RailsNavigator.Proofs.Server.Edits
import RailsNavigator.Proofs.Server.Parses
import RailsNavigator.Proofs.Index.Records
import RailsNavigator.Proofs.Syntax.Escapes
import RailsNavigator.Proofs.Workspace.Resolution
import RailsNavigator.Proofs.Workspace.Listing
import RailsNavigator.Proofs.Index.Agreement
import RailsNavigator.Proofs.Index.Workspace
import RailsNavigator.Proofs.Index.Contents
import RailsNavigator.Proofs.Server.Requests
import RailsNavigator.Proofs.Server.Links
import RailsNavigator.Proofs.Server.Closing
import RailsNavigator.Proofs.Server.OpenFiles
import RailsNavigator.Proofs.Index.Search
import RailsNavigator.Proofs.Index.Unfolding
import RailsNavigator.Proofs.Index.Ancestors
import RailsNavigator.Proofs.Index.Rearrangement
import RailsNavigator.Proofs.Location
import RailsNavigator.Proofs.Definition.Replies
import RailsNavigator.Proofs.Events.Registration
import RailsNavigator.Proofs.Syntax.Recursion
import RailsNavigator.Proofs.Index.Declarations
import RailsNavigator.Proofs.Syntax.Siblings
import RailsNavigator.Proofs.Routes.Segments
import RailsNavigator.Proofs.Text.Utf8
import RailsNavigator.Proofs.Source
import RailsNavigator.Proofs.Syntax.Nesting
import RailsNavigator.Proofs.Syntax.Locating
import RailsNavigator.Proofs.Uri
import RailsNavigator.Proofs.Settings.Rounding
import RailsNavigator.Proofs.Settings
import RailsNavigator.Proofs.Text.Utf16
import RailsNavigator.Proofs.Source.Columns
import RailsNavigator.Proofs.Syntax.Identifiers
import RailsNavigator.Proofs.Syntax.Arguments
import RailsNavigator.Proofs.Index.Superclasses
import RailsNavigator.Proofs.Syntax.Backslashes
