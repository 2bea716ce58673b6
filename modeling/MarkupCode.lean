import MarkupCode.Main
import MarkupCode.Code.Layout
import MarkupCode.Code.Reader
import MarkupCode.Code.Block
import MarkupCode.Code.Normal
import MarkupCode.Code.Identifier
import MarkupCode.Text.Line
import MarkupCode.Html.Written
import MarkupCode.Html.Growth
import MarkupCode.Preview.Reading
import MarkupCode.Proofs.Text.Scan
import MarkupCode.Proofs.Text.Blank
import MarkupCode.Proofs.Text.Line
import MarkupCode.Proofs.Text.Lower
import MarkupCode.Proofs.Text.Upper
import MarkupCode.Proofs.Code.Layout
import MarkupCode.Proofs.Code.Reading
import MarkupCode.Proofs.Html.Copy
import MarkupCode.Proofs.Html.Growth
import MarkupCode.Proofs.Html.Tokens
import MarkupCode.Proofs.Html.OpenElements
import MarkupCode.Proofs.Code.Fragment
import MarkupCode.Proofs.Code.FlushLeft
import MarkupCode.Proofs.Code.Wrapping
import MarkupCode.Proofs.Code.Normal
import MarkupCode.Proofs.Convert.Shown
import MarkupCode.Proofs.Html.WrittenTags
import MarkupCode.Proofs.Html.WrittenTokens
import MarkupCode.Proofs.Html.WrittenTrees
import MarkupCode.Proofs.Convert.Written
import MarkupCode.FileTree.Change
import MarkupCode.Proofs.FileTree.Folders
import MarkupCode.Command.Product
import MarkupCode.Proofs.Command.Saving
import MarkupCode.Proofs.Command.Overwriting
import MarkupCode.Proofs.Command.Effect
import MarkupCode.Proofs.Preview.Panes
import MarkupCode.Proofs.Command.Surfaces
import MarkupCode.Proofs.Html.Body
import MarkupCode.Proofs.Code.Overflow
import MarkupCode.Proofs.Code.Literal
import MarkupCode.Proofs.Code.Script
import MarkupCode.Proofs.Preview.Values
import MarkupCode.Proofs.Text.Runs
import MarkupCode.Proofs.Code.Identifier
import MarkupCode.Proofs.Command.Configuration
import MarkupCode.Command.Sources
import MarkupCode.Proofs.FileTree.Kept
import MarkupCode.Proofs.Command.Repeating
import MarkupCode.Proofs.Outcome
import MarkupCode.Yaml.Unreadable
import MarkupCode.Proofs.Yaml.Readers
import MarkupCode.Proofs.Yaml.Tokens
import MarkupCode.Proofs.Yaml.Composer
import MarkupCode.Proofs.Yaml.Merging
import MarkupCode.Proofs.Yaml.Value
import MarkupCode.Options.Report
import MarkupCode.Proofs.Options.Report
