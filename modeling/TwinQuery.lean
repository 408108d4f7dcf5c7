import TwinQuery.CommandLine.Options
import TwinQuery.CommandLine.Run
import TwinQuery.CommandLine.Usage
import TwinQuery.Confidence
import TwinQuery.Conversion.Fragment
import TwinQuery.Conversion.Result
import TwinQuery.Conversion.ToKql
import TwinQuery.Conversion.ToSpl
import TwinQuery.Document.Basic
import TwinQuery.Document.Display
import TwinQuery.Explanation
import TwinQuery.Fault
import TwinQuery.Interval
import TwinQuery.Json.Reader
import TwinQuery.Json.Writer
import TwinQuery.Kql.Argument
import TwinQuery.Language
import TwinQuery.Main
import TwinQuery.Number.Binary64
import TwinQuery.Number.Shortest
import TwinQuery.Pipeline
import TwinQuery.Proofs.Extraction
import TwinQuery.Proofs.Layout
import TwinQuery.Proofs.Pipeline
import TwinQuery.Proofs.Strip
import TwinQuery.Proofs.Words
import TwinQuery.Refresh
import TwinQuery.Service.Request
import TwinQuery.Service.Routes
import TwinQuery.Service.Target
import TwinQuery.Session
import TwinQuery.Settings
import TwinQuery.Spl.Argument
import TwinQuery.Spl.Head
import TwinQuery.Spl.Term
import TwinQuery.TableMapping.Basic
import TwinQuery.TableMapping.Defaults
import TwinQuery.TableMapping.Reader
import TwinQuery.Text.Base64
import TwinQuery.Text.Basic
import TwinQuery.Text.Blank
import TwinQuery.Text.Case
import TwinQuery.Text.Printable
import TwinQuery.Text.Range
import TwinQuery.Text.Utf8
import TwinQuery.Text.Word
import TwinQuery.Time.Calendar
import TwinQuery.Time.Reader
import TwinQuery.Time.Stamp
import TwinQuery.Validation
import TwinQuery.Vocabulary.Basic
import TwinQuery.Vocabulary.Bundled
import TwinQuery.Vocabulary.Reader
import TwinQuery.Workspace.Basic
import TwinQuery.Workspace.Document
import TwinQuery.Workspace.Path
import TwinQuery.Yaml.Cursor
import TwinQuery.Yaml.Node
import TwinQuery.Yaml.Reader
import TwinQuery.Yaml.Scalar
import TwinQuery.Yaml.Tag
import TwinQuery.Yaml.Token
import TwinQuery.Yaml.Value
import TwinQuery.Proofs.PipelineToKql
import TwinQuery.Proofs.PipelineToSpl
import TwinQuery.Proofs.Head
import TwinQuery.Proofs.SharedStage
import TwinQuery.Proofs.RoundTrip
import TwinQuery.Proofs.OutputFindings
import TwinQuery.Proofs.HeadWords
import TwinQuery.Proofs.Listing
import TwinQuery.Proofs.ListedStage
import TwinQuery.Proofs.Extension
import TwinQuery.Proofs.Confidence
import TwinQuery.Proofs.UnknownOperators
import TwinQuery.Proofs.Explanation
import TwinQuery.Proofs.Resolution
import TwinQuery.Proofs.SessionRuns
import TwinQuery.Proofs.Magnitude
import TwinQuery.Proofs.Overlay
import TwinQuery.Proofs.Merging
import TwinQuery.Proofs.MappingExport
import TwinQuery.Proofs.JsonReading
import TwinQuery.Proofs.Handling
import TwinQuery.Proofs.HeadTokens
import TwinQuery.Proofs.ServiceRuns
import TwinQuery.Proofs.Rounding
import TwinQuery.Proofs.Numerals
import TwinQuery.Proofs.JsonRoundTrip
import TwinQuery.Proofs.LayoutInvariance
import TwinQuery.Proofs.RefreshRuns
import TwinQuery.Proofs.HeadDecoding
import TwinQuery.Proofs.Comments
import TwinQuery.Proofs.FailedResolution
import TwinQuery.Proofs.IndexNames
import TwinQuery.Proofs.EarliestTimes
import TwinQuery.Proofs.Timechart
import TwinQuery.Proofs.RefreshStatus
import TwinQuery.Proofs.MappingFile
import TwinQuery.Proofs.ArgumentGroups
import TwinQuery.Proofs.HeadPasses
