import FileProfile.Bytes.Encoding
import FileProfile.Bytes.Image
import FileProfile.Bytes.Sniff
import FileProfile.Bytes.Utf16
import FileProfile.Bytes.Utf8
import FileProfile.CommandLine.Arguments
import FileProfile.CommandLine.DotEnv
import FileProfile.CommandLine.Run
import FileProfile.Disk.Load
import FileProfile.Disk.Path
import FileProfile.Disk.Tree
import FileProfile.Error
import FileProfile.FileName
import FileProfile.Http.Disposition
import FileProfile.Http.MediaType
import FileProfile.Json.Basic
import FileProfile.Json.Lexer
import FileProfile.Json.Parser
import FileProfile.Json.Record
import FileProfile.Json.Text
import FileProfile.Language.Basic
import FileProfile.Language.Catalogue
import FileProfile.Language.Evidence
import FileProfile.Language.Registry
import FileProfile.Language.Resolution
import FileProfile.Language.Shebang
import FileProfile.Limits
import FileProfile.Main
import FileProfile.Markup.Escape
import FileProfile.Markup.Highlighter
import FileProfile.Pattern.Basic
import FileProfile.Pattern.CharSet
import FileProfile.Pattern.Part
import FileProfile.Pattern.Read
import FileProfile.Pattern.Search
import FileProfile.Pattern.Symbol
import FileProfile.Pattern.Token
import FileProfile.Profile
import FileProfile.Proofs.Bytes.Ascii
import FileProfile.Proofs.Bytes.Detection
import FileProfile.Proofs.Bytes.Empty
import FileProfile.Proofs.Bytes.Halves
import FileProfile.Proofs.Bytes.Utf16
import FileProfile.Proofs.Bytes.Utf8
import FileProfile.Proofs.Bytes.WellFormed
import FileProfile.Proofs.Bytes.Writing
import FileProfile.Proofs.CommandLine.Failures
import FileProfile.Proofs.Disk.Containment
import FileProfile.Proofs.Disk.Identity
import FileProfile.Proofs.Disk.Joined
import FileProfile.Proofs.Disk.Parts
import FileProfile.Proofs.Disk.Path
import FileProfile.Proofs.Disk.Places
import FileProfile.Proofs.Disk.Spelling
import FileProfile.Proofs.FileName
import FileProfile.Proofs.Http.Disposition
import FileProfile.Proofs.Json.Lexer
import FileProfile.Proofs.Json.Record
import FileProfile.Proofs.Json.Text
import FileProfile.Proofs.Json.Tokens
import FileProfile.Proofs.Json.Words
import FileProfile.Proofs.Language.Catalogue
import FileProfile.Proofs.Language.Headers
import FileProfile.Proofs.Language.Interpreter
import FileProfile.Proofs.Language.Precedence
import FileProfile.Proofs.Language.Promotion
import FileProfile.Proofs.Language.Relaunch
import FileProfile.Proofs.Language.RelaunchedVersion
import FileProfile.Proofs.Language.Resolution
import FileProfile.Proofs.Language.Scan
import FileProfile.Proofs.Language.Shebang
import FileProfile.Proofs.Language.ThroughEnv
import FileProfile.Proofs.Language.Version
import FileProfile.Proofs.Limits.Environment
import FileProfile.Proofs.Limits.Number
import FileProfile.Proofs.Markup.Escape
import FileProfile.Proofs.Pattern.Growth
import FileProfile.Proofs.Pattern.Returns
import FileProfile.Proofs.Pattern.Starts
import FileProfile.Proofs.Pattern.Templates
import FileProfile.Proofs.Profile.Answers
import FileProfile.Proofs.Profile.Cells
import FileProfile.Proofs.Profile.Runs
import FileProfile.Proofs.Provenance.CoffeeScript
import FileProfile.Proofs.Provenance.Components
import FileProfile.Proofs.Provenance.Density
import FileProfile.Proofs.Provenance.Minified
import FileProfile.Proofs.Provenance.Reach
import FileProfile.Proofs.Provenance.Relocation
import FileProfile.Proofs.Subject.Coherence
import FileProfile.Proofs.Subject.Encodings
import FileProfile.Proofs.Subject.Headers
import FileProfile.Proofs.Subject.Language
import FileProfile.Proofs.Subject.LineEndings
import FileProfile.Proofs.Subject.Lines
import FileProfile.Proofs.Subject.Markup
import FileProfile.Proofs.Subject.Thresholds
import FileProfile.Proofs.Summary.RoundTrip
import FileProfile.Proofs.Text.Decimal
import FileProfile.Proofs.Text.FirstLine
import FileProfile.Proofs.Text.Lower
import FileProfile.Proofs.Text.Occurrence
import FileProfile.Proofs.Text.Returns
import FileProfile.Proofs.Text.Split
import FileProfile.Proofs.Text.Tiling
import FileProfile.Proofs.Text.Words
import FileProfile.Provenance.CoffeeScript
import FileProfile.Provenance.Generated
import FileProfile.Provenance.Minified
import FileProfile.Provenance.ThirdParty
import FileProfile.Query
import FileProfile.Subject
import FileProfile.Summary
import FileProfile.Text.Alphanumeric
import FileProfile.Text.Blank
import FileProfile.Text.CaseFold
import FileProfile.Text.Decimal
import FileProfile.Text.Digit
import FileProfile.Text.Hexadecimal
import FileProfile.Text.Lines
import FileProfile.Text.Lower
import FileProfile.Text.Occurrence
import FileProfile.Text.Quoted
import FileProfile.Text.Ranges
import FileProfile.Text.Raw
import FileProfile.Text.Split
import FileProfile.Text.Word
import FileProfile.Text.Words
