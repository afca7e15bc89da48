import SceneRender.Api.Handler
import SceneRender.Api.Payload
import SceneRender.Api.Server
import SceneRender.Artifact.Store
import SceneRender.Cache.Fingerprint
import SceneRender.Cache.Store
import SceneRender.Disk.Basic
import SceneRender.Generation.Assistant
import SceneRender.Generation.Exchange
import SceneRender.Generation.Prompt
import SceneRender.Generation.Provider
import SceneRender.Generation.Reply
import SceneRender.Generation.Request
import SceneRender.Generation.Temperature
import SceneRender.Http.Address
import SceneRender.Http.MediaType
import SceneRender.Http.Message
import SceneRender.Http.Origin
import SceneRender.Http.PercentText
import SceneRender.Http.RateLimiter
import SceneRender.Http.Route
import SceneRender.Job.Record
import SceneRender.Job.Row
import SceneRender.Job.Store
import SceneRender.Job.Timestamp
import SceneRender.Json.Cursor
import SceneRender.Json.Document
import SceneRender.Json.Printer
import SceneRender.Json.Token
import SceneRender.Json.Value
import SceneRender.Main
import SceneRender.Pipeline.Pool
import SceneRender.Pipeline.Process
import SceneRender.Pipeline.Question
import SceneRender.Pipeline.Shift
import SceneRender.Pipeline.Studio
import SceneRender.Pipeline.Submit
import SceneRender.Pipeline.Task
import SceneRender.Plan
import SceneRender.Program.Arguments
import SceneRender.Program.Run
import SceneRender.Proofs.Api.CleanCode
import SceneRender.Proofs.Api.CodeReuse
import SceneRender.Proofs.Api.HandlerLimits
import SceneRender.Proofs.Api.QueuedJobs
import SceneRender.Proofs.Api.Refusals
import SceneRender.Proofs.Api.Requests
import SceneRender.Proofs.Api.Traffic
import SceneRender.Proofs.Artifact.Confinement
import SceneRender.Proofs.Artifact.Shelf
import SceneRender.Proofs.Cache.CanonicalText
import SceneRender.Proofs.Course
import SceneRender.Proofs.Generation.FencedCode
import SceneRender.Proofs.Generation.ModelExchanges
import SceneRender.Proofs.Http.LimiterMemory
import SceneRender.Proofs.Http.SlidingWindow
import SceneRender.Proofs.Job.DamagedRows
import SceneRender.Proofs.Job.MomentGrammar
import SceneRender.Proofs.Job.Stored
import SceneRender.Proofs.Job.TwoStores
import SceneRender.Proofs.Pipeline.AttemptCourse
import SceneRender.Proofs.Pipeline.CachedVideos
import SceneRender.Proofs.Pipeline.CleanUp
import SceneRender.Proofs.Pipeline.Cycles
import SceneRender.Proofs.Pipeline.Decision
import SceneRender.Proofs.Pipeline.DistinctJobs
import SceneRender.Proofs.Pipeline.Exchanges
import SceneRender.Proofs.Pipeline.FinalRecords
import SceneRender.Proofs.Pipeline.Mishaps
import SceneRender.Proofs.Pipeline.OpenJobs
import SceneRender.Proofs.Pipeline.Orphans
import SceneRender.Proofs.Pipeline.PoolDelivery
import SceneRender.Proofs.Pipeline.ProcessCourse
import SceneRender.Proofs.Pipeline.Progress
import SceneRender.Proofs.Pipeline.Provenance
import SceneRender.Proofs.Pipeline.RecordLaw
import SceneRender.Proofs.Pipeline.Rush
import SceneRender.Proofs.Pipeline.Screening
import SceneRender.Proofs.Runs
import SceneRender.Proofs.Script.ConditionChains
import SceneRender.Proofs.Script.Depth
import SceneRender.Proofs.Script.EntryRules
import SceneRender.Proofs.Script.ExpressionHeight
import SceneRender.Proofs.Script.Height
import SceneRender.Proofs.Script.LogicalLines
import SceneRender.Proofs.Script.Lookahead
import SceneRender.Proofs.Script.Operands
import SceneRender.Proofs.Script.Parameters
import SceneRender.Proofs.Script.Parts
import SceneRender.Proofs.Script.PassedOver
import SceneRender.Proofs.Script.PatternHeight
import SceneRender.Proofs.Script.Pieces
import SceneRender.Proofs.Script.PlaceholderScene
import SceneRender.Proofs.Script.PlaceholderText
import SceneRender.Proofs.Script.PlaceholderTree
import SceneRender.Proofs.Script.Policy
import SceneRender.Proofs.Script.Positions
import SceneRender.Proofs.Script.Preorder
import SceneRender.Proofs.Script.Reading
import SceneRender.Proofs.Script.Scan
import SceneRender.Proofs.Script.SelfCalls
import SceneRender.Proofs.Script.SignChains
import SceneRender.Proofs.Script.StatementHeight
import SceneRender.Proofs.Script.Stops
import SceneRender.Proofs.Script.Taking
import SceneRender.Proofs.Script.TitleLiteral
import SceneRender.Proofs.Script.TokenWeight
import SceneRender.Proofs.Script.Visits
import SceneRender.Proofs.Settings.Overrides
import SceneRender.Proofs.Settings.PrintedSettings
import SceneRender.Proofs.Text.LongestTail
import SceneRender.Rehearsal.ScriptedCrew
import SceneRender.Rehearsal.StandIn
import SceneRender.Render.Isolation
import SceneRender.Render.Launch
import SceneRender.Render.Quality
import SceneRender.Render.Renderer
import SceneRender.Schema.Form
import SceneRender.Schema.JsonText
import SceneRender.Schema.JsonValue
import SceneRender.Schema.TomlValue
import SceneRender.Script.CharacterName
import SceneRender.Script.CharacterName.Alphabets
import SceneRender.Script.CharacterName.Ancient
import SceneRender.Script.CharacterName.EastAsian
import SceneRender.Script.CharacterName.Pictographs
import SceneRender.Script.CharacterName.Symbols
import SceneRender.Script.EntryClass
import SceneRender.Script.Fault
import SceneRender.Script.Grammar.Argument
import SceneRender.Script.Grammar.Expression
import SceneRender.Script.Grammar.Pattern
import SceneRender.Script.Grammar.Reader
import SceneRender.Script.Grammar.Statement
import SceneRender.Script.Identifier
import SceneRender.Script.Lexer
import SceneRender.Script.LineIndex
import SceneRender.Script.Nesting
import SceneRender.Script.Safety
import SceneRender.Script.SoftKeyword
import SceneRender.Script.StringLiteral
import SceneRender.Script.Token
import SceneRender.Script.Tree
import SceneRender.Script.Validation
import SceneRender.Script.Walk
import SceneRender.Service.DatabaseName
import SceneRender.Service.Machine
import SceneRender.Service.Setup
import SceneRender.Service.Work
import SceneRender.Settings.Basic
import SceneRender.Settings.Environment
import SceneRender.Settings.EnvironmentFile
import SceneRender.Settings.FieldPattern
import SceneRender.Settings.Load
import SceneRender.Settings.LogFilter
import SceneRender.Text.Alphanumeric
import SceneRender.Text.Blank
import SceneRender.Text.Decimal
import SceneRender.Text.Lossy
import SceneRender.Text.Quoted
import SceneRender.Text.Sha256
import SceneRender.Toml.Document
import SceneRender.Toml.Fault
import SceneRender.Toml.Moment
import SceneRender.Toml.Printer
import SceneRender.Toml.Scalar
import SceneRender.Toml.Syntax
import SceneRender.Toml.Token
import SceneRender.Toml.Value
