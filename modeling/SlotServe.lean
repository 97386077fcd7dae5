import SlotServe.Binary.Rounding
import SlotServe.Binary32.Basic
import SlotServe.Binary32.Exponential
import SlotServe.Fault
import SlotServe.Block.Pool
import SlotServe.Block.Slots
import SlotServe.Block.Table
import SlotServe.CommandLine.Arguments
import SlotServe.CommandLine.Program
import SlotServe.Decimal.Numeral
import SlotServe.Decimal.Shortest
import SlotServe.Engine.Chunked
import SlotServe.Engine.DecodeState
import SlotServe.Engine.Executor
import SlotServe.Engine.Front
import SlotServe.Engine.Logged
import SlotServe.Engine.Table
import SlotServe.Engine.WarmUp
import SlotServe.FileTree
import SlotServe.Json.Number
import SlotServe.Json.Reader
import SlotServe.Json.Value
import SlotServe.Json.Writer
import SlotServe.Main
import SlotServe.Mesh
import SlotServe.Prompt.Request
import SlotServe.Random.Cipher
import SlotServe.Random.Words
import SlotServe.Result.Buffer
import SlotServe.Sampling.Candidates
import SlotServe.Sampling.Draw
import SlotServe.Sampling.Softmax
import SlotServe.Serve.Report
import SlotServe.Serve.Request
import SlotServe.Serve.Scheduler
import SlotServe.Serve.Simulation
import SlotServe.Settings.Document
import SlotServe.Settings.Engine
import SlotServe.Settings.Run
import SlotServe.Size
import SlotServe.Tensor.Basic
import SlotServe.Tensor.Choice
import SlotServe.Tensor.Convert
import SlotServe.Text.WordCharacters
import SlotServe.Toml.Value
import SlotServe.Toml.Statement
import SlotServe.Toml.Table
import SlotServe.Toml.Token
import SlotServe.Toml.Writer
import SlotServe.Vocabulary.Basic
import SlotServe.Vocabulary.File
import SlotServe.Vocabulary.Piece
import SlotServe.Proofs.Block.Pool
import SlotServe.Proofs.Block.Ownership
import SlotServe.Proofs.Engine.Reach
import SlotServe.Proofs.Block.Frame
import SlotServe.Proofs.Engine.Rejected
import SlotServe.Proofs.Block.Alike
import SlotServe.Proofs.Engine.Generate
import SlotServe.Proofs.Engine.Observed
import SlotServe.Proofs.Serve.Mirror
import SlotServe.Proofs.Serve.Moves
import SlotServe.Proofs.Serve.Conservation
import SlotServe.Proofs.Result.RoundTrip
import SlotServe.Proofs.Engine.Successor
import SlotServe.Proofs.Engine.Stepping
import SlotServe.Proofs.Engine.Seeding
import SlotServe.Proofs.Engine.FirstTokens
import SlotServe.Proofs.Serve.Admission
import SlotServe.Proofs.Serve.Streams
import SlotServe.Proofs.Engine.ChunkedPrompt
import SlotServe.Proofs.Engine.Vacancy
import SlotServe.Proofs.Engine.Calls
import SlotServe.Proofs.Engine.Levels
import SlotServe.Proofs.Engine.Bookkeeping
import SlotServe.Proofs.Engine.Tenancy
import SlotServe.Proofs.Serve.Intake
import SlotServe.Proofs.Serve.Release
import SlotServe.Proofs.Tensor.Rows
import SlotServe.Proofs.Result.Layout
import SlotServe.Proofs.Result.Views
import SlotServe.Proofs.Result.Samples
import SlotServe.Proofs.Block.Room
import SlotServe.Proofs.Sampling.Draw
import SlotServe.Proofs.Engine.Capacity
import SlotServe.Proofs.Serve.Prompts
import SlotServe.Proofs.Serve.Steady
import SlotServe.Proofs.Serve.Progress
import SlotServe.Proofs.Serve.Course
import SlotServe.Proofs.Serve.Verdicts
import SlotServe.Proofs.Serve.Ample
import SlotServe.Proofs.Engine.Spread
import SlotServe.Proofs.Engine.Abandoned
import SlotServe.Proofs.Engine.Twins
import SlotServe.Proofs.Engine.Scratch
import SlotServe.Proofs.Engine.Padding
import SlotServe.Proofs.Serve.Buckets
import SlotServe.Proofs.Serve.Warmed
import SlotServe.Proofs.Serve.Rounds
import SlotServe.Proofs.Serve.Counters
import SlotServe.Proofs.Serve.Seeds
import SlotServe.Proofs.Serve.Accepted
import SlotServe.Proofs.Engine.Proper
import SlotServe.Proofs.Engine.Regular
import SlotServe.Proofs.Engine.Session
import SlotServe.Proofs.Tensor.Stacked
import SlotServe.Proofs.Result.Stitched
import SlotServe.Proofs.Engine.Forwarded
import SlotServe.Proofs.Engine.Takeover
import SlotServe.Proofs.Engine.Batch
import SlotServe.Proofs.Block.PoolCalls
import SlotServe.Proofs.Block.Growth
import SlotServe.Proofs.Block.Wanted
import SlotServe.Proofs.Result.Packed
import SlotServe.Proofs.Engine.PromptChecks
import SlotServe.Proofs.Engine.Recorded
import SlotServe.Proofs.Engine.ChunkCalls
import SlotServe.Proofs.Prompt.Buckets
import SlotServe.Proofs.Engine.Lifecycle
import SlotServe.Proofs.Engine.WarmUp
import SlotServe.Proofs.Floating.Machine
import SlotServe.Proofs.Binary32.Values
import SlotServe.Proofs.Binary32.Logarithm
import SlotServe.Proofs.Sampling.Landing
import SlotServe.Proofs.Sampling.Filters
import SlotServe.Proofs.Sampling.Greedy
import SlotServe.Proofs.Sampling.Support
import SlotServe.Proofs.Engine.Drawn
import SlotServe.Proofs.Engine.Eligible
import SlotServe.Proofs.Decimal.Digits
import SlotServe.Proofs.Binary.Rounding
import SlotServe.Proofs.Decimal.Shortest
import SlotServe.Proofs.Binary32.Fraction
import SlotServe.Proofs.Toml.Numbers
import SlotServe.Proofs.Toml.Texts
import SlotServe.Proofs.Toml.Lines
import SlotServe.Proofs.Toml.Assembly
import SlotServe.Proofs.Settings.Document
import SlotServe.Proofs.Settings.File
import SlotServe.Proofs.Mesh
import SlotServe.Proofs.Result.Columns
import SlotServe.Proofs.Engine.SlotLists
import SlotServe.Proofs.Prompt.Lengths
