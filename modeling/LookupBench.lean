import LookupBench.Text.Utf8
import LookupBench.Number.Duration
import LookupBench.Json.Reader
import LookupBench.Frame
import LookupBench.Uri.Resolve
import LookupBench.Yaml.Decode
import LookupBench.Source.Occurrence
import LookupBench.Sampling.Picker
import LookupBench.Client.Session
import LookupBench.Server.Process
import LookupBench.Results.ReportFile
import LookupBench.Console.Progress
import LookupBench.Config.Options
import LookupBench.Benchmark.OnHost
import LookupBench.Tool
import LookupBench.Main
import LookupBench.Proofs.Frame
import LookupBench.Proofs.Client.Correlation
import LookupBench.Proofs.Benchmark.Order
import LookupBench.Proofs.Benchmark.Recount
import LookupBench.Proofs.Benchmark.Records
import LookupBench.Proofs.Wire
import LookupBench.Proofs.Sampling.Case
import LookupBench.Proofs.Benchmark.Limits
import LookupBench.Proofs.Reader
import LookupBench.Proofs.Blocks
import LookupBench.Proofs.Client.Unanswered
import LookupBench.Proofs.Client.Transcript
import LookupBench.Proofs.Benchmark.RoundTrip
import LookupBench.Proofs.Benchmark.OnHost
import LookupBench.Proofs.Truncation
import LookupBench.Proofs.Uri.Scheme
import LookupBench.Proofs.Client.Routing
import LookupBench.Proofs.Files.Direct
import LookupBench.Proofs.Sampling.Discovery
import LookupBench.Proofs.Benchmark.Seed
import LookupBench.Proofs.Location
import LookupBench.Proofs.Config.Options
import LookupBench.Proofs.Sampling.Draw
import LookupBench.Proofs.Source.Word
import LookupBench.Proofs.Source.Mirror
import LookupBench.Proofs.Source.Binding
import LookupBench.Proofs.Sampling.Sources
import LookupBench.Proofs.Uri.RoundTrip
import LookupBench.Proofs.Results.Latency
import LookupBench.Proofs.Server.Stub
import LookupBench.Proofs.Client.ErrorTail
import LookupBench.Proofs.Source.Traversal
