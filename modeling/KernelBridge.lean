import KernelBridge.CommandLine.Directory
import KernelBridge.Invocation
import KernelBridge.Main
import KernelBridge.Proofs.FirstFault
import KernelBridge.Proofs.Invocation.Decision
import KernelBridge.Proofs.Cpp.Identifier
import KernelBridge.Proofs.Cpp.QualifiedName
import KernelBridge.Proofs.Wrapper.Acceptance
import KernelBridge.Proofs.Wrapper.Scope
import KernelBridge.Wrapper.Execution
import KernelBridge.Proofs.Wrapper.Execution
import KernelBridge.Proofs.Wrapper.Phases
import KernelBridge.Proofs.Wrapper.Agreement
import KernelBridge.Proofs.Wrapper.Header
import KernelBridge.Proofs.Wrapper.FileLines
import KernelBridge.Proofs.Wrapper.Nesting
import KernelBridge.Proofs.Wrapper.Clashes
import KernelBridge.Proofs.Json.Tree
import KernelBridge.Proofs.Signature.RoundTrip
import KernelBridge.Proofs.Target.Feature
import KernelBridge.Proofs.Target.Reading
import KernelBridge.Proofs.Target.RoundTrip
import KernelBridge.Proofs.Bridge.Slot
import KernelBridge.Proofs.Bridge.History
import KernelBridge.Proofs.Bridge.MetalHooks
import KernelBridge.Proofs.Invocation.Residency
import KernelBridge.Proofs.Invocation.Answers
import KernelBridge.Proofs.Invocation.Nesting
import KernelBridge.Proofs.Wrapper.Validation
import KernelBridge.Proofs.Cpp.Keyword
import KernelBridge.Proofs.Wrapper.LegalNames
import KernelBridge.Proofs.CommandLine.Arguments
import KernelBridge.Proofs.CommandLine.Run
import KernelBridge.Proofs.Tracing.Installation
import KernelBridge.Proofs.Tensor.Size
import KernelBridge.Proofs.Tensor.RowMajor
import KernelBridge.Proofs.Tracing.Timing
import KernelBridge.Proofs.Wrapper.HiddenTypes
import KernelBridge.Proofs.Wrapper.Wrappable
import KernelBridge.Proofs.Wrapper.PlanList
import KernelBridge.Proofs.Wrapper.Modularity
import KernelBridge.Proofs.Wrapper.Entries
import KernelBridge.Proofs.Target.Outcome
import KernelBridge.Proofs.Target.Built
import KernelBridge.Proofs.Wrapper.Log
import KernelBridge.Proofs.Text.Numeral
import KernelBridge.Proofs.Cpp.Segment
import KernelBridge.Proofs.Target.Spelling
import KernelBridge.Proofs.Tracing.Environment
import KernelBridge.Proofs.Json.Lexeme
import KernelBridge.Proofs.Json.Grammar
import KernelBridge.Proofs.Json.Reader
import KernelBridge.Proofs.Json.Record
import KernelBridge.Proofs.Signature.Variation
import KernelBridge.Proofs.Wrapper.Shift
