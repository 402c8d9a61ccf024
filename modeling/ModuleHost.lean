import ModuleHost.Main
import ModuleHost.Proofs.Value.Bytes
import ModuleHost.Proofs.Boundary.ErrorChannel
import ModuleHost.Proofs.Boundary.Invocation
import ModuleHost.Proofs.Registry.CallFailure
import ModuleHost.Proofs.Registry.Lifecycle
import ModuleHost.Proofs.Wasm.Invariant
import ModuleHost.Proofs.Registry.Requests
import ModuleHost.Proofs.Wasm.Metering
import ModuleHost.Proofs.Instance.Creation
import ModuleHost.Proofs.Registry.Creation
import ModuleHost.Proofs.Registry.Isolation
import ModuleHost.Proofs.Instance.Fuel
import ModuleHost.Proofs.Registry.Fuel
import ModuleHost.Proofs.Instance.Metering
import ModuleHost.Proofs.Registry.Metering
import ModuleHost.Proofs.Wasm.Forwarding
import ModuleHost.Proofs.Wasm.Points
import ModuleHost.Proofs.Wasm.Growth
import ModuleHost.Proofs.Instance.Memories
import ModuleHost.Proofs.Instance.Traps
import ModuleHost.Proofs.Registry.Traps
import ModuleHost.Proofs.Registry.Instances
import ModuleHost.Proofs.Registry.MemoryCap
import ModuleHost.Proofs.Registry.Occupancy
import ModuleHost.Proofs.Wasm.Validity
import ModuleHost.Proofs.GuestModule
import ModuleHost.Proofs.Linking
import ModuleHost.Proofs.Registry.Exports
import ModuleHost.Proofs.Ieee.Range
import ModuleHost.Proofs.Wasm.Range
import ModuleHost.Proofs.Wasm.Sized
import ModuleHost.Proofs.Wasm.Binary
import ModuleHost.Proofs.Wasm.Writer
import ModuleHost.Proofs.Wasm.Operands
import ModuleHost.Proofs.Wasm.Typing
import ModuleHost.Proofs.Wasm.Control
import ModuleHost.Proofs.Wasm.Soundness
import ModuleHost.Proofs.Instance.Soundness
import ModuleHost.Proofs.CommandLine.Words
import ModuleHost.Proofs.Boundary.Session
import ModuleHost.Proofs.CommandLine.Agreement
import ModuleHost.Proofs.Registry.Results
import ModuleHost.Proofs.Registry.Sandbox
import ModuleHost.Proofs.Boundary.Unusable
import ModuleHost.Proofs.Text.Digits
import ModuleHost.Proofs.Data.Toml.Writing
import ModuleHost.Proofs.Data.Toml.Decimal
import ModuleHost.Proofs.Data.Toml.Layout
import ModuleHost.Proofs.Data.Toml.Lines
import ModuleHost.Proofs.Data.Toml.Additions
import ModuleHost.Proofs.Data.Toml.Documents
import ModuleHost.Proofs.Data.Json.Writing
import ModuleHost.Proofs.Settings.Assignment
import ModuleHost.Proofs.Settings.Toml
import ModuleHost.Proofs.Settings.Json
import ModuleHost.Proofs.Settings.Spellings
import ModuleHost.Proofs.Ieee.Rounding
import ModuleHost.Proofs.Ieee.Decimal
import ModuleHost.Proofs.Text.Numerals
import ModuleHost.Proofs.Ieee.Text
import ModuleHost.Proofs.Value.Text
import ModuleHost.Proofs.Boundary.Delivery
import ModuleHost.Proofs.Boundary.Arguments
import ModuleHost.Proofs.Boundary.Messages
import ModuleHost.Proofs.Wasm.Memory
import ModuleHost.Proofs.Instance.MemoryAccess
import ModuleHost.Proofs.Registry.MemoryAccess
import ModuleHost.Proofs.GuestFault
import ModuleHost.Proofs.Registry.Backtraces
import ModuleHost.Proofs.Files
import ModuleHost.Proofs.Registry.Loading
import ModuleHost.Proofs.Instance.Failures
import ModuleHost.Proofs.Registry.StartFailures
import ModuleHost.Proofs.Signature
