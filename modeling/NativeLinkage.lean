import NativeLinkage.Descriptor.Octets
import NativeLinkage.Descriptor.Reader
import NativeLinkage.Descriptor.TypeSpec
import NativeLinkage.Main
import NativeLinkage.Proofs.Descriptor.Inversion
import NativeLinkage.Proofs.Descriptor.Construction
import NativeLinkage.Proofs.Descriptor.Components
import NativeLinkage.Proofs.Descriptor.Faults
import NativeLinkage.Proofs.Symbol.Demangling
import NativeLinkage.Proofs.Symbol.Uniqueness
import NativeLinkage.Proofs.Session.Table
import NativeLinkage.Proofs.Manifest.Grammar
import NativeLinkage.Proofs.Manifest.Lexing
import NativeLinkage.Proofs.Manifest.Acceptance
import NativeLinkage.Proofs.Manifest.Language
import NativeLinkage.Proofs.Session.Batch
import NativeLinkage.Proofs.Session.Order
import NativeLinkage.Proofs.Command.FileTree
import NativeLinkage.Proofs.Command.Isolation
import NativeLinkage.Proofs.Manifest.SingleLine
import NativeLinkage.Proofs.Manifest.Demand
import NativeLinkage.Proofs.Manifest.Refusal
import NativeLinkage.Proofs.Stub.Characters
import NativeLinkage.Proofs.Header.Comments
import NativeLinkage.Proofs.Source.Agreement
import NativeLinkage.Proofs.Manifest.Lines
import NativeLinkage.Proofs.Command.Delivery
import NativeLinkage.Proofs.Command.Accounting
import NativeLinkage.Proofs.Symbol.Recovery
import NativeLinkage.Proofs.Source.Targets
import NativeLinkage.Proofs.Source.Calls
import NativeLinkage.Proofs.Basic
import NativeLinkage.Proofs.Request.Resolution
import NativeLinkage.Proofs.Request.Canonical
import NativeLinkage.Proofs.Stub.Signature
import NativeLinkage.Proofs.Unicode.Utf8
import NativeLinkage.Proofs.Descriptor.Octets
import NativeLinkage.Proofs.Descriptor.Progress
import NativeLinkage.Proofs.Manifest.Composition
import NativeLinkage.Proofs.Symbol.Units
import NativeLinkage.Proofs.Descriptor.Levels
import NativeLinkage.Proofs.Manifest.LineEnds
import NativeLinkage.Proofs.Manifest.FieldOrder
