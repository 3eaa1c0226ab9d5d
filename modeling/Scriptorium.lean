import Scriptorium.Artifact
import Scriptorium.Bytes
import Scriptorium.Code
import Scriptorium.Config
import Scriptorium.Config.Directory
import Scriptorium.Config.Reader
import Scriptorium.Context
import Scriptorium.Context.Compile
import Scriptorium.Context.Install
import Scriptorium.Diagnostic
import Scriptorium.Diagnostic.Sink
import Scriptorium.Digest
import Scriptorium.Digest.Xxh3
import Scriptorium.Double
import Scriptorium.Fault
import Scriptorium.FileTree
import Scriptorium.FileTree.Damage
import Scriptorium.Folding
import Scriptorium.Generator
import Scriptorium.Generator.Outline
import Scriptorium.Guard
import Scriptorium.IdMap
import Scriptorium.Install.Anchors
import Scriptorium.Install.Bench
import Scriptorium.Install.Error
import Scriptorium.Install.Installed
import Scriptorium.Install.Installer
import Scriptorium.Install.Target
import Scriptorium.Install.Verifier
import Scriptorium.Json.Escape
import Scriptorium.Json.Form
import Scriptorium.Json.Text
import Scriptorium.Json.Token
import Scriptorium.Json.Value
import Scriptorium.MemoryCache
import Scriptorium.MemoryCache.Shelf
import Scriptorium.Proofs.Context.Compile
import Scriptorium.Proofs.Context.Install
import Scriptorium.Proofs.Context.Opening
import Scriptorium.Proofs.Context.Restart
import Scriptorium.Proofs.Except
import Scriptorium.Proofs.FileTree
import Scriptorium.Proofs.Identity
import Scriptorium.Proofs.Install.Installer
import Scriptorium.Proofs.Record.Codec
import Scriptorium.Proofs.Record.Families
import Scriptorium.Proofs.Record.Store
import Scriptorium.Proofs.Record.Tampering
import Scriptorium.Proofs.Transparency
import Scriptorium.Proofs.Wire
import Scriptorium.Record
import Scriptorium.Record.Codec
import Scriptorium.Record.Error
import Scriptorium.Record.Key
import Scriptorium.Record.Store
import Scriptorium.Session
import Scriptorium.Slots
import Scriptorium.Source
import Scriptorium.Span
import Scriptorium.Text.Hidden
import Scriptorium.Text.Quoted
import Scriptorium.Toml.Document
import Scriptorium.Toml.Outline
import Scriptorium.Toml.Scalar
import Scriptorium.Toml.Text
import Scriptorium.Toml.Value
import Scriptorium.Wire
import Scriptorium.Proofs.MemoryCache
import Scriptorium.Proofs.Folding
import Scriptorium.Proofs.Context.History
import Scriptorium.Proofs.Context.Reuse
import Scriptorium.Proofs.Install.Filling
import Scriptorium.Proofs.Context.Attempt
import Scriptorium.Proofs.Context.Rotation
import Scriptorium.Proofs.Context.Frame
import Scriptorium.Proofs.Context.Numbering
import Scriptorium.Proofs.Context.Misses
import Scriptorium.Proofs.Session.Scopes
import Scriptorium.Proofs.Session.FoldingLog
import Scriptorium.Proofs.Session.Binding
import Scriptorium.Proofs.Session.SingleScope
import Scriptorium.Proofs.Context.Accounting
import Scriptorium.Proofs.Context.Failure
import Scriptorium.Proofs.Context.LastNumber
import Scriptorium.Proofs.Context.Lineage
import Scriptorium.Proofs.Record.Misplaced
import Scriptorium.Proofs.Record.Placement
import Scriptorium.Proofs.Install.Refusal
import Scriptorium.Proofs.Context.Selection
import Scriptorium.Proofs.Context.Isolation
import Scriptorium.Proofs.Context.Tenancy
import Scriptorium.Proofs.Record.Derivation
import Scriptorium.Proofs.Context.Diagnostics
import Scriptorium.Proofs.Context.Persistence
import Scriptorium.Proofs.Install.Anchors
import Scriptorium.Proofs.Context.Serials
import Scriptorium.Proofs.Context.Anchors
import Scriptorium.Proofs.Install.Host
import Scriptorium.Proofs.Session.Entering
import Scriptorium.Proofs.Config
