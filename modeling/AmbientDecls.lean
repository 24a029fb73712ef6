import AmbientDecls.Main
import AmbientDecls.Files.Zip.Writer
import AmbientDecls.Proofs.Data.Walk
import AmbientDecls.Proofs.Docs.Links
import AmbientDecls.Proofs.Docs.Lookup
import AmbientDecls.Proofs.Docs.Scans
import AmbientDecls.Proofs.Docs.Additions
import AmbientDecls.Proofs.Docs.Parents
import AmbientDecls.Proofs.Docs.Ancestors
import AmbientDecls.Proofs.Emit.Body
import AmbientDecls.Proofs.Emit.Hierarchy
import AmbientDecls.Proofs.Emit.Inheritance
import AmbientDecls.Proofs.Emit.Collisions
import AmbientDecls.Proofs.Files.Status
import AmbientDecls.Proofs.Build.Export
import AmbientDecls.Proofs.Types.Steady
import AmbientDecls.Proofs.Types.Aliases
import AmbientDecls.Proofs.Types.Dialogue
import AmbientDecls.Proofs.Data.Ascending
import AmbientDecls.Proofs.Docs.Order
import AmbientDecls.Proofs.Emit.Steady
import AmbientDecls.Proofs.Emit.History
import AmbientDecls.Proofs.Emit.Order
import AmbientDecls.Proofs.Types.Token
import AmbientDecls.Proofs.Types.Tree
import AmbientDecls.Proofs.Types.Reader
import AmbientDecls.Proofs.Types.Written
import AmbientDecls.Proofs.Data.Descent
import AmbientDecls.Proofs.Types.Meaning
import AmbientDecls.Proofs.Types.Shown
import AmbientDecls.Proofs.Types.PlainTypes
import AmbientDecls.Proofs.Types.Callbacks
import AmbientDecls.Proofs.Emit.Builtins
import AmbientDecls.Proofs.Emit.Capture
import AmbientDecls.Proofs.Emit.Bases
import AmbientDecls.Proofs.Emit.Options
import AmbientDecls.Proofs.Emit.Constructors
import AmbientDecls.Proofs.Emit.Layout
import AmbientDecls.Proofs.Build.Gating
import AmbientDecls.Proofs.Build.Formatting
import AmbientDecls.Proofs.Build.Download
import AmbientDecls.Proofs.Build.Confinement
import AmbientDecls.Proofs.Build.Unpacking
import AmbientDecls.Proofs.Build.Rebuild
import AmbientDecls.Proofs.Build.Declarations
import AmbientDecls.Proofs.Config.Expansion
import AmbientDecls.Proofs.Config.Shapes
import AmbientDecls.Proofs.Build.Records
import AmbientDecls.Proofs.CommandLine.Escapes
import AmbientDecls.Proofs.Types.Closure
import AmbientDecls.Proofs.Types.Reports
import AmbientDecls.Proofs.Emit.CallbackParameters
import AmbientDecls.Proofs.Emit.Accounts
import AmbientDecls.Proofs.Emit.Objects
import AmbientDecls.Proofs.Types.Reconversion
import AmbientDecls.Proofs.Types.Literals
import AmbientDecls.Proofs.Emit.PropertyTypes
import AmbientDecls.Proofs.Emit.Identifiers
import AmbientDecls.Proofs.Files.SafeNames
import AmbientDecls.Proofs.Emit.Keys
import AmbientDecls.Proofs.Emit.Comments
