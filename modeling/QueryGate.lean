import QueryGate.Text.Word
import QueryGate.Text.Blank
import QueryGate.Text.Segments
import QueryGate.Text.Casing
import QueryGate.Text.Quoted
import QueryGate.Number.Layout
import QueryGate.Number.Reader
import QueryGate.Json.Reader
import QueryGate.Json.Writer
import QueryGate.Event
import QueryGate.Config
import QueryGate.Whitelist
import QueryGate.Model.Path
import QueryGate.Sql.Render
import QueryGate.Sql.Truth
import QueryGate.Operation
import QueryGate.Request.Body
import QueryGate.Request.QueryString
import QueryGate.Builder
import QueryGate.Declaration.Basic
import QueryGate.Proofs.Success
import QueryGate.Proofs.Text.Bytes
import QueryGate.Proofs.Text.Lowercase
import QueryGate.Proofs.Sql.Gathering
import QueryGate.Proofs.Filter.Reading
import QueryGate.Proofs.Filter.Gathering
import QueryGate.Proofs.Filter.Precedence
import QueryGate.Proofs.Build.Stages
import QueryGate.Proofs.Build.Restriction
import QueryGate.Proofs.Request.Grammar
import QueryGate.Proofs.Request.Spelling
import QueryGate.Proofs.Request.Acceptance
import QueryGate.Proofs.Model.Declared
import QueryGate.Proofs.Request.Fields
import QueryGate.Proofs.Request.Leaves
import QueryGate.Proofs.Build.References
import QueryGate.Proofs.Build.Reach
import QueryGate.Proofs.Build.Existence
import QueryGate.Proofs.Filter.Refusal
import QueryGate.Proofs.Build.Agreement
import QueryGate.Proofs.Model.Pattern
import QueryGate.Proofs.Whitelist.Language
import QueryGate.Proofs.Request.Depth
import QueryGate.Proofs.Build.Consistency
import QueryGate.Proofs.Build.Values
import QueryGate.Proofs.Build.Parameters
import QueryGate.Proofs.Sql.Conjuncts
import QueryGate.Proofs.Sql.Parameters
import QueryGate.Proofs.Sql.Matching
import QueryGate.Proofs.Build.Appending
import QueryGate.Proofs.Build.Levels
import QueryGate.Proofs.Build.Parallel
import QueryGate.Proofs.Json.Integers
import QueryGate.Proofs.Request.Integers
import QueryGate.Proofs.Request.QueryString
import QueryGate.Proofs.Request.Widening
import QueryGate.Proofs.Build.Progress
import QueryGate.Proofs.Build.Disclosure
import QueryGate.Proofs.Build.Legs
import QueryGate.Proofs.Build.Skipping
import QueryGate.Proofs.Build.Aliases
import QueryGate.Proofs.Build.Capture
import QueryGate.Proofs.Build.Apart
import QueryGate.Proofs.Declaration.Lists
import QueryGate.Proofs.Declaration.Flags
import QueryGate.Proofs.Declaration.Columns
import QueryGate.Proofs.Declaration.Effect
import QueryGate.Proofs.Search.Literal
import QueryGate.Proofs.Search.AnyCase
import QueryGate.Proofs.Request.Placement
import QueryGate.Proofs.Request.Places
import QueryGate.Proofs.Build.Membership
import QueryGate.Proofs.Build.Opposites
import QueryGate.Proofs.Request.Locality
import QueryGate.Proofs.Build.Walks
import QueryGate.Proofs.Page.Tiling
import QueryGate.Proofs.Search.Patterns
import QueryGate.Proofs.Build.JoinScopes
import QueryGate.Proofs.Model.ForeignKeys
import QueryGate.Proofs.Page.Size
import QueryGate.Proofs.Build.Parameterized
