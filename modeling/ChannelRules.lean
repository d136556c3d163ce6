import ChannelRules.Builtin.Native
import ChannelRules.Builtin.Overload
import ChannelRules.Builtin.Table
import ChannelRules.Calendar.Day
import ChannelRules.Calendar.Instant
import ChannelRules.Calendar.Text
import ChannelRules.Catalog.Basic
import ChannelRules.Catalog.BatchCache
import ChannelRules.Catalog.Interleaving
import ChannelRules.Catalog.Retriever
import ChannelRules.Chain
import ChannelRules.Check.Action
import ChannelRules.Check.Channel
import ChannelRules.Check.Clause
import ChannelRules.Check.Error
import ChannelRules.Check.Expr
import ChannelRules.Check.Kinds
import ChannelRules.Check.Program
import ChannelRules.Check.State
import ChannelRules.Code.Clause
import ChannelRules.Code.Expr
import ChannelRules.Code.Filter
import ChannelRules.Code.Rule
import ChannelRules.Codec.Fields
import ChannelRules.Codec.Source
import ChannelRules.Codec.Value
import ChannelRules.CommandLine
import ChannelRules.CommandLine.Options
import ChannelRules.Decimal.Binary
import ChannelRules.Decimal.Shortest
import ChannelRules.Decimal.Text
import ChannelRules.Engine
import ChannelRules.Env.Basic
import ChannelRules.Env.Eval
import ChannelRules.Env.Format
import ChannelRules.Env.Session
import ChannelRules.Fold
import ChannelRules.Json.Basic
import ChannelRules.Json.Printer
import ChannelRules.Json.Reader
import ChannelRules.Main
import ChannelRules.Named
import ChannelRules.Noted
import ChannelRules.Pattern.Basic
import ChannelRules.Pattern.Engine
import ChannelRules.Pattern.Machine
import ChannelRules.Pattern.Meaning
import ChannelRules.Pattern.Reader
import ChannelRules.Pattern.Size
import ChannelRules.Pattern.Written
import ChannelRules.Proofs.Bound
import ChannelRules.Proofs.Builtin.Based
import ChannelRules.Proofs.Builtin.Bound
import ChannelRules.Proofs.Builtin.Chosen
import ChannelRules.Proofs.Builtin.Conditions
import ChannelRules.Proofs.Builtin.Dates
import ChannelRules.Proofs.Builtin.Native
import ChannelRules.Proofs.Builtin.Overload
import ChannelRules.Proofs.Builtin.Sound
import ChannelRules.Proofs.Builtin.Table
import ChannelRules.Proofs.Calendar.Day
import ChannelRules.Proofs.Calendar.Moved
import ChannelRules.Proofs.Calendar.Text
import ChannelRules.Proofs.Catalog.Answered
import ChannelRules.Proofs.Catalog.Coalesced
import ChannelRules.Proofs.Catalog.Coherent
import ChannelRules.Proofs.Catalog.Runs
import ChannelRules.Proofs.Chain
import ChannelRules.Proofs.Check.Apart
import ChannelRules.Proofs.Check.Arranged
import ChannelRules.Proofs.Check.Arrays
import ChannelRules.Proofs.Check.Declared
import ChannelRules.Proofs.Check.Expr
import ChannelRules.Proofs.Check.Forms
import ChannelRules.Proofs.Check.Gathered
import ChannelRules.Proofs.Check.Keywords
import ChannelRules.Proofs.Check.Kinds
import ChannelRules.Proofs.Check.Layer
import ChannelRules.Proofs.Check.Naming
import ChannelRules.Proofs.Check.Placed
import ChannelRules.Proofs.Check.Plain
import ChannelRules.Proofs.Check.Scoped
import ChannelRules.Proofs.Check.Settled
import ChannelRules.Proofs.Code.Accepted
import ChannelRules.Proofs.Code.Bound
import ChannelRules.Proofs.Code.Branches
import ChannelRules.Proofs.Code.Clause
import ChannelRules.Proofs.Code.Expr
import ChannelRules.Proofs.Code.Filter
import ChannelRules.Proofs.Code.Frame
import ChannelRules.Proofs.Code.Kept
import ChannelRules.Proofs.Code.Locals
import ChannelRules.Proofs.Code.Places
import ChannelRules.Proofs.Code.Prefilter
import ChannelRules.Proofs.Code.Reads
import ChannelRules.Proofs.Code.Reported
import ChannelRules.Proofs.Code.Rule
import ChannelRules.Proofs.Code.Slots
import ChannelRules.Proofs.Code.Step
import ChannelRules.Proofs.Code.Subcodes
import ChannelRules.Proofs.Code.Typing
import ChannelRules.Proofs.Comparison
import ChannelRules.Proofs.Decimal.Binary
import ChannelRules.Proofs.Decimal.Order
import ChannelRules.Proofs.Decimal.Packed
import ChannelRules.Proofs.Decimal.Rounding
import ChannelRules.Proofs.Decimal.Shortest
import ChannelRules.Proofs.Decimal.Text
import ChannelRules.Proofs.Decimal.Whole
import ChannelRules.Proofs.Engine
import ChannelRules.Proofs.Eval
import ChannelRules.Proofs.Fold.Expr
import ChannelRules.Proofs.Fold.Filter
import ChannelRules.Proofs.Fold.Idempotent
import ChannelRules.Proofs.Fold.Once
import ChannelRules.Proofs.Fold.Rule
import ChannelRules.Proofs.Fold.Scoped
import ChannelRules.Proofs.Named
import ChannelRules.Proofs.Scope
import ChannelRules.Proofs.Sequence
import ChannelRules.Proofs.Ty.Accepted
import ChannelRules.Proofs.Ty.Based
import ChannelRules.Proofs.Ty.Clash
import ChannelRules.Proofs.Ty.Compatible
import ChannelRules.Proofs.Ty.Endless
import ChannelRules.Proofs.Ty.Fuel
import ChannelRules.Proofs.Ty.Grammar
import ChannelRules.Proofs.Ty.Inhabits
import ChannelRules.Proofs.Ty.Joint
import ChannelRules.Proofs.Ty.Kept
import ChannelRules.Proofs.Ty.Le
import ChannelRules.Proofs.Ty.Order
import ChannelRules.Proofs.Ty.Resolved
import ChannelRules.Proofs.Ty.Shape
import ChannelRules.Proofs.Ty.Steady
import ChannelRules.Proofs.Ty.Substituted
import ChannelRules.Proofs.Ty.Symmetry
import ChannelRules.Proofs.Ty.Text
import ChannelRules.Proofs.Ty.Token
import ChannelRules.Proofs.Ty.Unify
import ChannelRules.Proofs.Ty.Written
import ChannelRules.Proofs.Typed.Scoped
import ChannelRules.Proofs.Units
import ChannelRules.Proofs.Value.Alike
import ChannelRules.Proofs.Value.Arrays
import ChannelRules.Proofs.Value.Compare
import ChannelRules.Proofs.Value.Forms
import ChannelRules.Proofs.Value.Keys
import ChannelRules.Proofs.Value.Literal
import ChannelRules.Proofs.Value.Normal
import ChannelRules.Proofs.Value.Parts
import ChannelRules.Proofs.Value.Restored
import ChannelRules.Scope
import ChannelRules.Settings
import ChannelRules.Source.Basic
import ChannelRules.Source.Order
import ChannelRules.Text.Age
import ChannelRules.Text.Alphanumeric
import ChannelRules.Text.Blank
import ChannelRules.Text.Break
import ChannelRules.Text.Case
import ChannelRules.Text.Category
import ChannelRules.Text.Category.Letter
import ChannelRules.Text.Category.Mark
import ChannelRules.Text.Category.Number
import ChannelRules.Text.Category.Punctuation
import ChannelRules.Text.Category.Separator
import ChannelRules.Text.Category.Symbol
import ChannelRules.Text.CharSet
import ChannelRules.Text.CodePoints
import ChannelRules.Text.NamedSet
import ChannelRules.Text.Newest
import ChannelRules.Text.Property
import ChannelRules.Text.Property.Casing
import ChannelRules.Text.Property.Emoji
import ChannelRules.Text.Property.Listed
import ChannelRules.Text.Property.Other
import ChannelRules.Text.Quoted
import ChannelRules.Text.Script
import ChannelRules.Text.Script.Shared
import ChannelRules.Text.Shown
import ChannelRules.Text.Utf8
import ChannelRules.Text.Word
import ChannelRules.Ty.Basic
import ChannelRules.Ty.Printer
import ChannelRules.Ty.Reader
import ChannelRules.Ty.Substitute
import ChannelRules.Ty.Unify
import ChannelRules.Typed.Basic
import ChannelRules.Typed.Visit
import ChannelRules.Units
import ChannelRules.Value.Basic
import ChannelRules.Value.Compare
import ChannelRules.Value.Text
