import FilingChecklist.Catalog.Strict
import FilingChecklist.Main
import FilingChecklist.Store.Change
import FilingChecklist.Proofs.Checklist.Composition
import FilingChecklist.Proofs.Rule.Positions
import FilingChecklist.Proofs.Checklist.Independence
import FilingChecklist.Proofs.Rule.Pruning
import FilingChecklist.Proofs.Catalog.Columns
import FilingChecklist.Proofs.Store.Runs
import FilingChecklist.Proofs.Rule.Leaves
import FilingChecklist.Proofs.Rule.Conditions
import FilingChecklist.Proofs.Rule.Dispatch
import FilingChecklist.Proofs.Rule.Membership
import FilingChecklist.Proofs.Catalog.StrictReading
import FilingChecklist.Proofs.Rule.Substrings
import FilingChecklist.Proofs.Rule.Spellings
import FilingChecklist.Proofs.Path.Addresses
import FilingChecklist.Proofs.Rule.Aliases
import FilingChecklist.Proofs.Rule.Respacing
import FilingChecklist.Proofs.Shorthand.Grammar
import FilingChecklist.Proofs.Json.Foreign
import FilingChecklist.Proofs.Shorthand.Attributes
import FilingChecklist.Proofs.Rule.Locality
import FilingChecklist.Proofs.Rule.Reflexivity
import FilingChecklist.Proofs.Rule.Families
import FilingChecklist.Proofs.Rule.Algebra
import FilingChecklist.Proofs.Rule.Depth
import FilingChecklist.Proofs.Checklist.Parameters
import FilingChecklist.Proofs.Store.Attributes
import FilingChecklist.Proofs.Rule.Comparisons
import FilingChecklist.Proofs.Catalog.ReadBack
import FilingChecklist.Proofs.Rule.LooseEquality
import FilingChecklist.Proofs.Catalog.RequiredColumns
import FilingChecklist.Proofs.Rule.PrintedText
import FilingChecklist.Proofs.Decimal.Rounding
import FilingChecklist.Proofs.Decimal.Written
import FilingChecklist.Proofs.Json.Written
