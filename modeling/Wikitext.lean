import Wikitext.Article.Basic
import Wikitext.Article.Fixes
import Wikitext.Article.Operation
import Wikitext.Brackets
import Wikitext.Calendar
import Wikitext.Chars.Basic
import Wikitext.Chars.Base
import Wikitext.Chars.Case
import Wikitext.Chars.Entity
import Wikitext.Chars.GeneralCategory
import Wikitext.Chars.Script
import Wikitext.Chars.Word
import Wikitext.Command.Argument
import Wikitext.Command.Basic
import Wikitext.Command.Run
import Wikitext.Command.Scan
import Wikitext.Diff.Html
import Wikitext.Diff.Hunk
import Wikitext.Diff.Lines
import Wikitext.Diff.Matching
import Wikitext.Diff.Row
import Wikitext.Diff.Undo
import Wikitext.Diff.Word
import Wikitext.Dump.Element
import Wikitext.Dump.Pages
import Wikitext.Dump.Timestamp
import Wikitext.Fix.BoldTitle
import Wikitext.Fix.Characters
import Wikitext.Fix.Links
import Wikitext.Fix.References
import Wikitext.Fix.Syntax
import Wikitext.Fix.Typography
import Wikitext.Image
import Wikitext.Job
import Wikitext.Json.Basic
import Wikitext.Keyword
import Wikitext.Main
import Wikitext.Mask.Basic
import Wikitext.Mask.Placeholder
import Wikitext.Pattern.Backtrack
import Wikitext.Pattern.ClassName
import Wikitext.Pattern.Program
import Wikitext.Pattern.Reader
import Wikitext.Pattern.Search
import Wikitext.Profile.Reader
import Wikitext.Proofs.Article.Attribution
import Wikitext.Proofs.Article.Completion
import Wikitext.Proofs.Article.Log
import Wikitext.Proofs.Article.Protection
import Wikitext.Proofs.Article.Rollback
import Wikitext.Proofs.Article.Stability
import Wikitext.Proofs.Brackets.Open
import Wikitext.Proofs.Brackets.Pairs
import Wikitext.Proofs.Category.Add
import Wikitext.Proofs.Category.Canonical
import Wikitext.Proofs.Category.Link
import Wikitext.Proofs.Category.Name
import Wikitext.Proofs.Category.Replace
import Wikitext.Proofs.Command.Scan
import Wikitext.Proofs.Diff.Chains
import Wikitext.Proofs.Diff.Html
import Wikitext.Proofs.Diff.Hunks
import Wikitext.Proofs.Diff.Lines
import Wikitext.Proofs.Diff.Links
import Wikitext.Proofs.Diff.Matching
import Wikitext.Proofs.Diff.Rows
import Wikitext.Proofs.Diff.Subsequence
import Wikitext.Proofs.Diff.Undo
import Wikitext.Proofs.Diff.View
import Wikitext.Proofs.Diff.Words
import Wikitext.Proofs.Dump.Export
import Wikitext.Proofs.Dump.Passing
import Wikitext.Proofs.Dump.Reading
import Wikitext.Proofs.Dump.Rendering
import Wikitext.Proofs.Dump.Rewriting
import Wikitext.Proofs.Dump.SiteInfo
import Wikitext.Proofs.Dump.Strict
import Wikitext.Proofs.Dump.Timestamp
import Wikitext.Proofs.Dump.Truncation
import Wikitext.Proofs.Fix.BoldTitle
import Wikitext.Proofs.Fix.Characters
import Wikitext.Proofs.Fix.CitationDates
import Wikitext.Proofs.Fix.Citations
import Wikitext.Proofs.Fix.Dashes
import Wikitext.Proofs.Fix.DateForms
import Wikitext.Proofs.Fix.Dates
import Wikitext.Proofs.Fix.Descent
import Wikitext.Proofs.Fix.Harmless
import Wikitext.Proofs.Fix.HeadingForm
import Wikitext.Proofs.Fix.Headings
import Wikitext.Proofs.Fix.Labels
import Wikitext.Proofs.Fix.LineBreaks
import Wikitext.Proofs.Fix.LinkEdges
import Wikitext.Proofs.Fix.Links
import Wikitext.Proofs.Fix.Metadata
import Wikitext.Proofs.Fix.Names
import Wikitext.Proofs.Fix.Passes
import Wikitext.Proofs.Fix.ReferenceList
import Wikitext.Proofs.Fix.Repeats
import Wikitext.Proofs.Fix.Rest
import Wikitext.Proofs.Fix.Shrinking
import Wikitext.Proofs.Fix.Syntax
import Wikitext.Proofs.Fix.Tables
import Wikitext.Proofs.Fix.Text
import Wikitext.Proofs.Fix.Unmasked
import Wikitext.Proofs.Fix.WhiteSpace
import Wikitext.Proofs.Image.Comments
import Wikitext.Proofs.Image.Link
import Wikitext.Proofs.Image.Replace
import Wikitext.Proofs.Job
import Wikitext.Proofs.Mask.Alike
import Wikitext.Proofs.Mask.Case
import Wikitext.Proofs.Mask.Cover
import Wikitext.Proofs.Mask.Edit
import Wikitext.Proofs.Mask.Impartial
import Wikitext.Proofs.Mask.Order
import Wikitext.Proofs.Mask.Pass
import Wikitext.Proofs.Mask.Placeholder
import Wikitext.Proofs.Mask.Regions
import Wikitext.Proofs.Mask.Restore
import Wikitext.Proofs.Mask.RoundTrip
import Wikitext.Proofs.Mask.Visible
import Wikitext.Proofs.Mask.Walk
import Wikitext.Proofs.Metadata.BlankLines
import Wikitext.Proofs.Metadata.DefaultSort
import Wikitext.Proofs.Metadata.Kinds
import Wikitext.Proofs.Metadata.Order
import Wikitext.Proofs.Metadata.Removal
import Wikitext.Proofs.Metadata.Searched
import Wikitext.Proofs.Pattern.Context
import Wikitext.Proofs.Pattern.Ends
import Wikitext.Proofs.Pattern.Expansion
import Wikitext.Proofs.Pattern.Fields
import Wikitext.Proofs.Pattern.Found
import Wikitext.Proofs.Pattern.Language
import Wikitext.Proofs.Pattern.Literal
import Wikitext.Proofs.Pattern.Memory
import Wikitext.Proofs.Pattern.Outline
import Wikitext.Proofs.Pattern.Phrase
import Wikitext.Proofs.Pattern.Pieces
import Wikitext.Proofs.Pattern.Preference
import Wikitext.Proofs.Pattern.Reader
import Wikitext.Proofs.Pattern.Shape
import Wikitext.Proofs.Pattern.Ways
import Wikitext.Proofs.Pattern.Words
import Wikitext.Proofs.Reference.Attributes
import Wikitext.Proofs.Reference.Named
import Wikitext.Proofs.Reference.Scan
import Wikitext.Proofs.Reference.Spelling
import Wikitext.Proofs.Reference.Tag
import Wikitext.Proofs.Reference.Unnamed
import Wikitext.Proofs.ReferenceList
import Wikitext.Proofs.Rule.Append
import Wikitext.Proofs.Rule.Literal
import Wikitext.Proofs.Rule.Regions
import Wikitext.Proofs.Rule.Template
import Wikitext.Proofs.SortKey
import Wikitext.Proofs.Stretch
import Wikitext.Proofs.Summary
import Wikitext.Proofs.Text.Accents
import Wikitext.Proofs.Text.Basic
import Wikitext.Proofs.Text.Blank
import Wikitext.Proofs.Text.Division
import Wikitext.Proofs.Text.Feeds
import Wikitext.Proofs.Text.Kinds
import Wikitext.Proofs.Text.Number
import Wikitext.Proofs.Text.Runs
import Wikitext.Proofs.Text.Upper
import Wikitext.Proofs.Title
import Wikitext.Proofs.Xml.Beginning
import Wikitext.Proofs.Xml.Document
import Wikitext.Proofs.Xml.Rendering
import Wikitext.Proofs.Xml.Tag
import Wikitext.ReferenceList
import Wikitext.Region
import Wikitext.Rule.Basic
import Wikitext.Rule.List
import Wikitext.Rule.Reader
import Wikitext.Summary
import Wikitext.Text.Basic
import Wikitext.Text.Number
import Wikitext.Title
import Wikitext.Toml.Basic
import Wikitext.Toml.Document
import Wikitext.Xml.Attribute
import Wikitext.Xml.Event
