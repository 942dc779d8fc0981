import SpecCoverage.Catalog
import SpecCoverage.Command.Arguments
import SpecCoverage.Command.Run
import SpecCoverage.Declaration.Basic
import SpecCoverage.Declaration.Pattern
import SpecCoverage.Declaration.Scan
import SpecCoverage.Disk.Basic
import SpecCoverage.Disk.Change
import SpecCoverage.Disk.Resolve
import SpecCoverage.Feature.Basic
import SpecCoverage.Feature.Reader
import SpecCoverage.Feature.Scope
import SpecCoverage.Feature.Title
import SpecCoverage.Folder
import SpecCoverage.Json.Basic
import SpecCoverage.Json.Decode
import SpecCoverage.Json.Lexer
import SpecCoverage.Json.Reader
import SpecCoverage.Language
import SpecCoverage.Main
import SpecCoverage.Matrix.Basic
import SpecCoverage.Matrix.Build
import SpecCoverage.Matrix.Join
import SpecCoverage.Matrix.Summary
import SpecCoverage.Message
import SpecCoverage.Numeric.Binary64
import SpecCoverage.Order.SortedMap
import SpecCoverage.Order.SortedSet
import SpecCoverage.Page.Assets
import SpecCoverage.Page.Html
import SpecCoverage.Page.Link
import SpecCoverage.Page.Markup
import SpecCoverage.Page.View
import SpecCoverage.Path
import SpecCoverage.Pipeline
import SpecCoverage.Report.Basic
import SpecCoverage.Report.CrossReference
import SpecCoverage.Report.Document
import SpecCoverage.Report.Log
import SpecCoverage.Report.OfDocument
import SpecCoverage.Report.Verdict
import SpecCoverage.Settings.Basic
import SpecCoverage.Settings.Check
import SpecCoverage.Settings.Document
import SpecCoverage.Settings.Load
import SpecCoverage.SourceCache
import SpecCoverage.Spelling
import SpecCoverage.Table
import SpecCoverage.Text.Ascii
import SpecCoverage.Text.Blank
import SpecCoverage.Text.Case
import SpecCoverage.Text.CaseTables
import SpecCoverage.Text.Character
import SpecCoverage.Text.CharacterTables
import SpecCoverage.Text.Cut
import SpecCoverage.Text.Line
import SpecCoverage.Text.Utf8
import SpecCoverage.Toml.Basic
import SpecCoverage.Toml.Decode
import SpecCoverage.Toml.Lexer
import SpecCoverage.Toml.Moment
import SpecCoverage.Toml.Reader
import SpecCoverage.Toml.Scalar
import SpecCoverage.Toml.Table
import SpecCoverage.Validator.Bridge
import SpecCoverage.Validator.Freshness
import SpecCoverage.Validator.Host
import SpecCoverage.Proofs.Order
import SpecCoverage.Proofs.LanguageOrder
import SpecCoverage.Proofs.Traversal
import SpecCoverage.Proofs.Build
import SpecCoverage.Proofs.Join
import SpecCoverage.Proofs.FullRank
import SpecCoverage.Proofs.Coverage
import SpecCoverage.Proofs.Ownership
import SpecCoverage.Proofs.Trimming
import SpecCoverage.Proofs.Cutting
import SpecCoverage.Proofs.PrintedLog
import SpecCoverage.Proofs.LogLines
import SpecCoverage.Proofs.LogReading
import SpecCoverage.Proofs.SpecificationText
import SpecCoverage.Proofs.FeatureReading
import SpecCoverage.Proofs.BridgeCalls
import SpecCoverage.Proofs.BridgePeriods
import SpecCoverage.Proofs.PageRows
import SpecCoverage.Proofs.Owners
import SpecCoverage.Proofs.Fragments
import SpecCoverage.Proofs.RecordLinks
import SpecCoverage.Proofs.PageSafety
import SpecCoverage.Proofs.RecordMerge
import SpecCoverage.Proofs.JoinDependence
import SpecCoverage.Proofs.PageLinks
import SpecCoverage.Proofs.LinkTargets
import SpecCoverage.Proofs.Dialects
import SpecCoverage.Proofs.PageBlocks
import SpecCoverage.Proofs.PagePanels
import SpecCoverage.Proofs.Views
import SpecCoverage.Proofs.InternalLinks
import SpecCoverage.Proofs.PageIds
import SpecCoverage.Proofs.TabListings
import SpecCoverage.Proofs.BridgedMatrix
import SpecCoverage.Proofs.PathParts
import SpecCoverage.Proofs.Walks
import SpecCoverage.Proofs.SourceReads
import SpecCoverage.Proofs.CatalogPeriods
import SpecCoverage.Proofs.DiskTree
import SpecCoverage.Proofs.CatalogLoading
import SpecCoverage.Proofs.NormalizedPaths
import SpecCoverage.Proofs.OutsideFiles
import SpecCoverage.Proofs.TwoBuilds
import SpecCoverage.Proofs.AddedFeature
import SpecCoverage.Proofs.ReducedSpellings
import SpecCoverage.Proofs.ConfiguredLanguages
import SpecCoverage.Proofs.HandedSettings
import SpecCoverage.Proofs.JsonShapes
import SpecCoverage.Proofs.JsonText
import SpecCoverage.Proofs.Presentation
import SpecCoverage.Proofs.DeclaredNames
import SpecCoverage.Proofs.ScannedLines
import SpecCoverage.Proofs.DeclarationScan
import SpecCoverage.Proofs.ScanWindow
import SpecCoverage.Proofs.LineAssignment
import SpecCoverage.Proofs.ScenarioLinks
import SpecCoverage.Proofs.RelativePaths
import SpecCoverage.Proofs.LogVerdicts
import SpecCoverage.Proofs.Rounding
import SpecCoverage.Proofs.CoverageClasses
import SpecCoverage.Proofs.ScenarioFlags
import SpecCoverage.Proofs.LineFeeds
import SpecCoverage.Proofs.TableLayout
import SpecCoverage.Proofs.Timestamps
import SpecCoverage.Proofs.Staleness
import SpecCoverage.Proofs.EscapedText
import SpecCoverage.Proofs.Replacing
import SpecCoverage.Proofs.Templates
import SpecCoverage.Proofs.FilledMessages
