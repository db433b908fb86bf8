import TestTwins.Blank
import TestTwins.Cluster
import TestTwins.Collector
import TestTwins.Config
import TestTwins.Config.Layers
import TestTwins.Config.Text
import TestTwins.Coverage.Fingerprint
import TestTwins.Coverage.Measurement
import TestTwins.Coverage.Record
import TestTwins.Decimal
import TestTwins.Detector
import TestTwins.Diagnostics
import TestTwins.Digest
import TestTwins.Digit
import TestTwins.Disk
import TestTwins.Error
import TestTwins.Features.Signature
import TestTwins.Features.Table
import TestTwins.Json
import TestTwins.Json.Decode
import TestTwins.Json.Printer
import TestTwins.Json.Reader
import TestTwins.Moment
import TestTwins.OrderedSet
import TestTwins.Path
import TestTwins.Program
import TestTwins.Python.Grammar.Basic
import TestTwins.Python.Grammar.Expression
import TestTwins.Python.Grammar.Pattern
import TestTwins.Python.Grammar.Statement
import TestTwins.Python.Identifier
import TestTwins.Python.Module
import TestTwins.Python.Node
import TestTwins.Python.Token
import TestTwins.Report
import TestTwins.Runner
import TestTwins.Scalar
import TestTwins.Shell.Arithmetic
import TestTwins.Shell.Run
import TestTwins.Shell.Syntax
import TestTwins.Similarity.Engine
import TestTwins.Similarity.Jaccard
import TestTwins.Sources.Matching
import TestTwins.Sources.Resolver
import TestTwins.Store
import TestTwins.Store.Record
import TestTwins.Store.Retention
import TestTwins.Store.Trends
import TestTwins.Table
import TestTwins.TestId
import TestTwins.Toml
import TestTwins.Toml.Printer
import TestTwins.Toml.Reader
import TestTwins.Word
import TestTwins.Proofs.AdmittedRecords
import TestTwins.Proofs.Clustering
import TestTwins.Proofs.CoherentScores
import TestTwins.Proofs.CollectorHistory
import TestTwins.Proofs.ConfigLayers
import TestTwins.Proofs.ConfigText
import TestTwins.Proofs.Copies
import TestTwins.Proofs.CoverageJson
import TestTwins.Proofs.DetectorHistory
import TestTwins.Proofs.DetectorOutput
import TestTwins.Proofs.DisjointCoverage
import TestTwins.Proofs.DiskLaws
import TestTwins.Proofs.EngineCache
import TestTwins.Proofs.FunctionNames
import TestTwins.Proofs.JsonNumbers
import TestTwins.Proofs.JsonText
import TestTwins.Proofs.PathLaws
import TestTwins.Proofs.Questions
import TestTwins.Proofs.RecordText
import TestTwins.Proofs.RepeatedNames
import TestTwins.Proofs.SessionProtocol
import TestTwins.Proofs.SignatureLog
import TestTwins.Proofs.SourceLines
import TestTwins.Proofs.StoreKeys
import TestTwins.Proofs.StoreMaps
import TestTwins.Proofs.StoreRuns
import TestTwins.Proofs.SuiteKeys
import TestTwins.Proofs.TomlNumbers
import TestTwins.Proofs.TomlStrings
import TestTwins.Proofs.TomlText
import TestTwins.Proofs.PairScores
import TestTwins.Proofs.DiskTrees
import TestTwins.Proofs.FeatureText
import TestTwins.Proofs.SourceSelection
import TestTwins.Proofs.PathAncestors
import TestTwins.Proofs.SearchedDirectories
import TestTwins.Proofs.ImportRoots
import TestTwins.Proofs.SourceCaps
import TestTwins.Proofs.MomentLaws
import TestTwins.Proofs.Folders
import TestTwins.Proofs.Expiry
import TestTwins.Proofs.SessionListing
import TestTwins.Proofs.SessionQueries
import TestTwins.Proofs.Ranking
import TestTwins.Proofs.DoubleOrder
import TestTwins.Proofs.NearestSignatures
import TestTwins.Proofs.HashedText
import TestTwins.Proofs.FingerprintVectors
import TestTwins.Proofs.FingerprintQueries
import TestTwins.Proofs.KeyForms
import TestTwins.Proofs.ListedPairs
import TestTwins.Proofs.MeanScores
import TestTwins.Proofs.AskedPairs
import TestTwins.Proofs.CommentedTrees
import TestTwins.Proofs.CommentedFeatures
import TestTwins.Proofs.InertStore
import TestTwins.Proofs.LevelOrder
