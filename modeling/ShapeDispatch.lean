import ShapeDispatch.Kind
import ShapeDispatch.Node
import ShapeDispatch.Tree
import ShapeDispatch.Text.Blank
import ShapeDispatch.Text.GraphemeExtend
import ShapeDispatch.Text.Printable
import ShapeDispatch.Text.Quoted
import ShapeDispatch.Text.Reading
import ShapeDispatch.Pattern.Basic
import ShapeDispatch.Pattern.LabelledRule
import ShapeDispatch.Pattern.Parser
import ShapeDispatch.Log
import ShapeDispatch.Store.Basic
import ShapeDispatch.Store.Holders
import ShapeDispatch.Store.View
import ShapeDispatch.Handle.Basic
import ShapeDispatch.Handle.Error
import ShapeDispatch.Handle.Projection
import ShapeDispatch.RuleTable.Basic
import ShapeDispatch.RuleTable.Dispatch
import ShapeDispatch.RuleTable.Dump
import ShapeDispatch.RuleTable.Labelled
import ShapeDispatch.Demo
import ShapeDispatch.CommandLine.Options
import ShapeDispatch.CommandLine.Report
import ShapeDispatch.Workspace.Basic
import ShapeDispatch.Workspace.Bindings
import ShapeDispatch.Workspace.Command
import ShapeDispatch.Workspace.Query
import ShapeDispatch.Workspace.Step
import ShapeDispatch.Main
import ShapeDispatch.Proofs.TreeShape
import ShapeDispatch.Proofs.PatternInclusion
import ShapeDispatch.Proofs.RuleOrder
import ShapeDispatch.Proofs.DispatchOrder
import ShapeDispatch.Proofs.UnambiguousRules
import ShapeDispatch.Proofs.PatternReading
import ShapeDispatch.Proofs.PatternGrammar
import ShapeDispatch.Proofs.Commitment
import ShapeDispatch.Proofs.CommittingPatterns
import ShapeDispatch.Proofs.PatternSpelling
import ShapeDispatch.Proofs.ParsePositions
import ShapeDispatch.Proofs.RuleHalves
import ShapeDispatch.Proofs.HolderCounts
import ShapeDispatch.Proofs.WorkspaceChanges
import ShapeDispatch.Proofs.HeldNodes
import ShapeDispatch.Proofs.StoredTrees
import ShapeDispatch.Proofs.IndistinguishableTrees
import ShapeDispatch.Proofs.RenderedPatterns
import ShapeDispatch.Proofs.LastingNodes
import ShapeDispatch.Proofs.HonestHandles
import ShapeDispatch.Proofs.WholeTrees
import ShapeDispatch.Proofs.UntouchedHandles
import ShapeDispatch.Proofs.StableOrder
import ShapeDispatch.Proofs.ErasedIntegers
import ShapeDispatch.Proofs.LabelledAnswers
import ShapeDispatch.Proofs.WholeTranscripts
import ShapeDispatch.Proofs.Unwinding
import ShapeDispatch.Proofs.TracelessFailures
import ShapeDispatch.Proofs.BuiltTrees
import ShapeDispatch.Proofs.DistinctPatterns
import ShapeDispatch.Proofs.Positions
import ShapeDispatch.Proofs.FaithfulTexts
import ShapeDispatch.Proofs.ProjectedWalks
import ShapeDispatch.Proofs.ReadableDumps
import ShapeDispatch.Proofs.ReaderProgress
import ShapeDispatch.Proofs.ConversionChains
import ShapeDispatch.Proofs.DefaultRules
import ShapeDispatch.Proofs.LabelSpaces
