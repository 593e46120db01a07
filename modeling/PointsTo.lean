import PointsTo.HierarchyAnalysis
import PointsTo.Command.Run
import PointsTo.Description.Decode
import PointsTo.Main
import PointsTo.Solution
import PointsTo.Proofs.Interpreter
import PointsTo.Proofs.PossibleClasses
import PointsTo.Proofs.CallSearch
import PointsTo.Proofs.CheckedSteps
import PointsTo.Proofs.CheckedRuns
import PointsTo.Proofs.Precision
import PointsTo.Proofs.Members
import PointsTo.Proofs.CallPaths
import PointsTo.Proofs.Coherence
import PointsTo.Proofs.Subtypes
import PointsTo.Proofs.SubtypeCalls
import PointsTo.Proofs.Registry
import PointsTo.Proofs.Renaming
import PointsTo.Proofs.Growth
import PointsTo.Proofs.Bodies
import PointsTo.Proofs.Completion
import PointsTo.Proofs.Twins
import PointsTo.Proofs.Frames
import PointsTo.Proofs.DeclarationSteps
import PointsTo.Proofs.Declarations
import PointsTo.Proofs.Denotation
import PointsTo.Proofs.Faithfulness
import PointsTo.Proofs.Reordering
import PointsTo.Proofs.StatementOrder
import PointsTo.Proofs.Representation
import PointsTo.Proofs.Naming
import PointsTo.Proofs.Receivers
import PointsTo.Proofs.Inheritance
import PointsTo.Proofs.Ancestry
import PointsTo.Proofs.MethodLookup
import PointsTo.Proofs.DefaultMethods
import PointsTo.Proofs.Descriptors
import PointsTo.Proofs.ByteCuts
import PointsTo.Proofs.ClosedHierarchy
import PointsTo.Proofs.Adoption
import PointsTo.Proofs.Lockstep
import PointsTo.Proofs.ImplicitRoot
import PointsTo.Proofs.Grounding
import PointsTo.Proofs.Numbering
import PointsTo.Proofs.PolicySpellings
import PointsTo.Proofs.Signatures
import PointsTo.Proofs.ContextShapes
import PointsTo.Proofs.BoundZero
import PointsTo.Proofs.GraphFilter
import PointsTo.Proofs.GraphActions
import PointsTo.Proofs.ContextFree
import PointsTo.Proofs.ElementNumbers
import PointsTo.Proofs.BitRows
import PointsTo.Proofs.MemberReferences
import PointsTo.Proofs.OnceEach
