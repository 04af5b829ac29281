import ResourceScaffold.Http.Endpoint
import ResourceScaffold.Log.Layout
import ResourceScaffold.Main
import ResourceScaffold.Proofs.Outcome
import ResourceScaffold.Proofs.WellTyped
import ResourceScaffold.Proofs.Builders
import ResourceScaffold.Proofs.Registry
import ResourceScaffold.Proofs.References
import ResourceScaffold.Proofs.Prepared
import ResourceScaffold.Proofs.Rendering
import ResourceScaffold.Proofs.Acceptance
import ResourceScaffold.Proofs.Reports
import ResourceScaffold.Proofs.Names
import ResourceScaffold.Proofs.Paths
import ResourceScaffold.Proofs.Loading
import ResourceScaffold.Proofs.Linking
import ResourceScaffold.Proofs.ImportOrder
import ResourceScaffold.Proofs.Dependencies
import ResourceScaffold.Proofs.Strategies
import ResourceScaffold.Proofs.Segments
import ResourceScaffold.Proofs.StatementLines
import ResourceScaffold.Proofs.ModuleLines
import ResourceScaffold.Proofs.RouteLines
import ResourceScaffold.Proofs.ImportLines
import ResourceScaffold.Proofs.FileNames
import ResourceScaffold.Proofs.Blocks
import ResourceScaffold.Proofs.Independence
import ResourceScaffold.Proofs.Directories
import ResourceScaffold.Proofs.LineBreaks
import ResourceScaffold.Proofs.ModuleBreaks
import ResourceScaffold.Proofs.Places
import ResourceScaffold.Proofs.Storing
import ResourceScaffold.Proofs.Confinement
import ResourceScaffold.Proofs.Updates
import ResourceScaffold.Proofs.CommandRuns
import ResourceScaffold.Proofs.Objects
import ResourceScaffold.Proofs.Requests
import ResourceScaffold.Proofs.EntityNames
import ResourceScaffold.Proofs.RelatedRoutes
import ResourceScaffold.Proofs.Misuses
import ResourceScaffold.Proofs.AcceptedBodies
import ResourceScaffold.Proofs.Bindings
import ResourceScaffold.Proofs.Shadowing
import ResourceScaffold.Proofs.KeyFields
import ResourceScaffold.Proofs.Signatures
import ResourceScaffold.Proofs.SampleKeys
import ResourceScaffold.Proofs.SampleTypes
import ResourceScaffold.Proofs.Selections
import ResourceScaffold.Proofs.EnumMembers
import ResourceScaffold.Proofs.RoutePaths
import ResourceScaffold.Proofs.TextLiterals
import ResourceScaffold.Proofs.EnumNames
import ResourceScaffold.Proofs.UniqueFilters
import ResourceScaffold.Proofs.RecordAddresses
import ResourceScaffold.Proofs.ControllerImports
import ResourceScaffold.Proofs.Annotations
import ResourceScaffold.Proofs.FieldProperties
import ResourceScaffold.Proofs.EntityIds
import ResourceScaffold.Proofs.WordBoundaries
import ResourceScaffold.Proofs.WordSplitting
import ResourceScaffold.Proofs.ConstantNames
import ResourceScaffold.Proofs.ModuleNames
import ResourceScaffold.Proofs.Packages
import ResourceScaffold.Proofs.Captures
import ResourceScaffold.Proofs.Records
