import Pourpoint.ArtifactCache
import Pourpoint.Boundary
import Pourpoint.CanonicalWkb
import Pourpoint.CanonicalWkb.Canonical
import Pourpoint.CanonicalWkb.Rings
import Pourpoint.Catchment.IdIndex
import Pourpoint.Catchment.IdLevels
import Pourpoint.Catchment.Queries
import Pourpoint.Catchment.Row
import Pourpoint.Catchment.Scan
import Pourpoint.Catchment.Store
import Pourpoint.Cog.Chunk
import Pourpoint.Cog.Fetch
import Pourpoint.Cog.Header
import Pourpoint.Cog.Layout
import Pourpoint.Cog.Localize
import Pourpoint.Cog.Plan
import Pourpoint.Cog.Predictor
import Pourpoint.Cog.Resolve
import Pourpoint.Cog.Robust
import Pourpoint.Cog.Window
import Pourpoint.Cog.WindowCoverage
import Pourpoint.Confinement
import Pourpoint.Coverage
import Pourpoint.D8Selection
import Pourpoint.Decision
import Pourpoint.Dissolve
import Pourpoint.Engine.Agreement
import Pourpoint.Engine.Assembly
import Pourpoint.Engine.Delineate
import Pourpoint.Engine.Error
import Pourpoint.Engine.Layout
import Pourpoint.Engine.Loaded
import Pourpoint.Engine.OpenPath
import Pourpoint.Engine.Pipeline
import Pourpoint.Engine.Records
import Pourpoint.Engine.RefineTerminal
import Pourpoint.Engine.Refinement
import Pourpoint.Engine.Staged
import Pourpoint.Engine.Traverse
import Pourpoint.EvenOdd
import Pourpoint.Exec
import Pourpoint.Export.BasinWriter
import Pourpoint.Export.Identity
import Pourpoint.Export.RowGroups
import Pourpoint.Export.Spatial
import Pourpoint.Export.Table
import Pourpoint.Export.UnitWriter
import Pourpoint.F32
import Pourpoint.F64
import Pourpoint.F64Geometry
import Pourpoint.FloatCast
import Pourpoint.FlowDirection
import Pourpoint.Fnv
import Pourpoint.Geometry
import Pourpoint.GeometryValidity
import Pourpoint.GeometryValidity.Contacts
import Pourpoint.GeometryValidity.Cycles
import Pourpoint.GeometryValidity.Pairs
import Pourpoint.GeometryValidity.Valid
import Pourpoint.Graph.Levels
import Pourpoint.Graph.Reader
import Pourpoint.Graph.Rows
import Pourpoint.Grid
import Pourpoint.HoleOwners
import Pourpoint.IdIndexFormat
import Pourpoint.IdIndexFormat.Codec
import Pourpoint.IdIndexFormat.RoundTrip
import Pourpoint.Lattice.Loop
import Pourpoint.Lattice.Nesting
import Pourpoint.Lattice.Polyline
import Pourpoint.Lattice.Winding
import Pourpoint.Library.Acceptance
import Pourpoint.Library.BreadthFirst
import Pourpoint.Library.Closure
import Pourpoint.Library.Comparison
import Pourpoint.Library.Contiguous
import Pourpoint.Library.Crc
import Pourpoint.Library.Decimal
import Pourpoint.Library.DisjointSets
import Pourpoint.Library.Failure
import Pourpoint.Library.FloatFormat
import Pourpoint.Library.HilbertCurve
import Pourpoint.Library.IncidenceGraph
import Pourpoint.Library.JsonText
import Pourpoint.Library.LeastRotation
import Pourpoint.Library.MinBy
import Pourpoint.Library.Parts
import Pourpoint.Library.Run
import Pourpoint.Library.Slots
import Pourpoint.Library.Sorted
import Pourpoint.Library.SortedMap
import Pourpoint.Library.StableSort
import Pourpoint.Library.Success
import Pourpoint.Library.Traced
import Pourpoint.Library.UnixPath
import Pourpoint.Library.Utf8
import Pourpoint.Machine
import Pourpoint.Manifest
import Pourpoint.Nodata
import Pourpoint.ParquetCache
import Pourpoint.ParseNumber
import Pourpoint.Polygonize
import Pourpoint.RasterCache
import Pourpoint.RasterCache.Objects
import Pourpoint.RasterReader
import Pourpoint.Rasterize
import Pourpoint.Refine
import Pourpoint.RefinedTerminal
import Pourpoint.RemoteArtifact
import Pourpoint.RemoteOpen
import Pourpoint.RemoteOpen.Outcome
import Pourpoint.RemoteOpen.Rejection
import Pourpoint.RemoteOpen.ValidationSkip
import Pourpoint.Resolver.Containment
import Pourpoint.Resolver.Outlet
import Pourpoint.Resolver.Vector
import Pourpoint.RingAssembly
import Pourpoint.RingGeometry
import Pourpoint.RoundTrip
import Pourpoint.Rounding
import Pourpoint.SingleFlight
import Pourpoint.Snap
import Pourpoint.Snaps.Membership
import Pourpoint.Snaps.Pruning
import Pourpoint.Snaps.Row
import Pourpoint.Snaps.Scan
import Pourpoint.Snaps.Store
import Pourpoint.Snaps.Targets
import Pourpoint.Snaps.Visit
import Pourpoint.Trace
import Pourpoint.Upstream
import Pourpoint.UpstreamLevels
import Pourpoint.Validation
import Pourpoint.WatershedGeometry
import Pourpoint.Wkb
import Pourpoint.Zlib
