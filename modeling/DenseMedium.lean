import DenseMedium.Arithmetic
import DenseMedium.Binary.Codec
import DenseMedium.Binary.Header
import DenseMedium.Binary.Record
import DenseMedium.Binary.View
import DenseMedium.Binary.Word
import DenseMedium.Coefficient.Decimal
import DenseMedium.Coefficient.Double
import DenseMedium.Coefficient.Format
import DenseMedium.Coefficient.Numeral
import DenseMedium.Coefficient.Single
import DenseMedium.CommandLine.Arguments
import DenseMedium.CommandLine.Run
import DenseMedium.Failure
import DenseMedium.Fault
import DenseMedium.Files.Conversion
import DenseMedium.Files.Device
import DenseMedium.Files.FileSystem
import DenseMedium.Files.Path
import DenseMedium.Grid.Basic
import DenseMedium.Grid.Voxels
import DenseMedium.Json.Cursor
import DenseMedium.Json.Error
import DenseMedium.Json.List
import DenseMedium.Json.NumberLiteral
import DenseMedium.Json.Object
import DenseMedium.Json.Skip
import DenseMedium.Json.StringLiteral
import DenseMedium.Json.Tree
import DenseMedium.Json.Value
import DenseMedium.Lattice.Axis
import DenseMedium.Lattice.Extent
import DenseMedium.Lattice.Point
import DenseMedium.Lattice.Stride
import DenseMedium.Main
import DenseMedium.Majorant
import DenseMedium.Medium.Rgb
import DenseMedium.Medium.Voxel
import DenseMedium.Random.ChaCha
import DenseMedium.Random.Grid
import DenseMedium.Random.Words
import DenseMedium.Runs
import DenseMedium.Stream.Buffer
import DenseMedium.Stream.Error
import DenseMedium.Stream.Memory
import DenseMedium.Stream.Sink
import DenseMedium.Stream.Source
import DenseMedium.Stream.Written
import DenseMedium.Structured.Decode
import DenseMedium.Structured.Document
import DenseMedium.Structured.Encode
import DenseMedium.Structured.Form
import DenseMedium.Text.Ascii
import DenseMedium.Text.Quoted
import DenseMedium.Text.Unseen
import DenseMedium.Text.Utf8
import DenseMedium.Proofs.Binary.Classification
import DenseMedium.Proofs.Binary.Deliveries
import DenseMedium.Proofs.Binary.Headers
import DenseMedium.Proofs.Binary.Layout
import DenseMedium.Proofs.Binary.Records
import DenseMedium.Proofs.Binary.RoundTrip
import DenseMedium.Proofs.Binary.Views
import DenseMedium.Proofs.Coefficient.Errors
import DenseMedium.Proofs.Coefficient.Finite
import DenseMedium.Proofs.Coefficient.Maximum
import DenseMedium.Proofs.Coefficient.Midpoints
import DenseMedium.Proofs.Coefficient.Range
import DenseMedium.Proofs.Coefficient.Reread
import DenseMedium.Proofs.Coefficient.Residues
import DenseMedium.Proofs.Coefficient.Rounding
import DenseMedium.Proofs.Coefficient.Shortest
import DenseMedium.Proofs.Coefficient.Spelling
import DenseMedium.Proofs.Coefficient.Uniform
import DenseMedium.Proofs.Files.Conversions
import DenseMedium.Proofs.Files.Replacement
import DenseMedium.Proofs.Grid.Access
import DenseMedium.Proofs.Grid.Apart
import DenseMedium.Proofs.Grid.Contents
import DenseMedium.Proofs.Grid.Filling
import DenseMedium.Proofs.Grid.Visits
import DenseMedium.Proofs.Grid.Writes
import DenseMedium.Proofs.Grid.Zeroed
import DenseMedium.Proofs.Json.Ascii
import DenseMedium.Proofs.Json.Breaks
import DenseMedium.Proofs.Json.Costs
import DenseMedium.Proofs.Json.Endings
import DenseMedium.Proofs.Json.Grammar
import DenseMedium.Proofs.Json.Indentation
import DenseMedium.Proofs.Json.Layouts
import DenseMedium.Proofs.Json.Lists
import DenseMedium.Proofs.Json.Literals
import DenseMedium.Proofs.Json.Numerals
import DenseMedium.Proofs.Json.Objects
import DenseMedium.Proofs.Json.Recognized
import DenseMedium.Proofs.Json.Refused
import DenseMedium.Proofs.Json.Spelled
import DenseMedium.Proofs.Json.Unambiguous
import DenseMedium.Proofs.Lattice.Dimensions
import DenseMedium.Proofs.Lattice.Enumeration
import DenseMedium.Proofs.Lattice.Intersections
import DenseMedium.Proofs.Lattice.Points
import DenseMedium.Proofs.Lattice.Regions
import DenseMedium.Proofs.Lattice.Strides
import DenseMedium.Proofs.Lattice.Walks
import DenseMedium.Proofs.Majorant.Anywhere
import DenseMedium.Proofs.Majorant.Bounds
import DenseMedium.Proofs.Majorant.Cover
import DenseMedium.Proofs.Majorant.Hierarchy
import DenseMedium.Proofs.Majorant.Lookup
import DenseMedium.Proofs.Majorant.Mapped
import DenseMedium.Proofs.Majorant.Pairings
import DenseMedium.Proofs.Majorant.Partition
import DenseMedium.Proofs.Majorant.Reductions
import DenseMedium.Proofs.Majorant.Refusals
import DenseMedium.Proofs.Majorant.Tiling
import DenseMedium.Proofs.Random.Grids
import DenseMedium.Proofs.Steps
import DenseMedium.Proofs.Stream.Deliveries
import DenseMedium.Proofs.Stream.Memory
import DenseMedium.Proofs.Stream.Sources
import DenseMedium.Proofs.Structured.Acceptance
import DenseMedium.Proofs.Structured.Defects
import DenseMedium.Proofs.Structured.Deliveries
import DenseMedium.Proofs.Structured.Descriptions
import DenseMedium.Proofs.Structured.EmptyPlanes
import DenseMedium.Proofs.Structured.Encoding
import DenseMedium.Proofs.Structured.Framing
import DenseMedium.Proofs.Structured.Grids
import DenseMedium.Proofs.Structured.Indentation
import DenseMedium.Proofs.Structured.Members
import DenseMedium.Proofs.Structured.Nesting
import DenseMedium.Proofs.Structured.Places
import DenseMedium.Proofs.Structured.Recognition
import DenseMedium.Proofs.Structured.RoundTrip
import DenseMedium.Proofs.Structured.Safety
import DenseMedium.Proofs.Structured.Sources
