import CameraRoll.Text.Blank
import CameraRoll.Naming.CaptureTime
import CameraRoll.Naming.Collision
import CameraRoll.Naming.Thumbnail
import CameraRoll.Disk.Tree
import CameraRoll.Store.Memory
import CameraRoll.Store.Quota
import CameraRoll.Store.Directory
import CameraRoll.Json.Reader
import CameraRoll.Json.Writer
import CameraRoll.Settings.Memory
import CameraRoll.Settings.File
import CameraRoll.Host.Local
import CameraRoll.Resolver.Initialization
import CameraRoll.Catalog.Basic
import CameraRoll.Bench
import CameraRoll.Config.Basic
import CameraRoll.Media.StillCodec
import CameraRoll.CommandLine.Desk
import CameraRoll.Main
import CameraRoll.Proofs.Outcome
import CameraRoll.Proofs.Keyed
import CameraRoll.Proofs.Store.Files
import CameraRoll.Proofs.Naming.Succession
import CameraRoll.Proofs.Naming.Derived
import CameraRoll.Proofs.Store.Held
import CameraRoll.Proofs.Settings.Flags
import CameraRoll.Proofs.Resolver.Save
import CameraRoll.Proofs.Resolver.Frame
import CameraRoll.Proofs.Resolver.Migration
import CameraRoll.Proofs.Resolver.Start
import CameraRoll.Proofs.Resolver.Consent
import CameraRoll.Proofs.Resolver.Convergence
import CameraRoll.Proofs.Catalog.Frame
import CameraRoll.Proofs.Catalog.History
import CameraRoll.Proofs.Calendar.Fields
import CameraRoll.Proofs.Text.Padded
import CameraRoll.Proofs.Naming.Stamped
import CameraRoll.Proofs.Naming.Dated
import CameraRoll.Proofs.Naming.RoundTrip
import CameraRoll.Proofs.Naming.Duplicates
import CameraRoll.Proofs.Catalog.Order
import CameraRoll.Proofs.Catalog.Loading
import CameraRoll.Proofs.Catalog.Steps
import CameraRoll.Proofs.Catalog.Sorted
import CameraRoll.Proofs.Catalog.Replay
import CameraRoll.Proofs.Resolver.Taken
import CameraRoll.Proofs.Resolver.Primaries
import CameraRoll.Proofs.Resolver.Relocation
import CameraRoll.Proofs.Catalog.Wrapping
import CameraRoll.Proofs.Catalog.NewPictures
import CameraRoll.Proofs.Catalog.Agreement
import CameraRoll.Proofs.Catalog.Thumbnails
import CameraRoll.Proofs.Catalog.Tenure
import CameraRoll.Proofs.Naming.Moved
import CameraRoll.Proofs.Disk.Nodes
import CameraRoll.Proofs.Disk.Parts
import CameraRoll.Proofs.Disk.Walk
import CameraRoll.Proofs.Store.Requests
import CameraRoll.Proofs.Store.Directory
import CameraRoll.Proofs.Store.Twin
import CameraRoll.Proofs.Store.Quota
import CameraRoll.Proofs.Store.Confinement
import CameraRoll.Proofs.Json.Members
import CameraRoll.Proofs.Json.Readable
import CameraRoll.Proofs.Json.Lexing
import CameraRoll.Proofs.Json.RoundTrip
import CameraRoll.Proofs.Disk.Directories
import CameraRoll.Proofs.Settings.File
import CameraRoll.Proofs.Settings.Agreement
import CameraRoll.Proofs.Disk.Growth
import CameraRoll.Proofs.Store.Folder
import CameraRoll.Proofs.Resolver.Folders
import CameraRoll.Proofs.Resolver.Opening
import CameraRoll.Proofs.Catalog.Folders
import CameraRoll.Proofs.CommandLine.Desk
import CameraRoll.Proofs.CommandLine.Start
import CameraRoll.Proofs.CommandLine.Commands
import CameraRoll.Proofs.CommandLine.Effects
import CameraRoll.Proofs.Naming.Settled
import CameraRoll.Proofs.Naming.Rollover
import CameraRoll.Proofs.Naming.Legacy
import CameraRoll.Proofs.Catalog.Loadable
import CameraRoll.Proofs.Naming.Exhaustion
import CameraRoll.Proofs.Resolver.Search
import CameraRoll.Proofs.Resolver.Fresh
import CameraRoll.Proofs.Catalog.Bursts
import CameraRoll.Proofs.Catalog.Rounds
import CameraRoll.Proofs.Catalog.Service
import CameraRoll.Proofs.Catalog.Pruning
import CameraRoll.Proofs.Catalog.Deletion
import CameraRoll.Proofs.Catalog.Additions
import CameraRoll.Proofs.Catalog.Saving
import CameraRoll.Proofs.Catalog.FirstLoad
import CameraRoll.Proofs.Store.Views
import CameraRoll.Proofs.Media.Upright
import CameraRoll.Proofs.Disk.Writing
import CameraRoll.Proofs.Settings.Leavings
import CameraRoll.Proofs.Host.Volumes
import CameraRoll.Proofs.Config.Layers
import CameraRoll.Proofs.Config.Loading
import CameraRoll.Proofs.Resolver.Entries
import CameraRoll.Proofs.Catalog.Classes
import CameraRoll.Proofs.Catalog.Filter
