import Upkeep.Artifact
import Upkeep.Collaborators
import Upkeep.CommandLine
import Upkeep.Config
import Upkeep.Database
import Upkeep.Decimal.Binary64
import Upkeep.Decimal.Numeral
import Upkeep.Decimal.Shortest
import Upkeep.Disk.Basic
import Upkeep.Disk.Replace
import Upkeep.Dispatch
import Upkeep.Environment
import Upkeep.Fault
import Upkeep.Flags.Basic
import Upkeep.Flags.Document
import Upkeep.Flags.File
import Upkeep.Json.Reader
import Upkeep.Json.Value
import Upkeep.Load
import Upkeep.Log.Event
import Upkeep.Log.Filter
import Upkeep.Main
import Upkeep.Metrics
import Upkeep.Path
import Upkeep.Program
import Upkeep.Proofs.Config
import Upkeep.Proofs.Database
import Upkeep.Proofs.Decimal.Nearest
import Upkeep.Proofs.Decimal.Numerals
import Upkeep.Proofs.Decimal.ShortestDigits
import Upkeep.Proofs.Disk.Agreement
import Upkeep.Proofs.Disk.Atomicity
import Upkeep.Proofs.Disk.Contents
import Upkeep.Proofs.Disk.Files
import Upkeep.Proofs.Disk.Making
import Upkeep.Proofs.Disk.Nowhere
import Upkeep.Proofs.Disk.Outline
import Upkeep.Proofs.Disk.Places
import Upkeep.Proofs.Disk.Replacement
import Upkeep.Proofs.Disk.Residue
import Upkeep.Proofs.Disk.Walk
import Upkeep.Proofs.Disk.Ways
import Upkeep.Proofs.Dispatch
import Upkeep.Proofs.Ensures
import Upkeep.Proofs.Flags.Refinement
import Upkeep.Proofs.Flags.Setting
import Upkeep.Proofs.Flags.Stored
import Upkeep.Proofs.Json.RoundTrip
import Upkeep.Proofs.Layout
import Upkeep.Proofs.MayEnd
import Upkeep.Proofs.Path
import Upkeep.Proofs.Quiet
import Upkeep.Proofs.Reconcile.Course
import Upkeep.Proofs.Reconcile.Effect
import Upkeep.Proofs.Reconcile.Failures
import Upkeep.Proofs.Reconcile.FlagHistory
import Upkeep.Proofs.Reconcile.Idempotence
import Upkeep.Proofs.Reconcile.Lockstep
import Upkeep.Proofs.Reconcile.Order
import Upkeep.Proofs.Reconcile.Parts
import Upkeep.Proofs.Reconcile.PendingFlags
import Upkeep.Proofs.Reconcile.PendingWork
import Upkeep.Proofs.Reconcile.Rehearsals
import Upkeep.Proofs.Reconcile.Stages
import Upkeep.Proofs.Reconcile.Tally
import Upkeep.Proofs.Result
import Upkeep.Proofs.Service.RenderFaults
import Upkeep.Proofs.Service.SettingsFile
import Upkeep.Proofs.Service.UnitEnvironment
import Upkeep.Proofs.Service.UnitFile
import Upkeep.Proofs.SettingOrder
import Upkeep.Proofs.Surroundings
import Upkeep.Proofs.Turns
import Upkeep.Proofs.World.Accounts
import Upkeep.Proofs.World.Agreement
import Upkeep.Proofs.World.DryRun
import Upkeep.Proofs.World.Effects
import Upkeep.Proofs.World.FailClosed
import Upkeep.Proofs.World.FlagStore
import Upkeep.Proofs.World.Genuine
import Upkeep.Proofs.World.Hook
import Upkeep.Proofs.World.Pairs
import Upkeep.Proofs.World.Polls
import Upkeep.Proofs.World.Secrecy
import Upkeep.Proofs.World.Staleness
import Upkeep.Proofs.World.UnitNames
import Upkeep.Proofs.Yaml.BlockScalars
import Upkeep.Proofs.Yaml.Gaps
import Upkeep.Proofs.Yaml.Layout
import Upkeep.Proofs.Yaml.LegibleValues
import Upkeep.Proofs.Yaml.NestedTokens
import Upkeep.Proofs.Yaml.PlainScalars
import Upkeep.Proofs.Yaml.PlainTexts
import Upkeep.Proofs.Yaml.QuotedScalars
import Upkeep.Proofs.Yaml.ReadBack
import Upkeep.Proofs.Yaml.ScannedDocument
import Upkeep.Proofs.Yaml.ScannedLayout
import Upkeep.Proofs.Yaml.ScannedNodes
import Upkeep.Proofs.Yaml.Scanning
import Upkeep.Proofs.Yaml.Tags
import Upkeep.Proofs.Yaml.WrittenDocument
import Upkeep.Proofs.Yaml.WrittenTexts
import Upkeep.Reconcile.Basic
import Upkeep.Reconcile.Rehearsal
import Upkeep.Render
import Upkeep.Run
import Upkeep.Service
import Upkeep.Setup
import Upkeep.Sha256
import Upkeep.SortedMap
import Upkeep.Text.Alphanumeric
import Upkeep.Text.Cut
import Upkeep.Text.Lossy
import Upkeep.Text.Quoted
import Upkeep.Timestamp
import Upkeep.World.Basic
import Upkeep.World.Host
import Upkeep.Yaml.Node
import Upkeep.Yaml.Printer
import Upkeep.Yaml.Printer.Scalar
import Upkeep.Yaml.Reader
import Upkeep.Yaml.Scalar
import Upkeep.Yaml.Token
import Upkeep.Yaml.Token.Property
import Upkeep.Yaml.Token.Scalar
import Upkeep.Yaml.Token.Scanner
import Upkeep.Yaml.Value
