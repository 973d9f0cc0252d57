import LockTriage.Main
import LockTriage.Proofs.Verdict
import LockTriage.Proofs.Json.Reading
import LockTriage.Proofs.Json.RoundTrip
import LockTriage.Proofs.Files.Names
import LockTriage.Proofs.Files.Frame
import LockTriage.Proofs.Files.Footprint
import LockTriage.Proofs.Shelf
import LockTriage.Proofs.Shelf.Confined
import LockTriage.Proofs.Cache.Artifact
import LockTriage.Proofs.Cache.Disk
import LockTriage.Proofs.Cache.Damage
import LockTriage.Proofs.Cache.Lasting
import LockTriage.Proofs.Cache.History
import LockTriage.Proofs.Scan.Order
import LockTriage.Proofs.Scan.History
import LockTriage.Proofs.Scan.Again
import LockTriage.Proofs.Scan.Resume
import LockTriage.Proofs.KeyRing
import LockTriage.Proofs.Scan.Requests
import LockTriage.Proofs.Explorer
import LockTriage.Proofs.Scan.Secrecy
import LockTriage.Proofs.Scan.Share
import LockTriage.Proofs.Shelf.Apart
import LockTriage.Proofs.Scan.Networks
import LockTriage.Proofs.Files.Trail
import LockTriage.Proofs.Cache.Own
import LockTriage.Proofs.Scan.Stable
import LockTriage.Proofs.Scan.Demand
import LockTriage.Proofs.Files.Nested
import LockTriage.Proofs.Shelf.Verdicts
import LockTriage.Proofs.Scan.Reorder
import LockTriage.Proofs.Cache.Mirror
import LockTriage.Proofs.Scan.Caches
import LockTriage.Proofs.Scan.Saved
import LockTriage.Proofs.Command.Startup
import LockTriage.Proofs.Command.Classify
import LockTriage.Proofs.Text.Cut
import LockTriage.Proofs.Source.CallSearch
import LockTriage.Proofs.Source.Nesting
import LockTriage.Proofs.Scan.Suppressed
import LockTriage.Proofs.Source.Intervals
import LockTriage.Proofs.Reasons
import LockTriage.Proofs.Allowlist
import LockTriage.Proofs.Cache.Refused
import LockTriage.Proofs.Scan.Retry
import LockTriage.Proofs.Explorer.Source
import LockTriage.Proofs.Export.Written
import LockTriage.Proofs.Export.Quotes
import LockTriage.Proofs.Shelf.Saved
import LockTriage.Proofs.Settings.Tables
import LockTriage.Proofs.Command.Selection
