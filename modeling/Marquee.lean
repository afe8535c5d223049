import Marquee.Airtime
import Marquee.Catalog
import Marquee.CommandLine
import Marquee.Frame.Clock
import Marquee.Frame.Limiter
import Marquee.Health
import Marquee.Json.Printer
import Marquee.Live
import Marquee.Main
import Marquee.Number.Text
import Marquee.OnDemand.Board
import Marquee.Proofs.Journal
import Marquee.Proofs.Live
import Marquee.Proofs.Rotation.Advance
import Marquee.Proofs.Rotation.Anchor
import Marquee.Proofs.Rotation.Lapses
import Marquee.Proofs.Rotation.Movement
import Marquee.Proofs.Rotation.Shunning
import Marquee.Proofs.Scheduler.Calls
import Marquee.Proofs.Scheduler.Calm
import Marquee.Proofs.Scheduler.Marks
import Marquee.Proofs.Scheduler.Operation
import Marquee.Proofs.Scheduler.Polling
import Marquee.Proofs.Scheduler.Step
import Marquee.Proofs.Scheduler.Work
import Marquee.Proofs.Script
import Marquee.Proofs.Session.Display
import Marquee.Proofs.Session.Record
import Marquee.Proofs.Session.Resume
import Marquee.Rotation
import Marquee.Scheduler.Command
import Marquee.Scheduler.Run
import Marquee.Scroll.Bitmap
import Marquee.Scroll.Scroller
import Marquee.Time.ManualClock
import Marquee.Time.Text
import Marquee.Proofs.Scheduler.Clock
import Marquee.Proofs.Scheduler.Deadline
import Marquee.Proofs.Session.Publication
import Marquee.Proofs.Showing.Clearing
import Marquee.Proofs.Airtime
import Marquee.Proofs.Scheduler.Pacing
import Marquee.Proofs.Scheduler.Still
import Marquee.Proofs.Scheduler.Slack
import Marquee.Proofs.Scheduler.Progress
import Marquee.Proofs.OnDemand.Delivery
import Marquee.Proofs.Session.Fields
import Marquee.Proofs.Catalog
import Marquee.Proofs.Scheduler.Robust
import Marquee.Proofs.Session.Ending
import Marquee.Proofs.Health
import Marquee.Proofs.Scheduler.Gating
import Marquee.Proofs.Number.Exact
import Marquee.Proofs.Scroll.Bounds
import Marquee.Proofs.Scroll.Estimate
import Marquee.Proofs.Scroll.Schedule
import Marquee.Proofs.Scheduler.Listing
import Marquee.Proofs.OnDemand.Payload
import Marquee.Proofs.Rotation.Passes
import Marquee.Proofs.OnDemand.Rejection
import Marquee.Proofs.Showing.Watching
import Marquee.Proofs.Showing.Freshness
import Marquee.Proofs.Rotation.Holding
import Marquee.Proofs.Number.Order
import Marquee.Proofs.Settings
import Marquee.Proofs.Time
import Marquee.Proofs.Showing.Pauses
import Marquee.Proofs.Scheduler.Counting
import Marquee.Proofs.Showing.Pace
import Marquee.Proofs.Breaker
import Marquee.Proofs.Showing.Reports
import Marquee.Proofs.Number.Error
import Marquee.Proofs.Showing.Regular
import Marquee.Proofs.Catalog.Filling
import Marquee.Proofs.Live.Search
import Marquee.Proofs.Showing.Cycles
import Marquee.Proofs.Scroll.Viewport
import Marquee.Proofs.Scheduler.Range
import Marquee.Proofs.Frame
import Marquee.Proofs.Scroll.Painting
import Marquee.OnDemand.StoredSession
