import SmartCard.Aid
import SmartCard.Applet.Basic
import SmartCard.Applet.Code
import SmartCard.Applet.Hello
import SmartCard.Applet.InstallParams
import SmartCard.Applet.Purse
import SmartCard.Applet.Samples
import SmartCard.Applet.Service
import SmartCard.Applet.Session
import SmartCard.Campaign
import SmartCard.Campaign.Draws
import SmartCard.Card.Basic
import SmartCard.Card.Dispatch
import SmartCard.Card.Installation
import SmartCard.Card.Registry
import SmartCard.Card.Selection
import SmartCard.Channel
import SmartCard.Command
import SmartCard.CommandLine
import SmartCard.Config.Basic
import SmartCard.Config.Reader
import SmartCard.Context.Id
import SmartCard.Context.Table
import SmartCard.Ending
import SmartCard.Error
import SmartCard.Exchange
import SmartCard.File
import SmartCard.File.Tree
import SmartCard.Json.Token
import SmartCard.Json.Value
import SmartCard.Main
import SmartCard.Memory.Cells
import SmartCard.Memory.Error
import SmartCard.Memory.Heap
import SmartCard.Memory.Kind
import SmartCard.Memory.Layout
import SmartCard.Memory.Store
import SmartCard.Program
import SmartCard.Proofs.Applet.Activity
import SmartCard.Proofs.Applet.Call
import SmartCard.Proofs.Applet.Confinement
import SmartCard.Proofs.Applet.Greeting
import SmartCard.Proofs.Applet.Hello
import SmartCard.Proofs.Applet.Inquiry
import SmartCard.Proofs.Applet.Noninterference
import SmartCard.Proofs.Applet.Opening
import SmartCard.Proofs.Applet.Parameters
import SmartCard.Proofs.Applet.Payment
import SmartCard.Proofs.Applet.Preservation
import SmartCard.Proofs.Applet.Purse
import SmartCard.Proofs.Applet.Receiving
import SmartCard.Proofs.Applet.Responding
import SmartCard.Proofs.Applet.Transaction
import SmartCard.Proofs.Card.Campaign
import SmartCard.Proofs.Card.Chaining
import SmartCard.Proofs.Card.Coherence
import SmartCard.Proofs.Card.Conservation
import SmartCard.Proofs.Card.Course
import SmartCard.Proofs.Card.Departure
import SmartCard.Proofs.Card.Echo
import SmartCard.Proofs.Card.Endurance
import SmartCard.Proofs.Card.Founding
import SmartCard.Proofs.Card.Greeting
import SmartCard.Proofs.Card.Handling
import SmartCard.Proofs.Card.Installation
import SmartCard.Proofs.Card.Isolation
import SmartCard.Proofs.Card.Keeping
import SmartCard.Proofs.Card.Mortality
import SmartCard.Proofs.Card.OpenChannel
import SmartCard.Proofs.Card.Operation
import SmartCard.Proofs.Card.Ownership
import SmartCard.Proofs.Card.Permission
import SmartCard.Proofs.Card.Piece
import SmartCard.Proofs.Card.Protocol
import SmartCard.Proofs.Card.Provenance
import SmartCard.Proofs.Card.Provision
import SmartCard.Proofs.Card.Reception
import SmartCard.Proofs.Card.Reclamation
import SmartCard.Proofs.Card.Removal
import SmartCard.Proofs.Card.Reset
import SmartCard.Proofs.Card.Residence
import SmartCard.Proofs.Card.Resolution
import SmartCard.Proofs.Card.Retention
import SmartCard.Proofs.Card.Scene
import SmartCard.Proofs.Card.Seating
import SmartCard.Proofs.Card.Settlement
import SmartCard.Proofs.Card.Stage
import SmartCard.Proofs.Card.Tenancy
import SmartCard.Proofs.Card.Tending
import SmartCard.Proofs.Card.Unchained
import SmartCard.Proofs.Card.Waiting
import SmartCard.Proofs.Command.Layout
import SmartCard.Proofs.Context.Identity
import SmartCard.Proofs.Context.Table
import SmartCard.Proofs.Exchange.Failure
import SmartCard.Proofs.Exchange.Intake
import SmartCard.Proofs.Exchange.Outgoing
import SmartCard.Proofs.Exchange.Phase
import SmartCard.Proofs.Journal.Coverage
import SmartCard.Proofs.Journal.Exactness
import SmartCard.Proofs.Journal.Recording
import SmartCard.Proofs.Memory.Accounting
import SmartCard.Proofs.Memory.Allocation
import SmartCard.Proofs.Memory.Cell
import SmartCard.Proofs.Memory.Completion
import SmartCard.Proofs.Memory.Countdown
import SmartCard.Proofs.Memory.Durability
import SmartCard.Proofs.Memory.Element
import SmartCard.Proofs.Memory.Forgetting
import SmartCard.Proofs.Memory.Heap
import SmartCard.Proofs.Memory.Lineage
import SmartCard.Proofs.Memory.Masking
import SmartCard.Proofs.Memory.Mortality
import SmartCard.Proofs.Memory.Operation
import SmartCard.Proofs.Memory.Refinement
import SmartCard.Proofs.Memory.Refusal
import SmartCard.Proofs.Memory.Reordering
import SmartCard.Proofs.Memory.Replay
import SmartCard.Proofs.Memory.Rollback
import SmartCard.Proofs.Memory.Tearing
import SmartCard.Proofs.Memory.TypedStore
import SmartCard.Proofs.Memory.Write
import SmartCard.Proofs.Terminal.Credits
import SmartCard.Proofs.Terminal.Serialization
import SmartCard.Proofs.Terminal.Traffic
import SmartCard.Runs
import SmartCard.Segment
import SmartCard.StatusWord
import SmartCard.Terminal
import SmartCard.Text.Blank
import SmartCard.Text.Hex
import SmartCard.Text.Lines
import SmartCard.Text.Printable
import SmartCard.Text.Quoted
import SmartCard.Transaction.Error
import SmartCard.Transaction.Journal
import SmartCard.Transaction.State
import SmartCard.Transaction.Tear
