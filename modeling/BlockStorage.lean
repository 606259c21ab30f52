import BlockStorage.Backend
import BlockStorage.Binary.Double
import BlockStorage.Clock
import BlockStorage.Cloud
import BlockStorage.Cloud.Template
import BlockStorage.Command
import BlockStorage.Command.Arguments
import BlockStorage.Command.Report
import BlockStorage.Compute
import BlockStorage.Deadline
import BlockStorage.Decimal.Format
import BlockStorage.Decimal.Reading
import BlockStorage.Decimal.Shortest
import BlockStorage.Duration
import BlockStorage.Duration.Reading
import BlockStorage.Fault
import BlockStorage.Fault.Kind
import BlockStorage.Machine
import BlockStorage.Main
import BlockStorage.Proofs.AddressCache
import BlockStorage.Proofs.Ascending
import BlockStorage.Proofs.Attaching
import BlockStorage.Proofs.Attachment
import BlockStorage.Proofs.BadInput
import BlockStorage.Proofs.BoundedWait
import BlockStorage.Proofs.Closing
import BlockStorage.Proofs.CloudFaults
import BlockStorage.Proofs.CloudSettings
import BlockStorage.Proofs.CreatedVolume
import BlockStorage.Proofs.Creation
import BlockStorage.Proofs.CreationRequests
import BlockStorage.Proofs.Credentials
import BlockStorage.Proofs.Deletion
import BlockStorage.Proofs.DurationGrammar
import BlockStorage.Proofs.FaultWords
import BlockStorage.Proofs.Layers
import BlockStorage.Proofs.Ledger
import BlockStorage.Proofs.Listing
import BlockStorage.Proofs.LookupFaults
import BlockStorage.Proofs.Operations
import BlockStorage.Proofs.OrderlySandbox
import BlockStorage.Proofs.OwnFaults
import BlockStorage.Proofs.Plain
import BlockStorage.Proofs.ReadySession
import BlockStorage.Proofs.Reattachment
import BlockStorage.Proofs.Region
import BlockStorage.Proofs.Remaking
import BlockStorage.Proofs.Requests
import BlockStorage.Proofs.Secrecy
import BlockStorage.Proofs.SharedConnection
import BlockStorage.Proofs.SingleChange
import BlockStorage.Proofs.SteadyCloud
import BlockStorage.Proofs.Steps
import BlockStorage.Proofs.Stock
import BlockStorage.Proofs.StockedSandbox
import BlockStorage.Proofs.Templates
import BlockStorage.Proofs.Timeouts
import BlockStorage.Proofs.TruthfulCloud
import BlockStorage.Proofs.ValidCloud
import BlockStorage.Proofs.Visits
import BlockStorage.Proofs.VolumeWait
import BlockStorage.Proofs.Waiting
import BlockStorage.Record
import BlockStorage.Run
import BlockStorage.Sandbox
import BlockStorage.Sandbox.Method
import BlockStorage.Sandbox.Trial
import BlockStorage.Sandbox.Trouble
import BlockStorage.Session
import BlockStorage.Settings
import BlockStorage.Storage
import BlockStorage.Table
import BlockStorage.Text.Blank
import BlockStorage.Text.Digit
import BlockStorage.Text.Integer
import BlockStorage.Text.Json
import BlockStorage.Text.Printable
import BlockStorage.Text.Quoted
import BlockStorage.Value
import BlockStorage.Value.Integer
import BlockStorage.Value.Item
import BlockStorage.Value.Literal
import BlockStorage.Value.Order
import BlockStorage.Visit
import BlockStorage.Volume
import BlockStorage.Wait
import BlockStorage.Wait.Script
