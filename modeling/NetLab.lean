import NetLab.Text.Case
import NetLab.Text.Quoted
import NetLab.Text.Pad
import NetLab.Number.Decimal
import NetLab.Collection.Roster
import NetLab.Collection.Index
import NetLab.Document.Layout
import NetLab.Document.Reading
import NetLab.Device.Basic
import NetLab.Network.Configure
import NetLab.Network.Export
import NetLab.Network.Import
import NetLab.Port
import NetLab.Route.Trace
import NetLab.LinkAdvice
import NetLab.Command.Table
import NetLab.Session
import NetLab.Notice
import NetLab.Console.Run
import NetLab.Engine.Execute
import NetLab.Mission.Grade
import NetLab.Schema.Reference
import NetLab.Service.Basic
import NetLab.Tutor
import NetLab.Proofs.Engine.Frame
import NetLab.Proofs.Service.Answer
import NetLab.Proofs.Service.Checkpoint
import NetLab.Proofs.Engine.ReadOnly
import NetLab.Proofs.Network.Intact
import NetLab.Proofs.Service.Identity
import NetLab.Proofs.Engine.Lifetime
import NetLab.Proofs.Engine.Delivery
import NetLab.Proofs.Engine.Reload
import NetLab.Proofs.Engine.Independent
import NetLab.Proofs.Engine.Unswayed
import NetLab.Proofs.Engine.Bracket
import NetLab.Proofs.Network.Survival
import NetLab.Proofs.Route.Verdict
import NetLab.Proofs.Engine.Full
import NetLab.Proofs.Command.Unmatched
import NetLab.Proofs.Network.LinkIds
import NetLab.Proofs.Network.Unchanged
import NetLab.Proofs.Port.Shift
import NetLab.Proofs.Engine.AccessPort
import NetLab.Proofs.Engine.VlanTables
import NetLab.Proofs.Schema.VlanKey
import NetLab.Proofs.Mission.Walk
import NetLab.Proofs.Mission.Build
import NetLab.Proofs.Service.Ending
import NetLab.Proofs.Service.VlanNames
import NetLab.Proofs.Engine.Recall
import NetLab.Proofs.Engine.Padded
import NetLab.Proofs.Engine.InterfaceTable
import NetLab.Proofs.Engine.VlanBrief
import NetLab.Proofs.Port.RoundTrip
import NetLab.Proofs.Route.Grammar
import NetLab.Proofs.Journal
