import LabStream.ContainerRecord
import LabStream.LinkRecord
import LabStream.Main
import LabStream.Proofs.AcceptedSettings
import LabStream.Proofs.AttributeOrder
import LabStream.Proofs.Baselines
import LabStream.Proofs.Conservation
import LabStream.Proofs.ContainerRecords
import LabStream.Proofs.CounterHistory
import LabStream.Proofs.EventStamp
import LabStream.Proofs.Exchange
import LabStream.Proofs.Fence
import LabStream.Proofs.FilterRemoval
import LabStream.Proofs.Forwarding
import LabStream.Proofs.GapFilling
import LabStream.Proofs.Handover
import LabStream.Proofs.InterfaceChoice
import LabStream.Proofs.Isolation
import LabStream.Proofs.LedgerErasure
import LabStream.Proofs.LinkConvergence
import LabStream.Proofs.LinkLog
import LabStream.Proofs.ListingRounds
import LabStream.Proofs.NamespaceScopes
import LabStream.Proofs.PendingCalls
import LabStream.Proofs.PlainLine
import LabStream.Proofs.PortListing
import LabStream.Proofs.ReadingHistory
import LabStream.Proofs.ServiceTable
import LabStream.Proofs.StartUp
import LabStream.Proofs.TickFaults
import LabStream.Proofs.WindowReading
