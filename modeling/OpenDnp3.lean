import OpenDnp3.App.APDUHeader
import OpenDnp3.App.HeaderWriterProperties
import OpenDnp3.App.Parsing.APDUParser
import OpenDnp3.App.Parsing.APDUParserProperties
import OpenDnp3.App.RangeRoundTrip
import OpenDnp3.Association.PolledSelections
import OpenDnp3.Channels.IOHandler
import OpenDnp3.Channels.SessionLifecycle
import OpenDnp3.Channels.TransmitCompletions
import OpenDnp3.Library.Chains
import OpenDnp3.Library.KeyedRecords
import OpenDnp3.Link.AcknowledgedSegments
import OpenDnp3.Link.CRCProperties
import OpenDnp3.Link.Destinations
import OpenDnp3.Link.FrameRoundTrip
import OpenDnp3.Link.FrameScan
import OpenDnp3.Link.LinkHeader
import OpenDnp3.Link.LinkLayerParser
import OpenDnp3.Link.ParserScan
import OpenDnp3.Link.StatusReports
import OpenDnp3.Master.CommandRequests
import OpenDnp3.Master.CommandResults
import OpenDnp3.Master.MeasurementHandler
import OpenDnp3.Master.PollResponses
import OpenDnp3.Master.RetryDelays
import OpenDnp3.Master.SerialTimeSync
import OpenDnp3.Master.TaskChoice
import OpenDnp3.Master.TaskCompletions
import OpenDnp3.Master.TaskRuns
import OpenDnp3.Outstation.ClassAssignments
import OpenDnp3.Outstation.CommandResponses
import OpenDnp3.Outstation.ConfirmWaits
import OpenDnp3.Outstation.Database.Database
import OpenDnp3.Outstation.Database.DatabaseLoading
import OpenDnp3.Outstation.Database.DatabaseMachine
import OpenDnp3.Outstation.Database.Deadbands
import OpenDnp3.Outstation.Database.FlagModification
import OpenDnp3.Outstation.Database.IndexSearchProperties
import OpenDnp3.Outstation.Database.PackedResponses
import OpenDnp3.Outstation.Database.PointUpdates
import OpenDnp3.Outstation.Database.RangeViewProperties
import OpenDnp3.Outstation.Database.SelectionResidue
import OpenDnp3.Outstation.Database.StaticLoading
import OpenDnp3.Outstation.Database.StaticResponses
import OpenDnp3.Outstation.Deferral
import OpenDnp3.Outstation.Event.EventRoundTrip
import OpenDnp3.Outstation.Event.EventStorage
import OpenDnp3.Outstation.Event.EventVariations
import OpenDnp3.Outstation.Event.LinkedList
import OpenDnp3.Outstation.Event.LinkedListLinks
import OpenDnp3.Outstation.Event.LinkedListRefinement
import OpenDnp3.Outstation.EventRemovals
import OpenDnp3.Outstation.HeldReads
import OpenDnp3.Outstation.HonouredConfirms
import OpenDnp3.Outstation.OctetStrings
import OpenDnp3.Outstation.OutstationContext
import OpenDnp3.Outstation.OutstationSteps
import OpenDnp3.Outstation.OverflowAnnouncements
import OpenDnp3.Outstation.RepeatedRequests
import OpenDnp3.Outstation.RetriedRequests
import OpenDnp3.Outstation.SelectionUses
import OpenDnp3.Outstation.Selections
import OpenDnp3.Outstation.TimeSynchronization
import OpenDnp3.Outstation.Transmissions
import OpenDnp3.Outstation.WrittenEvents
import OpenDnp3.Transport.MessageDelivery
import OpenDnp3.Transport.ReferenceReassembly
import OpenDnp3.Transport.TransportCompletions
import OpenDnp3.Transport.TransportPair
import OpenDnp3.Transport.TransportProperties
