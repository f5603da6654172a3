import LibToxTun.Foundation.Action
import LibToxTun.Foundation.Preservation
import LibToxTun.Foundation.Refinement
import LibToxTun.Foundation.Halting
import LibToxTun.Foundation.Run
import LibToxTun.Foundation.Traversal
import LibToxTun.Foundation.Ownership
import LibToxTun.Foundation.Leakage
import LibToxTun.Foundation.Duplex
import LibToxTun.Foundation.Delivery
import LibToxTun.Foundation.Loss
import LibToxTun.Data.Packet
import LibToxTun.Data.Fragments
import LibToxTun.Data.Reassembly
import LibToxTun.Data.Splitting
import LibToxTun.Data.Joining
import LibToxTun.Connection.Machine
import LibToxTun.Connection.Calculus
import LibToxTun.Connection.Arrival
import LibToxTun.Connection.Nesting
import LibToxTun.Connection.Walk
import LibToxTun.Connection.Preservation
import LibToxTun.Connection.Offering
import LibToxTun.Connection.Surroundings
import LibToxTun.Tun.Kernel
import LibToxTun.Tun.Unix
import LibToxTun.Tun.Devices
import LibToxTun.Tun.Windows
import LibToxTun.Tun.Writes
import LibToxTun.Tun.WindowsHost
import LibToxTun.Tun.Tap
import LibToxTun.Tun.Taps
import LibToxTun.Tun.Filter
import LibToxTun.Core.Machine
import LibToxTun.Core.Preservation
import LibToxTun.Core.Reception
import LibToxTun.Core.Reply
import LibToxTun.Core.Endpoint
import LibToxTun.Core.Mute
import LibToxTun.Core.Evolution
import LibToxTun.Core.Steps
import LibToxTun.Core.Offering
import LibToxTun.Core.Isolation
import LibToxTun.Core.Polling
import LibToxTun.Core.WindowsPolling
import LibToxTun.Core.Sweep
import LibToxTun.Core.Manners
import LibToxTun.Safety.DeviceWrites
import LibToxTun.Safety.Completion
import LibToxTun.Safety.Deletion
import LibToxTun.Safety.UseAfterDelete
import LibToxTun.Safety.Mixing
import LibToxTun.Safety.Assembly
import LibToxTun.Safety.Losses
import LibToxTun.Safety.Atomicity
import LibToxTun.Safety.Retention
import LibToxTun.Safety.Unheard
import LibToxTun.Safety.Events
import LibToxTun.Safety.Consent
import LibToxTun.Safety.Proposals
import LibToxTun.Reentrancy.Calls
import LibToxTun.Reentrancy.Positions
import LibToxTun.Reentrancy.Events
import LibToxTun.Reentrancy.Tables
import LibToxTun.CApi.Machine
import LibToxTun.CApi.Isolation
import LibToxTun.CApi.Strings
import LibToxTun.CApi.Registration
import LibToxTun.Network.Machine
import LibToxTun.Network.Traffic
import LibToxTun.Network.Tunnel
import LibToxTun.Network.Protocol
import LibToxTun.Network.Simulation
import LibToxTun.Network.Stamps
import LibToxTun.Network.MutualWait
import LibToxTun.Network.HalfOpen
import LibToxTun.Network.Agreement
import LibToxTun.Network.Negotiation
import LibToxTun.Network.Overtaking
import LibToxTun.Network.Star
import LibToxTun.Network.Rest
