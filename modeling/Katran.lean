import Katran.System.Flood
import Katran.Ring.History
import Katran.Ring.Termination
import Katran.Ring.Fairness
import Katran.Lb.Leaks
import Katran.Lb.Rings
import Katran.Lb.Reports
import Katran.Lb.RuleCounts
import Katran.Lb.RuleErrors
import Katran.Lb.RouterMac
import Katran.Lb.MacHelpers
import Katran.Lb.Lrus
import Katran.Lb.VipMap
import Katran.System.StoredKeys
import Katran.System.Drained
import Katran.System.Families
import Katran.System.AcceptedIds
import Katran.System.SrcRouting
import Katran.System.Recycling
import Katran.System.Counters
import Katran.System.IcmpErrors
import Katran.System.Healthchecks
import Katran.System.Simulator
import Katran.System.Payload
import Katran.System.Tunnels
import Katran.Bpf.Checksum
import Katran.Bpf.TooBig
import Katran.Bpf.QuicHeader
import Katran.Bpf.Decap
import Katran.System.Migration
import Katran.System.Headroom
import Katran.System.TunnelSource
import Katran.Pcap.Captures
import Katran.Pcap.Limits
import Katran.Pcap.Monitor
import Katran.Pcap.PerfEvents
import Katran.Bpf.XdpDecap
import Katran.System.Concord
import Katran.Lb.Lifecycle
import Katran.System.DirectChecks
import Katran.System.Cascade
import Katran.System.Statistics
import Katran.System.InlineDecap
import Katran.System.Restore
import Katran.Tools.Affinitize
import Katran.Tools.StartKatran
