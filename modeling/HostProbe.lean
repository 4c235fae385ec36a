import HostProbe.Datum.Json.Writer
import HostProbe.Proofs.Address.Block
import HostProbe.Proofs.Address.Spelling
import HostProbe.Proofs.Binary64.Overflow
import HostProbe.Proofs.Binary64.Ratio
import HostProbe.Proofs.Datum.Table
import HostProbe.Proofs.Decoding
import HostProbe.Proofs.Fanout.Group
import HostProbe.Proofs.Icmp.Checksum
import HostProbe.Proofs.Icmp.Request
import HostProbe.Proofs.Icmp.RoundTrip
import HostProbe.Proofs.Limit.Timeout
import HostProbe.Proofs.Ping.Answer
import HostProbe.Proofs.Ping.Attribution
import HostProbe.Proofs.Ping.Batch
import HostProbe.Proofs.Ping.Bounds
import HostProbe.Proofs.Ping.Budget
import HostProbe.Proofs.Ping.Calls
import HostProbe.Proofs.Ping.Denial
import HostProbe.Proofs.Ping.Leniency
import HostProbe.Proofs.Ping.Neighbours
import HostProbe.Proofs.Ping.Poll
import HostProbe.Proofs.Ping.Protocol
import HostProbe.Proofs.Ping.Quotation
import HostProbe.Proofs.Ping.Room
import HostProbe.Proofs.Ping.Stamp
import HostProbe.Proofs.Ping.Success
import HostProbe.Proofs.Ping.Watch
import HostProbe.Proofs.Port.Range
import HostProbe.Proofs.Prober
import HostProbe.Proofs.Refusal
import HostProbe.Proofs.Scan.Admission
import HostProbe.Proofs.Scan.Agreement
import HostProbe.Proofs.Scan.Encoding
import HostProbe.Proofs.Scan.Ending
import HostProbe.Proofs.Scan.Partition
import HostProbe.Proofs.Scan.Progress
import HostProbe.Proofs.Scan.Summary
import HostProbe.Proofs.Scan.Sweep
import HostProbe.Proofs.Settings
import HostProbe.Proofs.Settings.File
import HostProbe.Rehearsal.Bench
import HostProbe.Rehearsal.Stage
import HostProbe.Settings.File
