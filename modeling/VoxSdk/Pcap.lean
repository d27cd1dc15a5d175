import VoxSdk.IceShim
import VoxSdk.Lib.Bytes

/-!
# The pcap file

`pcap.c` writes each SIP message as one packet of LINKTYPE_RAW, behind an IPv4 header and a UDP or TCP header
it makes up. The packed structs go to the file as they are in memory, on a host that has the low byte first;
what the wire wants high byte first is turned around with `htons` and `htonl`. A write to the file succeeds.
-/

namespace VoxSdk

open Bytes

/-- `(uint16_t)n`. -/
def u16 (n : Nat) : Nat := n % 2 ^ 16

/-- `IP_HDR_LEN`, `UDP_HDR_LEN` and `TCP_HDR_LEN`. -/
def ipHdrLen : Nat := 20

def udpHdrLen : Nat := 8

def tcpHdrLen : Nat := 20

/-- `pcap_global_hdr_t`. -/
structure PcapGlobalHdr where
  magic : Nat
  versionMajor : Nat
  versionMinor : Nat
  thiszone : Nat
  sigfigs : Nat
  snaplen : Nat
  network : Nat

def PcapGlobalHdr.bytes (h : PcapGlobalHdr) : List UInt8 :=
  le 4 h.magic ++ le 2 h.versionMajor ++ le 2 h.versionMinor ++ le 4 h.thiszone ++ le 4 h.sigfigs ++
    le 4 h.snaplen ++ le 4 h.network

/-- `pcap_pkt_hdr_t`. -/
structure PcapPktHdr where
  tsSec : Nat
  tsUsec : Nat
  inclLen : Nat
  origLen : Nat

def PcapPktHdr.bytes (h : PcapPktHdr) : List UInt8 :=
  le 4 h.tsSec ++ le 4 h.tsUsec ++ le 4 h.inclLen ++ le 4 h.origLen

/-- `ip_hdr_t`, its numbers before `htons`. -/
structure IpHdr where
  ihlVer : Nat
  tos : Nat
  totalLen : Nat
  id : Nat
  fragOff : Nat
  ttl : Nat
  proto : Nat
  checksum : Nat
  src : List UInt8
  dst : List UInt8

def IpHdr.bytes (h : IpHdr) : List UInt8 :=
  be 1 h.ihlVer ++ be 1 h.tos ++ be 2 h.totalLen ++ be 2 h.id ++ be 2 h.fragOff ++ be 1 h.ttl ++
    be 1 h.proto ++ be 2 h.checksum ++ h.src ++ h.dst

/-- `udp_hdr_t`. -/
structure UdpHdr where
  srcPort : Nat
  dstPort : Nat
  length : Nat
  checksum : Nat

def UdpHdr.bytes (h : UdpHdr) : List UInt8 :=
  be 2 h.srcPort ++ be 2 h.dstPort ++ be 2 h.length ++ be 2 h.checksum

/-- `tcp_hdr_t`. -/
structure TcpHdr where
  srcPort : Nat
  dstPort : Nat
  seq : Nat
  ack : Nat
  dataOffsetFlags : Nat
  window : Nat
  checksum : Nat
  urgentPtr : Nat

def TcpHdr.bytes (h : TcpHdr) : List UInt8 :=
  be 2 h.srcPort ++ be 2 h.dstPort ++ be 4 h.seq ++ be 4 h.ack ++ be 2 h.dataOffsetFlags ++ be 2 h.window ++
    be 2 h.checksum ++ be 2 h.urgentPtr

/-- `write_global_header`. -/
def writeGlobalHeader (file : File) : File :=
  file.fwrite
    (PcapGlobalHdr.bytes
      { magic := 0xa1b2c3d4, versionMajor := 2, versionMinor := 4, thiszone := 0, sigfigs := 0
        snaplen := 65535, network := 101 })

/-- A call of `vox_pcap_write_sip`, and what `gettimeofday` says then. -/
structure SipWrite where
  data : Option (List UInt8)
  src : Option SaPort
  dst : Option SaPort
  isUdp : Bool
  tvSec : Nat
  tvUsec : Nat

section

variable (saIn : SaPort → Nat)

/-- `sa_to_bytes`. `saIn` is libre's `sa_in`, which answers an IPv6 address with some number too. -/
def saToBytes (addr : Option SaPort) : List UInt8 × Nat :=
  match addr.filter (·.addr.isSet) with
  | none => ([0, 0, 0, 0], 0)
  | some sa => (be 4 (saIn sa), sa.port)

/-- The body of `vox_pcap_write_sip`: of the two branches, which are for UDP and for streams, each has its
own header and protocol, and narrows its length to 16 bits. -/
def pcapWritePacket (call : SipWrite) (data : List UInt8) (file : File) : File :=
  let src := saToBytes saIn call.src
  let dst := saToBytes saIn call.dst
  let srcPort := if src.2 = 0 then 5060 else src.2
  let dstPort := if dst.2 = 0 then 5060 else dst.2
  let l4Total := u16 ((if call.isUdp then udpHdrLen else tcpHdrLen) + data.length)
  let pktLen := ipHdrLen + l4Total
  let ph : PcapPktHdr :=
    { tsSec := call.tvSec, tsUsec := call.tvUsec, inclLen := pktLen, origLen := pktLen }
  let ip : IpHdr :=
    { ihlVer := 0x45, tos := 0, totalLen := u16 (ipHdrLen + l4Total), id := 0, fragOff := 0, ttl := 64
      proto := if call.isUdp then 17 else 6, checksum := 0, src := src.1, dst := dst.1 }
  let udp : UdpHdr := { srcPort, dstPort, length := l4Total, checksum := 0 }
  let tcp : TcpHdr :=
    { srcPort, dstPort, seq := 0, ack := 0, dataOffsetFlags := 0x5010, window := 65535, checksum := 0
      urgentPtr := 0 }
  (((file.fwrite ph.bytes).fwrite ip.bytes).fwrite (if call.isUdp then udp.bytes else tcp.bytes)).fwrite data

/-- `vox_pcap_write_sip`; `pcapFile` is `g_vox.pcap_file`. -/
def voxPcapWriteSip (call : SipWrite) (pcapFile : Option File) : Option File :=
  match call.data with
  | none => pcapFile
  | some data => if data.length = 0 then pcapFile else pcapFile.map (pcapWritePacket saIn call data)

end

/-- `vox_pcap_open`; `path` says whether there is one, `fopen` with what error it cannot be opened. -/
def voxPcapOpen (path : Bool) (fopen : Option Errno) (pcapFile : Option File) : Option File × Option Errno :=
  if !path then (pcapFile, none)
  else if pcapFile.isSome then (pcapFile, some .already)
  else
    match fopen with
    | some err => (none, some err)
    | none => (some (writeGlobalHeader .opened), none)

/-- `vox_pcap_close` leaves what was written. -/
def voxPcapClose (pcapFile : Option File) : Option (List UInt8) := pcapFile.map File.bytes

/-- The call `sip_trace_handler` makes: libre tells it the message, its direction and both ends. -/
def sipTraceWrite (tx : Bool) (src dst : Option SaPort) (pkt : List UInt8) (udp : Bool) (tvSec tvUsec : Nat) :
    SipWrite :=
  { data := some pkt, src := if tx then none else src, dst := if tx then dst else none, isUdp := udp
    tvSec, tvUsec }

end VoxSdk
