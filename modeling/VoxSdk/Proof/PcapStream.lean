import Mathlib.Algebra.Order.BigOperators.Group.List
import VoxSdk.Pcap

/-!
# Reading the pcap file back

A reader of pcap files knows nothing of the writer: it takes the 24 bytes of the global header, then packet
after packet, each as long as its header says, and of a packet what the lengths in its IP, UDP or TCP header
say. It gets back what was written if every message fits the 16 bits those lengths have, and only then.
-/

namespace VoxSdk

open Bytes

/-- What a reader learns from a record: how many bytes were captured, the protocol, the payload. -/
@[ext]
structure Captured where
  inclLen : Nat
  isUdp : Bool
  payload : List UInt8
  deriving DecidableEq

/-- The payload of an IP packet: its protocol and what follows the IP header, as long as `total_len` says. -/
def readL4 (proto : Nat) (body : List UInt8) : Option (Bool × List UInt8) :=
  if proto = 17 then
    (cut 4 body).bind fun ports =>
      (takeBe 2 ports.2).bind fun length =>
        (cut 2 length.2).bind fun checksum =>
          if 8 ≤ length.1 then (cut (length.1 - 8) checksum.2).map fun p => (true, p.1) else none
  else if proto = 6 then
    (cut 12 body).bind fun ports =>
      (takeBe 2 ports.2).bind fun flags =>
        (cut 6 flags.2).bind fun rest =>
          if 20 ≤ 4 * (flags.1 / 4096) then
            (cut (4 * (flags.1 / 4096) - 20) rest.2).map fun p => (false, p.2)
          else none
  else none

/-- An IPv4 packet without options, no longer than what was captured. -/
def readPacket (pkt : List UInt8) : Option (Bool × List UInt8) :=
  (takeBe 1 pkt).bind fun ihlVer =>
    (cut 1 ihlVer.2).bind fun tos =>
      (takeBe 2 tos.2).bind fun totalLen =>
        (cut 5 totalLen.2).bind fun ttl =>
          (takeBe 1 ttl.2).bind fun proto =>
            (cut 10 proto.2).bind fun dst =>
              if ihlVer.1 = 0x45 ∧ 20 ≤ totalLen.1 then
                (cut (totalLen.1 - 20) dst.2).bind fun body => readL4 proto.1 body.1
              else none

/-- A record of the stream, and what follows it. -/
def readRecord (bs : List UInt8) : Option (Captured × List UInt8) :=
  (cut 8 bs).bind fun ts =>
    (takeLe 4 ts.2).bind fun inclLen =>
      (cut 4 inclLen.2).bind fun origLen =>
        (cut inclLen.1 origLen.2).bind fun pkt =>
          (readPacket pkt.1).map fun p => ({ inclLen := inclLen.1, isUdp := p.1, payload := p.2 }, pkt.2)

/-- A pcap file of LINKTYPE_RAW packets. -/
def readPcap (bs : List UInt8) : Option (List Captured) :=
  (takeLe 4 bs).bind fun magic =>
    (takeLe 2 magic.2).bind fun major =>
      (takeLe 2 major.2).bind fun minor =>
        (cut 12 minor.2).bind fun snaplen =>
          (takeLe 4 snaplen.2).bind fun network =>
            if magic.1 = 0xa1b2c3d4 ∧ major.1 = 2 ∧ minor.1 = 4 ∧ network.1 = 101 then
              readAll readRecord network.2
            else none

variable (saIn : SaPort → Nat)

/-- The file after the calls, from the time it is opened to the time it is closed. -/
def pcapCapture (calls : List SipWrite) : Option (List UInt8) :=
  voxPcapClose (calls.foldl (fun pcapFile call => voxPcapWriteSip saIn call pcapFile) (voxPcapOpen true none none).1)

namespace SipWrite

/-- The message of the call; one of no bytes is none. -/
def message (call : SipWrite) : List UInt8 := call.data.getD []

def l4HdrLen (call : SipWrite) : Nat := if call.isUdp then udpHdrLen else tcpHdrLen

/-- The record the call ought to leave. -/
def captured (call : SipWrite) : Captured :=
  { inclLen := ipHdrLen + call.l4HdrLen + call.message.length, isUdp := call.isUdp, payload := call.message }

/-- The message and its headers are no longer than an IP packet can be. -/
def Fits (call : SipWrite) : Prop := ipHdrLen + call.l4HdrLen + call.message.length < 2 ^ 16

instance (call : SipWrite) : Decidable call.Fits := inferInstanceAs (Decidable (_ < _))

/-- `l4_total`, which the branch for UDP calls `udp_len`. -/
def l4Total (call : SipWrite) : Nat := u16 (call.l4HdrLen + call.message.length)

def srcPort (call : SipWrite) : Nat :=
  if (saToBytes saIn call.src).2 = 0 then 5060 else (saToBytes saIn call.src).2

def dstPort (call : SipWrite) : Nat :=
  if (saToBytes saIn call.dst).2 = 0 then 5060 else (saToBytes saIn call.dst).2

def pktHdr (call : SipWrite) : PcapPktHdr :=
  { tsSec := call.tvSec, tsUsec := call.tvUsec, inclLen := ipHdrLen + call.l4Total
    origLen := ipHdrLen + call.l4Total }

def ipHdr (call : SipWrite) : IpHdr :=
  { ihlVer := 0x45, tos := 0, totalLen := u16 (ipHdrLen + call.l4Total), id := 0, fragOff := 0, ttl := 64
    proto := if call.isUdp then 17 else 6, checksum := 0, src := (saToBytes saIn call.src).1
    dst := (saToBytes saIn call.dst).1 }

def l4Hdr (call : SipWrite) : List UInt8 :=
  if call.isUdp then
    UdpHdr.bytes
      { srcPort := call.srcPort saIn, dstPort := call.dstPort saIn, length := call.l4Total, checksum := 0 }
  else
    TcpHdr.bytes
      { srcPort := call.srcPort saIn, dstPort := call.dstPort saIn, seq := 0, ack := 0
        dataOffsetFlags := 0x5010, window := 65535, checksum := 0, urgentPtr := 0 }

/-- What a call adds to the file. -/
def record (call : SipWrite) : List UInt8 :=
  if call.message = [] then []
  else (call.pktHdr).bytes ++ ((call.ipHdr saIn).bytes ++ (call.l4Hdr saIn ++ call.message))

end SipWrite

variable {saIn} {call : SipWrite} {calls : List SipWrite} {file : File} {rest body : List UInt8}

/-! ### What is in the file -/

theorem atEnd_pcapWritePacket (h : file.AtEnd) {data : List UInt8} :
    (pcapWritePacket saIn call data file).AtEnd :=
  ((h.fwrite _).fwrite _).fwrite _ |>.fwrite _

theorem bytes_pcapWritePacket (h : file.AtEnd) {data : List UInt8} (hdata : call.data = some data)
    (hne : data ≠ []) : (pcapWritePacket saIn call data file).bytes = file.bytes ++ call.record saIn := by
  have hmsg : call.message = data := by rw [SipWrite.message, hdata, Option.getD_some]
  have h1 := h.fwrite call.pktHdr.bytes
  have h2 := h1.fwrite (call.ipHdr saIn).bytes
  have h3 := h2.fwrite (call.l4Hdr saIn)
  have heq : pcapWritePacket saIn call data file =
      (((file.fwrite call.pktHdr.bytes).fwrite (call.ipHdr saIn).bytes).fwrite (call.l4Hdr saIn)).fwrite data := by
    subst hmsg
    rfl
  rw [heq, h3.bytes_fwrite, h2.bytes_fwrite, h1.bytes_fwrite, h.bytes_fwrite, SipWrite.record, hmsg, if_neg hne]
  simp only [List.append_assoc]

theorem voxPcapWriteSip_eq (saIn : SaPort → Nat) (call : SipWrite) (h : file.AtEnd) :
    ∃ file', voxPcapWriteSip saIn call (some file) = some file' ∧ file'.AtEnd ∧
      file'.bytes = file.bytes ++ call.record saIn := by
  cases hdata : call.data with
  | none =>
      refine ⟨file, by rw [voxPcapWriteSip, hdata], h, ?_⟩
      rw [SipWrite.record, if_pos (by rw [SipWrite.message, hdata, Option.getD_none]), List.append_nil]
  | some data =>
      by_cases hnil : data = []
      · subst hnil
        refine ⟨file, by rw [voxPcapWriteSip, hdata]; rfl, h, ?_⟩
        rw [SipWrite.record, if_pos (by rw [SipWrite.message, hdata, Option.getD_some]), List.append_nil]
      · refine ⟨pcapWritePacket saIn call data file, ?_, atEnd_pcapWritePacket h,
          bytes_pcapWritePacket h hdata hnil⟩
        rw [voxPcapWriteSip, hdata]
        exact if_neg (by rwa [List.length_eq_zero_iff])

theorem foldl_voxPcapWriteSip (saIn : SaPort → Nat) (calls : List SipWrite) (h : file.AtEnd) :
    ∃ file', calls.foldl (fun pcapFile call => voxPcapWriteSip saIn call pcapFile) (some file) = some file' ∧
      file'.bytes = file.bytes ++ calls.flatMap (SipWrite.record saIn) := by
  induction calls generalizing file with
  | nil => exact ⟨file, rfl, (List.append_nil _).symm⟩
  | cons call calls ih =>
      obtain ⟨file', heq, hend, hbytes⟩ := voxPcapWriteSip_eq saIn call h
      obtain ⟨last, hlast, hall⟩ := ih hend
      refine ⟨last, by rw [List.foldl_cons, heq, hlast], ?_⟩
      rw [hall, hbytes, List.flatMap_cons, List.append_assoc]

/-! ### What the reader makes of a record -/

theorem length_saToBytes (addr : Option SaPort) : (saToBytes saIn addr).1.length = 4 := by
  unfold saToBytes
  split
  · rfl
  · exact length_be 4 _

theorem readRecord_pktHdr (h : PcapPktHdr) :
    readRecord (h.bytes ++ rest) =
      (cut (h.inclLen % 256 ^ 4) rest).bind fun pkt =>
        (readPacket pkt.1).map fun p =>
          ({ inclLen := h.inclLen % 256 ^ 4, isUdp := p.1, payload := p.2 }, pkt.2) := by
  have hbytes : h.bytes ++ rest = (le 4 h.tsSec ++ le 4 h.tsUsec) ++ (le 4 h.inclLen ++ (le 4 h.origLen ++ rest)) := by
    simp only [PcapPktHdr.bytes, List.append_assoc]
  rw [hbytes, readRecord, cut_append (by rw [List.length_append, length_le, length_le]), Option.bind_some,
    takeLe_append, Option.bind_some, cut_append (length_le _ _), Option.bind_some]

theorem readPacket_ipHdr (h : IpHdr) (hver : h.ihlVer = 0x45) (hsrc : h.src.length = 4) (hdst : h.dst.length = 4) :
    readPacket (h.bytes ++ body) =
      if 20 ≤ h.totalLen % 256 ^ 2 then
        (cut (h.totalLen % 256 ^ 2 - 20) body).bind fun b => readL4 (h.proto % 256 ^ 1) b.1
      else none := by
  have hbytes : h.bytes ++ body = be 1 h.ihlVer ++ (be 1 h.tos ++ (be 2 h.totalLen ++
      ((be 2 h.id ++ be 2 h.fragOff ++ be 1 h.ttl) ++
        (be 1 h.proto ++ ((be 2 h.checksum ++ h.src ++ h.dst) ++ body))))) := by
    simp only [IpHdr.bytes, List.append_assoc]
  have hskip : (be 2 h.id ++ be 2 h.fragOff ++ be 1 h.ttl).length = 5 := by simp
  have hends : (be 2 h.checksum ++ h.src ++ h.dst).length = 10 := by simp [hsrc, hdst]
  rw [hbytes, readPacket, takeBe_append, Option.bind_some, cut_append (length_be _ _), Option.bind_some,
    takeBe_append, Option.bind_some, cut_append hskip, Option.bind_some, takeBe_append, Option.bind_some,
    cut_append hends, Option.bind_some, hver]
  simp only [true_and, Nat.reducePow, Nat.reduceMod]

theorem readL4_udpHdr (h : UdpHdr) :
    readL4 17 (h.bytes ++ body) =
      if 8 ≤ h.length % 256 ^ 2 then (cut (h.length % 256 ^ 2 - 8) body).map fun p => (true, p.1) else none := by
  have hbytes : h.bytes ++ body =
      (be 2 h.srcPort ++ be 2 h.dstPort) ++ (be 2 h.length ++ (be 2 h.checksum ++ body)) := by
    simp only [UdpHdr.bytes, List.append_assoc]
  rw [hbytes, readL4, if_pos rfl, cut_append (by simp), Option.bind_some, takeBe_append, Option.bind_some,
    cut_append (length_be _ _), Option.bind_some]

theorem readL4_tcpHdr (h : TcpHdr) (hflags : h.dataOffsetFlags = 0x5010) :
    readL4 6 (h.bytes ++ body) = some (false, body) := by
  have hbytes : h.bytes ++ body = (be 2 h.srcPort ++ be 2 h.dstPort ++ be 4 h.seq ++ be 4 h.ack) ++
      (be 2 h.dataOffsetFlags ++ ((be 2 h.window ++ be 2 h.checksum ++ be 2 h.urgentPtr) ++ body)) := by
    simp only [TcpHdr.bytes, List.append_assoc]
  rw [hbytes, readL4, if_neg (by decide), if_pos rfl, cut_append (by simp), Option.bind_some, takeBe_append,
    Option.bind_some, cut_append (by simp), Option.bind_some, hflags]
  simp [cut]

/-- A payload is no longer than what is left of the packet behind its header. -/
theorem length_of_readL4 {proto : Nat} {udp : Bool} {payload : List UInt8}
    (h : readL4 proto body = some (udp, payload)) :
    (if udp then udpHdrLen else tcpHdrLen) + payload.length ≤ body.length := by
  unfold readL4 at h
  split at h
  · obtain ⟨ports, hports, h⟩ := Option.bind_eq_some_iff.mp h
    obtain ⟨length, hlength, h⟩ := Option.bind_eq_some_iff.mp h
    obtain ⟨checksum, hchecksum, h⟩ := Option.bind_eq_some_iff.mp h
    split at h
    · obtain ⟨p, hp, heq⟩ := Option.map_eq_some_iff.mp h
      obtain ⟨rfl, rfl⟩ := Prod.mk.inj heq
      have := length_of_cut hports
      have := length_of_takeBe hlength
      have := length_of_cut hchecksum
      have := length_of_cut hp
      simp only [if_true, udpHdrLen]
      omega
    · cases h
  · split at h
    · obtain ⟨ports, hports, h⟩ := Option.bind_eq_some_iff.mp h
      obtain ⟨flags, hflags, h⟩ := Option.bind_eq_some_iff.mp h
      obtain ⟨opts, hopts, h⟩ := Option.bind_eq_some_iff.mp h
      split at h
      · obtain ⟨p, hp, heq⟩ := Option.map_eq_some_iff.mp h
        obtain ⟨rfl, rfl⟩ := Prod.mk.inj heq
        have := length_of_cut hports
        have := length_of_takeBe hflags
        have := length_of_cut hopts
        have := length_of_cut hp
        simp only [Bool.false_eq_true, if_false, tcpHdrLen]
        omega
      · cases h
    · cases h

/-! ### One call -/

theorem inclLen_captured : call.captured.inclLen = ipHdrLen + call.l4HdrLen + call.message.length := rfl

theorem length_l4Hdr : (call.l4Hdr saIn).length = call.l4HdrLen := by
  unfold SipWrite.l4Hdr SipWrite.l4HdrLen
  split
  · simp [UdpHdr.bytes, udpHdrLen]
  · simp [TcpHdr.bytes, tcpHdrLen]

theorem length_ipHdr : (call.ipHdr saIn).bytes.length = ipHdrLen := by
  simp [IpHdr.bytes, SipWrite.ipHdr, length_saToBytes, ipHdrLen]

theorem length_record (saIn : SaPort → Nat) (h : call.message ≠ []) :
    (call.record saIn).length = 16 + call.captured.inclLen := by
  have hpkt : call.pktHdr.bytes.length = 16 := by simp [PcapPktHdr.bytes]
  rw [SipWrite.record, if_neg h, List.length_append, List.length_append, List.length_append, hpkt, length_ipHdr,
    length_l4Hdr, inclLen_captured]
  omega

theorem length_record_lt (h : call.message = []) : (call.record saIn).length < 16 + call.captured.inclLen := by
  rw [SipWrite.record, if_pos h, List.length_nil]
  omega

theorem fits_of_empty (h : call.message = []) : call.Fits := by
  unfold SipWrite.Fits SipWrite.l4HdrLen
  rw [h]
  split <;> decide

/-- The lengths are narrowed to what they are if the message fits. -/
theorem SipWrite.Fits.lengths (h : call.Fits) :
    (ipHdrLen + call.l4Total) % 256 ^ 4 = call.captured.inclLen ∧
      u16 (ipHdrLen + call.l4Total) % 256 ^ 2 = call.captured.inclLen ∧
      call.l4Total % 256 ^ 2 = call.l4HdrLen + call.message.length := by
  unfold SipWrite.Fits at h
  rw [inclLen_captured]
  unfold SipWrite.l4Total u16
  refine ⟨?_, ?_, ?_⟩ <;> omega

/-- What the reader makes of the packet: all of it if the lengths are right. -/
theorem readPacket_record :
    readPacket ((call.ipHdr saIn).bytes ++ body) =
      if 20 ≤ u16 (ipHdrLen + call.l4Total) % 256 ^ 2 then
        (cut (u16 (ipHdrLen + call.l4Total) % 256 ^ 2 - 20) body).bind fun b =>
          readL4 (if call.isUdp then 17 else 6) b.1
      else none := by
  have hproto : (call.ipHdr saIn).proto % 256 ^ 1 = if call.isUdp then 17 else 6 := by
    unfold SipWrite.ipHdr
    cases call.isUdp <;> rfl
  rw [readPacket_ipHdr (call.ipHdr saIn) rfl (length_saToBytes _) (length_saToBytes _), hproto]
  rfl

theorem readL4_record (h : call.Fits) :
    readL4 (if call.isUdp then 17 else 6) (call.l4Hdr saIn ++ call.message) =
      some (call.isUdp, call.message) := by
  have hlen := h.lengths.2.2
  unfold SipWrite.l4HdrLen at hlen
  cases hudp : call.isUdp with
  | false =>
      rw [SipWrite.l4Hdr, hudp]
      exact readL4_tcpHdr _ rfl
  | true =>
      rw [hudp] at hlen
      simp only [if_true, udpHdrLen] at hlen
      simp only [SipWrite.l4Hdr, hudp, if_true]
      rw [readL4_udpHdr]
      change (if 8 ≤ call.l4Total % 256 ^ 2 then (cut (call.l4Total % 256 ^ 2 - 8) _).map _ else none) = _
      rw [if_pos (by omega), hlen]
      simp [cut]

theorem readRecord_record (hne : call.message ≠ []) (h : call.Fits) (rest : List UInt8) :
    readRecord (call.record saIn ++ rest) = some (call.captured, rest) := by
  obtain ⟨hincl, htotal, -⟩ := h.lengths
  have hpkt : ((call.ipHdr saIn).bytes ++ (call.l4Hdr saIn ++ call.message)).length = call.captured.inclLen := by
    rw [List.length_append, List.length_append, length_ipHdr, length_l4Hdr, SipWrite.captured, Nat.add_assoc]
  have hbody : (call.l4Hdr saIn ++ call.message).length = call.captured.inclLen - 20 := by
    rw [List.length_append, length_ipHdr] at hpkt
    rw [← hpkt, ipHdrLen]
    omega
  have hread : readPacket ((call.ipHdr saIn).bytes ++ (call.l4Hdr saIn ++ call.message)) =
      some (call.isUdp, call.message) := by
    have hcut := cut_append hbody []
    rw [List.append_nil] at hcut
    rw [readPacket_record, htotal, if_pos (by rw [inclLen_captured, ipHdrLen]; omega), hcut,
      Option.bind_some, readL4_record h]
  rw [SipWrite.record, if_neg hne, List.append_assoc, readRecord_pktHdr]
  have hpktHdr : call.pktHdr.inclLen % 256 ^ 4 = call.captured.inclLen := hincl
  rw [hpktHdr, cut_append hpkt, Option.bind_some, hread]
  rfl

/-- A message that is too long is not read back: `incl_len` or `total_len` says less than there is. -/
theorem fits_of_readRecord (hne : call.message ≠ []) {rest rest' : List UInt8}
    (h : readRecord (call.record saIn ++ rest) = some (call.captured, rest')) : call.Fits := by
  rw [SipWrite.record, if_neg hne, List.append_assoc, readRecord_pktHdr] at h
  obtain ⟨pkt, hpkt, h⟩ := Option.bind_eq_some_iff.mp h
  obtain ⟨p, hp, heq⟩ := Option.map_eq_some_iff.mp h
  obtain ⟨hcap, rfl⟩ := Prod.mk.inj heq
  have hincl : (ipHdrLen + call.l4Total) % 256 ^ 4 = ipHdrLen + call.l4HdrLen + call.message.length :=
    congrArg Captured.inclLen hcap
  have hudp : p.1 = call.isUdp := congrArg Captured.isUdp hcap
  have hmsg : p.2 = call.message := congrArg Captured.payload hcap
  have hlen : call.l4Total < 2 ^ 16 := Nat.mod_lt _ (by decide)
  have hall : ((call.ipHdr saIn).bytes ++ (call.l4Hdr saIn ++ call.message)).length =
      (ipHdrLen + call.l4Total) % 256 ^ 4 := by
    rw [List.length_append, List.length_append, length_ipHdr, length_l4Hdr, hincl, Nat.add_assoc]
  -- the bytes captured are the packet, so it is its `total_len` that has to be right
  have hbytes : pkt.1 = (call.ipHdr saIn).bytes ++ (call.l4Hdr saIn ++ call.message) := by
    have hcut := hpkt.symm.trans (cut_append hall rest)
    exact congrArg Prod.fst (Option.some.inj hcut)
  rw [hbytes, readPacket_record] at hp
  split at hp
  · rename_i htotal
    obtain ⟨b, hb, hp⟩ := Option.bind_eq_some_iff.mp hp
    have hle : call.l4HdrLen + call.message.length ≤ b.1.length :=
      length_of_readL4 (hp.trans (congrArg some (Prod.ext hudp hmsg)))
    have hcut := (length_of_cut hb).2
    have hlt : u16 (ipHdrLen + call.l4Total) < 2 ^ 16 := Nat.mod_lt _ (by decide)
    unfold SipWrite.Fits
    unfold ipHdrLen at *
    omega
  · cases hp

/-! ### All of them -/

theorem readAll_records_iff (saIn : SaPort → Nat) (calls : List SipWrite) :
    readAll readRecord (calls.flatMap (SipWrite.record saIn)) =
        some ((calls.filter fun call => call.message ≠ []).map SipWrite.captured) ↔
      ∀ call ∈ calls, call.Fits := by
  induction calls with
  | nil => simp
  | cons call calls ih =>
      rw [List.flatMap_cons, List.forall_mem_cons]
      by_cases hnil : call.message = []
      · rw [List.filter_cons_of_neg (by simpa using hnil), SipWrite.record, if_pos hnil, List.nil_append, ih]
        exact ⟨fun h => ⟨fits_of_empty hnil, h⟩, And.right⟩
      · rw [List.filter_cons_of_pos (by simpa using hnil), List.map_cons]
        constructor
        · intro h
          obtain ⟨rest, hread, -, hrest⟩ := readAll_eq_cons h
          have hfits := fits_of_readRecord hnil hread
          have heq := hread.symm.trans (readRecord_record hnil hfits _)
          obtain ⟨-, rfl⟩ := Prod.mk.inj (Option.some.inj heq)
          exact ⟨hfits, ih.mp hrest⟩
        · rintro ⟨hfits, hrest⟩
          have hlt := length_record saIn hnil
          rw [readAll_cons (readRecord_record hnil hfits _) (by rw [List.length_append]; omega), ih.mpr hrest]
          rfl

theorem inclLen_of_readRecord {bs : List UInt8} {x : Captured} (h : readRecord bs = some (x, rest)) :
    16 + x.inclLen + rest.length ≤ bs.length := by
  obtain ⟨ts, hts, h⟩ := Option.bind_eq_some_iff.mp h
  obtain ⟨inclLen, hincl, h⟩ := Option.bind_eq_some_iff.mp h
  obtain ⟨origLen, horig, h⟩ := Option.bind_eq_some_iff.mp h
  obtain ⟨pkt, hpkt, h⟩ := Option.bind_eq_some_iff.mp h
  obtain ⟨p, -, heq⟩ := Option.map_eq_some_iff.mp h
  obtain ⟨rfl, rfl⟩ := Prod.mk.inj heq
  have := length_of_cut hts
  have := length_of_takeLe hincl
  have := length_of_cut horig
  have := length_of_cut hpkt
  simp only
  omega

/-- A record for every call needs more bytes than there are if a call wrote nothing. -/
theorem message_ne_nil_of_readAll
    (h : readAll readRecord (calls.flatMap (SipWrite.record saIn)) = some (calls.map SipWrite.captured)) :
    ∀ call ∈ calls, call.message ≠ [] := by
  intro call hmem hnil
  have hsum := sum_le_of_readAll (fun _ _ _ => inclLen_of_readRecord) h
  have hlt : (calls.map fun call => (call.record saIn).length).sum <
      (calls.map fun call => 16 + call.captured.inclLen).sum := by
    apply List.sum_lt_sum
    · intro other _
      by_cases hother : other.message = []
      · exact (length_record_lt hother).le
      · exact (length_record saIn hother).le
    · exact ⟨call, hmem, length_record_lt hnil⟩
  rw [List.map_map, List.length_flatMap] at hsum
  exact absurd hsum (Nat.not_le.mpr hlt)

theorem readPcap_writeGlobalHeader (bs : List UInt8) :
    readPcap ((writeGlobalHeader .opened).bytes ++ bs) = readAll readRecord bs := by
  rw [writeGlobalHeader, File.atEnd_opened.bytes_fwrite]
  have hbytes : ∀ h : PcapGlobalHdr, h.bytes ++ bs = le 4 h.magic ++ (le 2 h.versionMajor ++
      (le 2 h.versionMinor ++ ((le 4 h.thiszone ++ le 4 h.sigfigs ++ le 4 h.snaplen) ++ (le 4 h.network ++ bs)))) := by
    intro h
    simp only [PcapGlobalHdr.bytes, List.append_assoc]
  change readPcap (PcapGlobalHdr.bytes _ ++ bs) = _
  rw [hbytes, readPcap, takeLe_append, Option.bind_some, takeLe_append, Option.bind_some, takeLe_append,
    Option.bind_some, cut_append (by simp), Option.bind_some, takeLe_append, Option.bind_some]
  exact if_pos ⟨rfl, rfl, rfl, rfl⟩

theorem atEnd_writeGlobalHeader : (writeGlobalHeader .opened).AtEnd := File.atEnd_opened.fwrite _

theorem pcapCapture_eq (calls : List SipWrite) :
    pcapCapture saIn calls = some ((writeGlobalHeader .opened).bytes ++ calls.flatMap (SipWrite.record saIn)) := by
  obtain ⟨file, hfile, hbytes⟩ := foldl_voxPcapWriteSip saIn calls atEnd_writeGlobalHeader
  change voxPcapClose (calls.foldl _ (some (writeGlobalHeader .opened))) = _
  rw [hfile, voxPcapClose, Option.map_some, hbytes]

theorem readPcap_pcapCapture (calls : List SipWrite) :
    (pcapCapture saIn calls).bind readPcap = readAll readRecord (calls.flatMap (SipWrite.record saIn)) := by
  rw [pcapCapture_eq, Option.bind_some, readPcap_writeGlobalHeader]

/-- **The capture reads back as the messages that were written if every one of them, with its headers, fits an
IP packet, and only then.** A call without a message leaves no record. -/
theorem pcap_parses_iff (saIn : SaPort → Nat) (calls : List SipWrite) :
    ((pcapCapture saIn calls).bind readPcap =
        some ((calls.filter fun call => call.message ≠ []).map SipWrite.captured) ↔
      ∀ call ∈ calls, call.Fits) ∧
    ((pcapCapture saIn calls).bind readPcap = some (calls.map SipWrite.captured) ↔
      ∀ call ∈ calls, call.message ≠ [] ∧ call.Fits) := by
  rw [readPcap_pcapCapture]
  refine ⟨readAll_records_iff saIn calls, ?_⟩
  constructor
  · intro h
    have hne := message_ne_nil_of_readAll h
    have hfilter : (calls.filter fun call => call.message ≠ []) = calls :=
      List.filter_eq_self.mpr fun call hmem => decide_eq_true (hne call hmem)
    rw [← hfilter] at h
    have hfits := (readAll_records_iff saIn calls).mp (by rwa [hfilter] at h ⊢)
    exact fun call hmem => ⟨hne call hmem, hfits call hmem⟩
  · intro h
    have hfilter : (calls.filter fun call => call.message ≠ []) = calls :=
      List.filter_eq_self.mpr fun call hmem => decide_eq_true (h call hmem).1
    have hread := (readAll_records_iff saIn calls).mpr fun call hmem => (h call hmem).2
    rwa [hfilter] at hread

/-- A message of 65516 bytes that came in over TCP: its record says it has 20 bytes. -/
theorem pcap_oversize :
    ¬∀ (saIn : SaPort → Nat) (calls : List SipWrite), (∀ call ∈ calls, call.message ≠ []) →
      (pcapCapture saIn calls).bind readPcap = some (calls.map SipWrite.captured) := by
  intro h
  let call := sipTraceWrite false (some { addr := .v4 0xc0000201, port := 5060 }) none
    (List.replicate 65516 0x20) false 0 0
  have hmsg : call.message = List.replicate 65516 0x20 := rfl
  have hne : call.message ≠ [] := by
    rw [hmsg]
    exact List.ne_nil_of_length_pos (by rw [List.length_replicate]; decide)
  have hread := h (fun _ => 0) [call] (by simpa using hne)
  rw [readPcap_pcapCapture] at hread
  obtain ⟨rest, hrecord, -⟩ := readAll_eq_cons hread
  rw [List.flatMap_cons] at hrecord
  have hfits := fits_of_readRecord hne hrecord
  unfold SipWrite.Fits at hfits
  rw [hmsg, List.length_replicate] at hfits
  exact absurd hfits (by decide)

end VoxSdk
