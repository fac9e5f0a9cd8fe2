import Katran.Bpf.Bytes
import Katran.Bpf.Process

/-! # ICMP errors

A packet is described by its own headers, or, if it is an ICMP error, by those of the
packet it quotes with source and destination exchanged (`processL3Headers_iff`). An
error about a packet of a connection is thereby described as the connection's packets
are (`icmp_error_described_as_flow`). Everything that follows goes by the description,
so a quoted tunnel header counts as one of the error's own (`decapCall`).
-/

namespace Katran

/-! ## Two kinds of packets -/

/-- The protocol of the network header of a frame. -/
def outerProto (isIpv6 : Bool) (data : List UInt8) : UInt8 :=
  Bytes.read8 data (if isIpv6 then 20 else 23)

/-- The length in the network header of a frame. -/
def netBytes (isIpv6 : Bool) (data : List UInt8) : UInt16 :=
  Bytes.htons (Bytes.read16 data (if isIpv6 then 18 else 16))

/-- The type of service in the network header of a frame. -/
def outerTos (isIpv6 : Bool) (data : List UInt8) : UInt8 :=
  if isIpv6 then
    (((Bytes.read8 data 14 &&& 0x0f) <<< (4 : UInt8)) &&& 0xf0) |||
      ((Bytes.read8 data 15 >>> (4 : UInt8)) &&& 0x0f)
  else Bytes.read8 data 15

/-- A frame whose network header is read: whole, without options, not a fragment. -/
def NetHeader (isIpv6 : Bool) (data : List UInt8) : Prop :=
  if isIpv6 then 54 ≤ data.length ∧ outerProto isIpv6 data ≠ ipprotoFragment
  else 34 ≤ data.length ∧ Bytes.read8 data 14 &&& 0x0f = 5 ∧
    Bytes.read16 data 20 &&& pcktFragmented = 0

/-- The protocol of ICMP messages. -/
def icmpProto (isIpv6 : Bool) : UInt8 := if isIpv6 then ipprotoIcmpv6 else ipprotoIcmp

/-- The start of the packet that an ICMP error quotes. -/
def quoteOff (isIpv6 : Bool) : Nat := if isIpv6 then 62 else 42

/-- An ICMP message behind a network header without options is an error that quotes a
packet, whose header has no options either. -/
def QuotesPacket (isIpv6 : Bool) (data : List UInt8) : Prop :=
  if isIpv6 then 102 ≤ data.length ∧
    (Bytes.read8 data 54 = icmpv6PktToobig ∨ Bytes.read8 data 54 = icmpv6DestUnreach)
  else 62 ≤ data.length ∧ Bytes.read8 data 34 = icmpDestUnreach ∧
    Bytes.read8 data 42 &&& 0x0f = 5

/-- The description of a packet by its own network header. -/
def ownPckt (isIpv6 : Bool) (data : List UInt8) : PacketDescription where
  flow :=
    if isIpv6 then
      { srcv6 := Bytes.read128 data 22, dstv6 := Bytes.read128 data 38,
        proto := outerProto isIpv6 data }
    else
      { srcv6 := .ofV4 (Bytes.read32 data 26), dstv6 := .ofV4 (Bytes.read32 data 30),
        proto := outerProto isIpv6 data }
  tos := outerTos isIpv6 data

/-- The protocol of a packet is the one its network header names. -/
theorem ownPckt_proto (isIpv6 : Bool) (data : List UInt8) :
    (ownPckt isIpv6 data).flow.proto = outerProto isIpv6 data := by
  unfold ownPckt
  split <;> rfl

/-- The description by the network header of the packet that is quoted. -/
def quotedPckt (isIpv6 : Bool) (data : List UInt8) (tos : UInt8) : PacketDescription where
  flow :=
    if isIpv6 then
      { srcv6 := Bytes.read128 data 86, dstv6 := Bytes.read128 data 70,
        proto := Bytes.read8 data 68 }
    else
      { srcv6 := .ofV4 (Bytes.read32 data 58), dstv6 := .ofV4 (Bytes.read32 data 54),
        proto := Bytes.read8 data 51 }
  icmp := true
  tos := tos

/-- `parse_icmp` or `parse_icmpv6`. -/
def parseIcmpOf (cfg : BpfConfig) (isIpv6 : Bool) (data : List UInt8) (pckt : PacketDescription) :
    Action PacketDescription :=
  if isIpv6 then parseIcmpv6 cfg data 54 pckt else parseIcmp cfg data 34 pckt

/-- What ICMP parsing goes on with. -/
theorem parseIcmpOf_iff (cfg : BpfConfig) (isIpv6 : Bool) (data : List UInt8) (tos : UInt8)
    (pckt : PacketDescription) :
    parseIcmpOf cfg isIpv6 data { flow := { proto := icmpProto isIpv6 }, tos := tos } =
        .further pckt ↔
      QuotesPacket isIpv6 data ∧ pckt = quotedPckt isIpv6 data tos := by
  cases isIpv6 with
  | true =>
      simp only [parseIcmpOf, parseIcmpv6, QuotesPacket, quotedPckt, ↓reduceIte]
      split
      next short =>
        refine ⟨nofun, ?_⟩
        intro quotes
        omega
      next =>
        split
        next echo =>
          refine ⟨nofun, ?_⟩
          rintro ⟨⟨_, error⟩, _⟩
          rw [echo] at error
          exact absurd error (by decide)
        next =>
          split
          next other =>
            refine ⟨nofun, ?_⟩
            rintro ⟨⟨_, error⟩, _⟩
            rcases error with error | error
            · exact (other.1 error).elim
            · exact (other.2 error).elim
          next error =>
            rw [not_and_or, not_not, not_not] at error
            split
            next short =>
              refine ⟨nofun, ?_⟩
              intro quotes
              omega
            next long =>
              have whole : 102 ≤ data.length := by omega
              simp only [whole, error, and_self, true_and, Action.further.injEq]
              exact eq_comm
  | false =>
      simp only [parseIcmpOf, parseIcmp, QuotesPacket, quotedPckt, Bool.false_eq_true, ↓reduceIte]
      split
      next short =>
        refine ⟨nofun, ?_⟩
        intro quotes
        omega
      next =>
        split
        next echo =>
          refine ⟨nofun, ?_⟩
          rintro ⟨⟨_, error, _⟩, _⟩
          rw [echo] at error
          exact absurd error (by decide)
        next =>
          split
          next other =>
            refine ⟨nofun, ?_⟩
            rintro ⟨⟨_, error, _⟩, _⟩
            exact (other error).elim
          next error =>
            rw [not_not] at error
            split
            next short =>
              refine ⟨nofun, ?_⟩
              intro quotes
              omega
            next long =>
              split
              next options =>
                refine ⟨nofun, ?_⟩
                rintro ⟨⟨_, _, plain⟩, _⟩
                exact (options plain).elim
              next plain =>
                rw [not_not] at plain
                have whole : 62 ≤ data.length := by omega
                simp only [whole, error, plain, and_self, true_and, Action.further.injEq]
                exact eq_comm

variable {isIpv6 : Bool} {data : List UInt8}

private theorem processL3Headers_of_not_netHeader (cfg : BpfConfig)
    (bad : ¬ NetHeader isIpv6 data) :
    processL3Headers cfg data 14 isIpv6 = .done .drop data := by
  unfold NetHeader outerProto at bad
  cases isIpv6 with
  | true =>
      simp only [↓reduceIte, not_and_or, Nat.not_le, not_not] at bad
      simp only [processL3Headers, ↓reduceIte]
      split
      · rfl
      · rw [if_pos (bad.resolve_left (by omega))]
  | false =>
      simp only [Bool.false_eq_true, ↓reduceIte, not_and_or, Nat.not_le] at bad
      simp only [processL3Headers, Bool.false_eq_true, ↓reduceIte]
      split
      · rfl
      · split
        · rfl
        next plain =>
          rw [not_not] at plain
          rw [if_pos ((bad.resolve_left (by omega)).resolve_left (not_not_intro plain))]

/-- A packet that is not an ICMP message is described by its own header. -/
theorem processL3Headers_of_own (cfg : BpfConfig) (header : NetHeader isIpv6 data)
    (own : outerProto isIpv6 data ≠ icmpProto isIpv6) :
    processL3Headers cfg data 14 isIpv6 =
      .further (ownPckt isIpv6 data, netBytes isIpv6 data) := by
  cases isIpv6 with
  | true =>
      obtain ⟨whole, unfragmented⟩ := header
      simp only [outerProto, icmpProto, ↓reduceIte] at unfragmented own
      have long : ¬ 14 + 40 > data.length := by omega
      simp only [processL3Headers, long, unfragmented, own, ↓reduceIte]
      rfl
  | false =>
      obtain ⟨whole, plain, unfragmented⟩ := header
      simp only [outerProto, icmpProto, Bool.false_eq_true, ↓reduceIte] at own
      have long : ¬ 14 + 20 > data.length := by omega
      simp only [processL3Headers, long, plain, unfragmented, own, Bool.false_eq_true, ne_eq,
        not_true_eq_false, ↓reduceIte]
      rfl

/-- An ICMP message is answered, or described by what it quotes. -/
theorem processL3Headers_of_icmp (cfg : BpfConfig) (header : NetHeader isIpv6 data)
    (message : outerProto isIpv6 data = icmpProto isIpv6) :
    processL3Headers cfg data 14 isIpv6 =
      match parseIcmpOf cfg isIpv6 data
          { flow := { proto := icmpProto isIpv6 }, tos := outerTos isIpv6 data } with
      | .done verdict data => .done verdict data
      | .further pckt => .further (pckt, netBytes isIpv6 data) := by
  cases isIpv6 with
  | true =>
      obtain ⟨whole, _⟩ := header
      simp only [outerProto, icmpProto, ↓reduceIte] at message
      have long : ¬ 14 + 40 > data.length := by omega
      simp only [processL3Headers, long, message, ↓reduceIte]
      rfl
  | false =>
      obtain ⟨whole, plain, unfragmented⟩ := header
      simp only [outerProto, icmpProto, Bool.false_eq_true, ↓reduceIte] at message
      have long : ¬ 14 + 20 > data.length := by omega
      simp only [processL3Headers, long, plain, unfragmented, message, Bool.false_eq_true, ne_eq,
        not_true_eq_false, ↓reduceIte]
      rfl

/-- The two kinds of packets that are processed further: those described by their own
header and the ICMP errors. -/
theorem processL3Headers_iff (cfg : BpfConfig) (isIpv6 : Bool) (data : List UInt8)
    (pckt : PacketDescription) (pktBytes : UInt16) :
    processL3Headers cfg data 14 isIpv6 = .further (pckt, pktBytes) ↔
      NetHeader isIpv6 data ∧ pktBytes = netBytes isIpv6 data ∧
      ((outerProto isIpv6 data ≠ icmpProto isIpv6 ∧ pckt = ownPckt isIpv6 data) ∨
        (outerProto isIpv6 data = icmpProto isIpv6 ∧ QuotesPacket isIpv6 data ∧
          pckt = quotedPckt isIpv6 data (outerTos isIpv6 data))) := by
  by_cases header : NetHeader isIpv6 data
  · by_cases message : outerProto isIpv6 data = icmpProto isIpv6
    · have icmp := parseIcmpOf_iff cfg isIpv6 data (outerTos isIpv6 data) pckt
      rw [processL3Headers_of_icmp cfg header message]
      simp only [header, message, ne_eq, not_true_eq_false, false_and, true_and, false_or, ← icmp]
      split
      next verdict after done => simp only [done, reduceCtorEq, and_false]
      next quoted further =>
        simp only [further, Action.further.injEq, Prod.mk.injEq]
        exact and_comm.trans (and_congr_left' eq_comm)
    · rw [processL3Headers_of_own cfg header message]
      simp only [header, message, ne_eq, not_false_eq_true, true_and, false_and, or_false,
        Action.further.injEq, Prod.mk.injEq]
      exact and_comm.trans (and_congr eq_comm eq_comm)
  · rw [processL3Headers_of_not_netHeader cfg header]
    simp only [header, false_and, reduceCtorEq]

/-! ## Errors about a connection -/

/-- `parse_tcp` or `parse_udp`, according to the protocol in the description. -/
def parseTransport (data : List UInt8) (isIpv6 : Bool) (pckt : PacketDescription) :
    Option PacketDescription :=
  if pckt.flow.proto = ipprotoTcp then parseTcp data isIpv6 pckt
  else if pckt.flow.proto = ipprotoUdp then parseUdp data isIpv6 pckt
  else none

/-- The size of a transport header. -/
def transportSize (proto : UInt8) : Nat := if proto = ipprotoTcp then 20 else 8

/-- A packet of the same connection in the other direction. -/
structure AnswersTo (isIpv6 : Bool) (client reply : List UInt8) : Prop where
  proto : outerProto isIpv6 reply = outerProto isIpv6 client
  src : (ownPckt isIpv6 reply).flow.srcv6 = (ownPckt isIpv6 client).flow.dstv6
  dst : (ownPckt isIpv6 reply).flow.dstv6 = (ownPckt isIpv6 client).flow.srcv6
  srcPort : Bytes.read16 reply (calcOffset isIpv6 false) =
    Bytes.read16 client (calcOffset isIpv6 false + 2)
  dstPort : Bytes.read16 reply (calcOffset isIpv6 false + 2) =
    Bytes.read16 client (calcOffset isIpv6 false)

/-- An ICMP error that quotes a packet up to its transport header at least. -/
structure QuotesReply (isIpv6 : Bool) (reply error : List UInt8) : Prop where
  message : QuotesPacket isIpv6 error
  quoted : error.drop (quoteOff isIpv6) <+: reply.drop 14
  whole : calcOffset isIpv6 true + transportSize (outerProto isIpv6 reply) ≤ error.length

/-- The network header of a packet that is quoted. -/
theorem quotedPckt_of_quoted {reply error : List UInt8} (quotes : QuotesReply isIpv6 reply error)
    (tos : UInt8) :
    (quotedPckt isIpv6 error tos).flow =
      { srcv6 := (ownPckt isIpv6 reply).flow.dstv6
        dstv6 := (ownPckt isIpv6 reply).flow.srcv6
        proto := outerProto isIpv6 reply } := by
  cases isIpv6 with
  | true =>
      have long : 102 ≤ error.length := quotes.message.1
      have quoted : error.drop 62 <+: reply.drop 14 := quotes.quoted
      have proto : Bytes.read8 error 68 = Bytes.read8 reply 20 :=
        Bytes.read8_of_quoted quoted 6 (by omega)
      have src : Bytes.read128 error 70 = Bytes.read128 reply 22 :=
        Bytes.read128_of_quoted quoted 8 (by omega)
      have dst : Bytes.read128 error 86 = Bytes.read128 reply 38 :=
        Bytes.read128_of_quoted quoted 24 (by omega)
      simp only [quotedPckt, ownPckt, outerProto, ↓reduceIte, proto, src, dst]
  | false =>
      have long : 62 ≤ error.length := quotes.message.1
      have quoted : error.drop 42 <+: reply.drop 14 := quotes.quoted
      have proto : Bytes.read8 error 51 = Bytes.read8 reply 23 :=
        Bytes.read8_of_quoted quoted 9 (by omega)
      have src : Bytes.read32 error 54 = Bytes.read32 reply 26 :=
        Bytes.read32_of_quoted quoted 12 (by omega)
      have dst : Bytes.read32 error 58 = Bytes.read32 reply 30 :=
        Bytes.read32_of_quoted quoted 16 (by omega)
      simp only [quotedPckt, ownPckt, outerProto, Bool.false_eq_true, ↓reduceIte, proto, src, dst]

/-- The ports of a packet that is quoted. -/
theorem ports_of_quoted {reply error : List UInt8} (quotes : QuotesReply isIpv6 reply error) :
    Bytes.read16 error (calcOffset isIpv6 true) = Bytes.read16 reply (calcOffset isIpv6 false) ∧
      Bytes.read16 error (calcOffset isIpv6 true + 2) =
        Bytes.read16 reply (calcOffset isIpv6 false + 2) := by
  have size : 8 ≤ transportSize (outerProto isIpv6 reply) := by
    unfold transportSize
    split <;> omega
  have whole := quotes.whole
  cases isIpv6 with
  | true =>
      have quoted : error.drop 62 <+: reply.drop 14 := quotes.quoted
      change 102 + _ ≤ _ at whole
      exact ⟨Bytes.read16_of_quoted quoted 40 (by omega),
        Bytes.read16_of_quoted quoted 42 (by omega)⟩
  | false =>
      have quoted : error.drop 42 <+: reply.drop 14 := quotes.quoted
      change 62 + _ ≤ _ at whole
      exact ⟨Bytes.read16_of_quoted quoted 20 (by omega),
        Bytes.read16_of_quoted quoted 22 (by omega)⟩

/-- The flow that the transport header completes. -/
theorem parseTransport_iff (data : List UInt8) (isIpv6 : Bool) (pckt : PacketDescription)
    (flow : FlowKey) :
    (∃ described, parseTransport data isIpv6 pckt = some described ∧ described.flow = flow) ↔
      (pckt.flow.proto = ipprotoTcp ∨ pckt.flow.proto = ipprotoUdp) ∧
      calcOffset isIpv6 pckt.icmp + transportSize pckt.flow.proto ≤ data.length ∧
      flow = (pckt.setPorts (Bytes.read16 data (calcOffset isIpv6 pckt.icmp))
        (Bytes.read16 data (calcOffset isIpv6 pckt.icmp + 2))).flow := by
  unfold parseTransport transportSize
  by_cases tcp : pckt.flow.proto = ipprotoTcp
  · simp only [tcp, ↓reduceIte, true_or, true_and, parseTcp]
    split
    next short =>
      refine ⟨nofun, ?_⟩
      intro long
      omega
    next long =>
      have whole : calcOffset isIpv6 pckt.icmp + 20 ≤ data.length := by omega
      simp only [Option.some.injEq, exists_eq_left', whole, true_and]
      exact eq_comm
  · simp only [tcp, ↓reduceIte, false_or]
    by_cases udp : pckt.flow.proto = ipprotoUdp
    · simp only [udp, ↓reduceIte, true_and, parseUdp]
      split
      next short =>
        refine ⟨nofun, ?_⟩
        intro long
        omega
      next long =>
        have whole : calcOffset isIpv6 pckt.icmp + 8 ≤ data.length := by omega
        simp only [Option.some.injEq, exists_eq_left', whole, true_and]
        exact eq_comm
    · simp only [udp, ↓reduceIte, false_and, reduceCtorEq, exists_false]

/-- Packets of the same flow belong to the same VIP, or to none. -/
theorem lookupVip_of_flow {maps : ConfigMaps} {first second : PacketDescription}
    (same : second.flow = first.flow) :
    lookupVip maps isIpv6 second = (lookupVip maps isIpv6 first).map fun found =>
      (found.1, found.2.1, { second with flow := found.2.2.flow }) := by
  cases found : lookupVip maps isIpv6 first with
  | some resolved => exact lookupVip_congr rfl same found
  | none =>
      cases other : lookupVip maps isIpv6 second with
      | none => rfl
      | some resolved => cases found.symm.trans (lookupVip_congr rfl same.symm other)

/-- **Errors are described as the flow they are about.** An ICMP error about a reply to a packet
of a connection is described by the flow of the packets from the client, and belongs to their
VIP, for both families and whatever the error's own header is. -/
theorem icmp_error_described_as_flow {cfg : BpfConfig} {client reply error : List UInt8}
    {plain described : PacketDescription} {pktBytes : UInt16}
    (accepted : processL3Headers cfg client 14 isIpv6 = .further (plain, pktBytes))
    (own : plain.icmp = false) (parsed : parseTransport client isIpv6 plain = some described)
    (answers : AnswersTo isIpv6 client reply) (quotes : QuotesReply isIpv6 reply error) :
    ∀ tos, ∃ quoted final,
      parseIcmpOf cfg isIpv6 error { flow := { proto := icmpProto isIpv6 }, tos := tos } =
        .further quoted ∧
      parseTransport error isIpv6 quoted = some final ∧ final.flow = described.flow ∧
      (∀ maps, lookupVip maps isIpv6 final = (lookupVip maps isIpv6 described).map fun found =>
        (found.1, found.2.1, { final with flow := found.2.2.flow })) ∧
      (NetHeader isIpv6 error → outerProto isIpv6 error = icmpProto isIpv6 →
        tos = outerTos isIpv6 error →
          processL3Headers cfg error 14 isIpv6 = .further (quoted, netBytes isIpv6 error)) := by
  intro tos
  obtain ⟨_, _, ⟨_, rfl⟩ | ⟨_, _, rfl⟩⟩ := (processL3Headers_iff ..).mp accepted
  · obtain ⟨transport, long, same⟩ := (parseTransport_iff ..).mp ⟨described, parsed, rfl⟩
    have header := quotedPckt_of_quoted quotes tos
    obtain ⟨srcPort, dstPort⟩ := ports_of_quoted quotes
    have proto : (quotedPckt isIpv6 error tos).flow.proto = (ownPckt isIpv6 client).flow.proto := by
      rw [header, ownPckt_proto]
      exact answers.proto
    have quotedFlow : described.flow = ((quotedPckt isIpv6 error tos).setPorts
        (Bytes.read16 error (calcOffset isIpv6 true))
        (Bytes.read16 error (calcOffset isIpv6 true + 2))).flow := by
      rw [same]
      simp only [PacketDescription.setPorts, header, srcPort, dstPort, answers.src, answers.dst,
        answers.srcPort, answers.dstPort, answers.proto, ← ownPckt_proto]
      rfl
    have whole : calcOffset isIpv6 true + transportSize (quotedPckt isIpv6 error tos).flow.proto ≤
        error.length := by
      rw [header]
      exact quotes.whole
    rw [← proto] at transport
    obtain ⟨final, reparsed, flow⟩ :=
      (parseTransport_iff error isIpv6 (quotedPckt isIpv6 error tos) described.flow).mpr
        ⟨transport, whole, quotedFlow⟩
    refine ⟨quotedPckt isIpv6 error tos, final, ?_, reparsed, flow, ?_, ?_⟩
    · exact (parseIcmpOf_iff ..).mpr ⟨quotes.message, rfl⟩
    · intro maps
      exact lookupVip_of_flow flow
    · rintro netHeader message rfl
      exact (processL3Headers_iff ..).mpr ⟨netHeader, rfl, .inr ⟨message, quotes.message, rfl⟩⟩
  · cases own

/-- An ICMP error with the code for packets that need to be fragmented, from a router. -/
def sampleIcmp (dst : UInt32) (quoted : List UInt8) : XdpMd where
  headroom := List.replicate 64 0
  data := [2, 0, 0, 0, 0, 2, 2, 0, 0, 0, 0, 3, 8, 0] ++
    [0x45, 0, 0, 68, 0, 0, 0x40, 0, 64, 1, 0, 0] ++ Bytes.ofUInt32 0x09090909 ++
    Bytes.ofUInt32 dst ++ [3, 4, 0, 0, 0, 0, 5, 220] ++ quoted

/-- A packet of a client, the answer to it, and an error about the answer. -/
def clientData : List UInt8 := (sampleTcp 0x01010101 0x0101c80a 4000 80 false).data

/-- A reply of the VIP to its client. -/
def replyData : List UInt8 := (sampleTcp 0x0101c80a 0x01010101 80 4000 false).data

/-- An ICMP error about the reply. -/
def errorData : List UInt8 := (sampleIcmp 0x0101c80a (replyData.drop 14)).data

private theorem errorData_quotes : QuotesReply false replyData errorData where
  message := ⟨by decide, by decide, by decide⟩
  quoted := ⟨[], by decide⟩
  whole := by decide

/-- An error about a reply of the VIP is described as the flow of the client. -/
theorem icmp_error_described_as_flow_sample :
    ∃ quoted final, parseIcmpOf smallConfig false errorData { flow := { proto := 1 }, tos := 0 } =
        .further quoted ∧
      parseTransport errorData false quoted = some final ∧
      final.flow = ⟨.ofV4 0x01010101, .ofV4 0x0101c80a, 40975, 20480, 6⟩ := by
  have accepted : processL3Headers smallConfig clientData 14 false =
      .further (ownPckt false clientData, 40) := by decide
  have parsed : parseTransport clientData false (ownPckt false clientData) =
      some { flow := ⟨.ofV4 0x01010101, .ofV4 0x0101c80a, 40975, 20480, 6⟩ } := by decide
  have answers : AnswersTo false clientData replyData :=
    ⟨by decide, by decide, by decide, by decide, by decide⟩
  obtain ⟨quoted, final, further, reparsed, flow, _⟩ :=
    icmp_error_described_as_flow accepted rfl parsed answers errorData_quotes 0
  exact ⟨quoted, final, further, reparsed, flow⟩

/-! ## Tunnels -/

/-- The routines for packets of a tunnel that ends here. -/
inductive DecapCall where
  | ipip (protocol : UInt8)
  | gue
deriving DecidableEq, Repr

/-- What such a routine does. -/
def DecapCall.run (call : DecapCall) (xdp : XdpMd) (isIpv6 pass : Bool) : Verdict × XdpMd :=
  match call with
  | .ipip protocol => processEncapedIpipPckt xdp isIpv6 protocol pass
  | .gue => processEncapedGuePckt xdp isIpv6 pass

variable (cfg : BpfConfig) (maps : ConfigMaps) (cpu : Nat)

/-- The routine that `process_packet` calls for a packet, if it calls one. -/
def decapCall (isIpv6 : Bool) (data : List UInt8) (flow : FlowMaps) : Option DecapCall :=
  match processL3Headers cfg data 14 isIpv6 with
  | .done _ _ => none
  | .further (pckt, _) =>
      let protocol := pckt.flow.proto
      if cfg.inlineDecapIpip ∧ (protocol = ipprotoIpip ∨ protocol = ipprotoIpv6) then
        (checkDecapDst cfg maps cpu isIpv6 pckt flow).1.map fun _ => .ipip protocol
      else if protocol = ipprotoUdp then
        (parseUdp data isIpv6 pckt).bind fun pckt =>
          if cfg.inlineDecapGue ∧ pckt.flow.dstPort = Bytes.htons cfg.gueDport then
            (checkDecapDst cfg maps cpu isIpv6 pckt flow).1.map fun _ => .gue
          else none
      else none

variable {cfg maps cpu} {xdp : XdpMd} {flow : FlowMaps}

/-- A packet to a destination of tunnels is handed to the routine. -/
theorem processTunnel_of_check {pckt : PacketDescription} {decap : Bool → Verdict × XdpMd}
    {pass : Bool} (checked : (checkDecapDst cfg maps cpu isIpv6 pckt flow).1 = some pass) :
    ∃ later, processTunnel cfg maps cpu isIpv6 pckt decap xdp flow =
      .final (decap pass).1 (decap pass).2 later := by
  unfold processTunnel
  cases returned : checkDecapDst cfg maps cpu isIpv6 pckt flow with
  | mk decided later =>
      rw [returned] at checked
      dsimp only at checked
      subst checked
      exact ⟨later, rfl⟩

/-- A packet whose destination cannot be counted is dropped. -/
theorem processTunnel_of_not_check {pckt : PacketDescription} {decap : Bool → Verdict × XdpMd}
    (unchecked : (checkDecapDst cfg maps cpu isIpv6 pckt flow).1 = none) :
    ∃ later, processTunnel cfg maps cpu isIpv6 pckt decap xdp flow = .final .drop xdp later := by
  unfold processTunnel
  cases returned : checkDecapDst cfg maps cpu isIpv6 pckt flow with
  | mk decided later =>
      rw [returned] at unchecked
      dsimp only at unchecked
      subst unchecked
      exact ⟨later, rfl⟩

/-- The routine that is called decides about the packet. -/
theorem parsePacket_of_decapCall {call : DecapCall}
    (called : decapCall cfg maps cpu isIpv6 xdp.data flow = some call) :
    ∃ pass later, parsePacket cfg maps cpu isIpv6 xdp flow =
      .final (call.run xdp isIpv6 pass).1 (call.run xdp isIpv6 pass).2 later := by
  unfold decapCall at called
  unfold parsePacket
  cases headers : processL3Headers cfg xdp.data 14 isIpv6 with
  | done verdict data =>
      rw [headers] at called
      cases called
  | further value =>
      rw [headers] at called
      dsimp only at called ⊢
      split at called
      next ipip =>
        obtain ⟨pass, checked, rfl⟩ := Option.map_eq_some_iff.mp called
        rw [if_pos ipip]
        exact ⟨pass, processTunnel_of_check checked⟩
      next other =>
        rw [if_neg other]
        split at called
        next udp =>
          have notTcp : ¬ value.1.flow.proto = ipprotoTcp := by
            rw [udp]
            decide
          rw [if_neg notTcp, if_pos udp]
          obtain ⟨pckt, parsed, rest⟩ := Option.bind_eq_some_iff.mp called
          rw [parsed]
          dsimp only
          split at rest
          next gue =>
            obtain ⟨pass, checked, rfl⟩ := Option.map_eq_some_iff.mp rest
            rw [if_pos gue]
            exact ⟨pass, processTunnel_of_check checked⟩
          next => cases rest
        next => cases called

/-- The answer to an echo request is as long as the request. -/
theorem sendIcmpReply_length (cfg : BpfConfig) (data : List UInt8) :
    (sendIcmpReply cfg data).2.length = data.length := by
  unfold sendIcmpReply
  split
  · rfl
  · simp only [swapMacAndSend, Bytes.write8, Bytes.write16, Bytes.write32, Bytes.length_write,
      Bytes.length_copy]

/-- What may become of an ICMP message at once. -/
theorem parseIcmpOf_done_cases {pckt : PacketDescription} {verdict : Verdict}
    {answer : List UInt8} (done : parseIcmpOf cfg isIpv6 data pckt = .done verdict answer) :
    ((verdict = .drop ∨ verdict = .pass) ∧ answer = data) ∨
      (verdict, answer) = sendIcmpReply cfg data ∨ (verdict, answer) = sendIcmp6Reply cfg data := by
  unfold parseIcmpOf at done
  cases isIpv6 with
  | true =>
      simp only [↓reduceIte, parseIcmpv6] at done
      split at done
      · cases done
        exact .inl ⟨.inl rfl, rfl⟩
      split at done
      · cases done
        exact .inr (.inr rfl)
      split at done
      · cases done
        exact .inl ⟨.inr rfl, rfl⟩
      split at done
      · cases done
        exact .inl ⟨.inl rfl, rfl⟩
      · cases done
  | false =>
      simp only [Bool.false_eq_true, ↓reduceIte, parseIcmp] at done
      split at done
      · cases done
        exact .inl ⟨.inl rfl, rfl⟩
      split at done
      · cases done
        exact .inr (.inl rfl)
      split at done
      · cases done
        exact .inl ⟨.inr rfl, rfl⟩
      split at done
      · cases done
        exact .inl ⟨.inl rfl, rfl⟩
      split at done
      · cases done
        exact .inl ⟨.inl rfl, rfl⟩
      · cases done

/-- A packet that the network header decides about is dropped, passed on or answered. -/
theorem processL3Headers_done_cases {verdict : Verdict} {answer : List UInt8}
    (done : processL3Headers cfg data 14 isIpv6 = .done verdict answer) :
    ((verdict = .drop ∨ verdict = .pass) ∧ answer = data) ∨
      (verdict, answer) = sendIcmpReply cfg data ∨ (verdict, answer) = sendIcmp6Reply cfg data := by
  by_cases header : NetHeader isIpv6 data
  · by_cases message : outerProto isIpv6 data = icmpProto isIpv6
    · rw [processL3Headers_of_icmp cfg header message] at done
      split at done
      next final after ended =>
        cases done
        exact parseIcmpOf_done_cases ended
      next => cases done
    · rw [processL3Headers_of_own cfg header message] at done
      cases done
  · rw [processL3Headers_of_not_netHeader cfg header] at done
    cases done
    exact .inl ⟨.inl rfl, rfl⟩

/-- The counter for tunnels that end here is there, if the destination is one of theirs. -/
def DecapCounted (cfg : BpfConfig) (maps : ConfigMaps) (isIpv6 : Bool) (key : FlowKey) : Prop :=
  maps.decapDst (dstAddress isIpv6 key) = true → cfg.maxVips + remoteEncapCntrs < cfg.statsMapSize

/-- The destination is looked up, unless its counter is missing. -/
theorem checkDecapDst_isSome (pckt : PacketDescription) :
    (checkDecapDst cfg maps cpu isIpv6 pckt flow).1.isSome ↔
      DecapCounted cfg maps isIpv6 pckt.flow := by
  unfold checkDecapDst DecapCounted countStats
  split
  next listed =>
    by_cases inside : cfg.maxVips + remoteEncapCntrs < cfg.statsMapSize
    · simp only [inside, ↓reduceIte, Option.isSome_some, implies_true]
    · simp only [inside, listed, ↓reduceIte, Option.isSome_none, Bool.false_eq_true, imp_false,
        not_true_eq_false]
  next unlisted =>
    simp only [unlisted, Option.isSome_some, Bool.false_eq_true, false_implies]

private theorem map_const_eq_some_iff {α β : Type} {option : Option α} {value result : β} :
    option.map (fun _ => value) = some result ↔ option.isSome ∧ result = value := by
  cases option with
  | none => simp only [Option.map_none, reduceCtorEq, Option.isSome_none, Bool.false_eq_true,
      false_and]
  | some _ =>
      simp only [Option.map_some, Option.some.injEq, Option.isSome_some, true_and]
      exact eq_comm

/-- When a routine is called, in terms of the description by the network header. -/
theorem decapCall_eq_some_iff {call : DecapCall} :
    decapCall cfg maps cpu isIpv6 data flow = some call ↔
      ∃ pckt pktBytes, processL3Headers cfg data 14 isIpv6 = .further (pckt, pktBytes) ∧
        DecapCounted cfg maps isIpv6 pckt.flow ∧
        ((cfg.inlineDecapIpip = true ∧
            (pckt.flow.proto = ipprotoIpip ∨ pckt.flow.proto = ipprotoIpv6) ∧
            call = .ipip pckt.flow.proto) ∨
          (cfg.inlineDecapGue = true ∧ pckt.flow.proto = ipprotoUdp ∧
            calcOffset isIpv6 pckt.icmp + 8 ≤ data.length ∧
            Bytes.read16 data (calcOffset isIpv6 pckt.icmp + if pckt.icmp then 0 else 2) =
              Bytes.htons cfg.gueDport ∧ call = .gue)) := by
  unfold decapCall
  cases headers : processL3Headers cfg data 14 isIpv6 with
  | done verdict answer => simp only [reduceCtorEq, false_and, exists_false]
  | further value =>
      obtain ⟨pckt, pktBytes⟩ := value
      simp only [Action.further.injEq, Prod.mk.injEq, and_assoc, exists_and_left, exists_eq_left']
      by_cases ipip : cfg.inlineDecapIpip = true ∧
          (pckt.flow.proto = ipprotoIpip ∨ pckt.flow.proto = ipprotoIpv6)
      · have notUdp : ¬ pckt.flow.proto = ipprotoUdp := by
          rcases ipip.2 with same | same
          · rw [same]
            decide
          · rw [same]
            decide
        rw [if_pos ipip, map_const_eq_some_iff, checkDecapDst_isSome]
        simp only [ipip, notUdp, true_and, false_and, and_false, or_false]
      have notIpip : ¬ (cfg.inlineDecapIpip = true ∧
          (pckt.flow.proto = ipprotoIpip ∨ pckt.flow.proto = ipprotoIpv6) ∧
          call = .ipip pckt.flow.proto) := fun wrong => ipip ⟨wrong.1, wrong.2.1⟩
      rw [if_neg ipip, or_iff_right notIpip]
      by_cases udp : pckt.flow.proto = ipprotoUdp
      · have port : (pckt.setPorts (Bytes.read16 data (calcOffset isIpv6 pckt.icmp))
            (Bytes.read16 data (calcOffset isIpv6 pckt.icmp + 2))).flow.dstPort =
            Bytes.read16 data (calcOffset isIpv6 pckt.icmp + if pckt.icmp then 0 else 2) := by
          cases icmp : pckt.icmp with
          | true => simp only [PacketDescription.setPorts, icmp, ↓reduceIte, Nat.add_zero]
          | false =>
              simp only [PacketDescription.setPorts, icmp, Bool.false_eq_true, ↓reduceIte]
        simp only [udp, ↓reduceIte, true_and, parseUdp]
        split
        next short =>
          have missing : ¬ calcOffset isIpv6 pckt.icmp + 8 ≤ data.length := by omega
          simp only [Option.bind_none, reduceCtorEq, missing, false_and, and_false]
        next long =>
          have whole : calcOffset isIpv6 pckt.icmp + 8 ≤ data.length := by omega
          rw [Option.bind_some, port]
          by_cases gue : cfg.inlineDecapGue = true ∧
              Bytes.read16 data (calcOffset isIpv6 pckt.icmp + if pckt.icmp then 0 else 2) =
                Bytes.htons cfg.gueDport
          · rw [if_pos gue, map_const_eq_some_iff, checkDecapDst_isSome]
            simp only [gue, whole, true_and]
            rfl
          · rw [if_neg gue]
            refine ⟨nofun, ?_⟩
            rintro ⟨_, inline, _, same, _⟩
            exact (gue ⟨inline, same⟩).elim
      · simp only [udp, ↓reduceIte, reduceCtorEq, false_and, and_false]

/-- The network header of a frame is that of a packet of a tunnel, or the UDP header
behind it is. -/
def DecapCall.CarriedBy (call : DecapCall) (cfg : BpfConfig) (isIpv6 : Bool) (data : List UInt8) :
    Prop :=
  match call with
  | .ipip _ => outerProto isIpv6 data = ipprotoIpip ∨ outerProto isIpv6 data = ipprotoIpv6
  | .gue => outerProto isIpv6 data = ipprotoUdp ∧
      Bytes.read16 data (calcOffset isIpv6 false + 2) = Bytes.htons cfg.gueDport

/-- Headers are only removed from packets of tunnels, and never from an ICMP message. -/
structure OnlyTunnels (cfg : BpfConfig) (maps : ConfigMaps) (cpu : Nat) (isIpv6 : Bool)
    (data : List UInt8) (flow : FlowMaps) : Prop where
  carried : ∀ call, decapCall cfg maps cpu isIpv6 data flow = some call →
    call.CarriedBy cfg isIpv6 data
  messages : outerProto isIpv6 data = icmpProto isIpv6 →
    decapCall cfg maps cpu isIpv6 data flow = none

/-- A frame that is an ICMP error about a packet that looks like one of a tunnel which
ends here: by its protocol or, as the ports are exchanged, by its source port. -/
structure QuotesTunnel (cfg : BpfConfig) (maps : ConfigMaps) (isIpv6 : Bool) (data : List UInt8) :
    Prop where
  header : NetHeader isIpv6 data
  message : outerProto isIpv6 data = icmpProto isIpv6
  quotes : QuotesPacket isIpv6 data
  tunnel : let proto := Bytes.read8 data (quoteOff isIpv6 + if isIpv6 then 6 else 9)
    (cfg.inlineDecapIpip = true ∧ (proto = ipprotoIpip ∨ proto = ipprotoIpv6)) ∨
      (cfg.inlineDecapGue = true ∧ proto = ipprotoUdp ∧
        calcOffset isIpv6 true + 8 ≤ data.length ∧
        Bytes.read16 data (calcOffset isIpv6 true) = Bytes.htons cfg.gueDport)
  counted : DecapCounted cfg maps isIpv6 (quotedPckt isIpv6 data 0).flow

private theorem quotedPckt_proto (isIpv6 : Bool) (data : List UInt8) (tos : UInt8) :
    (quotedPckt isIpv6 data tos).flow.proto =
      Bytes.read8 data (quoteOff isIpv6 + if isIpv6 then 6 else 9) := by
  cases isIpv6 <;> rfl

private theorem DecapCall.CarriedBy.ne_icmp {call : DecapCall}
    (carried : call.CarriedBy cfg isIpv6 data) :
    outerProto isIpv6 data ≠ icmpProto isIpv6 := by
  intro message
  cases call with
  | ipip protocol =>
      have tunnel : outerProto isIpv6 data = ipprotoIpip ∨ outerProto isIpv6 data = ipprotoIpv6 :=
        carried
      rw [message] at tunnel
      cases isIpv6 <;> exact absurd tunnel (by decide)
  | gue =>
      have udp := carried.1
      rw [message] at udp
      cases isIpv6 <;> exact absurd udp (by decide)

/-- **Only packets of tunnels are decapsulated, unless an ICMP error quotes one.** Of every
frame, configuration and state: the routines that remove headers are called for packets whose
own header is that of a tunnel, exactly if the frame is not an error that quotes a packet of a
tunnel. -/
theorem only_tunnels_decapsulated_iff (cfg : BpfConfig) (maps : ConfigMaps) (cpu : Nat)
    (isIpv6 : Bool) (data : List UInt8) (flow : FlowMaps) :
    OnlyTunnels cfg maps cpu isIpv6 data flow ↔ ¬ QuotesTunnel cfg maps isIpv6 data := by
  constructor
  · intro only quotes
    have none := only.messages quotes.message
    have further := (processL3Headers_iff cfg isIpv6 data _ _).mpr
      ⟨quotes.header, rfl, .inr ⟨quotes.message, quotes.quotes, rfl⟩⟩
    have proto := quotedPckt_proto isIpv6 data (outerTos isIpv6 data)
    rcases quotes.tunnel with ⟨inline, tunnel⟩ | ⟨inline, udp, long, port⟩
    · rw [← proto] at tunnel
      cases none.symm.trans (decapCall_eq_some_iff.mpr
        ⟨_, _, further, quotes.counted, .inl ⟨inline, tunnel, rfl⟩⟩)
    · rw [← proto] at udp
      cases none.symm.trans (decapCall_eq_some_iff.mpr
        ⟨_, _, further, quotes.counted, .inr ⟨inline, udp, long, port, rfl⟩⟩)
  · intro other
    have carried : ∀ call, decapCall cfg maps cpu isIpv6 data flow = some call →
        call.CarriedBy cfg isIpv6 data := by
      intro call called
      obtain ⟨pckt, pktBytes, further, counted, tunnel⟩ := decapCall_eq_some_iff.mp called
      obtain ⟨header, _, ⟨own, rfl⟩ | ⟨message, quotes, rfl⟩⟩ :=
        (processL3Headers_iff ..).mp further
      · rw [ownPckt_proto] at tunnel
        rcases tunnel with ⟨_, proto, rfl⟩ | ⟨_, udp, _, port, rfl⟩
        · exact proto
        · exact ⟨udp, port⟩
      · refine (other ⟨header, message, quotes, ?_, counted⟩).elim
        rw [quotedPckt_proto] at tunnel
        rcases tunnel with ⟨inline, proto, _⟩ | ⟨inline, udp, long, port, _⟩
        · exact .inl ⟨inline, proto⟩
        · exact .inr ⟨inline, udp, long, port⟩
    refine ⟨carried, ?_⟩
    intro message
    cases called : decapCall cfg maps cpu isIpv6 data flow with
    | none => rfl
    | some call => exact ((carried call called).ne_icmp message).elim

/-- The program that ends tunnels. -/
def decapConfig : BpfConfig := { smallConfig with inlineDecapIpip := true, inlineDecapGue := true }

/-- An error about a packet of a tunnel, in which another packet is wrapped. -/
def tunnelError : XdpMd :=
  sampleIcmp 0x0101c80a ([0x45, 0, 0, 60, 0, 0, 0x40, 0, 64, 4, 0, 0] ++
    Bytes.ofUInt32 0x0101c80a ++ Bytes.ofUInt32 0x02020202 ++ clientData.drop 14)

/-- The maps of a balancer without VIPs. -/
def noVips : ConfigMaps := .fresh [2, 0, 0, 0, 0, 1] fun _ => true

/-- The error loses its network header and is passed on. -/
theorem tunnel_error_stripped :
    ¬ OnlyTunnels decapConfig noVips 0 false tunnelError.data .fresh ∧
      (processPacket decapConfig noVips (sampleEnv 0) false tunnelError .fresh).verdict = .pass ∧
      (processPacket decapConfig noVips (sampleEnv 0) false tunnelError .fresh).xdp.data.length +
        20 =
        tunnelError.data.length := by
  have called : decapCall decapConfig noVips 0 false tunnelError.data .fresh = some (.ipip 4) := by
    decide +kernel
  refine ⟨?_, by decide +kernel, by decide +kernel⟩
  intro only
  have carried : outerProto false tunnelError.data = ipprotoIpip ∨
      outerProto false tunnelError.data = ipprotoIpv6 := only.carried _ called
  exact absurd carried (by decide +kernel)

end Katran
