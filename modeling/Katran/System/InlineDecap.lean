import Katran.System.Headroom
import Katran.System.Payload
import Katran.System.Routed

/-! # Destinations of tunnels that end here

The library keeps the addresses whose tunnels the program ends, and writes them to `decap_dst`.
The result of the write is ignored: the library's own set has changed by then, and the call
returns true. What is left of a failed write is the counter of failed calls.

As long as that counter has not moved, the program processes the packets of a tunnel again
exactly if the library lists the tunnel's destination (`decap_destinations`). Addresses of both
families are written under one key, and the set takes an address for the IPv4 address it maps.
A destination is therefore to be removed only by a name that means it in both.
-/

namespace Katran

open Foundation UnorderedMap

/-! ## The library -/

/-- The library with what it keeps for inline decapsulation: a feature that it has discovered, a
setting, and its set of addresses, by what they are equal to. -/
structure KatranDecap where
  lb : KatranLb
  inlineDecap : Bool
  maxDecapDst : UInt32
  decapDsts : UnorderedMap IPAddress IPAddress

namespace KatranDecap

/-- The key of an address in `decap_dst`. -/
def decapKey (dst : IPAddress) : Be32x4 := (parseAddrToBe dst).dstv6

/-- An entry that is not there cannot be deleted. -/
def modifyDecapDst (env : Env) (state : KatranDecap) (action : ModifyAction) (dst : IPAddress) :
    Bool × KatranDecap :=
  let addr := decapKey dst
  let env : Env := { env with
    succeeds := fun call =>
      env.succeeds call && (action = .add || state.lb.kernel.decapDst addr) }
  let (done, lb) := state.lb.bpfCall env fun maps => { maps with
    decapDst := Function.update maps.decapDst addr (action = .add) }
  (done, { state with lb := lb })

/-- Adds a destination whose tunnels end here. -/
def addInlineDecapDst (folly : Folly) (env : Env) (state : KatranDecap) (dst : String) :
    Bool × KatranDecap :=
  if state.lb.config.disableForwarding then (false, state)
  else if ¬ state.inlineDecap ∧ ¬ state.lb.config.testing then (false, state)
  else
    match state.lb.validateAddress folly dst false with
    | (.invalid, lb) => (false, { state with lb := lb })
    | (_, lb) =>
        let state := { state with lb := lb }
        match folly.parse dst with
        -- an address that is valid can be parsed
        | none => (false, state)
        | some daddr =>
            if daddr.key ∈ state.decapDsts then (false, state)
            else if state.decapDsts.entries.length + 1 > state.maxDecapDst.toNat then (false, state)
            else
              let state := { state with decapDsts := state.decapDsts.insert daddr.key daddr }
              if state.lb.config.testing then (true, state)
              else (true, (state.modifyDecapDst env .add daddr).2)

/-- Removes a destination whose tunnels end here. -/
def delInlineDecapDst (folly : Folly) (env : Env) (state : KatranDecap) (dst : String) :
    Bool × KatranDecap :=
  if state.lb.config.disableForwarding then (false, state)
  else if ¬ state.inlineDecap ∧ ¬ state.lb.config.testing then (false, state)
  else
    match state.lb.validateAddress folly dst false with
    | (.invalid, lb) => (false, { state with lb := lb })
    | (_, lb) =>
        let state := { state with lb := lb }
        match folly.parse dst with
        | none => (false, state)
        | some daddr =>
            if daddr.key ∉ state.decapDsts then (false, state)
            else
              let state := { state with decapDsts := state.decapDsts.erase daddr.key }
              if state.lb.config.testing then (true, state)
              else (true, (state.modifyDecapDst env .del daddr).2)

/-- The destinations that the library lists. -/
def getInlineDecapDst (state : KatranDecap) : List IPAddress :=
  if state.lb.config.disableForwarding then [] else values state.decapDsts

/-! ## What a call does -/

/-- The number of bpf calls that have failed. -/
def failed (state : KatranDecap) : Nat := state.lb.lbStats.bpfFailedCalls

/-- Neither the program's table nor the counter of failed calls has changed. -/
structure Quiet (state after : KatranDecap) : Prop where
  config : after.lb.config = state.lb.config
  maxDecapDst : after.maxDecapDst = state.maxDecapDst
  decapDst : after.lb.kernel.decapDst = state.lb.kernel.decapDst
  failed : after.failed = state.failed

/-- The program's table has been written, or the call has failed. -/
structure Writes (state after : KatranDecap) (action : ModifyAction) (dst : IPAddress) : Prop where
  config : after.lb.config = state.lb.config
  maxDecapDst : after.maxDecapDst = state.maxDecapDst
  outcome : after.failed = state.failed + 1 ∨
    (after.failed = state.failed ∧
      (action = .del → state.lb.kernel.decapDst (decapKey dst) = true) ∧
      after.lb.kernel.decapDst =
        Function.update state.lb.kernel.decapDst (decapKey dst) (action = .add))

private theorem Quiet.writes {state middle after : KatranDecap} {action : ModifyAction}
    {dst : IPAddress} (quiet : Quiet state middle) (writes : Writes middle after action dst) :
    Writes state after action dst where
  config := writes.config.trans quiet.config
  maxDecapDst := writes.maxDecapDst.trans quiet.maxDecapDst
  outcome := by
    rw [← quiet.failed, ← quiet.decapDst]
    exact writes.outcome

private theorem modifyDecapDst_writes (env : Env) (state : KatranDecap) (action : ModifyAction)
    (dst : IPAddress) : Writes state (state.modifyDecapDst env action dst).2 action dst ∧
      (state.modifyDecapDst env action dst).2.decapDsts = state.decapDsts := by
  unfold modifyDecapDst KatranLb.bpfCall
  dsimp only
  split
  next works =>
    refine ⟨⟨rfl, rfl, .inr ⟨rfl, ?_, rfl⟩⟩, rfl⟩
    rintro rfl
    exact (Bool.and_eq_true_iff.mp works).2
  next => exact ⟨⟨rfl, rfl, .inl rfl⟩, rfl⟩

section Calls

variable {state : KatranDecap}

private theorem validateAddress_quiet (folly : Folly) (state : KatranDecap) (dst : String)
    (dsts : UnorderedMap IPAddress IPAddress) : Quiet state { state with
      lb := (state.lb.validateAddress folly dst false).2
      decapDsts := dsts } := by
  unfold KatranLb.validateAddress
  split
  · exact ⟨rfl, rfl, rfl, rfl⟩
  · split
    · exact ⟨rfl, rfl, rfl, rfl⟩
    · exact ⟨rfl, rfl, rfl, rfl⟩

/-- What a call does to the set and to the program's table. -/
inductive Changes (folly : Folly) (state : KatranDecap) (dst : String) (action : ModifyAction)
    (after : KatranDecap) : Prop
  | kept (quiet : Quiet state after) (same : after.decapDsts = state.decapDsts)
  | added {daddr : IPAddress} (adds : action = .add) (parsed : folly.parse dst = some daddr)
      (absent : daddr.key ∉ state.decapDsts)
      (room : state.decapDsts.entries.length < state.maxDecapDst.toNat)
      (set : after.decapDsts = state.decapDsts.insert daddr.key daddr)
      (writes : Writes state after .add daddr)
  | removed {daddr : IPAddress} (removes : action = .del) (parsed : folly.parse dst = some daddr)
      (present : daddr.key ∈ state.decapDsts)
      (set : after.decapDsts = state.decapDsts.erase daddr.key)
      (writes : Writes state after .del daddr)

private theorem addInlineDecapDst_changes (live : state.lb.config.testing = false) (folly : Folly)
    (env : Env) (dst : String) :
    Changes folly state dst .add (state.addInlineDecapDst folly env dst).2 := by
  have quiet := validateAddress_quiet folly state dst
  unfold addInlineDecapDst
  split
  · exact .kept ⟨rfl, rfl, rfl, rfl⟩ rfl
  · split
    · exact .kept ⟨rfl, rfl, rfl, rfl⟩ rfl
    · split
      next lb validated =>
        rw [validated] at quiet
        exact .kept (quiet _) rfl
      next type lb _ validated =>
        rw [validated] at quiet
        dsimp only
        split
        · exact .kept (quiet _) rfl
        next daddr parsed =>
          split
          · exact .kept (quiet _) rfl
          next absent =>
            split
            · exact .kept (quiet _) rfl
            next room =>
              have running : lb.config.testing = false := by
                rw [← live]
                exact congrArg KatranConfig.testing (quiet state.decapDsts).config
              rw [running, if_neg Bool.false_ne_true]
              obtain ⟨writes, same⟩ := modifyDecapDst_writes env
                { state with lb := lb, decapDsts := state.decapDsts.insert daddr.key daddr }
                .add daddr
              exact .added rfl parsed absent (Nat.lt_of_succ_le (Nat.le_of_not_lt room)) same
                ((quiet _).writes writes)

private theorem delInlineDecapDst_changes (live : state.lb.config.testing = false) (folly : Folly)
    (env : Env) (dst : String) :
    Changes folly state dst .del (state.delInlineDecapDst folly env dst).2 := by
  have quiet := validateAddress_quiet folly state dst
  unfold delInlineDecapDst
  split
  · exact .kept ⟨rfl, rfl, rfl, rfl⟩ rfl
  · split
    · exact .kept ⟨rfl, rfl, rfl, rfl⟩ rfl
    · split
      next lb validated =>
        rw [validated] at quiet
        exact .kept (quiet _) rfl
      next type lb _ validated =>
        rw [validated] at quiet
        dsimp only
        split
        · exact .kept (quiet _) rfl
        next daddr parsed =>
          split
          · exact .kept (quiet _) rfl
          next present =>
            have running : lb.config.testing = false := by
              rw [← live]
              exact congrArg KatranConfig.testing (quiet state.decapDsts).config
            rw [running, if_neg Bool.false_ne_true]
            obtain ⟨writes, same⟩ := modifyDecapDst_writes env
              { state with lb := lb, decapDsts := state.decapDsts.erase daddr.key } .del daddr
            exact .removed rfl parsed (not_not.mp present) same ((quiet _).writes writes)

end Calls

/-! ## Runs -/

/-- The calls that change the destinations. -/
inductive DecapOp where
  | addInlineDecapDst (dst : String)
  | delInlineDecapDst (dst : String)

/-- A call, of which the bpf calls may fail. -/
def Step (folly : Folly) (state : KatranDecap) (op : DecapOp) (after : KatranDecap) : Prop :=
  ∃ env : Env, match op with
    | .addInlineDecapDst dst => after = (state.addInlineDecapDst folly env dst).2
    | .delInlineDecapDst dst => after = (state.delInlineDecapDst folly env dst).2

/-- A destination is removed by a name that means the same in the set and in the program's
table. -/
def Unambiguous (folly : Folly) (state : KatranDecap) : DecapOp → Prop
  | .addInlineDecapDst _ => True
  | .delInlineDecapDst dst => ∀ daddr ∈ folly.parse dst, ∀ other ∈ values state.decapDsts,
      other.key = daddr.key ↔ decapKey other = decapKey daddr

/-- The program's table has the keys of the set. -/
def Mirrors (state : KatranDecap) : Prop :=
  ∀ key, state.lb.kernel.decapDst key = true ↔ ∃ dst ∈ values state.decapDsts, decapKey dst = key

/-- What calls keep, with the number of failed calls at the start. -/
structure Watched (base : Nat) (state : KatranDecap) : Prop where
  live : state.lb.config.testing = false
  forwards : state.lb.config.disableForwarding = false
  keyed : ∀ key dst, state.decapDsts.lookup key = some dst → dst.key = key
  room : state.decapDsts.entries.length ≤ state.maxDecapDst.toNat
  failed : base ≤ state.failed
  mirrors : state.failed = base → state.Mirrors

namespace Watched

variable {folly : Folly} {base : Nat} {state after : KatranDecap} {daddr : IPAddress}

private theorem quiet (watched : Watched base state) (quiet : Quiet state after)
    (same : after.decapDsts = state.decapDsts) : Watched base after where
  live := by
    rw [quiet.config]
    exact watched.live
  forwards := by
    rw [quiet.config]
    exact watched.forwards
  keyed := by
    rw [same]
    exact watched.keyed
  room := by
    rw [same, quiet.maxDecapDst]
    exact watched.room
  failed := quiet.failed ▸ watched.failed
  mirrors := by
    intro unmoved
    unfold Mirrors
    rw [same, quiet.decapDst]
    exact watched.mirrors (quiet.failed.symm.trans unmoved)

/-- A write that is not counted as failed has been made. -/
theorem written {action : ModifyAction} (watched : Watched base state)
    (writes : Writes state after action daddr) :
    base ≤ after.failed ∧ (after.failed = base → state.Mirrors ∧
      (action = .del → state.lb.kernel.decapDst (decapKey daddr) = true) ∧
      after.lb.kernel.decapDst =
        Function.update state.lb.kernel.decapDst (decapKey daddr) (action = .add)) := by
  have least := watched.failed
  rcases writes.outcome with counted | ⟨uncounted, present, table⟩
  · exact ⟨by omega, fun unmoved => by omega⟩
  · refine ⟨by omega, fun unmoved => ⟨?_, present, table⟩⟩
    exact watched.mirrors (uncounted.symm.trans unmoved)

private theorem added (watched : Watched base state) (absent : daddr.key ∉ state.decapDsts)
    (room : state.decapDsts.entries.length < state.maxDecapDst.toNat)
    (set : after.decapDsts = state.decapDsts.insert daddr.key daddr)
    (writes : Writes state after .add daddr) : Watched base after := by
  have unlisted : state.decapDsts.erase daddr.key = state.decapDsts :=
    erase_of_lookup_none (AList.lookup_eq_none.mpr absent)
  obtain ⟨least, made⟩ := watched.written writes
  refine ⟨?_, ?_, ?_, ?_, least, ?_⟩
  · rw [writes.config]
    exact watched.live
  · rw [writes.config]
    exact watched.forwards
  · intro key dst found
    rw [set, lookup_insert_eq_ite] at found
    split at found
    next same =>
      obtain rfl := Option.some.inj found
      exact same.symm
    next => exact watched.keyed key dst found
  · rw [set, writes.maxDecapDst, entries_insert_eq, unlisted]
    exact room
  · intro unmoved key
    obtain ⟨mirrors, _, table⟩ := made unmoved
    rw [set, values_insert_eq, unlisted, table, Function.update_apply]
    simp only [List.mem_cons, exists_eq_or_imp]
    split
    next own => simp only [decide_true, own, true_or]
    next other =>
      rw [mirrors key]
      simp only [Ne.symm other, false_or]

private theorem removed (watched : Watched base state) (present : daddr.key ∈ state.decapDsts)
    (named : ∀ other ∈ values state.decapDsts,
      other.key = daddr.key ↔ decapKey other = decapKey daddr)
    (set : after.decapDsts = state.decapDsts.erase daddr.key)
    (writes : Writes state after .del daddr) : Watched base after := by
  obtain ⟨old, found⟩ := exists_lookup_of_mem present
  have split := values_perm_cons_erase found
  obtain ⟨least, made⟩ := watched.written writes
  refine ⟨?_, ?_, ?_, ?_, least, ?_⟩
  · rw [writes.config]
    exact watched.live
  · rw [writes.config]
    exact watched.forwards
  · intro key dst read
    rw [set, lookup_erase_eq_ite] at read
    split at read
    next => cases read
    next => exact watched.keyed key dst read
  · rw [set, writes.maxDecapDst]
    have fewer := (entries_perm_cons_erase found).length_eq
    rw [List.length_cons] at fewer
    have room := watched.room
    omega
  · intro unmoved key
    obtain ⟨mirrors, _, table⟩ := made unmoved
    rw [set, table, Function.update_apply]
    split
    next own =>
      simp only [reduceCtorEq, decide_false, Bool.false_eq_true, false_iff, not_exists, not_and]
      intro dst member same
      obtain ⟨stored, entry⟩ := mem_values.mp member
      have read := mem_entries.mp entry
      rw [lookup_erase_eq_ite] at read
      split at read
      next => cases read
      next different =>
        have listed : dst ∈ values state.decapDsts := mem_values.mpr ⟨stored, mem_entries.mpr read⟩
        apply different
        rw [← watched.keyed stored dst read]
        exact (named dst listed).mpr (same.trans own)
    next other =>
      rw [mirrors key]
      constructor
      · rintro ⟨dst, listed, rfl⟩
        refine ⟨dst, (List.mem_cons.mp (split.mem_iff.mp listed)).resolve_left ?_, rfl⟩
        rintro rfl
        exact other ((named dst listed).mp (watched.keyed daddr.key dst found))
      · rintro ⟨dst, listed, same⟩
        exact ⟨dst, split.mem_iff.mpr (List.mem_cons_of_mem old listed), same⟩

/-- A call keeps what is watched. -/
theorem step {op : DecapOp} (watched : Watched base state) (taken : Step folly state op after)
    (unambiguous : Unambiguous folly state op) : Watched base after := by
  have changes : ∃ dst action, Changes folly state dst action after ∧
      (action = .del → op = .delInlineDecapDst dst) := by
    obtain ⟨env, taken⟩ := taken
    cases op with
    | addInlineDecapDst dst =>
        obtain rfl := taken
        exact ⟨dst, .add, addInlineDecapDst_changes watched.live folly env dst, nofun⟩
    | delInlineDecapDst dst =>
        obtain rfl := taken
        exact ⟨dst, .del, delInlineDecapDst_changes watched.live folly env dst, fun _ => rfl⟩
  obtain ⟨dst, action, changes, names⟩ := changes
  cases changes with
  | kept quiet same => exact watched.quiet quiet same
  | added adds parsed absent room set writes => exact watched.added absent room set writes
  | @removed daddr removes parsed present set writes =>
      obtain rfl := names removes
      exact watched.removed present (unambiguous daddr parsed) set writes

end Watched

end KatranDecap

/-! ## Packets -/

/-- A packet is taken for that of a tunnel, and there is a packet in it that may go on. -/
inductive Unwraps (cfg : BpfConfig) (isIpv6 : Bool) (xdp : XdpMd) (pckt : PacketDescription) : Prop
  | ipip {pktBytes : UInt16} (enabled : cfg.inlineDecapIpip = true)
      (described : processL3Headers cfg xdp.data 14 isIpv6 = .further (pckt, pktBytes))
      (protocol : pckt.flow.proto = ipprotoIpip ∨ pckt.flow.proto = ipprotoIpv6)
      (goesOn : ((DecapCall.ipip pckt.flow.proto).run xdp isIpv6 true).1 = .pass)
  | gue {pktBytes : UInt16} {portless : PacketDescription} (enabled : cfg.inlineDecapGue = true)
      (described : processL3Headers cfg xdp.data 14 isIpv6 = .further (portless, pktBytes))
      (protocol : portless.flow.proto = ipprotoUdp)
      (ports : parseUdp xdp.data isIpv6 portless = some pckt)
      (port : pckt.flow.dstPort = Bytes.htons cfg.gueDport)
      (goesOn : (DecapCall.gue.run xdp isIpv6 true).1 = .pass)

section Packets

variable {cfg : BpfConfig} {maps : ConfigMaps} {cpu : Nat} {isIpv6 : Bool} {xdp : XdpMd}
  {flow : FlowMaps}

private theorem DecapCall.run_recirculates (call : DecapCall) (xdp : XdpMd) (isIpv6 pass : Bool) :
    (call.run xdp isIpv6 pass).1 = .recirculate ↔
      pass = false ∧ (call.run xdp isIpv6 true).1 = .pass := by
  rw [(call.run_does xdp isIpv6 pass).verdict, (call.run_does xdp isIpv6 true).verdict]
  cases pass with
  | true =>
      simp only [↓reduceIte, Bool.true_eq_false, false_and, iff_false]
      split
      · nofun
      · nofun
  | false =>
      simp only [Bool.false_eq_true, ↓reduceIte, true_and]
      split
      · exact ⟨fun _ => rfl, fun _ => rfl⟩
      · exact ⟨nofun, nofun⟩

private theorem processTunnel_recirculates (sane : cfg.Sane) (pckt : PacketDescription)
    (call : DecapCall) :
    (∃ after later, processTunnel cfg maps cpu isIpv6 pckt (call.run xdp isIpv6) xdp flow =
      .final .recirculate after later) ↔
      maps.decapDst (dstAddress isIpv6 pckt.flow) = true ∧
        (call.run xdp isIpv6 true).1 = .pass := by
  obtain ⟨later, ended⟩ := @processTunnel_of_check isIpv6 cfg maps cpu xdp flow pckt
    (call.run xdp isIpv6) _ (KatranSimulator.checkDecapDst_eq sane maps cpu isIpv6 pckt flow)
  rw [ended]
  simp only [Parsed.final.injEq, exists_and_left, exists_eq', and_true]
  rw [call.run_recirculates, Bool.not_eq_false']

/-- A verdict about a packet that is not to be processed again. -/
theorem not_recirculate {verdict : Verdict} (settled : verdict ≠ .recirculate) (data : XdpMd) :
    ¬ ∃ after later, Parsed.final verdict data flow = .final .recirculate after later := by
  rintro ⟨after, later, same⟩
  exact settled (Parsed.final.inj same).1

/-- No packet is taken for that of a tunnel if the network header decides about it. -/
theorem Unwraps.further {pckt : PacketDescription} (unwraps : Unwraps cfg isIpv6 xdp pckt)
    {verdict : Verdict} {data : List UInt8} :
    processL3Headers cfg xdp.data 14 isIpv6 ≠ .done verdict data := by
  intro headers
  cases unwraps with
  | ipip _ described _ _ => cases headers.symm.trans described
  | gue _ described _ _ _ _ => cases headers.symm.trans described

section Branches

variable {portless pckt : PacketDescription} {pktBytes : UInt16}

/-- The description of the network header is the only one. -/
theorem further_unique {other : UInt16}
    (headers : processL3Headers cfg xdp.data 14 isIpv6 = .further (portless, pktBytes))
    (described : processL3Headers cfg xdp.data 14 isIpv6 = .further (pckt, other)) :
    pckt = portless :=
  (congrArg Prod.fst (Action.further.inj (headers.symm.trans described))).symm

private theorem unwraps_iff_of_ipip
    (headers : processL3Headers cfg xdp.data 14 isIpv6 = .further (portless, pktBytes))
    (ipip : cfg.inlineDecapIpip = true ∧
      (portless.flow.proto = ipprotoIpip ∨ portless.flow.proto = ipprotoIpv6)) :
    Unwraps cfg isIpv6 xdp pckt ↔
      pckt = portless ∧ ((DecapCall.ipip portless.flow.proto).run xdp isIpv6 true).1 = .pass := by
  constructor
  · intro unwraps
    cases unwraps with
    | ipip _ described _ goesOn =>
        obtain rfl := further_unique headers described
        exact ⟨rfl, goesOn⟩
    | gue _ described udp _ _ _ =>
        obtain rfl := further_unique headers described
        rw [udp] at ipip
        exact absurd ipip.2 (by decide)
  · rintro ⟨rfl, goesOn⟩
    exact .ipip ipip.1 headers ipip.2 goesOn

private theorem unwraps_iff_of_not_ipip
    (headers : processL3Headers cfg xdp.data 14 isIpv6 = .further (portless, pktBytes))
    (notIpip : ¬ (cfg.inlineDecapIpip = true ∧
      (portless.flow.proto = ipprotoIpip ∨ portless.flow.proto = ipprotoIpv6))) :
    Unwraps cfg isIpv6 xdp pckt ↔
      portless.flow.proto = ipprotoUdp ∧ parseUdp xdp.data isIpv6 portless = some pckt ∧
        (cfg.inlineDecapGue = true ∧ pckt.flow.dstPort = Bytes.htons cfg.gueDport) ∧
        (DecapCall.gue.run xdp isIpv6 true).1 = .pass := by
  constructor
  · intro unwraps
    cases unwraps with
    | ipip enabled described protocol _ =>
        obtain rfl := further_unique headers described
        exact absurd ⟨enabled, protocol⟩ notIpip
    | gue enabled described udp ports port goesOn =>
        obtain rfl := further_unique headers described
        exact ⟨udp, ports, ⟨enabled, port⟩, goesOn⟩
  · rintro ⟨udp, ports, ⟨enabled, port⟩, goesOn⟩
    exact .gue enabled headers udp ports port goesOn

/-- A packet of IP in IP is processed again if its tunnel ends here. -/
theorem parsePacket_recirculates_of_ipip (sane : cfg.Sane)
    (headers : processL3Headers cfg xdp.data 14 isIpv6 = .further (portless, pktBytes))
    (ipip : cfg.inlineDecapIpip = true ∧
      (portless.flow.proto = ipprotoIpip ∨ portless.flow.proto = ipprotoIpv6)) :
    (∃ after later, parsePacket cfg maps cpu isIpv6 xdp flow = .final .recirculate after later) ↔
      ∃ pckt, Unwraps cfg isIpv6 xdp pckt ∧
        maps.decapDst (dstAddress isIpv6 pckt.flow) = true := by
  simp only [unwraps_iff_of_ipip headers ipip, parsePacket, headers, if_pos ipip]
  refine (processTunnel_recirculates sane portless (.ipip portless.flow.proto)).trans ?_
  constructor
  · rintro ⟨listed, goesOn⟩
    exact ⟨portless, ⟨rfl, goesOn⟩, listed⟩
  · rintro ⟨_, ⟨rfl, goesOn⟩, listed⟩
    exact ⟨listed, goesOn⟩

/-- A packet of UDP is processed again if it is for the port of GUE and its tunnel ends
here. -/
theorem parsePacket_recirculates_of_udp (sane : cfg.Sane)
    (headers : processL3Headers cfg xdp.data 14 isIpv6 = .further (portless, pktBytes))
    (notIpip : ¬ (cfg.inlineDecapIpip = true ∧
      (portless.flow.proto = ipprotoIpip ∨ portless.flow.proto = ipprotoIpv6)))
    (udp : portless.flow.proto = ipprotoUdp) :
    (∃ after later, parsePacket cfg maps cpu isIpv6 xdp flow = .final .recirculate after later) ↔
      ∃ pckt, Unwraps cfg isIpv6 xdp pckt ∧
        maps.decapDst (dstAddress isIpv6 pckt.flow) = true := by
  have notTcp : portless.flow.proto ≠ ipprotoTcp := by
    rw [udp]
    decide
  simp only [unwraps_iff_of_not_ipip headers notIpip, parsePacket, headers, if_neg notIpip,
    if_neg notTcp, if_pos udp]
  cases ports : parseUdp xdp.data isIpv6 portless with
  | none =>
      refine ⟨fun again => absurd again (not_recirculate (by decide) xdp), ?_⟩
      rintro ⟨pckt, ⟨_, wrong, _⟩, _⟩
      cases wrong
  | some ported =>
      dsimp only
      by_cases gue : cfg.inlineDecapGue = true ∧ ported.flow.dstPort = Bytes.htons cfg.gueDport
      · rw [if_pos gue]
        refine (processTunnel_recirculates sane ported .gue).trans ?_
        constructor
        · rintro ⟨listed, goesOn⟩
          exact ⟨ported, ⟨udp, rfl, gue, goesOn⟩, listed⟩
        · rintro ⟨pckt, ⟨_, same, _, goesOn⟩, listed⟩
          obtain rfl := Option.some.inj same
          exact ⟨listed, goesOn⟩
      · rw [if_neg gue]
        constructor
        · rintro ⟨_, _, wrong⟩
          cases wrong
        · rintro ⟨pckt, ⟨_, same, port, _⟩, _⟩
          obtain rfl := Option.some.inj same
          exact absurd port gue

/-- A packet of TCP, or of a protocol that is not balanced, is not processed again. -/
theorem parsePacket_recirculates_of_other
    (headers : processL3Headers cfg xdp.data 14 isIpv6 = .further (portless, pktBytes))
    (notIpip : ¬ (cfg.inlineDecapIpip = true ∧
      (portless.flow.proto = ipprotoIpip ∨ portless.flow.proto = ipprotoIpv6)))
    (notUdp : portless.flow.proto ≠ ipprotoUdp) :
    ¬ ∃ after later, parsePacket cfg maps cpu isIpv6 xdp flow =
      .final .recirculate after later := by
  simp only [parsePacket, headers, if_neg notIpip, if_neg notUdp]
  split
  · split
    · exact not_recirculate (by decide) xdp
    · rintro ⟨_, _, wrong⟩
      cases wrong
  · exact not_recirculate (by decide) xdp

end Branches

/-- A packet is processed again if it is that of a tunnel to one of the destinations. -/
theorem parsePacket_recirculates (sane : cfg.Sane) :
    (∃ after later, parsePacket cfg maps cpu isIpv6 xdp flow = .final .recirculate after later) ↔
      ∃ pckt, Unwraps cfg isIpv6 xdp pckt ∧
        maps.decapDst (dstAddress isIpv6 pckt.flow) = true := by
  cases headers : processL3Headers cfg xdp.data 14 isIpv6 with
  | done verdict data =>
      unfold parsePacket
      rw [headers]
      refine iff_of_false (not_recirculate (processL3Headers_done_verdict headers) _) ?_
      rintro ⟨pckt, unwraps, _⟩
      exact unwraps.further headers
  | further value =>
      obtain ⟨portless, pktBytes⟩ := value
      by_cases ipip : cfg.inlineDecapIpip = true ∧
          (portless.flow.proto = ipprotoIpip ∨ portless.flow.proto = ipprotoIpv6)
      · exact parsePacket_recirculates_of_ipip sane headers ipip
      · by_cases udp : portless.flow.proto = ipprotoUdp
        · exact parsePacket_recirculates_of_udp sane headers ipip udp
        · refine iff_of_false (parsePacket_recirculates_of_other headers ipip udp) ?_
          rintro ⟨pckt, unwraps, _⟩
          exact udp ((unwraps_iff_of_not_ipip headers ipip).mp unwraps).1

private theorem processPacket_recirculates (sane : cfg.Sane) (env : PacketEnv) :
    (processPacket cfg maps env isIpv6 xdp flow).verdict = .recirculate ↔
      ∃ pckt, Unwraps cfg isIpv6 xdp pckt ∧
        maps.decapDst (dstAddress isIpv6 pckt.flow) = true := by
  rw [← @parsePacket_recirculates cfg maps env.cpu isIpv6 xdp flow sane]
  unfold processPacket
  cases parsePacket cfg maps env.cpu isIpv6 xdp flow with
  | final verdict after later =>
      simp only [Parsed.final.injEq, exists_and_left, exists_eq', and_true]
  | described pckt pktBytes =>
      simp only [reduceCtorEq, exists_false, iff_false]
      exact balancePacket_settled pckt pktBytes xdp flow

end Packets

namespace KatranDecap

variable {folly : Folly} {first last : KatranDecap} {ops : List DecapOp}

/-- A balancer without destinations. -/
theorem Watched.start (live : first.lb.config.testing = false)
    (forwards : first.lb.config.disableForwarding = false) (empty : first.decapDsts = ∅)
    (unwritten : first.lb.kernel.decapDst = fun _ => false) : Watched first.failed first where
  live := live
  forwards := forwards
  keyed := by
    intro key dst found
    rw [empty] at found
    cases found
  room := by
    rw [empty]
    exact Nat.zero_le _
  failed := Nat.le_refl _
  mirrors := by
    intro _ key
    rw [empty, unwritten]
    simp only [Bool.false_eq_true, values_empty, List.not_mem_nil, false_and, exists_false]

/-- **Tunnels end at the destinations of the library.** As long as no bpf call has been counted
as failed, the packets of tunnels that are processed again are those to the destinations that
the library lists. It lists no more of them than it is configured for, whatever has failed. -/
theorem decap_destinations {cfg : BpfConfig} (sane : cfg.Sane)
    (live : first.lb.config.testing = false) (forwards : first.lb.config.disableForwarding = false)
    (empty : first.decapDsts = ∅) (unwritten : first.lb.kernel.decapDst = fun _ => false)
    (run : Run (fun before op after => Step folly before op after ∧ Unambiguous folly before op)
      first ops last) :
    last.getInlineDecapDst.length ≤ last.maxDecapDst.toNat ∧
    (last.lb.lbStats.bpfFailedCalls = first.lb.lbStats.bpfFailedCalls →
      ∀ env isIpv6 xdp flow,
        (processPacket cfg last.lb.kernel env isIpv6 xdp flow).verdict = .recirculate ↔
          ∃ pckt, Unwraps cfg isIpv6 xdp pckt ∧
            ∃ dst ∈ last.getInlineDecapDst, decapKey dst = dstAddress isIpv6 pckt.flow) := by
  have watched : Watched first.failed last := by
    apply run.invariant (Watched first.failed)
    · exact fun _ _ _ watched taken => watched.step taken.1 taken.2
    · exact .start live forwards empty unwritten
  have listed : last.getInlineDecapDst = values last.decapDsts := by
    rw [getInlineDecapDst, watched.forwards, if_neg Bool.false_ne_true]
  refine ⟨?_, ?_⟩
  · rw [listed, values, List.length_map]
    exact watched.room
  · intro unmoved env isIpv6 xdp flow
    have mirrors := watched.mirrors unmoved
    rw [processPacket_recirculates sane, listed]
    constructor
    · rintro ⟨pckt, unwraps, known⟩
      exact ⟨pckt, unwraps, (mirrors _).mp known⟩
    · rintro ⟨pckt, unwraps, known⟩
      exact ⟨pckt, unwraps, (mirrors _).mpr known⟩

/-- A call whose bpf calls succeed. -/
def exec (state : KatranDecap) : DecapOp → KatranDecap
  | .addInlineDecapDst dst => (state.addInlineDecapDst .small (.plain 20) dst).2
  | .delInlineDecapDst dst => (state.delInlineDecapDst .small (.plain 20) dst).2

private theorem step_of_exec (state : KatranDecap) (op : DecapOp) :
    Step .small state op (state.exec op) := by
  refine ⟨.plain 20, ?_⟩
  cases op with
  | addInlineDecapDst dst => rfl
  | delInlineDecapDst dst => rfl

/-- A balancer with two destinations, of which it then loses one. -/
def started : KatranDecap := ⟨KatranLb.tiny, true, 4, ∅⟩

/-- The balancer with both destinations. -/
def ending : KatranDecap :=
  (started.exec (.addInlineDecapDst "10.0.0.1")).exec (.addInlineDecapDst "10.0.0.2")

/-- The balancer with one of them. -/
def ended : KatranDecap := ending.exec (.delInlineDecapDst "10.0.0.1")

/-- A connection in a tunnel. -/
def sampleIpip (dst : UInt32) : XdpMd where
  headroom := []
  data := [2, 0, 0, 0, 0, 2, 2, 0, 0, 0, 0, 3, 8, 0] ++
    [0x45, 0, 0, 60, 0, 0, 0x40, 0, 64, 4, 0, 0] ++ Bytes.ofUInt32 0x010010ac ++
    Bytes.ofUInt32 dst ++ (sampleTcp 0x01010101 0x0101c80a 4000 80 true).data.drop 14

/-- Packets in tunnels to the destination that is left are processed again, and those in tunnels
to the one that is gone are not. -/
theorem decap_destinations_ended :
    ended.getInlineDecapDst = [.v4 0x0200000a] ∧
    (∃ pckt, Unwraps decapConfig false (sampleIpip 0x0200000a) pckt ∧
      ∃ dst ∈ ended.getInlineDecapDst, decapKey dst = dstAddress false pckt.flow) ∧
    ¬ ∃ pckt, Unwraps decapConfig false (sampleIpip 0x0100000a) pckt ∧
      ∃ dst ∈ ended.getInlineDecapDst, decapKey dst = dstAddress false pckt.flow := by
  have sane : decapConfig.Sane :=
    ⟨by decide, by decide, by decide, by decide, by decide, by decide⟩
  have named : Unambiguous .small ending (.delInlineDecapDst "10.0.0.1") := by
    change ∀ daddr ∈ Folly.small.parse "10.0.0.1", ∀ other ∈ values ending.decapDsts,
      other.key = daddr.key ↔ decapKey other = decapKey daddr
    decide +kernel
  have run : Run (fun before op after => Step .small before op after ∧
      Unambiguous .small before op) started
      [.addInlineDecapDst "10.0.0.1", .addInlineDecapDst "10.0.0.2",
        .delInlineDecapDst "10.0.0.1"] ended :=
    .cons ⟨step_of_exec _ _, trivial⟩ (.cons ⟨step_of_exec _ _, trivial⟩
      (.cons ⟨step_of_exec _ _, named⟩ (.nil ended)))
  have again := (decap_destinations sane rfl rfl rfl rfl run).2 (by decide +kernel) (sampleEnv 5)
    false
  refine ⟨by decide +kernel, ?_, ?_⟩
  · exact (again (sampleIpip 0x0200000a) .fresh).mp (by decide +kernel)
  · exact (again (sampleIpip 0x0100000a) .fresh).not.mp (by decide +kernel)

end KatranDecap

end Katran
