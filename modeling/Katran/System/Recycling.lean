import Katran.Lb.HandedOut
import Katran.Lb.VipMap
import Katran.Lb.Written
import Katran.System.Drained
import Katran.System.Families

/-! # Connections that outlive their real

The connection tables store indices of reals. The control plane hands an index out
again after its real is gone, and changes which VIP a flow belongs to, without looking
at the connection tables. A packet of an old connection then reaches a server that was
never a real of its VIP (`recycled_index_misroutes`).

That is the only way: as long as an index that is still in the tables is handed out for
the VIP of the entry only, or to a real that the VIP has had, and no flow in the tables
changes over to a VIP that has not had the real, every packet that is forwarded reaches
a real that its VIP has, or has had (`forwarded_to_own_reals`).
-/

namespace Katran

open Foundation UnorderedMap

/-- A flow belongs to the VIP stored under this key, if there is one: the VIP on its
port, or the one on all ports if no VIP has the port. -/
def Covers (maps : ConfigMaps) (vip : VipDefinition) (key : FlowKey) : Prop :=
  vip.vipv6 = key.dstv6 ∧ vip.proto = key.proto ∧
    (vip.port = key.dstPort ∨ vip.port = 0 ∧ maps.vipMap { vip with port := key.dstPort } = none)

private theorem vipOf_eq_some {maps : ConfigMaps} {key : FlowKey} {vip : VipDefinition}
    {info : VipMeta} :
    vipOf maps true key = some (vip, info) ↔ maps.vipMap vip = some info ∧ Covers maps vip key := by
  obtain ⟨vipv6, port, proto⟩ := vip
  unfold vipOf lookupVip dstAddress Covers
  dsimp only [↓reduceIte]
  constructor
  · intro found
    split at found
    next exact =>
      rw [Option.map_some] at found
      obtain ⟨same, rfl⟩ := Prod.mk.inj (Option.some.inj found)
      cases same
      exact ⟨exact, rfl, rfl, .inl rfl⟩
    next absent =>
      split at found
      next => cases found
      next wild =>
        rw [Option.map_some] at found
        obtain ⟨same, rfl⟩ := Prod.mk.inj (Option.some.inj found)
        cases same
        exact ⟨wild, rfl, rfl, .inr ⟨rfl, absent⟩⟩
  · rintro ⟨stored, rfl, rfl, rfl | ⟨rfl, absent⟩⟩
    · simp only [↓reduceIte, stored, Option.map_some]
    · simp only [↓reduceIte, absent, stored, Option.map_some]

/-- For a packet's flow the family makes no difference. -/
theorem vipOf_true {maps : ConfigMaps} {isIpv6 : Bool} {key : FlowKey}
    (same : dstAddress isIpv6 key = key.dstv6) : vipOf maps true key = vipOf maps isIpv6 key := by
  unfold vipOf lookupVip
  dsimp only
  rw [same]
  rfl

private theorem setVip_vipMap (maps : ConfigMaps) (key : VipDefinition) (entry : Option VipMeta)
    (other : VipDefinition) :
    (maps.setVip key entry).vipMap other = if other = key then entry else maps.vipMap other :=
  Function.update_apply ..

/-- A flow belonged to the same key before an entry was changed, or it belonged to an entry on
its port that is gone. -/
theorem Covers.of_setVip {maps : ConfigMaps} {changed vip : VipDefinition}
    {entry : Option VipMeta} {key : FlowKey} (covers : Covers (maps.setVip changed entry) vip key) :
    Covers maps vip key ∨
      entry = none ∧ vip = { changed with port := 0 } ∧ Covers maps changed key := by
  obtain ⟨dst, proto, port | ⟨wild, unused⟩⟩ := covers
  · exact .inl ⟨dst, proto, .inl port⟩
  · rw [setVip_vipMap] at unused
    split at unused
    next took =>
      subst took
      refine .inr ⟨unused, ?_, dst, proto, .inl rfl⟩
      rw [← wild]
    next => exact .inl ⟨dst, proto, .inr ⟨wild, unused⟩⟩

/-! ## Running the control plane and the forwarding plane -/

/-- The balancer, the connection tables, and the reals that each VIP has had so far. -/
structure Serving where
  lb : KatranLb
  flow : FlowMaps
  served : VipKey → List IPAddress

/-- A call, a packet, or the eviction of an entry. -/
inductive ServingEvent where
  | control (op : Op)
  | packet (env : PacketEnv) (isIpv6 : Bool) (xdp : XdpMd)
  | evict (lruMap : Option Nat) (key : FlowKey)

/-- The calls in question: VIPs that route neither by connection id nor by source, and
batches that repeat no address. -/
def Op.Regular (folly : Folly) : Op → Prop
  | .addVip _ flags => (VipMeta.mk flags 0).quicVip = false ∧
      (VipMeta.mk flags 0).srcRouting = false
  | .delVip _ => True
  | .modifyRealsForVip _ reals _ => (KatranLb.listedKeys folly reals).Nodup
  | _ => False

instance (folly : Folly) : DecidablePred (Op.Regular folly) := Op.Decides.decidablePred {
  addVip := fun _ _ => inferInstanceAs (Decidable (_ ∧ _))
  addRealsForVip := fun _ _ => inferInstanceAs (Decidable (List.Nodup _))
  delRealsForVip := fun _ _ => inferInstanceAs (Decidable (List.Nodup _)) }

/-- A case for each of the regular operations. -/
@[elab_as_elim]
theorem Op.Regular.cases {folly : Folly} {motive : (op : Op) → op.Regular folly → Prop} {op : Op}
    (regular : op.Regular folly)
    (addVip : ∀ vip flags plain, motive (.addVip vip flags) plain)
    (delVip : ∀ vip, motive (.delVip vip) trivial)
    (modifyRealsForVip : ∀ action reals vip once,
      motive (.modifyRealsForVip action reals vip) once) : motive op regular := by
  cases op with
  | addVip vip flags => exact addVip vip flags regular
  | delVip vip => exact delVip vip
  | modifyRealsForVip action reals vip => exact modifyRealsForVip action reals vip regular
  | modifyVip _ _ _ => exact regular.elim
  | addRealForVip _ _ => exact regular.elim
  | delRealForVip _ _ => exact regular.elim
  | modifyQuicRealsMapping _ _ => exact regular.elim
  | addSrcRoutingRule _ _ => exact regular.elim
  | addSrcRoutingRuleCidr _ _ => exact regular.elim
  | delSrcRoutingRule _ => exact regular.elim
  | delSrcRoutingRuleCidr _ => exact regular.elim
  | clearAllSrcRoutingRules => exact regular.elim

/-- The VIP of a packet has a real of nonzero weight. -/
def KatranLb.Stocked (cfg : BpfConfig) (lb : KatranLb) (isIpv6 : Bool) (xdp : XdpMd) : Prop :=
  ∀ pckt pktBytes vip info described, describe cfg isIpv6 xdp.data = some (pckt, pktBytes) →
    lookupVip lb.kernel isIpv6 pckt = some (vip, info, described) →
      ∀ current ∈ values lb.vips, current.vipNum = info.vipNum → Vip.HasActive current.reals

/-- The packets that would go by an entry with this key are for this VIP. -/
def KatranLb.Matches (lb : KatranLb) (key : FlowKey) (vip : VipKey) : Prop :=
  ∃ definition info current, lb.kernel.vipMap definition = some info ∧
    Covers lb.kernel definition key ∧ lb.vips.lookup vip = some current ∧
      current.vipNum = info.vipNum

namespace Serving

variable (folly : Folly) (cfg : BpfConfig)

/-- An event. All bpf calls succeed, and the reals of the VIPs are remembered after
every call. -/
def Step (state : Serving) (event : ServingEvent) (after : Serving) : Prop :=
  match event with
  | .control op => KatranLb.ReliableStep folly state.lb op after.lb ∧ after.flow = state.flow ∧
      after.served = fun vip => state.served vip ++ after.lb.realsFor vip
  | .packet env isIpv6 xdp => after = { state with
      flow := (processPacket cfg state.lb.kernel env isIpv6 xdp state.flow).flow }
  | .evict lruMap key => after = { state with flow := state.flow.lruEvict lruMap key }

/-- The events in question. -/
def Regular (state : Serving) : ServingEvent → Prop
  | .control op => op.Regular folly
  | .packet _ isIpv6 xdp => state.lb.Stocked cfg isIpv6 xdp
  | .evict _ _ => True

/-- The address under an index belongs to a server that has been a real of the VIP. -/
def WasReal (state : Serving) (vip : VipKey) (pos : Nat) : Prop :=
  ∃ real ∈ state.served vip, state.lb.kernel.reals pos = parseAddrToBe real

/-- A call respects the entries of the connection tables. An index that an entry stores
is handed out for the VIP of the entry, or to an address that has been a real of it. A
new VIP takes over flows only whose entries point to servers that have been its reals,
and so does the VIP on all ports when a VIP on one port is deleted. -/
def Respects (state : Serving) : ServingEvent → Prop
  | .control (.modifyRealsForVip .add reals vip) => vip ∈ state.lb.vips →
      ∀ num addr, (num, addr) ∈
          KatranLb.handedOut folly state.lb.reals.keys state.lb.realNums reals →
        ∀ place key entry, state.flow.lru place key = some entry → entry.pos = num →
          ∀ other, state.lb.Matches key other → other = vip ∨ addr ∈ state.served other
  | .control (.addVip vip _) => state.lb.config.disableForwarding = false →
      vip ∉ state.lb.vips → state.lb.vipNums ≠ [] →
        ∀ definition, vip.encode folly = some definition →
        ∀ place key entry, state.flow.lru place key = some entry →
          Covers state.lb.kernel definition key → state.WasReal vip entry.pos
  | .control (.delVip vip) =>
      vip ∈ state.lb.vips → ∀ definition, vip.encode folly = some definition →
        ∀ place key entry, state.flow.lru place key = some entry →
          Covers state.lb.kernel definition key → ∀ info other current,
            state.lb.kernel.vipMap { definition with port := 0 } = some info →
            state.lb.vips.lookup other = some current → current.vipNum = info.vipNum →
              other ≠ vip → state.WasReal other entry.pos
  | _ => True

end Serving

/-! ## What a call can do -/

namespace KatranLb

variable {folly : Folly} {config : KatranConfig} {lb after : KatranLb} {op : Op}

/-- What a regular call does to the VIPs and to the kernel's copy of them. -/
inductive Alters (folly : Folly) (lb : KatranLb) : Op → KatranLb → Prop
  | refused {op : Op} {after : KatranLb} (vips : after.vips = lb.vips)
      (kernel : after.kernel = lb.kernel) : Alters folly lb op after
  | added {vip : VipKey} {flags : UInt32} {definition : VipDefinition} {vipNum : Nat}
      {vipNums : List Nat} {after : KatranLb} (forwards : lb.config.disableForwarding = false)
      (absent : vip ∉ lb.vips) (coded : vip.encode folly = some definition)
      (free : lb.vipNums = vipNum :: vipNums)
      (vips : after.vips = lb.vips.insert vip (Vip.new vipNum flags lb.config.chRingSize.toNat))
      (kernel : after.kernel = lb.kernel.setVip definition (some ⟨flags, vipNum⟩)) :
      Alters folly lb (.addVip vip flags) after
  | deleted {vip : VipKey} {definition : VipDefinition} {after : KatranLb} (present : vip ∈ lb.vips)
      (coded : vip.encode folly = some definition) (vips : after.vips = lb.vips.erase vip)
      (kernel : after.kernel = lb.kernel.setVip definition none) :
      Alters folly lb (.delVip vip) after
  | modified {action : ModifyAction} {reals : List NewReal} {vip : VipKey} {current updated : Vip}
      {after : KatranLb} (found : lb.vips.lookup vip = some current)
      (vips : after.vips = lb.vips.insert vip updated) (number : updated.vipNum = current.vipNum)
      (vipMap : after.kernel.vipMap = lb.kernel.vipMap) :
      Alters folly lb (.modifyRealsForVip action reals vip) after

private theorem ReliableStep.alters (live : lb.config.testing = false) (regular : op.Regular folly)
    (taken : ReliableStep folly lb op after) : Alters folly lb op after := by
  obtain ⟨env, reliable, performed⟩ := taken
  cases regular using Op.Regular.cases with
  | addVip vip flags _ =>
      obtain ⟨⟨done, _⟩, returned, rfl⟩ := Option.map_eq_some_iff.mp performed
      rcases addVip_cases returned with
        ⟨rfl, same⟩ | ⟨rfl, forwards, absent, addr, vipNum, vipNums, parsed, free, same⟩
      · rcases addVip_kernel reliable live returned with ⟨_, kernel⟩ | ⟨wrong, _⟩
        · exact .refused same.vips kernel
        · cases wrong
      · rcases addVip_kernel reliable live returned with ⟨wrong, _⟩ | ⟨_, written⟩
        · cases wrong
        · refine .added forwards absent ?_ free same.vips (written addr vipNum vipNums parsed free)
          exact vip.encode_of_parsed parsed
  | delVip vip =>
      obtain ⟨⟨done, _⟩, returned, rfl⟩ := Option.map_eq_some_iff.mp performed
      rcases delVip_kernel reliable live returned with ⟨_, rfl⟩ | ⟨rfl, addr, parsed, kernel⟩
      · exact .refused rfl rfl
      · rcases delVip_cases returned with ⟨wrong, _⟩ | ⟨_, _, current, found, same⟩
        · cases wrong
        · refine .deleted (mem_of_lookup found) ?_ same.vips kernel
          exact vip.encode_of_parsed parsed
  | modifyRealsForVip action reals vip _ =>
      obtain ⟨⟨done, _⟩, returned, rfl⟩ := Option.map_eq_some_iff.mp performed
      rcases modifyRealsForVip_cases returned with
        ⟨_, rfl, _⟩ | ⟨_, forwards, current, chPositions, updated, found, ring, same⟩
      · exact .refused rfl rfl
      · have rest := modifyRealsBatch_sameRest folly env lb action reals current
        have only := modifyRealsBatch_onlyReals folly env lb action reals current
        refine .modified found ?_ (Vip.reals_of_batchRealsUpdate ring).2.1 ?_
        · rw [same.vips, rest.vips]
        · rw [modifyRealsForVip_kernel reliable live forwards found ring returned, only]

/-- Every entry of `vip_map` is a configured VIP's, and the VIP routes neither by
connection id nor by source. -/
structure Backs (folly : Folly) (lb : KatranLb) (definition : VipDefinition) (info : VipMeta) :
    Prop where
  noQuic : info.quicVip = false
  plain : info.srcRouting = false
  configured : ∃ vip current, lb.vips.lookup vip = some current ∧
    vip.encode folly = some definition ∧ current.vipNum = info.vipNum

/-- What every regular call keeps of the balancer. -/
structure Ready (folly : Folly) (config : KatranConfig) (lb : KatranLb) : Prop where
  config : lb.config = config
  mapped : ∃ realsOf, lb.Mapped realsOf
  valid : lb.VipsValid folly
  rings : lb.RingsMirrored
  written : lb.RealsWritten
  backed : ∀ definition info, lb.kernel.vipMap definition = some info →
    Backs folly lb definition info

/-- An entry stays backed as long as its VIP is configured with its number. -/
theorem Backs.mono {definition : VipDefinition} {info : VipMeta}
    (backs : Backs folly lb definition info)
    (kept : ∀ vip current, vip.encode folly = some definition → lb.vips.lookup vip = some current →
      ∃ later, after.vips.lookup vip = some later ∧ later.vipNum = current.vipNum) :
    Backs folly after definition info where
  noQuic := backs.noQuic
  plain := backs.plain
  configured := by
    obtain ⟨vip, current, found, coded, number⟩ := backs.configured
    obtain ⟨later, read, same⟩ := kept vip current coded found
    exact ⟨vip, later, read, coded, same.trans number⟩

/-- A regular call keeps every entry of `vip_map` backed. -/
theorem Alters.backed (alters : Alters folly lb op after) (regular : op.Regular folly)
    (backed : ∀ definition info, lb.kernel.vipMap definition = some info →
      Backs folly lb definition info) {definition : VipDefinition} {info : VipMeta}
    (stored : after.kernel.vipMap definition = some info) : Backs folly after definition info := by
  cases alters with
  | refused vips kernel =>
      rw [kernel] at stored
      apply (backed definition info stored).mono
      intro vip current _ found
      rw [vips]
      exact ⟨current, found, rfl⟩
  | @added vip flags fresh vipNum vipNums _ forwards absent coded free vips kernel =>
      rw [kernel, setVip_vipMap] at stored
      by_cases same : definition = fresh
      · subst same
        rw [if_pos rfl] at stored
        obtain rfl := Option.some.inj stored
        refine ⟨regular.1, regular.2, vip,
          Vip.new vipNum flags lb.config.chRingSize.toNat, ?_, coded, rfl⟩
        rw [vips]
        exact AList.lookup_insert _
      · rw [if_neg same] at stored
        apply (backed definition info stored).mono
        intro other current _ found
        have different : other ≠ vip := by
          rintro rfl
          exact absent (mem_of_lookup found)
        rw [vips, AList.lookup_insert_ne different]
        exact ⟨current, found, rfl⟩
  | @deleted vip gone _ present coded vips kernel =>
      rw [kernel, setVip_vipMap] at stored
      by_cases same : definition = gone
      · rw [if_pos same] at stored
        cases stored
      · rw [if_neg same] at stored
        apply (backed definition info stored).mono
        intro other current otherCoded found
        have different : other ≠ vip := by
          rintro rfl
          exact same (Option.some.inj (otherCoded.symm.trans coded))
        rw [vips, AList.lookup_erase_ne different]
        exact ⟨current, found, rfl⟩
  | @modified action reals vip current updated _ found vips number vipMap =>
      rw [vipMap] at stored
      apply (backed definition info stored).mono
      intro other another _ read
      rw [vips, lookup_insert_eq_ite]
      split
      next same =>
        subst same
        obtain rfl := Option.some.inj (found.symm.trans read)
        exact ⟨updated, rfl, number⟩
      next => exact ⟨another, read, rfl⟩

private theorem removesOnce_of_regular (regular : op.Regular folly) :
    op.RemovesOnce folly ∧ op.OfVips := by
  cases regular using Op.Regular.cases with
  | addVip _ _ _ => exact ⟨trivial, trivial⟩
  | delVip _ => exact ⟨trivial, trivial⟩
  | modifyRealsForVip action reals vip once =>
      cases action with
      | add => exact ⟨trivial, trivial⟩
      | del => exact ⟨once, trivial⟩

namespace Ready

/-- A new balancer is ready. -/
theorem new (features : KatranFeatures) {kernel : ConfigMaps}
    (empty : kernel.vipMap = fun _ => none) :
    (KatranLb.new config features kernel).Ready folly config where
  config := rfl
  mapped := ⟨_, .new config features kernel⟩
  valid := fun vip member => (AList.notMem_empty vip member).elim
  rings := .new config features kernel
  written := .new config features kernel
  backed := by
    intro definition info stored
    change kernel.vipMap definition = some info at stored
    rw [empty] at stored
    cases stored

/-- A balancer is ready after a regular call. -/
theorem step (ready : lb.Ready folly config) (live : config.testing = false)
    (fits : config.maxVips.toNat * config.chRingSize.toNat < 2 ^ 32)
    (few : config.maxReals.toNat < 2 ^ 31) (regular : op.Regular folly)
    (taken : ReliableStep folly lb op after) : after.Ready folly config := by
  obtain ⟨rfl, ⟨realsOf, mapped⟩, valid, rings, written, backed⟩ := ready
  obtain ⟨once, ofVips⟩ := removesOnce_of_regular regular
  exact {
    config := (rings.pools.step taken.step).2
    mapped := ⟨_, mapped.step valid once taken.step⟩
    valid := valid.step taken.step
    rings := rings.step live fits few ofVips taken
    written := written.step live taken
    backed := fun _ _ => (taken.alters live regular).backed regular backed }

/-- The VIP of a flow is known by the number in `vip_map`. -/
theorem unique (ready : lb.Ready folly config) {vip other : VipKey} {current another : Vip}
    (found : lb.vips.lookup vip = some current) (read : lb.vips.lookup other = some another)
    (number : another.vipNum = current.vipNum) : other = vip := by
  by_contra different
  exact ready.rings.pools.vipNum_ne found read different number

end Ready

/-! ## The flows of a VIP -/

/-- A flow belongs to a VIP as it did before, or a call has brought it over. -/
theorem Alters.matches_cases (alters : Alters folly lb op after) (ready : after.Ready folly config)
    {key : FlowKey} {other : VipKey} (later : after.Matches key other) :
    lb.Matches key other ∨
    (∃ flags definition, op = .addVip other flags ∧ lb.config.disableForwarding = false ∧
      other ∉ lb.vips ∧ lb.vipNums ≠ [] ∧ other.encode folly = some definition ∧
      Covers lb.kernel definition key) ∨
    ∃ vip definition info current, op = .delVip vip ∧ vip ∈ lb.vips ∧
      vip.encode folly = some definition ∧ Covers lb.kernel definition key ∧
      lb.kernel.vipMap { definition with port := 0 } = some info ∧
      lb.vips.lookup other = some current ∧ current.vipNum = info.vipNum ∧ other ≠ vip := by
  obtain ⟨definition, info, current, stored, covers, found, number⟩ := later
  cases alters with
  | refused vips kernel =>
      rw [kernel] at stored covers
      rw [vips] at found
      exact .inl ⟨definition, info, current, stored, covers, found, number⟩
  | @modified action reals vip earlier updated _ read vips same vipMap =>
      have before : Covers lb.kernel definition key := by
        unfold Covers at covers ⊢
        rwa [vipMap] at covers
      rw [vipMap] at stored
      rw [vips, lookup_insert_eq_ite] at found
      split at found
      next own =>
        subst own
        obtain rfl := Option.some.inj found
        exact .inl ⟨definition, info, earlier, stored, before, read, same.symm.trans number⟩
      next => exact .inl ⟨definition, info, current, stored, before, found, number⟩
  | @added vip flags fresh vipNum vipNums _ forwards absent coded free vips kernel =>
      have before : Covers lb.kernel definition key := by
        rw [kernel] at covers
        rcases covers.of_setVip with before | ⟨gone, _⟩
        · exact before
        · cases gone
      have own : after.vips.lookup vip =
          some (Vip.new vipNum flags lb.config.chRingSize.toNat) := by
        rw [vips]
        exact AList.lookup_insert _
      rw [kernel, setVip_vipMap] at stored
      split at stored
      next same =>
        subst same
        obtain rfl := Option.some.inj stored
        obtain rfl := ready.unique own found number
        exact .inr (.inl ⟨flags, definition, rfl, forwards, absent, by rw [free]; nofun,
          coded, before⟩)
      next different =>
        have another : other ≠ vip := by
          rintro rfl
          obtain ⟨owner, entry, read, ownerCoded, same⟩ :=
            (ready.backed definition info
              (by rwa [kernel, setVip_vipMap, if_neg different])).configured
          obtain rfl := ready.unique found read (same.trans number.symm)
          exact different (Option.some.inj (ownerCoded.symm.trans coded))
        rw [vips, AList.lookup_insert_ne another] at found
        exact .inl ⟨definition, info, current, stored, before, found, number⟩
  | @deleted vip gone _ present coded vips kernel =>
      rw [kernel, setVip_vipMap] at stored
      split at stored
      next => cases stored
      next different =>
        have another : other ≠ vip := by
          rintro rfl
          rw [vips, AList.lookup_erase] at found
          cases found
        rw [vips, AList.lookup_erase_ne another] at found
        rw [kernel] at covers
        rcases covers.of_setVip with before | ⟨_, rfl, covered⟩
        · exact .inl ⟨definition, info, current, stored, before, found, number⟩
        · exact .inr (.inr ⟨vip, gone, info, current, rfl, present, coded, covered, stored, found,
            number, another⟩)

/-- The real that the ring has for a packet is one of the VIP's. -/
theorem Ready.picked_real (ready : lb.Ready folly config) {cfg : BpfConfig}
    (agrees : cfg.Agrees config)
    {isIpv6 underFlood : Bool} {xdp : XdpMd} (stocked : lb.Stocked cfg isIpv6 xdp)
    {pckt described : PacketDescription} {pktBytes : UInt16} {definition : VipDefinition}
    {info : VipMeta} (parsed : describe cfg isIpv6 xdp.data = some (pckt, pktBytes))
    (found : lookupVip lb.kernel isIpv6 pckt = some (definition, info, described))
    (plain : info.srcRouting = false) {flow recorded : FlowKey} {num : Nat}
    (picks : pickDst cfg lb.kernel isIpv6 underFlood info flow = some (num, recorded))
    {vip : VipKey} {current : Vip} (configured : lb.vips.lookup vip = some current)
    (number : current.vipNum = info.vipNum) :
    ∃ real ∈ lb.realsFor vip, lb.kernel.reals num = parseAddrToBe real := by
  obtain ⟨rfl, ⟨realsOf, mapped⟩, _, rings, written, _⟩ := ready
  have below : info.vipNum < lb.config.maxVips.toNat := number ▸ rings.pools.vipNum_lt configured
  have active : Vip.HasActive current.reals :=
    stocked pckt pktBytes definition info described parsed found current
      (mem_values.mpr ⟨vip, mem_entries.mpr configured⟩) number
  obtain ⟨_, rfl⟩ := pickDst_of_not_srcRouting picks plain
  obtain ⟨position, inside, slot, _⟩ := agrees.ringKey_slot below isIpv6 (hashedFlow info flow)
  obtain ⟨real, entered, _⟩ := rings.slot_active configured active inside
  rw [slot, ← number]
  exact mapped.written_real written configured (mem_of_lookup entered)

end KatranLb

/-- The VIP of the flows under which a packet is looked up and recorded. -/
theorem vipOf_of_found {cfg : BpfConfig} {maps : ConfigMaps} {isIpv6 : Bool} {data : List UInt8}
    {pckt described : PacketDescription} {pktBytes : UInt16} {definition : VipDefinition}
    {info : VipMeta} (parsed : describe cfg isIpv6 data = some (pckt, pktBytes))
    (found : lookupVip maps isIpv6 pckt = some (definition, info, described)) :
    vipOf maps true (lruPckt info described).flow = some (definition, info) := by
  rw [← vipOf_lruPckt found]
  apply vipOf_true
  have same := (destination_of_describe parsed).2
  unfold dstAddress at same ⊢
  rw [(lookupVip_dst found).2]
  exact same

namespace Serving

variable {folly : Folly} {cfg : BpfConfig} {config : KatranConfig} {state after : Serving}
  {event : ServingEvent}

private theorem WasReal.mono {vip : VipKey} {pos : Nat} (was : state.WasReal vip pos)
    (served : ∀ real ∈ state.served vip, real ∈ after.served vip)
    (reals : after.lb.kernel.reals pos = state.lb.kernel.reals pos) : after.WasReal vip pos := by
  obtain ⟨real, member, written⟩ := was
  exact ⟨real, served real member, reals.trans written⟩

/-- A real in the connection tables has been one of the VIP whose packets go by the entry. -/
def Vouched (state : Serving) (_lruMap : Option Nat) (key : FlowKey) (pos : Nat) : Prop :=
  ∀ vip, state.lb.Matches key vip → state.WasReal vip pos

/-- Every entry of the connection tables points to a server that has been a real of the
VIP that its packets are for. -/
structure Faithful (folly : Folly) (config : KatranConfig) (state : Serving) : Prop where
  ready : state.lb.Ready folly config
  remembered : ∀ vip, ∀ real ∈ state.lb.realsFor vip, real ∈ state.served vip
  entries : EveryEntry (fun place key entry => state.Vouched place key entry.pos) state.flow.lru

/-- A call that writes no address keeps a server that has been a real of a VIP. -/
theorem WasReal.control {op : Op} {vip : VipKey} {pos : Nat} (was : state.WasReal vip pos)
    (taken : state.Step folly cfg (.control op) after)
    (reals : after.lb.kernel.reals pos = state.lb.kernel.reals pos) : after.WasReal vip pos := by
  apply was.mono _ reals
  intro real member
  rw [taken.2.2]
  exact List.mem_append_left _ member

namespace Faithful

/-- Before the first packet there are no connections. -/
theorem new (features : KatranFeatures) {kernel : ConfigMaps} {flow : FlowMaps}
    (empty : kernel.vipMap = fun _ => none) (noEntries : flow.lru = fun _ _ => none) :
    Faithful folly config ⟨.new config features kernel, flow, fun _ => []⟩ where
  ready := .new features empty
  remembered := by
    intro vip real member
    obtain ⟨current, _, found, _⟩ := KatranLb.mem_realsFor.mp member
    simp only [KatranLb.new, AList.lookup_empty, reduceCtorEq] at found
  entries := by
    rw [noEntries]
    exact .empty

/-- A call that respects the entries keeps them pointing to reals of their VIPs. -/
theorem control {op : Op} (faithful : Faithful folly config state) (live : config.testing = false)
    (fits : config.maxVips.toNat * config.chRingSize.toNat < 2 ^ 32)
    (few : config.maxReals.toNat < 2 ^ 31) (taken : state.Step folly cfg (.control op) after)
    (regular : op.Regular folly) (respects : state.Respects folly (.control op)) :
    Faithful folly config after := by
  have ready := faithful.ready.step live fits few regular taken.1
  have remembered : ∀ vip, ∀ real ∈ after.lb.realsFor vip, real ∈ after.served vip := by
    intro vip real member
    rw [taken.2.2]
    exact List.mem_append_right _ member
  refine ⟨ready, remembered, ?_⟩
  have running : state.lb.config.testing = false := by
    rw [faithful.ready.config]
    exact live
  have alters := taken.1.alters running regular
  intro place key entry stored other later
  rw [taken.2.1] at stored
  have moved := alters.matches_cases ready later
  have was : state.WasReal other entry.pos := by
    rcases moved with before |
      ⟨flags, definition, rfl, forwards, absent, free, coded, covers⟩ |
      ⟨vip, definition, info, current, rfl, present, coded, covers, wild, found, number, another⟩
    · exact faithful.entries place key entry stored other before
    · exact respects forwards absent free definition coded place key entry stored covers
    · exact respects present definition coded place key entry stored covers info other current wild
        found number another
  cases alters with
  | refused vips kernel => exact was.control taken (by rw [kernel])
  | added _ _ _ _ _ kernel =>
      apply was.control taken
      rw [kernel]
      rfl
  | deleted _ _ _ kernel =>
      apply was.control taken
      rw [kernel]
      rfl
  | modified found vips number vipMap =>
      have before : state.lb.Matches key other := by
        rcases moved with before | ⟨_, _, wrong, _⟩ | ⟨_, _, _, _, wrong, _⟩
        · exact before
        · cases wrong
        · cases wrong
      obtain ⟨env, reliable, performed⟩ := taken.1
      obtain ⟨⟨done, lb⟩, returned, rest⟩ := Option.map_eq_some_iff.mp performed
      dsimp only at rest
      rw [rest] at returned
      obtain ⟨realsOf, mapped⟩ := faithful.ready.mapped
      rcases KatranLb.modifyRealsForVip_written mapped faithful.ready.valid ready.written reliable
        running regular returned entry.pos with
        unchanged | ⟨rfl, present, addr, handed, addressed, real, member, written⟩
      · exact was.control taken unchanged
      · rcases respects present entry.pos addr handed place key entry stored rfl other before with
          rfl | served
        · exact ⟨real, remembered _ real member, written⟩
        · refine ⟨addr, ?_, addressed⟩
          rw [taken.2.2]
          exact List.mem_append_left _ served

/-- A packet leaves entries for reals of its VIP only. -/
theorem packet {env : PacketEnv} {isIpv6 : Bool} {xdp : XdpMd}
    (faithful : Faithful folly config state)
    (agrees : cfg.Agrees config) (stocked : state.lb.Stocked cfg isIpv6 xdp) :
    Faithful folly config { state with
      flow := (processPacket cfg state.lb.kernel env isIpv6 xdp state.flow).flow } where
  ready := faithful.ready
  remembered := faithful.remembered
  entries := by
    change EveryEntry (fun place key (entry : RealPosLru) => state.Vouched place key entry.pos) _
    rcases processPacket_cases cfg state.lb.kernel env isIpv6 xdp state.flow with
      ⟨_, same, _⟩ | ⟨pckt, pktBytes, definition, info, described, decided, parsed, found, balanced⟩
    · rw [same]
      exact faithful.entries
    · apply balanced.decision.every faithful.entries
      intro num recorded picks _ vip ⟨other, otherInfo, current, stored, covers, configured, number⟩
      have resolved : vipOf state.lb.kernel true recorded = some (definition, info) := by
        rw [vipOf_recorded picks]
        exact vipOf_of_found parsed found
      obtain ⟨rfl, rfl⟩ := Prod.mk.inj (Option.some.inj
        ((vipOf_eq_some.mpr ⟨stored, covers⟩).symm.trans resolved))
      obtain ⟨real, member, written⟩ := faithful.ready.picked_real agrees stocked parsed found
        (faithful.ready.backed _ _ stored).plain picks configured number
      exact ⟨real, faithful.remembered vip real member, written⟩

/-- Every event of a regular run that respects the entries keeps them pointing to reals
of their VIPs. -/
theorem step (faithful : Faithful folly config state) (live : config.testing = false)
    (agrees : cfg.Agrees config) (few : config.maxReals.toNat < 2 ^ 31)
    (taken : state.Step folly cfg event after) (regular : state.Regular folly cfg event)
    (respects : state.Respects folly event) : Faithful folly config after := by
  cases event with
  | control op => exact faithful.control live agrees.ringsFit few taken regular respects
  | packet env isIpv6 xdp =>
      obtain rfl : after = { state with
        flow := (processPacket cfg state.lb.kernel env isIpv6 xdp state.flow).flow } := taken
      exact faithful.packet agrees regular
  | evict lruMap key =>
      obtain rfl : after = { state with flow := state.flow.lruEvict lruMap key } := taken
      exact ⟨faithful.ready, faithful.remembered, faithful.entries.evict lruMap key⟩

/-- A packet goes to a server that has been a real of its VIP. -/
theorem sent {env : PacketEnv} {isIpv6 : Bool} {xdp : XdpMd} {sent : Sent}
    (faithful : Faithful folly config state) (agrees : cfg.Agrees config)
    (stocked : state.lb.Stocked cfg isIpv6 xdp)
    (forwarded : (processPacket cfg state.lb.kernel env isIpv6 xdp state.flow).sent = some sent) :
    ∃ vip current real, state.lb.vips.lookup vip = some current ∧
      vip.encode folly = some sent.vip ∧ current.vipNum = sent.info.vipNum ∧
      real ∈ state.served vip ∧ sent.dst = parseAddrToBe real := by
  rcases processPacket_cases cfg state.lb.kernel env isIpv6 xdp state.flow with
    ⟨unsent, _⟩ | ⟨pckt, pktBytes, definition, info, described, decided, parsed, found, balanced⟩
  · cases unsent.symm.trans forwarded
  obtain ⟨chosen, rfl, rfl, _⟩ := balanced.of_sent sent forwarded
  obtain ⟨stored, covers⟩ := vipOf_eq_some.mp (vipOf_of_found parsed found)
  obtain ⟨noQuic, plain, vip, current, configured, coded, number⟩ :=
    faithful.ready.backed definition info stored
  have was : ∃ real ∈ state.served vip, chosen.dst = parseAddrToBe real := by
    rcases balanced.decision.chosen_cases with
      routed | ⟨entry, hits, rfl⟩ | ⟨num, recorded, picks, _, rfl⟩
    · cases noQuic.symm.trans (quicVip_of_quicRouted routed)
    · exact faithful.entries _ _ entry hits.found vip
        ⟨definition, info, current, stored, covers, configured, number⟩
    · obtain ⟨real, member, written⟩ := faithful.ready.picked_real agrees stocked parsed found plain
        picks configured number
      exact ⟨real, faithful.remembered vip real member, written⟩
  obtain ⟨real, member, addressed⟩ := was
  exact ⟨vip, current, real, configured, coded, number, member, addressed⟩

end Faithful

/-- **Traffic of a VIP reaches its reals.** In every run of regular calls, packets and
evictions, from empty maps, whose calls respect the entries of the connection tables,
every packet that is forwarded goes to an address that is, or has been, a real of its
VIP. -/
theorem forwarded_to_own_reals {features : KatranFeatures} {kernel : ConfigMaps} {flow : FlowMaps}
    {events : List ServingEvent} {env : PacketEnv} {isIpv6 : Bool} {xdp : XdpMd} {sent : Sent}
    (live : config.testing = false) (agrees : cfg.Agrees config)
    (few : config.maxReals.toNat < 2 ^ 31) (empty : kernel.vipMap = fun _ => none)
    (noEntries : flow.lru = fun _ _ => none)
    (run : Run (fun before event after => before.Step folly cfg event after ∧
        before.Regular folly cfg event ∧ before.Respects folly event)
      ⟨.new config features kernel, flow, fun _ => []⟩ events state)
    (stocked : state.lb.Stocked cfg isIpv6 xdp)
    (forwarded : (processPacket cfg state.lb.kernel env isIpv6 xdp state.flow).sent = some sent) :
    ∃ vip current real, state.lb.vips.lookup vip = some current ∧
      vip.encode folly = some sent.vip ∧ current.vipNum = sent.info.vipNum ∧
      real ∈ state.served vip ∧ sent.dst = parseAddrToBe real := by
  have faithful : Faithful folly config state := by
    apply Run.invariant (Faithful folly config) _ run
    · exact .new features empty noEntries
    · rintro before event after earlier ⟨taken, regular, respects⟩
      exact earlier.step live agrees few taken regular respects
  exact faithful.sent agrees stocked forwarded

end Serving

/-! ## Runs of the small balancer -/

/-- Every VIP has a real of nonzero weight. -/
def KatranLb.allStocked (lb : KatranLb) : Bool :=
  (values lb.vips).all fun current => current.reals.entries.any fun entry => entry.2.weight ≠ 0

private theorem KatranLb.stocked_of_allStocked {lb : KatranLb} (all : lb.allStocked = true)
    (cfg : BpfConfig) (isIpv6 : Bool) (xdp : XdpMd) : lb.Stocked cfg isIpv6 xdp := by
  intro pckt pktBytes vip info described parsed found current member number
  obtain ⟨entry, listed, weighted⟩ := List.any_eq_true.mp (List.all_eq_true.mp all current member)
  exact ⟨entry.1, entry.2, mem_entries.mp listed, of_decide_eq_true weighted⟩

namespace ServingEvent

/-- Whether an event is a call of the library. -/
def isControl : ServingEvent → Bool
  | .control _ => true
  | _ => false

/-- No VIP is added or deleted, and no index handed out. -/
def isQuiet : ServingEvent → Bool
  | .control (.modifyRealsForVip .del _ _) => true
  | .control _ => false
  | _ => true

end ServingEvent

namespace Serving

variable {folly : Folly} {state after : Serving} {event : ServingEvent}

private theorem respects_of_empty (noEntries : state.flow.lru = fun _ _ => none)
    (event : ServingEvent) :
    state.Respects folly event := by
  unfold Respects
  rw [noEntries]
  split
  · intro _ num addr _ place key entry stored
    cases stored
  · intro _ _ _ definition _ place key entry stored
    cases stored
  · intro _ definition _ place key entry stored
    cases stored
  · trivial

private theorem respects_of_quiet (quiet : event.isQuiet = true) : state.Respects folly event := by
  unfold Respects
  split
  · cases quiet
  · cases quiet
  · cases quiet
  · trivial

/-- An event, if it is regular. -/
def perform (state : Serving) : ServingEvent → Option Serving
  | .control op =>
      if op.Regular .small then
        (state.lb.perform .small (.plain 20) op).map fun lb =>
          ⟨lb, state.flow, fun vip => state.served vip ++ lb.realsFor vip⟩
      else none
  | .packet env isIpv6 xdp =>
      if state.lb.allStocked then
        some { state with
          flow := (processPacket smallConfig state.lb.kernel env isIpv6 xdp state.flow).flow }
      else none
  | .evict lruMap key => some { state with flow := state.flow.lruEvict lruMap key }

private theorem step_of_perform (performed : state.perform event = some after) :
    state.Step .small smallConfig event after ∧ state.Regular .small smallConfig event := by
  cases event with
  | control op =>
      simp only [perform] at performed
      split at performed
      next regular =>
        obtain ⟨lb, returned, rfl⟩ := Option.map_eq_some_iff.mp performed
        exact ⟨⟨⟨.plain 20, Env.plain_reliable 20, returned⟩, rfl, rfl⟩, regular⟩
      next => cases performed
  | packet env isIpv6 xdp =>
      simp only [perform] at performed
      split at performed
      next all =>
        obtain rfl := Option.some.inj performed
        exact ⟨rfl, KatranLb.stocked_of_allStocked all smallConfig isIpv6 xdp⟩
      next => cases performed
  | evict lruMap key =>
      obtain rfl := Option.some.inj performed
      exact ⟨rfl, trivial⟩

/-- Events of some kind, one after the other. -/
def performAll (allowed : ServingEvent → Bool) (state : Serving) (events : List ServingEvent) :
    Option Serving :=
  Run.execAll (fun state event => if allowed event then state.perform event else none) state events

private theorem run_of_performAll {allowed : ServingEvent → Bool} {events : List ServingEvent}
    (performed : performAll allowed state events = some after) :
    Run (fun before event after => (before.Step .small smallConfig event after ∧
      before.Regular .small smallConfig event) ∧ allowed event = true) state events after := by
  apply Run.of_execAll _ performed
  intro before event next computed
  split at computed
  next kind => exact ⟨step_of_perform computed, kind⟩
  next => cases computed

/-- The small balancer, with nothing in any map. -/
def tinyServing : Serving := ⟨.tiny, .fresh, fun _ => []⟩

/-- A VIP gets two reals. -/
def opens : List ServingEvent :=
  [.control (.addVip ⟨"10.200.1.1", 80, 6⟩ 0),
    .control (.modifyRealsForVip .add [⟨"10.0.0.1", 1⟩, ⟨"10.0.0.2", 1⟩] ⟨"10.200.1.1", 80, 6⟩)]

/-- The real of a new connection is removed. -/
def ages : List ServingEvent :=
  [.packet (sampleEnv 5) false synPacket,
    .control (.modifyRealsForVip .del [⟨"10.0.0.1", 1⟩] ⟨"10.200.1.1", 80, 6⟩)]

/-- Another VIP gets two reals, the second of them with the index of the removed one. -/
def recycles : List ServingEvent :=
  [.control (.addVip ⟨"10.200.1.2", 80, 6⟩ 0),
    .control (.modifyRealsForVip .add [⟨"10.0.0.3", 1⟩, ⟨"10.0.0.4", 1⟩] ⟨"10.200.1.2", 80, 6⟩)]

private theorem opens_returns :
    (performAll ServingEvent.isControl tinyServing opens).isSome = true := by
  decide +kernel

/-- The small balancer with a VIP and its two reals. -/
def opened : Serving := (performAll ServingEvent.isControl tinyServing opens).get opens_returns

private theorem ages_returns : (performAll ServingEvent.isQuiet opened ages).isSome = true := by
  decide +kernel

/-- The small balancer with a connection whose real is gone. -/
def aged : Serving := (performAll ServingEvent.isQuiet opened ages).get ages_returns

private theorem recycles_returns : (performAll (fun _ => true) aged recycles).isSome = true := by
  decide +kernel

/-- The small balancer after the index of the connection has been used again. -/
def recycled : Serving := (performAll (fun _ => true) aged recycles).get recycles_returns

private theorem aged_run :
    Run (fun before event after => before.Step .small smallConfig event after ∧
        before.Regular .small smallConfig event ∧ before.Respects .small event)
      tinyServing (opens ++ ages) aged := by
  have first := run_of_performAll (Option.some_get opens_returns).symm
  have second := run_of_performAll (Option.some_get ages_returns).symm
  refine Run.append (?_ : Run _ tinyServing opens opened) ?_
  · apply first.mono_of_invariant (fun state => state.flow.lru = fun _ _ => none)
    · rintro before event next noEntries ⟨⟨taken, _⟩, kind⟩
      cases event with
      | control op =>
          rw [taken.2.1]
          exact noEntries
      | packet _ _ _ => cases kind
      | evict _ _ => cases kind
    · rintro before event next noEntries ⟨⟨taken, regular⟩, _⟩
      exact ⟨taken, regular, respects_of_empty noEntries event⟩
    · rfl
  · apply second.mono
    rintro before event next ⟨⟨taken, regular⟩, quiet⟩
    exact ⟨taken, regular, respects_of_quiet quiet⟩

private theorem aged_sends : (processPacket smallConfig aged.lb.kernel (sampleEnv 6) false ackPacket
    aged.flow).sent.isSome = true := by
  decide +kernel

/-- A connection keeps its real after the real is removed. -/
theorem forwarded_to_own_reals_aged :
    ∃ sent, (processPacket smallConfig aged.lb.kernel (sampleEnv 6) false ackPacket
        aged.flow).sent = some sent ∧
      ∃ vip real, vip.encode .small = some sent.vip ∧ real ∈ aged.served vip ∧
        sent.dst = parseAddrToBe real := by
  have forwarded := (Option.some_get aged_sends).symm
  have agrees : smallConfig.Agrees KatranLb.tiny.config :=
    ⟨rfl, by decide, by decide, by decide, by decide, by decide, by decide⟩
  have all : aged.lb.allStocked = true := by decide +kernel
  obtain ⟨vip, _, real, _, coded, _, member, addressed⟩ := forwarded_to_own_reals rfl agrees
    (by decide) rfl rfl aged_run (KatranLb.stocked_of_allStocked all _ _ _) forwarded
  exact ⟨_, forwarded, vip, real, coded, member, addressed⟩

private theorem recycled_sends :
    (processPacket smallConfig recycled.lb.kernel (sampleEnv 6) false ackPacket
    recycled.flow).sent.isSome = true := by
  decide +kernel

/-- A packet of the connection reaches a real of the other VIP, which has never been one
of its own. -/
theorem recycled_index_misroutes :
    Run (fun before event after => before.Step .small smallConfig event after ∧
        before.Regular .small smallConfig event) tinyServing (opens ++ ages ++ recycles) recycled ∧
    recycled.lb.Stocked smallConfig false ackPacket ∧
    ∃ sent, (processPacket smallConfig recycled.lb.kernel (sampleEnv 6) false ackPacket
        recycled.flow).sent = some sent ∧
      sent.vip = ⟨.ofV4 0x0101c80a, 0x5000, 6⟩ ∧ sent.dst = parseAddrToBe (.v4 0x0400000a) ∧
      ¬ ∃ vip current real, recycled.lb.vips.lookup vip = some current ∧
        vip.encode .small = some sent.vip ∧ current.vipNum = sent.info.vipNum ∧
        real ∈ recycled.served vip ∧ sent.dst = parseAddrToBe real := by
  have all : recycled.lb.allStocked = true := by decide +kernel
  have facts : ∀ sent ∈ (processPacket smallConfig recycled.lb.kernel (sampleEnv 6) false ackPacket
      recycled.flow).sent, sent.vip = ⟨.ofV4 0x0101c80a, 0x5000, 6⟩ ∧
        sent.dst = parseAddrToBe (.v4 0x0400000a) := by
    decide +kernel
  have never : ∀ vip ∈ recycled.lb.vips.keys,
      vip.encode .small = some ⟨.ofV4 0x0101c80a, 0x5000, 6⟩ →
      ∀ real ∈ recycled.served vip, parseAddrToBe real ≠ parseAddrToBe (.v4 0x0400000a) := by
    decide +kernel
  have forwarded := (Option.some_get recycled_sends).symm
  obtain ⟨named, addressed⟩ := facts _ forwarded
  refine ⟨?_, KatranLb.stocked_of_allStocked all _ _ _, _, forwarded, named, addressed, ?_⟩
  · refine (aged_run.mono ?_).append
      ((run_of_performAll (Option.some_get recycles_returns).symm).mono ?_)
    · rintro before event next ⟨taken, regular, _⟩
      exact ⟨taken, regular⟩
    · rintro before event next ⟨checked, _⟩
      exact checked
  · rintro ⟨vip, current, real, found, coded, _, member, same⟩
    rw [named] at coded
    exact never vip (mem_of_lookup found) coded real member (same.symm.trans addressed)

end Serving

end Katran
