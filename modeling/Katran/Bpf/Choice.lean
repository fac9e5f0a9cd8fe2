import Katran.Bpf.Balancer

/-! # How a real is chosen

What the parts of `processPacket` compute, leaving the counters aside: which real a
packet without an entry gets (`pickDst`), when the connection table decides (`Hits`),
and what either does to the connection tables.
-/

namespace Katran

open Foundation

@[simp] theorem FlowMaps.updateStats_lru (flow : FlowMaps) (cpu key : Nat)
    (change : LbStats → LbStats) : (flow.updateStats cpu key change).lru = flow.lru := rfl

@[simp] theorem FlowMaps.lruUpdate_lru (flow : FlowMaps) (lruMap : Option Nat) (key : FlowKey)
    (entry : RealPosLru) :
    (flow.lruUpdate lruMap key entry).lru = store flow.lru lruMap key entry := rfl

@[simp] theorem FlowMaps.lruEvict_lru (flow : FlowMaps) (lruMap : Option Nat) (key : FlowKey) :
    (flow.lruEvict lruMap key).lru = evict flow.lru lruMap key := rfl

variable {cfg : BpfConfig} {maps : ConfigMaps} {env : PacketEnv} {isIpv6 : Bool}
  {lruMap : Option Nat} {info : VipMeta} {pckt : PacketDescription} {flow counted : FlowMaps}
  {cpu key : Nat} {routed : Bool}

/-! ## Counters -/

/-- A counter is written if the map has it. -/
theorem countStats_eq_some {change : LbStats → LbStats} :
    countStats cfg cpu key change flow = some counted ↔
      key < cfg.statsMapSize ∧ counted = flow.updateStats cpu key change := by
  unfold countStats
  split
  next inside =>
    constructor
    · intro same
      exact ⟨inside, (Option.some.inj same).symm⟩
    · rintro ⟨_, rfl⟩
      rfl
  next outside =>
    constructor
    · intro same
      cases same
    · rintro ⟨inside, _⟩
      exact (outside inside).elim

theorem FlowMaps.updateStats_stats_of_ne (flow : FlowMaps) {other : Nat} (different : other ≠ key)
    (change : LbStats → LbStats) :
    (flow.updateStats cpu key change).stats cpu other = flow.stats cpu other := by
  simp only [FlowMaps.updateStats, Function.update_self, Function.update_of_ne different]

private theorem isUnderFlood_lru (cfg : BpfConfig) (cpu : Nat) (curTime : UInt64)
    (flow : FlowMaps) :
    (isUnderFlood cfg cpu curTime flow).2.lru = flow.lru := by
  unfold isUnderFlood
  dsimp only
  split
  · split <;> rfl
  · rfl

/-- The rate of connections is read from one counter. -/
theorem isUnderFlood_congr {curTime : UInt64} {other : FlowMaps}
    (same : other.stats cpu (cfg.maxVips + newConnRateCntr) =
      flow.stats cpu (cfg.maxVips + newConnRateCntr)) :
    (isUnderFlood cfg cpu curTime other).1 = (isUnderFlood cfg cpu curTime flow).1 := by
  unfold isUnderFlood
  dsimp only
  rw [same]
  split
  · split <;> rfl
  · rfl

/-! ## Packets without an entry -/

/-- The real that the source address chooses. -/
def routedReal (cfg : BpfConfig) (maps : ConfigMaps) (isIpv6 underFlood : Bool) (info : VipMeta)
    (flow : FlowKey) : Option Nat :=
  if cfg.lpmSrcLookup ∧ info.srcRouting ∧ ¬ underFlood then lpmSrcLookup maps isIpv6 flow else none

/-- The real of a packet without an entry, and the key under which the connection is
recorded. -/
def pickDst (cfg : BpfConfig) (maps : ConfigMaps) (isIpv6 underFlood : Bool) (info : VipMeta)
    (flow : FlowKey) : Option (Nat × FlowKey) :=
  match routedReal cfg maps isIpv6 underFlood info flow with
  | some key => some (key, flow)
  | none => (chRingsLookup cfg maps (ringKey cfg isIpv6 info (hashedFlow info flow))).map
      fun key => (key, hashedFlow info flow)

private theorem srcRoute_fst (cfg : BpfConfig) (maps : ConfigMaps) (cpu : Nat)
    (isIpv6 underFlood : Bool) (info : VipMeta) (pckt : PacketDescription) (flow : FlowMaps) :
    (srcRoute cfg maps cpu isIpv6 underFlood info pckt flow).1 =
      routedReal cfg maps isIpv6 underFlood info pckt.flow := by
  unfold srcRoute routedReal
  split <;> rfl

private theorem srcRoute_lru (cfg : BpfConfig) (maps : ConfigMaps) (cpu : Nat)
    (isIpv6 underFlood : Bool) (info : VipMeta) (pckt : PacketDescription) (flow : FlowMaps) :
    (srcRoute cfg maps cpu isIpv6 underFlood info pckt flow).2.lru = flow.lru := by
  unfold srcRoute
  split
  · dsimp only
    unfold countStats
    split <;> rfl
  · rfl

/-- A flow whose hash picks the slot picks the same slot again. -/
theorem hashedFlow_idem (info : VipMeta) (flow : FlowKey) :
    hashedFlow info (hashedFlow info flow) = hashedFlow info flow := by
  unfold hashedFlow
  split <;> rfl

/-- The connection table after a connection has been recorded, if it is. -/
def recordedLru (env : PacketEnv) (lruMap : Option Nat) (info : VipMeta) (underFlood : Bool)
    (recorded : FlowKey) (key : Nat) (lru : Option Nat → FlowKey → Option RealPosLru) :
    Option Nat → FlowKey → Option RealPosLru :=
  if ¬ info.lruBypass ∧ ¬ underFlood then
    store lru lruMap recorded ⟨key, if recorded.proto = ipprotoUdp then env.floodTime else 0⟩
  else lru

private theorem recordDst_spec (cfg : BpfConfig) (maps : ConfigMaps) (env : PacketEnv)
    (lruMap : Option Nat) (underFlood : Bool) (info : VipMeta) (pckt : PacketDescription)
    (key : Nat) (flow : FlowMaps) :
    let result := recordDst cfg maps lruMap env.floodTime underFlood info pckt key flow
    (cfg.maxReals ≤ key ∧ result = (none, flow)) ∨
    (key < cfg.maxReals ∧
      result.1 = some ⟨{ pckt with realIndex := key }, maps.reals key⟩ ∧
      result.2.lru = recordedLru env lruMap info underFlood pckt.flow key flow.lru) := by
  unfold recordDst realsLookup recordedLru
  dsimp only
  by_cases inside : key < cfg.maxReals
  · rw [if_pos inside]
    refine .inr ⟨inside, rfl, ?_⟩
    dsimp only
    split <;> rfl
  · rw [if_neg inside]
    exact .inl ⟨Nat.le_of_not_lt inside, rfl⟩

/-- What `getPacketDst` returns, and what it does to the connection tables. -/
theorem getPacketDst_spec (cfg : BpfConfig) (maps : ConfigMaps) (env : PacketEnv) (isIpv6 : Bool)
    (lruMap : Option Nat) (info : VipMeta) (pckt : PacketDescription) (flow : FlowMaps) :
    let underFlood := (isUnderFlood cfg env.cpu env.floodTime flow).1
    let result := getPacketDst cfg maps env isIpv6 lruMap info pckt flow
    (result.1 = none ∧ result.2.lru = flow.lru ∧
      ∀ key recorded, pickDst cfg maps isIpv6 underFlood info pckt.flow = some (key, recorded) →
        cfg.maxReals ≤ key) ∨
    ∃ key recorded, pickDst cfg maps isIpv6 underFlood info pckt.flow = some (key, recorded) ∧
      key < cfg.maxReals ∧
      result.1 = some ⟨{ pckt with flow := recorded, realIndex := key }, maps.reals key⟩ ∧
      result.2.lru = recordedLru env lruMap info underFlood recorded key flow.lru := by
  have calm := isUnderFlood_lru cfg env.cpu env.floodTime flow
  unfold getPacketDst pickDst
  dsimp only
  rw [srcRoute_fst]
  generalize (isUnderFlood cfg env.cpu env.floodTime flow).1 = underFlood
  have counted : (srcRoute cfg maps env.cpu isIpv6 underFlood info pckt
      (isUnderFlood cfg env.cpu env.floodTime flow).2).2.lru = flow.lru :=
    (srcRoute_lru cfg maps env.cpu isIpv6 underFlood info pckt _).trans calm
  rw [← counted]
  generalize (srcRoute cfg maps env.cpu isIpv6 underFlood info pckt
    (isUnderFlood cfg env.cpu env.floodTime flow).2).2 = later
  cases routedReal cfg maps isIpv6 underFlood info pckt.flow with
  | some key =>
      dsimp only
      rcases recordDst_spec cfg maps env lruMap underFlood info pckt key later with
        ⟨outside, same⟩ | ⟨inside, chosen, lru⟩
      · refine .inl ⟨by rw [same], by rw [same], ?_⟩
        intro other recorded picked
        obtain ⟨rfl, rfl⟩ := Prod.mk.inj (Option.some.inj picked)
        exact outside
      · exact .inr ⟨key, pckt.flow, rfl, inside, chosen, lru⟩
  | none =>
      dsimp only
      cases chRingsLookup cfg maps (ringKey cfg isIpv6 info (hashedFlow info pckt.flow)) with
      | none => exact .inl ⟨rfl, rfl, nofun⟩
      | some key =>
          dsimp only [Option.map_some]
          rcases recordDst_spec cfg maps env lruMap underFlood info
              { pckt with flow := hashedFlow info pckt.flow } key later with
            ⟨outside, same⟩ | ⟨inside, chosen, lru⟩
          · refine .inl ⟨by rw [same], by rw [same], ?_⟩
            intro other recorded picked
            obtain ⟨rfl, rfl⟩ := Prod.mk.inj (Option.some.inj picked)
            exact outside
          · exact .inr ⟨key, hashedFlow info pckt.flow, rfl, inside, chosen, lru⟩

/-! ## The connection table -/

/-- The connection table decides for a packet, because it has an entry to go by. -/
structure Hits (cfg : BpfConfig) (env : PacketEnv) (lruMap : Option Nat) (info : VipMeta)
    (pckt : PacketDescription) (lru : Option Nat → FlowKey → Option RealPosLru)
    (entry : RealPosLru) : Prop where
  established : pckt.synSet = false
  used : info.lruBypass = false
  found : lru lruMap pckt.flow = some entry
  fresh : lruExpired cfg env.lookupTime pckt.flow.proto entry = false
  known : entry.pos < cfg.maxReals

/-- The connection table after a lookup that found an entry. -/
def refreshedLru (env : PacketEnv) (lruMap : Option Nat) (key : FlowKey) (entry : RealPosLru)
    (lru : Option Nat → FlowKey → Option RealPosLru) : Option Nat → FlowKey → Option RealPosLru :=
  if key.proto = ipprotoUdp then store lru lruMap key
    { entry with atime := env.lookupTime } else lru

/-- The connection table after a lookup that did not decide. An entry whose real is
out of range is refreshed all the same. -/
def MissedLru (cfg : BpfConfig) (env : PacketEnv) (lruMap : Option Nat) (key : FlowKey)
    (before after : Option Nat → FlowKey → Option RealPosLru) : Prop :=
  after = before ∨ ∃ entry, before lruMap key = some entry ∧ cfg.maxReals ≤ entry.pos ∧
    after = refreshedLru env lruMap key entry before

private theorem connectionTableLookup_stats (cfg : BpfConfig) (maps : ConfigMaps) (curTime : UInt64)
    (lruMap : Option Nat) (pckt : PacketDescription) (flow : FlowMaps) :
    (connectionTableLookup cfg maps curTime lruMap pckt flow).2.stats = flow.stats := by
  unfold connectionTableLookup
  split
  · rfl
  · split
    · rfl
    · dsimp only
      split <;> rfl

/-- The lookup of a connection counts nothing in `stats`. -/
theorem lookupDst_stats (cfg : BpfConfig) (maps : ConfigMaps) (env : PacketEnv)
    (lruMap : Option Nat) (info : VipMeta) (pckt : PacketDescription) (flow : FlowMaps) :
    (lookupDst cfg maps env lruMap info pckt flow).2.stats = flow.stats := by
  unfold lookupDst
  split
  · exact connectionTableLookup_stats cfg maps env.lookupTime lruMap pckt flow
  · rfl

/-- A lookup decides exactly if the table has an entry to go by. -/
theorem lookupDst_spec (cfg : BpfConfig) (maps : ConfigMaps) (env : PacketEnv)
    (lruMap : Option Nat) (info : VipMeta) (pckt : PacketDescription) (flow : FlowMaps) :
    let result := lookupDst cfg maps env lruMap info pckt flow
    (∃ entry, Hits cfg env lruMap info pckt flow.lru entry ∧
      result.1 = some ⟨{ pckt with realIndex := entry.pos }, maps.reals entry.pos⟩ ∧
      result.2.lru = refreshedLru env lruMap pckt.flow entry flow.lru) ∨
    ((∀ entry, ¬ Hits cfg env lruMap info pckt flow.lru entry) ∧ result.1 = none ∧
      MissedLru cfg env lruMap pckt.flow flow.lru result.2.lru) := by
  dsimp only
  by_cases looked : pckt.synSet = false ∧ info.lruBypass = false
  · obtain ⟨established, used⟩ := looked
    have searched : lookupDst cfg maps env lruMap info pckt flow =
        connectionTableLookup cfg maps env.lookupTime lruMap pckt flow := by
      simp only [lookupDst, established, used, Bool.false_eq_true, not_false_eq_true, and_self,
        ↓reduceIte]
    rw [searched]
    cases found : flow.lru lruMap pckt.flow with
    | none =>
        have result : connectionTableLookup cfg maps env.lookupTime lruMap pckt flow =
            (none, flow) := by simp only [connectionTableLookup, found]
        rw [result]
        refine .inr ⟨?_, rfl, .inl rfl⟩
        intro entry hits
        cases found.symm.trans hits.found
    | some entry =>
        cases expired : lruExpired cfg env.lookupTime pckt.flow.proto entry with
        | true =>
            have result : connectionTableLookup cfg maps env.lookupTime lruMap pckt flow =
                (none, flow) := by simp only [connectionTableLookup, found, expired, ↓reduceIte]
            rw [result]
            refine .inr ⟨?_, rfl, .inl rfl⟩
            intro other hits
            obtain rfl := Option.some.inj (found.symm.trans hits.found)
            cases expired.symm.trans hits.fresh
        | false =>
            have lru : (connectionTableLookup cfg maps env.lookupTime lruMap pckt flow).2.lru =
                refreshedLru env lruMap pckt.flow entry flow.lru := by
              simp only [connectionTableLookup, found, expired, Bool.false_eq_true, ↓reduceIte,
                refreshedLru]
              split <;> rfl
            by_cases known : entry.pos < cfg.maxReals
            · refine .inl ⟨entry, ⟨established, used, found, expired, known⟩, ?_, lru⟩
              simp only [connectionTableLookup, found, expired, Bool.false_eq_true, ↓reduceIte,
                realsLookup, known, Option.map_some]
            · refine .inr ⟨?_, ?_, .inr ⟨entry, found, Nat.le_of_not_lt known, lru⟩⟩
              · intro other hits
                obtain rfl := Option.some.inj (found.symm.trans hits.found)
                exact known hits.known
              · simp only [connectionTableLookup, found, expired, Bool.false_eq_true, ↓reduceIte,
                  realsLookup, known, Option.map_none]
  · have skipped : lookupDst cfg maps env lruMap info pckt flow = (none, flow) := by
      unfold lookupDst
      rw [if_neg]
      simpa only [Bool.not_eq_true] using looked
    rw [skipped]
    refine .inr ⟨?_, rfl, .inl rfl⟩
    intro entry hits
    exact looked ⟨hits.established, hits.used⟩

/-! ## The decision -/

/-- The counters that a packet of a core needs are there. -/
def CountersPresent (cfg : BpfConfig) (maps : ConfigMaps) (cpu : Nat) : Prop :=
  cfg.maxVips + lruCntrs < cfg.statsMapSize ∧
    (lruMapOf cfg maps cpu = none → cfg.maxVips + fallbackLruCntr < cfg.statsMapSize)

/-- Whether the connection id decides about a packet. -/
def quicRouted (cfg : BpfConfig) (isIpv6 : Bool) (data : List UInt8) (info : VipMeta)
    (pckt : PacketDescription) : Bool :=
  info.quicVip ∧ ¬ (cfg.maxVips + quicRouteStats < cfg.statsMapSize ∧
    ∀ index ∈ parseQuic cfg data isIpv6 pckt, index = 0 ∨ maxQuicReals ≤ index)

/-- Only packets of a VIP for QUIC are routed by id. -/
theorem quicVip_of_quicRouted {data : List UInt8}
    (byId : quicRouted cfg isIpv6 data info pckt = true) : info.quicVip = true := by
  rw [quicRouted, decide_eq_true_eq] at byId
  exact byId.1

/-- Packets of other VIPs are not routed by id. -/
theorem quicRouted_eq_false (cfg : BpfConfig) (isIpv6 : Bool) (data : List UInt8)
    (pckt : PacketDescription) (noQuic : info.quicVip = false) :
    quicRouted cfg isIpv6 data info pckt = false := by
  rw [Bool.eq_false_iff]
  intro byId
  cases noQuic.symm.trans (quicVip_of_quicRouted byId)

/-- The real for a packet, and the connection tables afterwards: all that choosing a
real can do. A packet may be `routed` by its connection id. -/
inductive Decision (cfg : BpfConfig) (maps : ConfigMaps) (env : PacketEnv) (isIpv6 routed : Bool)
    (info : VipMeta) (pckt : PacketDescription) (flow : FlowMaps) :
    Option Chosen → (Option Nat → FlowKey → Option RealPosLru) → Prop
  /-- The connection id chooses, or drops the packet. -/
  | quic (byId : routed = true) (chosen : Option Chosen) :
      Decision cfg maps env isIpv6 routed info pckt flow chosen flow.lru
  /-- A counter is missing. -/
  | uncounted (missing : ¬ CountersPresent cfg maps env.cpu) :
      Decision cfg maps env isIpv6 routed info pckt flow none flow.lru
  /-- The connection table chooses. -/
  | hit (entry : RealPosLru) (unrouted : routed = false)
      (present : CountersPresent cfg maps env.cpu)
      (hits : Hits cfg env (lruMapOf cfg maps env.cpu) info pckt flow.lru entry) :
      Decision cfg maps env isIpv6 routed info pckt flow
        (some ⟨{ pckt with realIndex := entry.pos }, maps.reals entry.pos⟩)
        (refreshedLru env (lruMapOf cfg maps env.cpu) pckt.flow entry flow.lru)
  /-- Nothing chooses, because a counter, the slot or the real is missing. -/
  | unpicked (lru : Option Nat → FlowKey → Option RealPosLru) (unrouted : routed = false)
      (misses : ∀ entry, ¬ Hits cfg env (lruMapOf cfg maps env.cpu) info pckt flow.lru entry)
      (missed : MissedLru cfg env (lruMapOf cfg maps env.cpu) pckt.flow flow.lru lru)
      (reason : cfg.statsMapSize ≤ cfg.maxVips + lruMissCntr ∨ ∀ key recorded,
        pickDst cfg maps isIpv6 (isUnderFlood cfg env.cpu env.floodTime flow).1 info pckt.flow =
          some (key, recorded) → cfg.maxReals ≤ key) :
      Decision cfg maps env isIpv6 routed info pckt flow none lru
  /-- The source address or the ring chooses, and the connection is recorded. -/
  | picked (lru : Option Nat → FlowKey → Option RealPosLru) (key : Nat) (recorded : FlowKey)
      (unrouted : routed = false) (present : CountersPresent cfg maps env.cpu)
      (misses : ∀ entry, ¬ Hits cfg env (lruMapOf cfg maps env.cpu) info pckt flow.lru entry)
      (missed : MissedLru cfg env (lruMapOf cfg maps env.cpu) pckt.flow flow.lru lru)
      (picks : pickDst cfg maps isIpv6 (isUnderFlood cfg env.cpu env.floodTime flow).1 info
        pckt.flow = some (key, recorded))
      (known : key < cfg.maxReals) :
      Decision cfg maps env isIpv6 routed info pckt flow
        (some ⟨{ pckt with flow := recorded, realIndex := key }, maps.reals key⟩)
        (recordedLru env (lruMapOf cfg maps env.cpu) info
          (isUnderFlood cfg env.cpu env.floodTime flow).1 recorded key lru)

/-- Counting before a choice does not affect it. -/
theorem Decision.of_counted {chosen : Option Chosen}
    {lru : Option Nat → FlowKey → Option RealPosLru} {other : Nat} {change : LbStats → LbStats}
    (different : other ≠ cfg.maxVips + newConnRateCntr)
    (decision :
    Decision cfg maps env isIpv6 routed info pckt (flow.updateStats env.cpu other change)
      chosen lru) : Decision cfg maps env isIpv6 routed info pckt flow chosen lru := by
  have calm : (isUnderFlood cfg env.cpu env.floodTime (flow.updateStats env.cpu other change)).1 =
      (isUnderFlood cfg env.cpu env.floodTime flow).1 :=
    isUnderFlood_congr (flow.updateStats_stats_of_ne different.symm change)
  cases decision with
  | quic byId => exact .quic byId chosen
  | uncounted missing => exact .uncounted missing
  | hit entry unrouted present hits => exact .hit entry unrouted present hits
  | unpicked lru unrouted misses missed reason =>
      rw [calm] at reason
      exact .unpicked lru unrouted misses missed reason
  | picked lru key recorded unrouted present misses missed picks known =>
      rw [calm] at picks ⊢
      exact .picked lru key recorded unrouted present misses missed picks known

/-- A property of the reals in the connection tables is kept by a decision, if the
connection that is recorded has it. -/
theorem Decision.every {chosen : Option Chosen} {lru : Option Nat → FlowKey → Option RealPosLru}
    {holds : Option Nat → FlowKey → Nat → Prop}
    (decision : Decision cfg maps env isIpv6 routed info pckt flow chosen lru)
    (every : EveryEntry (fun place key entry => holds place key entry.pos) flow.lru)
    (new : ∀ key recorded, pickDst cfg maps isIpv6 (isUnderFlood cfg env.cpu env.floodTime flow).1
      info pckt.flow = some (key, recorded) → key < cfg.maxReals →
        holds (lruMapOf cfg maps env.cpu) recorded key) :
    EveryEntry (fun place key entry => holds place key entry.pos) lru := by
  have refreshed : ∀ {lruMap entry}, flow.lru lruMap pckt.flow = some entry →
      EveryEntry (fun place key entry => holds place key entry.pos)
        (refreshedLru env lruMap pckt.flow entry flow.lru) := by
    intro lruMap entry found
    unfold refreshedLru
    split
    · exact every.store (every lruMap pckt.flow entry found)
    · exact every
  have kept : ∀ {later}, MissedLru cfg env (lruMapOf cfg maps env.cpu) pckt.flow flow.lru later →
      EveryEntry (fun place key entry => holds place key entry.pos) later := by
    rintro later (rfl | ⟨entry, found, _, rfl⟩)
    · exact every
    · exact refreshed found
  cases decision with
  | quic _ _ => exact every
  | uncounted _ => exact every
  | hit entry _ _ hits => exact refreshed hits.found
  | unpicked lru _ _ missed _ => exact kept missed
  | picked later key recorded _ _ _ missed picks known =>
      unfold recordedLru
      split
      · exact (kept missed).store (new key recorded picks known)
      · exact kept missed

/-- Where the real of a packet can come from. -/
theorem Decision.chosen_cases {chosen : Chosen} {lru : Option Nat → FlowKey → Option RealPosLru}
    (decision : Decision cfg maps env isIpv6 routed info pckt flow (some chosen) lru) :
    routed = true ∨
    (∃ entry, Hits cfg env (lruMapOf cfg maps env.cpu) info pckt flow.lru entry ∧
      chosen = ⟨{ pckt with realIndex := entry.pos }, maps.reals entry.pos⟩) ∨
    ∃ key recorded, pickDst cfg maps isIpv6 (isUnderFlood cfg env.cpu env.floodTime flow).1 info
        pckt.flow = some (key, recorded) ∧ key < cfg.maxReals ∧
      chosen = ⟨{ pckt with flow := recorded, realIndex := key }, maps.reals key⟩ := by
  cases decision with
  | quic byId _ => exact .inl byId
  | hit entry _ _ hits => exact .inr (.inl ⟨entry, hits, rfl⟩)
  | picked later key recorded _ _ _ _ picks known =>
      exact .inr (.inr ⟨key, recorded, picks, known, rfl⟩)

/-- Only a packet of a core with its counters gets a real, unless by connection id. -/
theorem Decision.present {chosen : Chosen} {lru : Option Nat → FlowKey → Option RealPosLru}
    (decision : Decision cfg maps env isIpv6 routed info pckt flow (some chosen) lru)
    (unrouted : routed = false) : CountersPresent cfg maps env.cpu := by
  cases decision with
  | quic byId _ => cases unrouted.symm.trans byId
  | hit _ _ present _ => exact present
  | picked _ _ _ _ present _ _ _ _ => exact present

/-- The connection table decides if it has an entry to go by. -/
theorem Decision.of_hits {decided : Option Chosen} {entry : RealPosLru}
    {lru : Option Nat → FlowKey → Option RealPosLru}
    (decision : Decision cfg maps env isIpv6 routed info pckt flow decided lru)
    (unrouted : routed = false) (present : CountersPresent cfg maps env.cpu)
    (hits : Hits cfg env (lruMapOf cfg maps env.cpu) info pckt flow.lru entry) :
    decided = some ⟨{ pckt with realIndex := entry.pos }, maps.reals entry.pos⟩ ∧
      lru = refreshedLru env (lruMapOf cfg maps env.cpu) pckt.flow entry flow.lru := by
  cases decision with
  | quic byId _ => cases unrouted.symm.trans byId
  | uncounted missing => exact (missing present).elim
  | hit other _ _ found =>
      obtain rfl := Option.some.inj (hits.found.symm.trans found.found)
      exact ⟨rfl, rfl⟩
  | unpicked _ _ misses _ _ => exact (misses entry hits).elim
  | picked _ _ _ _ _ misses _ _ _ => exact (misses entry hits).elim

/-- The source address or the ring chooses if the connection table does not. -/
theorem Decision.of_misses {chosen : Chosen} {lru : Option Nat → FlowKey → Option RealPosLru}
    (decision : Decision cfg maps env isIpv6 routed info pckt flow (some chosen) lru)
    (unrouted : routed = false)
    (misses : ∀ entry, ¬ Hits cfg env (lruMapOf cfg maps env.cpu) info pckt flow.lru entry) :
    ∃ key recorded missed,
      pickDst cfg maps isIpv6 (isUnderFlood cfg env.cpu env.floodTime flow).1 info pckt.flow =
        some (key, recorded) ∧ key < cfg.maxReals ∧
      chosen = ⟨{ pckt with flow := recorded, realIndex := key }, maps.reals key⟩ ∧
      lru = recordedLru env (lruMapOf cfg maps env.cpu) info
        (isUnderFlood cfg env.cpu env.floodTime flow).1 recorded key missed := by
  cases decision with
  | quic byId _ => cases unrouted.symm.trans byId
  | hit entry _ _ hits => exact (misses entry hits).elim
  | picked missed key recorded _ _ _ _ picks known =>
      exact ⟨key, recorded, missed, picks, known, rfl, rfl⟩

/-- A packet without an entry gets a real if there is one to pick. -/
theorem Decision.of_picks {decided : Option Chosen}
    {lru : Option Nat → FlowKey → Option RealPosLru} {recorded : FlowKey}
    (decision : Decision cfg maps env isIpv6 routed info pckt flow decided lru)
    (unrouted : routed = false) (present : CountersPresent cfg maps env.cpu)
    (counted : cfg.maxVips + lruMissCntr < cfg.statsMapSize)
    (misses : ∀ entry, ¬ Hits cfg env (lruMapOf cfg maps env.cpu) info pckt flow.lru entry)
    (picks : pickDst cfg maps isIpv6 (isUnderFlood cfg env.cpu env.floodTime flow).1 info
      pckt.flow = some (key, recorded)) (known : key < cfg.maxReals) :
    decided = some ⟨{ pckt with flow := recorded, realIndex := key }, maps.reals key⟩ := by
  cases decision with
  | quic byId _ => cases unrouted.symm.trans byId
  | uncounted missing => exact (missing present).elim
  | hit entry _ _ hits => exact (misses entry hits).elim
  | unpicked _ _ _ _ reason =>
      rcases reason with small | unknown
      · exact absurd counted (Nat.not_lt.mpr small)
      · exact absurd known (Nat.not_lt.mpr (unknown key recorded picks))
  | picked _ other stored _ _ _ _ again _ =>
      obtain ⟨rfl, rfl⟩ := Prod.mk.inj (Option.some.inj (picks.symm.trans again))
      rfl

/-- A decision touches only the entry that is looked up and the one that is recorded. -/
theorem Decision.lru_of_ne {decided : Option Chosen} {other : FlowKey}
    {lru : Option Nat → FlowKey → Option RealPosLru}
    (decision : Decision cfg maps env isIpv6 routed info pckt flow decided lru)
    (unsearched : other ≠ pckt.flow)
    (unrecorded : ∀ key recorded, pickDst cfg maps isIpv6
      (isUnderFlood cfg env.cpu env.floodTime flow).1 info pckt.flow = some (key, recorded) →
        other ≠ recorded) (place : Option Nat) : lru place other = flow.lru place other := by
  have refreshed : ∀ {lruMap entry},
      refreshedLru env lruMap pckt.flow entry flow.lru place other = flow.lru place other := by
    intro lruMap entry
    unfold refreshedLru
    split
    · rw [store_apply, if_neg fun same => unsearched same.2]
    · rfl
  have kept : ∀ {later}, MissedLru cfg env (lruMapOf cfg maps env.cpu) pckt.flow flow.lru later →
      later place other = flow.lru place other := by
    rintro later (rfl | ⟨entry, _, _, rfl⟩)
    · rfl
    · exact refreshed
  cases decision with
  | quic _ _ => rfl
  | uncounted _ => rfl
  | hit _ _ _ _ => exact refreshed
  | unpicked _ _ _ missed _ => exact kept missed
  | picked later key recorded _ _ _ missed picks _ =>
      unfold recordedLru
      split
      · rw [store_apply, if_neg fun same => unrecorded key recorded picks same.2]
        exact kept missed
      · exact kept missed

/-- What a counting step does: nothing, or count in one entry. -/
def Counts (cpu key : Nat) (before after : FlowMaps) : Prop :=
  after = before ∨ ∃ change, after = before.updateStats cpu key change

private theorem Counts.lru (counts : Counts cpu key flow counted) : counted.lru = flow.lru := by
  rcases counts with rfl | ⟨change, rfl⟩
  · rfl
  · rfl

private theorem Counts.isUnderFlood {curTime : UInt64} (counts : Counts cpu key flow counted)
    (different : key ≠ cfg.maxVips + newConnRateCntr) :
    (isUnderFlood cfg cpu curTime counted).1 = (isUnderFlood cfg cpu curTime flow).1 := by
  rcases counts with rfl | ⟨change, rfl⟩
  · rfl
  · exact isUnderFlood_congr (flow.updateStats_stats_of_ne different.symm change)

/-- A miss is counted, or the map does not have the counter. -/
theorem countMiss_cases (cfg : BpfConfig) (cpu : Nat) (pckt : PacketDescription) (flow : FlowMaps) :
    (countMiss cfg cpu pckt flow = none ∧ cfg.statsMapSize ≤ cfg.maxVips + lruMissCntr) ∨
    ∃ counted, countMiss cfg cpu pckt flow = some counted ∧
      Counts cpu (cfg.maxVips + lruMissCntr) flow counted := by
  unfold countMiss countStats
  split
  · split
    next inside => exact .inr ⟨_, rfl, .inr ⟨_, rfl⟩⟩
    next outside => exact .inl ⟨rfl, Nat.le_of_not_lt outside⟩
  · exact .inr ⟨flow, rfl, .inl rfl⟩

/-- A packet for the fallback table is counted, or the map does not have the counter. -/
theorem countFallback_cases (cfg : BpfConfig) (maps : ConfigMaps) (cpu : Nat) (flow : FlowMaps) :
    (countFallback cfg maps cpu flow = none ∧ ¬ CountersPresent cfg maps cpu) ∨
    ∃ counted, countFallback cfg maps cpu flow = some counted ∧
      Counts cpu (cfg.maxVips + fallbackLruCntr) flow counted ∧
      (lruMapOf cfg maps cpu = none → cfg.maxVips + fallbackLruCntr < cfg.statsMapSize) := by
  unfold countFallback countStats
  split
  next fallback =>
    split
    next inside => exact .inr ⟨_, rfl, .inr ⟨_, rfl⟩, fun _ => inside⟩
    next outside => exact .inl ⟨rfl, fun present => outside (present.2 fallback)⟩
  next own => exact .inr ⟨flow, rfl, .inl rfl, fun fallback => (own fallback).elim⟩

/-- What becomes of a packet for which the connection table did not decide. -/
theorem missDst_spec (cfg : BpfConfig) (maps : ConfigMaps) (env : PacketEnv) (isIpv6 : Bool)
    (lruMap : Option Nat) (info : VipMeta) (pckt : PacketDescription) (flow : FlowMaps) :
    let underFlood := (isUnderFlood cfg env.cpu env.floodTime flow).1
    let result := missDst cfg maps env isIpv6 lruMap info pckt flow
    (result.1 = none ∧ result.2.lru = flow.lru ∧
      (cfg.statsMapSize ≤ cfg.maxVips + lruMissCntr ∨ ∀ key recorded,
        pickDst cfg maps isIpv6 underFlood info pckt.flow = some (key, recorded) →
          cfg.maxReals ≤ key)) ∨
    ∃ key recorded, pickDst cfg maps isIpv6 underFlood info pckt.flow = some (key, recorded) ∧
      key < cfg.maxReals ∧
      result.1 = some ⟨{ pckt with flow := recorded, realIndex := key }, maps.reals key⟩ ∧
      result.2.lru = recordedLru env lruMap info underFlood recorded key flow.lru := by
  dsimp only
  rcases countMiss_cases cfg env.cpu pckt flow with ⟨missing, small⟩ | ⟨counted, counting, counts⟩
  · simp only [missDst, missing]
    exact .inl ⟨trivial, trivial, .inl small⟩
  · have calm : (isUnderFlood cfg env.cpu env.floodTime counted).1 =
        (isUnderFlood cfg env.cpu env.floodTime flow).1 :=
      counts.isUnderFlood (by simp only [lruMissCntr, newConnRateCntr]; omega)
    have spec := getPacketDst_spec cfg maps env isIpv6 lruMap info pckt counted
    simp only [calm, counts.lru] at spec
    cases returned : getPacketDst cfg maps env isIpv6 lruMap info pckt counted with
    | mk chosen later =>
        rw [returned] at spec
        rcases spec with ⟨none, lru, unknown⟩ | ⟨key, recorded, picks, known, some, lru⟩
        · dsimp only at none lru
          subst none
          simp only [missDst, counting, returned]
          exact .inl ⟨trivial, lru, .inr unknown⟩
        · dsimp only at some lru
          subst some
          refine .inr ⟨key, recorded, picks, known, ?_, ?_⟩
          · simp only [missDst, counting, returned]
          · simp only [missDst, counting, returned, FlowMaps.updateStats_lru]
            exact lru

/-- What `lruDst` can do. -/
theorem lruDst_decision (maps : ConfigMaps) (env : PacketEnv) (isIpv6 : Bool) (info : VipMeta)
    (pckt : PacketDescription) (flow : FlowMaps)
    (inside : cfg.maxVips + lruCntrs < cfg.statsMapSize) (unrouted : routed = false) :
    let result := lruDst cfg maps env isIpv6 info pckt flow
    Decision cfg maps env isIpv6 routed info (lruPckt info pckt) flow result.1 result.2.lru := by
  dsimp only
  rcases countFallback_cases cfg maps env.cpu flow with
    ⟨dropped, missing⟩ | ⟨counted, counting, counts, fallback⟩
  · simp only [lruDst, dropped]
    exact .uncounted missing
  · have decided : Decision cfg maps env isIpv6 routed info (lruPckt info pckt) counted
        (lruDst cfg maps env isIpv6 info pckt flow).1
        (lruDst cfg maps env isIpv6 info pckt flow).2.lru := by
      have spec := lookupDst_spec cfg maps env (lruMapOf cfg maps env.cpu) info (lruPckt info pckt)
        counted
      have stats := lookupDst_stats cfg maps env (lruMapOf cfg maps env.cpu) info
        (lruPckt info pckt) counted
      cases returned : lookupDst cfg maps env (lruMapOf cfg maps env.cpu) info (lruPckt info pckt)
          counted with
      | mk found later =>
          rw [returned] at spec stats
          rcases spec with ⟨entry, hits, some, lru⟩ | ⟨misses, none, missed⟩
          · dsimp only at some lru
            subst some
            simp only [lruDst, counting, returned, lru]
            exact .hit entry unrouted ⟨inside, fallback⟩ hits
          · dsimp only at none missed stats
            subst none
            simp only [lruDst, counting, returned]
            have calm : (isUnderFlood cfg env.cpu env.floodTime later).1 =
                (isUnderFlood cfg env.cpu env.floodTime counted).1 :=
              isUnderFlood_congr (by rw [stats])
            have rest := missDst_spec cfg maps env isIpv6 (lruMapOf cfg maps env.cpu) info
              (lruPckt info pckt) later
            simp only [calm] at rest
            rcases rest with ⟨dropped, lru, reason⟩ | ⟨key, recorded, picks, known, some, lru⟩
            · rw [dropped, lru]
              exact .unpicked later.lru unrouted misses missed reason
            · rw [some, lru]
              exact .picked later.lru key recorded unrouted ⟨inside, fallback⟩ misses missed picks
                known
    rcases counts with rfl | ⟨change, rfl⟩
    · exact decided
    · exact decided.of_counted (by simp only [fallbackLruCntr, newConnRateCntr]; omega)

/-- Routing by connection id only counts. -/
theorem quicDst_counts (cfg : BpfConfig) (maps : ConfigMaps) (cpu : Nat) (isIpv6 : Bool)
    (data : List UInt8) (pckt : PacketDescription) (flow : FlowMaps) :
    Counts cpu (cfg.maxVips + quicRouteStats) flow
      (quicDst cfg maps cpu isIpv6 data pckt flow).2 := by
  unfold quicDst
  dsimp only
  split
  · split
    · split
      · split
        · exact .inl rfl
        · exact .inr ⟨_, rfl⟩
      · exact .inr ⟨_, rfl⟩
    · exact .inr ⟨_, rfl⟩
  · exact .inl rfl

/-- Routing by connection id goes on to the connection table exactly if the packet is
not routed. -/
theorem quicDst_of_quicVip (cfg : BpfConfig) (maps : ConfigMaps) (cpu : Nat) (isIpv6 : Bool)
    (data : List UInt8) (pckt : PacketDescription) (flow : FlowMaps)
    (quicVip : info.quicVip = true) :
    (quicDst cfg maps cpu isIpv6 data pckt flow).1 = some none ↔
      quicRouted cfg isIpv6 data info pckt = false := by
  unfold quicDst quicRouted
  dsimp only
  rw [decide_eq_false_iff_not, not_and_not_right]
  simp only [quicVip, forall_const]
  split
  next inside =>
    split
    next index parsed =>
      simp only [inside, parsed, Option.mem_def, Option.some.injEq, forall_eq', true_and]
      split
      next small =>
        have outside : ¬ maxQuicReals ≤ index.succ := by omega
        split <;> simp only [reduceCtorEq, Option.some.injEq, outside, or_self]
      next big =>
        have beyond : index + 1 = 0 ∨ maxQuicReals ≤ index + 1 := by omega
        simp only [beyond]
    next other =>
      simp only [inside, true_and, true_iff]
      intro index parsed
      cases index with
      | zero => exact .inl rfl
      | succ index => exact (other index parsed).elim
  next outside => simp only [outside, reduceCtorEq, false_and]

/-- What `chooseDst` can do. -/
theorem chooseDst_decision (cfg : BpfConfig) (maps : ConfigMaps) (env : PacketEnv) (isIpv6 : Bool)
    (data : List UInt8) (info : VipMeta) (pckt : PacketDescription) (flow : FlowMaps) :
    let result := chooseDst cfg maps env isIpv6 data info pckt flow
    Decision cfg maps env isIpv6 (quicRouted cfg isIpv6 data info pckt) info (lruPckt info pckt)
      flow result.1 result.2.lru := by
  dsimp only
  unfold chooseDst countStats
  by_cases inside : cfg.maxVips + lruCntrs < cfg.statsMapSize
  · rw [if_pos inside]
    dsimp only
    have different : cfg.maxVips + lruCntrs ≠ cfg.maxVips + newConnRateCntr := by
      simp only [lruCntrs, newConnRateCntr]
      omega
    apply Decision.of_counted different
    by_cases quicVip : info.quicVip = true
    · rw [if_pos quicVip]
      have counts := quicDst_counts cfg maps env.cpu isIpv6 data pckt
        (flow.updateStats env.cpu (cfg.maxVips + lruCntrs) LbStats.addV1)
      have goesOn := quicDst_of_quicVip cfg maps env.cpu isIpv6 data pckt
        (flow.updateStats env.cpu (cfg.maxVips + lruCntrs) LbStats.addV1) quicVip
      split
      next later returned =>
        rw [returned] at counts goesOn
        dsimp only at counts goesOn ⊢
        rw [counts.lru]
        rw [iff_comm, Bool.eq_false_iff, not_iff_comm] at goesOn
        exact .quic (goesOn.mp nofun) none
      next chosen later returned =>
        rw [returned] at counts goesOn
        dsimp only at counts goesOn ⊢
        rw [counts.lru]
        rw [iff_comm, Bool.eq_false_iff, not_iff_comm] at goesOn
        exact .quic (goesOn.mp nofun) (some chosen)
      next later returned =>
        rw [returned] at counts goesOn
        have unrouted := goesOn.mp rfl
        rcases counts with rfl | ⟨change, rfl⟩
        · exact lruDst_decision maps env isIpv6 info pckt _ inside unrouted
        · apply Decision.of_counted _ (lruDst_decision maps env isIpv6 info pckt _ inside unrouted)
          simp only [quicRouteStats, newConnRateCntr]
          omega
    · rw [if_neg quicVip]
      apply lruDst_decision maps env isIpv6 info pckt _ inside
      simp only [quicRouted, quicVip, Bool.false_eq_true, false_and, decide_false]
  · rw [if_neg inside]
    exact .uncounted fun present => inside present.1

/-! ## VIPs -/

/-- The VIP of a flow. -/
def vipOf (maps : ConfigMaps) (isIpv6 : Bool) (flow : FlowKey) : Option (VipDefinition × VipMeta) :=
  (lookupVip maps isIpv6 { flow := flow }).map fun found => (found.1, found.2.1)

/-- The VIP of a packet depends on its destination and protocol only. -/
theorem vipOf_congr {first second : FlowKey} (dst : first.dstv6 = second.dstv6)
    (port : first.dstPort = second.dstPort) (proto : first.proto = second.proto) :
    vipOf maps isIpv6 first = vipOf maps isIpv6 second := by
  unfold vipOf lookupVip dstAddress
  dsimp only
  rw [dst, port, proto]
  split
  · rfl
  · split <;> rfl

/-- The description after the lookup belongs to the same VIP. -/
theorem lookupVip_spec {vip : VipDefinition} {described : PacketDescription}
    (found : lookupVip maps isIpv6 pckt = some (vip, info, described)) :
    vipOf maps isIpv6 described.flow = some (vip, info) ∧ maps.vipMap vip = some info ∧
      described = { pckt with
        flow := { pckt.flow with
          dstPort := if vip.port = 0 ∧ info.hashDportOnly = false then 0
            else pckt.flow.dstPort } } := by
  unfold lookupVip at found
  dsimp only at found
  split at found
  next exact =>
    obtain ⟨rfl, rfl, rfl⟩ := Option.some.inj found
    refine ⟨?_, exact, ?_⟩
    · simp only [vipOf, lookupVip, exact, Option.map_some]
    · split
      next zero =>
        have port : pckt.flow.dstPort = 0 := zero.1
        rw [← port]
      next => rfl
  next absent =>
    split at found
    next => cases found
    next wild =>
      obtain ⟨rfl, rfl, rfl⟩ := Option.some.inj found
      cases only : info.hashDportOnly with
      | true =>
          refine ⟨?_, wild, ?_⟩
          · simp only [↓reduceIte, vipOf, lookupVip, absent, wild, Option.map_some]
          · simp only [↓reduceIte, Bool.true_eq_false, and_false]
      | false =>
          refine ⟨?_, wild, ?_⟩
          · simp only [Bool.false_eq_true, ↓reduceIte, vipOf, lookupVip, dstAddress] at wild ⊢
            rw [wild]
            rfl
          · simp only [Bool.false_eq_true, ↓reduceIte, and_self]

/-- The VIP of a packet depends on its flow and the VIPs that there are. -/
theorem lookupVip_congr {other : ConfigMaps} {otherPckt described : PacketDescription}
    {vip : VipDefinition} (vips : other.vipMap = maps.vipMap) (same : otherPckt.flow = pckt.flow)
    (found : lookupVip maps isIpv6 pckt = some (vip, info, described)) :
    lookupVip other isIpv6 otherPckt =
      some (vip, info, { otherPckt with flow := described.flow }) := by
  unfold lookupVip at found ⊢
  rw [vips, same]
  dsimp only at found ⊢
  split at found
  next exact =>
    obtain ⟨rfl, rfl, rfl⟩ := Option.some.inj found
    rw [← same]
  next absent =>
    split at found
    next => cases found
    next wild =>
      obtain ⟨rfl, rfl, rfl⟩ := Option.some.inj found
      split
      · rw [← same]
      · rfl

end Katran
