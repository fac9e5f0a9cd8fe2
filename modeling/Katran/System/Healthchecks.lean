import Katran.Bpf.Memory
import Katran.Lb.KatranLb

/-! # Health checks

The library keeps a destination for every socket mark, and the program `healthchecker`
sends a marked packet through a tunnel to the destination of its mark. The two meet in
`hc_reals_map`, which is written before the library's own table and only then, so that
a failed call leaves both alone and they never disagree (`KatranHc.Agrees`).
-/

namespace Katran

open Foundation UnorderedMap

/-- `struct hc_real_definition`, which the library knows as `struct beaddr`. -/
structure HcRealDefinition where
  v6daddr : Be32x4
  flags : UInt8
deriving DecidableEq, Repr

/-- `V6DADDR`: the destination is an IPv6 address. -/
def v6Daddr : UInt8 := 1

/-! ## The program -/

/-- `struct hc_stats` -/
structure HcStats where
  pcktsProcessed : UInt64 := 0
  pcktsDropped : UInt64 := 0
  pcktsSkipped : UInt64 := 0
  pcktsTooBig : UInt64 := 0
deriving DecidableEq, Repr

/-- `struct bpf_tunnel_key`, of which the program writes the remote address and the time
to live. -/
structure TunnelKey where
  remoteIpv6 : Be32x4 := .zero
  tunnelTtl : UInt8 := 0
deriving DecidableEq, Repr

/-- The parts of a packet that the program reads or writes, and the tunnel key with its
flags that was last set. -/
structure SkBuff where
  mark : UInt32
  len : UInt32
  tunnelKey : Option (TunnelKey × UInt64) := none
deriving DecidableEq, Repr

/-- The program's verdict. -/
inductive TcAct where
  | unspec
  | shot
  | redirect (ifindex : UInt32)
deriving DecidableEq, Repr

/-- `STATS_SIZE` -/
def hcStatsSize : Nat := 1
/-- `CTRL_MAP_SIZE` -/
def ctrlMapSize : Nat := 4
/-- `GENERIC_STATS_INDEX` -/
def genericStatsIndex : Nat := 0
/-- The position of the tunnel device for IPv4 in `hc_ctrl_map`. -/
def v4IntfPos : Nat := 1
/-- The position of the tunnel device for IPv6 in `hc_ctrl_map`. -/
def v6IntfPos : Nat := 2
/-- `DEFAULT_TTL` -/
def hcDefaultTtl : UInt8 := 64
/-- `BPF_F_TUNINFO_IPV6` -/
def bpfFTuninfoIpv6 : UInt64 := 1

/-- The maps that the program reads, and the limit it is compiled with. -/
structure HcMaps where
  hcRealsMap : UInt32 → Option HcRealDefinition
  hcCtrlMap : Nat → UInt32
  maxPacketSize : UInt32 := 1474

/-- An entry of `hc_ctrl_map`. -/
def HcMaps.ctrlLookup (maps : HcMaps) (key : Nat) : Option UInt32 :=
  if key < ctrlMapSize then some (maps.hcCtrlMap key) else none

/-- The program `healthchecker`, and its counters. -/
def healthchecker (maps : HcMaps) (skb : SkBuff) (stats : HcStats) : TcAct × SkBuff × HcStats :=
  if ¬ genericStatsIndex < hcStatsSize then (.unspec, skb, stats)
  else if skb.mark = 0 then
    (.unspec, skb, { stats with pcktsSkipped := stats.pcktsSkipped + 1 })
  else
    match maps.hcRealsMap skb.mark with
    | none => (.unspec, skb, { stats with pcktsSkipped := stats.pcktsSkipped + 1 })
    | some real =>
        if skb.len > maps.maxPacketSize then
          (.shot, skb, { stats with
            pcktsDropped := stats.pcktsDropped + 1
            pcktsTooBig := stats.pcktsTooBig + 1 })
        else
          match maps.ctrlLookup v4IntfPos, maps.ctrlLookup v6IntfPos with
          | some v4IntfIfindex, some v6IntfIfindex =>
              let stats := { stats with pcktsProcessed := stats.pcktsProcessed + 1 }
              -- the mark is cleared so that the packet is not sent into the tunnel again
              if real.flags = v6Daddr then
                let tkey : TunnelKey := { remoteIpv6 := real.v6daddr, tunnelTtl := hcDefaultTtl }
                (.redirect v6IntfIfindex,
                  { skb with mark := 0, tunnelKey := some (tkey, bpfFTuninfoIpv6) }, stats)
              else
                let tkey : TunnelKey :=
                  { remoteIpv6 := .ofV4 real.v6daddr.w0, tunnelTtl := hcDefaultTtl }
                (.redirect v4IntfIfindex,
                  { skb with mark := 0, tunnelKey := some (tkey, 0) }, stats)
          | _, _ => (.shot, skb, { stats with pcktsDropped := stats.pcktsDropped + 1 })

/-! ## The library -/

/-- `IpHelpers::parseAddrToBe` with its second argument; without it the words are in host
order. -/
def parseAddrToBeaddr (addr : IPAddress) (bigendian : Bool) : HcRealDefinition :=
  match addr with
  | .v4 addr => ⟨.ofV4 (if bigendian then addr else Bytes.bswap32 addr), 0⟩
  | .v6 addr =>
      if bigendian then ⟨addr, v6Daddr⟩
      else ⟨⟨Bytes.bswap32 addr.w0, Bytes.bswap32 addr.w1, Bytes.bswap32 addr.w2,
        Bytes.bswap32 addr.w3⟩, v6Daddr⟩

/-- An address with the bytes of its words in host order. -/
def parseAddrToInt (addr : IPAddress) : HcRealDefinition := parseAddrToBeaddr addr false

/-- The library with what it keeps for health checks: two settings, its own table, and the
table of the program. -/
structure KatranHc where
  lb : KatranLb
  enableHc : Bool
  directHealthchecking : Bool
  hcReals : UnorderedMap UInt32 IPAddress
  hcRealsMap : UInt32 → Option HcRealDefinition

namespace KatranHc

/-- A library without destinations for health checks. -/
def new (lb : KatranLb) (enableHc directHealthchecking : Bool) : KatranHc where
  lb := lb
  enableHc := enableHc
  directHealthchecking := directHealthchecking
  hcReals := ∅
  hcRealsMap := fun _ => none

/-- A bpf call on `hc_reals_map`. -/
def bpfCall (env : Env) (hc : KatranHc) (mark : UInt32) (entry : Option HcRealDefinition) :
    Bool × KatranHc :=
  let (done, lb) := hc.lb.bpfCall env id
  (done, { hc with
    lb := lb
    hcRealsMap := if done then Function.update hc.hcRealsMap mark entry else hc.hcRealsMap })

/-- The form in which a destination is written; tunnels want IPv4 addresses in host order. -/
def hcAddr (hc : KatranHc) (addr : IPAddress) : HcRealDefinition :=
  if addr.isV4 ∧ ¬ hc.directHealthchecking then parseAddrToInt addr else parseAddrToBeaddr addr true

/-- Sets the destination for a mark. -/
def addHealthcheckerDst (folly : Folly) (env : Env) (hc : KatranHc) (somark : UInt32)
    (dst : String) : Bool × KatranHc :=
  if ¬ hc.enableHc then (false, hc)
  else
    match hc.lb.validateAddress folly dst false with
    | (.invalid, lb) => (false, { hc with lb := lb })
    | (_, lb) =>
        let hc := { hc with lb := lb }
        match folly.parse dst with
        -- an address that is valid can be parsed
        | none => (false, hc)
        | some hcaddr =>
            if hc.hcReals.lookup somark = none ∧
                hc.hcReals.entries.length = hc.lb.config.maxReals.toNat then (false, hc)
            else if hc.lb.config.testing then
              (true, { hc with hcReals := hc.hcReals.insert somark hcaddr })
            else
              match hc.bpfCall env somark (some (hc.hcAddr hcaddr)) with
              | (false, hc) => (false, hc)
              | (true, hc) => (true, { hc with hcReals := hc.hcReals.insert somark hcaddr })

/-- Removes the destination for a mark. -/
def delHealthcheckerDst (env : Env) (hc : KatranHc) (somark : UInt32) : Bool × KatranHc :=
  if ¬ hc.enableHc then (false, hc)
  else
    match hc.hcReals.lookup somark with
    | none => (false, hc)
    | some _ =>
        if hc.lb.config.testing then (true, { hc with hcReals := hc.hcReals.erase somark })
        else
          match hc.bpfCall env somark none with
          | (false, hc) => (false, hc)
          | (true, hc) => (true, { hc with hcReals := hc.hcReals.erase somark })

/-! ## What a call does -/

/-- A call that changes no table. -/
structure Keeps (hc after : KatranHc) : Prop where
  config : after.lb.config = hc.lb.config
  enableHc : after.enableHc = hc.enableHc
  directHealthchecking : after.directHealthchecking = hc.directHealthchecking
  hcReals : after.hcReals = hc.hcReals
  hcRealsMap : after.hcRealsMap = hc.hcRealsMap

private theorem Keeps.refl (hc : KatranHc) : Keeps hc hc := ⟨rfl, rfl, rfl, rfl, rfl⟩

private theorem bpfCall_lb_config (env : Env) (lb : KatranLb) (change : ConfigMaps → ConfigMaps) :
    (lb.bpfCall env change).2.config = lb.config := by
  unfold KatranLb.bpfCall
  split <;> rfl

private theorem validateAddress_config (folly : Folly) (lb : KatranLb) (addr : String)
    (net : Bool) :
    (lb.validateAddress folly addr net).2.config = lb.config := by
  unfold KatranLb.validateAddress
  split
  · rfl
  · split <;> rfl

variable {folly : Folly} {env : Env} {hc : KatranHc} {mark : UInt32} {dst : String}

/-- A call that succeeds, up to the library's counters. -/
structure Sets (hc after : KatranHc) (mark : UInt32) (addr : Option IPAddress) : Prop where
  config : after.lb.config = hc.lb.config
  directHealthchecking : after.directHealthchecking = hc.directHealthchecking
  hcReals : after.hcReals = match addr with
    | some addr => hc.hcReals.insert mark addr
    | none => hc.hcReals.erase mark
  hcRealsMap : after.hcRealsMap = Function.update hc.hcRealsMap mark (addr.map hc.hcAddr)

/-- An address is added unless the call fails, and only while there is room for a new
mark. -/
theorem addHealthcheckerDst_cases (serving : hc.lb.config.testing = false) (folly : Folly)
    (env : Env) (mark : UInt32) (dst : String) :
    let result := hc.addHealthcheckerDst folly env mark dst
    (result.1 = false ∧ Keeps hc result.2) ∨
    (result.1 = true ∧ ∃ addr, folly.parse dst = some addr ∧
      (hc.hcReals.lookup mark = none →
        hc.hcReals.entries.length ≠ hc.lb.config.maxReals.toNat) ∧
      Sets hc result.2 mark (some addr)) := by
  have valid := validateAddress_config folly hc.lb dst false
  unfold addHealthcheckerDst
  dsimp only
  split
  · exact .inl ⟨rfl, .refl hc⟩
  · split
    next lb validated =>
      rw [validated] at valid
      exact .inl ⟨rfl, valid, rfl, rfl, rfl, rfl⟩
    next type lb _ validated =>
      rw [validated] at valid
      dsimp only at valid
      split
      next => exact .inl ⟨rfl, valid, rfl, rfl, rfl, rfl⟩
      next addr parsed =>
        split
        next => exact .inl ⟨rfl, valid, rfl, rfl, rfl, rfl⟩
        next room =>
          rw [valid, serving, if_neg nofun]
          rw [valid, not_and] at room
          unfold bpfCall
          cases called : lb.bpfCall env id with
          | mk done later =>
              have config : later.config = hc.lb.config := by
                rw [← valid, ← bpfCall_lb_config env lb id, called]
              cases done with
              | false => exact .inl ⟨rfl, config, rfl, rfl, rfl, rfl⟩
              | true => exact .inr ⟨rfl, addr, parsed, room, config, rfl, rfl, rfl⟩

/-- A destination is removed, or nothing is. -/
theorem delHealthcheckerDst_cases (serving : hc.lb.config.testing = false) (env : Env)
    (mark : UInt32) :
    let result := hc.delHealthcheckerDst env mark
    (result.1 = false ∧ Keeps hc result.2) ∨ (result.1 = true ∧ Sets hc result.2 mark none) := by
  unfold delHealthcheckerDst
  dsimp only
  split
  · exact .inl ⟨rfl, .refl hc⟩
  · split
    · exact .inl ⟨rfl, .refl hc⟩
    · rw [serving, if_neg nofun]
      unfold bpfCall
      cases called : hc.lb.bpfCall env id with
      | mk done lb =>
          have config : lb.config = hc.lb.config := by
            rw [← bpfCall_lb_config env hc.lb id, called]
          cases done with
          | false => exact .inl ⟨rfl, config, rfl, rfl, rfl, rfl⟩
          | true => exact .inr ⟨rfl, config, rfl, rfl, rfl⟩

/-! ## The tables agree -/

/-- A library that sends health checks through tunnels: its table is not too big, and the
program has the same destinations. -/
structure Agrees (hc : KatranHc) : Prop where
  serving : hc.lb.config.testing = false
  tunnels : hc.directHealthchecking = false
  size : hc.hcReals.entries.length ≤ hc.lb.config.maxReals.toNat
  mirrored : ∀ mark, hc.hcRealsMap mark = (hc.hcReals.lookup mark).map hc.hcAddr

private theorem new_agrees (lb : KatranLb) (enableHc : Bool) (serving : lb.config.testing = false) :
    (new lb enableHc false).Agrees where
  serving := serving
  tunnels := rfl
  size := Nat.zero_le _
  mirrored := fun _ => rfl

variable {after : KatranHc}

private theorem Agrees.of_keeps (agrees : hc.Agrees) (keeps : Keeps hc after) : after.Agrees where
  serving := by rw [keeps.config, agrees.serving]
  tunnels := by rw [keeps.directHealthchecking, agrees.tunnels]
  size := by rw [keeps.hcReals, keeps.config]; exact agrees.size
  mirrored := by
    intro other
    have same : after.hcAddr = hc.hcAddr := by
      funext addr
      rw [hcAddr, keeps.directHealthchecking, hcAddr]
    rw [keeps.hcRealsMap, keeps.hcReals, same, agrees.mirrored other]

private theorem Agrees.of_sets {addr : Option IPAddress} (agrees : hc.Agrees)
    (sets : Sets hc after mark addr) (room : addr.isSome → hc.hcReals.lookup mark = none →
      hc.hcReals.entries.length ≠ hc.lb.config.maxReals.toNat) : after.Agrees := by
  have same : after.hcAddr = hc.hcAddr := by
    funext other
    rw [hcAddr, sets.directHealthchecking, hcAddr]
  refine ⟨by rw [sets.config, agrees.serving], by rw [sets.directHealthchecking, agrees.tunnels],
    ?_, ?_⟩
  · have size := agrees.size
    rw [sets.hcReals, sets.config]
    cases known : hc.hcReals.lookup mark with
    | none =>
        have absent := erase_of_lookup_none known
        cases addr with
        | none =>
            dsimp only
            rw [absent]
            exact size
        | some addr =>
            have free := room rfl known
            dsimp only
            rw [entries_insert_eq, absent, List.length_cons]
            omega
    | some old =>
        have split := (entries_perm_cons_erase known).length_eq
        rw [List.length_cons] at split
        cases addr with
        | none =>
            dsimp only
            omega
        | some addr =>
            dsimp only
            rw [entries_insert_eq, List.length_cons]
            omega
  · intro other
    rw [sets.hcReals, sets.hcRealsMap, same, Function.update_apply]
    cases addr with
    | none =>
        rw [lookup_erase_eq_ite]
        split
        · rfl
        · exact agrees.mirrored other
    | some addr =>
        rw [lookup_insert_eq_ite]
        split
        · rfl
        · exact agrees.mirrored other

/-- A call of the library. -/
inductive HcOp where
  | addHealthcheckerDst (somark : UInt32) (dst : String)
  | delHealthcheckerDst (somark : UInt32)

/-- A call of the library. -/
def perform (folly : Folly) (env : Env) (hc : KatranHc) : HcOp → Bool × KatranHc
  | .addHealthcheckerDst somark dst => hc.addHealthcheckerDst folly env somark dst
  | .delHealthcheckerDst somark => hc.delHealthcheckerDst env somark

/-- A call whose bpf calls may fail. -/
def Step (folly : Folly) (hc : KatranHc) (op : HcOp) (after : KatranHc) : Prop :=
  ∃ env, (hc.perform folly env op).2 = after

/-- A call keeps the tables in agreement, and both of them if it fails. -/
theorem Agrees.perform (agrees : hc.Agrees) (folly : Folly) (env : Env) (op : HcOp) :
    let result := hc.perform folly env op
    result.2.Agrees ∧ result.2.lb.config = hc.lb.config ∧
      (result.1 = false → result.2.hcReals = hc.hcReals ∧ result.2.hcRealsMap = hc.hcRealsMap) := by
  cases op with
  | addHealthcheckerDst mark dst =>
      rcases addHealthcheckerDst_cases agrees.serving folly env mark dst with
        ⟨_, keeps⟩ | ⟨done, addr, _, room, sets⟩
      · exact ⟨agrees.of_keeps keeps, keeps.config, fun _ => ⟨keeps.hcReals, keeps.hcRealsMap⟩⟩
      · refine ⟨agrees.of_sets sets fun _ => room, sets.config, ?_⟩
        intro failed
        cases failed.symm.trans done
  | delHealthcheckerDst mark =>
      rcases delHealthcheckerDst_cases agrees.serving env mark with ⟨_, keeps⟩ | ⟨done, sets⟩
      · exact ⟨agrees.of_keeps keeps, keeps.config, fun _ => ⟨keeps.hcReals, keeps.hcRealsMap⟩⟩
      · refine ⟨agrees.of_sets sets nofun, sets.config, ?_⟩
        intro failed
        cases failed.symm.trans done

/-! ## Where health checks go -/

/-- The remote address and the flags of a tunnel to a destination: an IPv4 address as a
number in host order, an IPv6 address as its bytes. -/
def tunnelTo : IPAddress → Be32x4 × UInt64
  | .v4 addr => (.ofV4 (Bytes.bswap32 addr), 0)
  | .v6 addr => (addr, bpfFTuninfoIpv6)

/-- What the program does with a packet with a mark, given the library's table. -/
structure Checks (hc : KatranHc) (skb : SkBuff) (result : TcAct × SkBuff × HcStats) : Prop where
  unknown : hc.hcReals.lookup skb.mark = none → result.1 = .unspec
  known : ∀ addr ifindex, hc.hcReals.lookup skb.mark = some addr → result.1 = .redirect ifindex →
    result.2.1.tunnelKey.map (fun key => (key.1.remoteIpv6, key.2)) = some (tunnelTo addr) ∧
      result.2.1.mark = 0

private theorem Agrees.checks (agrees : hc.Agrees) {skb : SkBuff} (marked : skb.mark ≠ 0)
    {maps : HcMaps} (same : maps.hcRealsMap = hc.hcRealsMap) (stats : HcStats) :
    Checks hc skb (healthchecker maps skb stats) := by
  have entry := agrees.mirrored skb.mark
  have present : ¬ ¬ genericStatsIndex < hcStatsSize := by decide
  constructor
  · intro unknown
    rw [unknown, Option.map_none] at entry
    simp only [healthchecker, present, marked, same, entry, ↓reduceIte]
  · intro addr ifindex known redirects
    rw [known, Option.map_some] at entry
    have v4Intf : maps.ctrlLookup v4IntfPos = some (maps.hcCtrlMap v4IntfPos) := rfl
    have v6Intf : maps.ctrlLookup v6IntfPos = some (maps.hcCtrlMap v6IntfPos) := rfl
    simp only [healthchecker, present, marked, same, entry, v4Intf, v6Intf, ↓reduceIte]
      at redirects ⊢
    split at redirects
    next => cases redirects
    next small =>
      rw [if_neg small]
      cases addr with
      | v4 addr =>
          have flags : ¬ (hc.hcAddr (.v4 addr)).flags = v6Daddr := by
            simp only [hcAddr, agrees.tunnels, IPAddress.isV4, Bool.false_eq_true,
              not_false_eq_true, and_self, ↓reduceIte, parseAddrToInt, parseAddrToBeaddr]
            decide
          rw [if_neg flags]
          refine ⟨?_, rfl⟩
          simp only [hcAddr, agrees.tunnels, IPAddress.isV4, Bool.false_eq_true,
            not_false_eq_true, and_self, ↓reduceIte, parseAddrToInt, parseAddrToBeaddr, tunnelTo,
            Be32x4.ofV4, Option.map_some]
      | v6 addr =>
          have words : hc.hcAddr (.v6 addr) = ⟨addr, v6Daddr⟩ := by
            simp only [hcAddr, IPAddress.isV4, Bool.false_eq_true, false_and, ↓reduceIte,
              parseAddrToBeaddr]
          rw [words, if_pos rfl]
          exact ⟨rfl, rfl⟩

/-- **Health checks follow the library.** After every run of calls, of whose bpf calls any may
have failed: the library keeps no more destinations than it is configured for, the program has a
destination for the same marks, a call that fails leaves both as they were, and a packet with a
mark goes through the tunnel to the destination that the library has for it. -/
theorem healthchecks_follow_library {lb : KatranLb} {enableHc : Bool} {hc : KatranHc}
    {ops : List HcOp} (serving : lb.config.testing = false)
    (run : Run (Step folly) (new lb enableHc false) ops hc) :
    hc.hcReals.entries.length ≤ lb.config.maxReals.toNat ∧
      (∀ mark, (hc.hcRealsMap mark).isSome ↔ mark ∈ hc.hcReals) ∧
      (∀ env op, (hc.perform folly env op).1 = false →
        (hc.perform folly env op).2.hcReals = hc.hcReals ∧
          (hc.perform folly env op).2.hcRealsMap = hc.hcRealsMap) ∧
      ∀ skb maps stats, skb.mark ≠ 0 → maps.hcRealsMap = hc.hcRealsMap →
        Checks hc skb (healthchecker maps skb stats) := by
  obtain ⟨agrees, config⟩ := run.invariant
    (fun state => state.Agrees ∧ state.lb.config = lb.config)
    (by
      rintro before op after ⟨agrees, config⟩ ⟨env, rfl⟩
      obtain ⟨later, same, _⟩ := agrees.perform folly env op
      exact ⟨later, same.trans config⟩)
    ⟨new_agrees lb enableHc serving, rfl⟩
  refine ⟨?_, ?_, ?_, ?_⟩
  · rw [← config]
    exact agrees.size
  · intro mark
    rw [agrees.mirrored mark, Option.isSome_map]
    exact AList.lookup_isSome
  · intro env op
    exact (agrees.perform folly env op).2.2
  · intro skb maps stats marked same
    exact agrees.checks marked same stats

/-- A library with a health check of 10.0.0.1 under the mark 7. -/
def checking : KatranHc :=
  ((new (.new { maxReals := 2 } {} (.fresh [2, 0, 0, 0, 0, 1] fun _ => true)) true false).perform
    .small (.plain 0) (.addHealthcheckerDst 7 "10.0.0.1")).2

/-- The number 0x0a000001 is 10.0.0.1 in host order. -/
theorem healthchecks_follow_library_checking :
    (healthchecker { hcRealsMap := checking.hcRealsMap, hcCtrlMap := fun _ => 3 } ⟨7, 100, none⟩
      {}).2.1.tunnelKey.map (fun key => (key.1.remoteIpv6, key.2)) =
        some (.ofV4 0x0a000001, 0) := by
  have run : Run (Step .small)
      (new (.new { maxReals := 2 } {} (.fresh [2, 0, 0, 0, 0, 1] fun _ => true)) true false)
      [.addHealthcheckerDst 7 "10.0.0.1"] checking :=
    .cons ⟨.plain 0, rfl⟩ (.nil checking)
  have checks := (healthchecks_follow_library rfl run).2.2.2 ⟨7, 100, none⟩
    { hcRealsMap := checking.hcRealsMap, hcCtrlMap := fun _ => 3 } {} (by decide) rfl
  have known : checking.hcReals.lookup 7 = some (.v4 0x0100000a) := by decide +kernel
  exact (checks.known _ 3 known (by decide +kernel)).1

end KatranHc

end Katran
