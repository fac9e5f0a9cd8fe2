import Katran.Foundation.Run
import Katran.Lb.Structs

/-! # The load balancer library

`KatranLb` keeps the VIPs, the reals with their reference counts, the QUIC ids
and the source routing rules, and mirrors them into the maps of the forwarding
plane unless it is run for testing. VIP and real numbers come from two queues.

A call also depends on things the library does not control (`Env`): the
iteration order of hash maps, whether each bpf call succeeds, and the fuel of
the ring generator. A call that does not return, because it throws, diverges or
dereferences the end of a map, gives `none`.
-/

namespace Katran

open Foundation

/-- What a call cannot control. -/
structure Env where
  /-- The order in which a hash map is listed. -/
  listing : IterOrder
  /-- The order in which the endpoints of a ring are listed before sorting. -/
  sorting : IterOrder
  fuel : Nat
  /-- Whether the bpf call with this number succeeds. -/
  succeeds : Nat → Bool

/-- Maps are listed as they are stored, and every bpf call succeeds. -/
def Env.plain (fuel : Nat) : Env where
  listing := .stored
  sorting := .stored
  fuel := fuel
  succeeds := fun _ => true

/-- `KatranLb`, with the maps of the program that it writes. -/
structure KatranLb where
  config : KatranConfig
  features : KatranFeatures
  vipNums : List Nat
  realNums : List Nat
  reals : UnorderedMap IPAddress RealMeta
  quicMapping : UnorderedMap IPAddress UInt32
  numToReals : UnorderedMap Nat (Option IPAddress)
  vips : UnorderedMap VipKey Vip
  lpmSrcMapping : UnorderedMap CIDRNetwork SrcRule
  lbStats : KatranLbStats
  /-- The maps in the kernel and the number of bpf calls made so far. -/
  kernel : ConfigMaps
  bpfCalls : Nat

namespace KatranLb

/-- A balancer for which the forwarding program has just been loaded. -/
def new (config : KatranConfig) (features : KatranFeatures) (kernel : ConfigMaps) : KatranLb where
  config := config
  features := features
  vipNums := List.range config.maxVips.toNat
  realNums := List.range config.maxReals.toNat
  reals := ∅
  quicMapping := ∅
  numToReals := ∅
  vips := ∅
  lpmSrcMapping := ∅
  lbStats := {}
  kernel := kernel
  bpfCalls := 0

/-- A bpf call: it changes the kernel's maps, or fails and is counted. -/
def bpfCall (env : Env) (lb : KatranLb) (change : ConfigMaps → ConfigMaps) : Bool × KatranLb :=
  if env.succeeds lb.bpfCalls then
    (true, { lb with kernel := change lb.kernel, bpfCalls := lb.bpfCalls + 1 })
  else
    (false, { lb with
      bpfCalls := lb.bpfCalls + 1
      lbStats := { lb.lbStats with bpfFailedCalls := lb.lbStats.bpfFailedCalls + 1 } })

/-- `validateAddress`: networks are addresses only where they are allowed. -/
def validateAddress (folly : Folly) (lb : KatranLb) (addr : String) (allowNetAddr : Bool) :
    AddressType × KatranLb :=
  match folly.parse addr with
  | some _ => (.host, lb)
  | none =>
      if allowNetAddr ∧ (lb.features.srcRouting ∨ lb.config.testing) ∧
          (folly.tryCreateNetwork addr).isSome then
        (.network, lb)
      else
        (.invalid, { lb with
          lbStats := { lb.lbStats with
            addrValidationFailed := lb.lbStats.addrValidationFailed + 1 } })

/-- Write or remove the entry of a VIP. Parsing the address may throw. -/
def updateVipMap (folly : Folly) (env : Env) (lb : KatranLb) (action : ModifyAction) (vip : VipKey)
    (vipMeta : VipMeta) : Option (Bool × KatranLb) :=
  (folly.parse vip.address).map fun addr =>
    match action with
    | .add => lb.bpfCall env fun maps => { maps with
        vipMap := Function.update maps.vipMap (vipDefinition addr vip) (some vipMeta) }
    | .del => lb.bpfCall env fun maps => { maps with
        vipMap := Function.update maps.vipMap (vipDefinition addr vip) none }

/-- Writes the address of a real under its number. -/
def updateRealsMap (env : Env) (lb : KatranLb) (real : IPAddress) (num : Nat) : Bool × KatranLb :=
  lb.bpfCall env fun maps => { maps with
    reals := Function.update maps.reals num (parseAddrToBe real) }

/-- Release one reference; the empty address is never a key of `reals_`. -/
def decreaseRefCountForReal (lb : KatranLb) (real : Option IPAddress) : KatranLb :=
  match real with
  | none => lb
  | some real =>
      match lb.reals.lookup real.key with
      | none => lb
      | some rmeta =>
          let refCount := (rmeta.refCount + (2 ^ 32 - 1)) % 2 ^ 32
          if refCount = 0 then
            { lb with
              realNums := lb.realNums ++ [rmeta.num]
              reals := lb.reals.erase real.key
              numToReals := lb.numToReals.erase rmeta.num }
          else
            { lb with reals := lb.reals.insert real.key ⟨rmeta.num, refCount⟩ }

/-- Take one reference; `maxReals` says that no number is left. -/
def increaseRefCountForReal (env : Env) (lb : KatranLb) (real : IPAddress) : Nat × KatranLb :=
  match lb.reals.lookup real.key with
  | some rmeta =>
      (rmeta.num, { lb with
        reals := lb.reals.insert real.key ⟨rmeta.num, (rmeta.refCount + 1) % 2 ^ 32⟩ })
  | none =>
      match lb.realNums with
      | [] => (lb.config.maxReals.toNat, lb)
      | rnum :: realNums =>
          let lb := { lb with
            realNums := realNums
            numToReals := lb.numToReals.insert rnum (some real)
            reals := lb.reals.insert real.key ⟨rnum, 1⟩ }
          (rnum, if lb.config.testing then lb else (lb.updateRealsMap env real rnum).2)

/-- The owner of a number; `operator[]` adds an empty address for an unknown one. -/
def realOfNum (lb : KatranLb) (num : Nat) : Option IPAddress × KatranLb :=
  match lb.numToReals.lookup num with
  | some real => (real, lb)
  | none => (none, { lb with numToReals := lb.numToReals.insert num none })

/-- Configures a VIP under a free number. -/
def addVip (folly : Folly) (env : Env) (lb : KatranLb) (vip : VipKey) (flags : UInt32) :
    Option (Bool × KatranLb) :=
  if lb.config.disableForwarding then some (false, lb)
  else
    let (addrType, lb) := lb.validateAddress folly vip.address false
    if addrType = .invalid then some (false, lb)
    else
      match lb.vipNums with
      | [] => some (false, lb)
      | vipNum :: vipNums =>
          if vip ∈ lb.vips then some (false, lb)
          else
            let lb := { lb with
              vipNums := vipNums
              vips := lb.vips.insert vip (Vip.new vipNum flags lb.config.chRingSize.toNat) }
            if lb.config.testing then some (true, lb)
            else
              (lb.updateVipMap folly env .add vip { flags := flags, vipNum := vipNum }).map
                fun updated => (true, updated.2)

/-- The loop of `delVip` that gives back the reals of the VIP. -/
def releaseNum (lb : KatranLb) (num : Nat) : KatranLb :=
  let (real, lb) := lb.realOfNum num
  lb.decreaseRefCountForReal real

/-- Removes a VIP, and releases its reals and its number. -/
def delVip (folly : Folly) (env : Env) (lb : KatranLb) (vip : VipKey) : Option (Bool × KatranLb) :=
  if lb.config.disableForwarding then some (false, lb)
  else
    match lb.vips.lookup vip with
    | none => some (false, lb)
    | some current =>
        let lb := (current.getReals env.listing).foldl releaseNum lb
        let lb := { lb with vipNums := lb.vipNums ++ [current.vipNum] }
        if lb.config.testing then some (true, { lb with vips := lb.vips.erase vip })
        else
          (lb.updateVipMap folly env .del vip { flags := 0, vipNum := 0 }).map
            fun updated => (true, { updated.2 with vips := updated.2.vips.erase vip })

/-- Changes the flags of a VIP. -/
def modifyVip (folly : Folly) (env : Env) (lb : KatranLb) (vip : VipKey) (flag : UInt32)
    (set : Bool) : Option (Bool × KatranLb) :=
  match lb.vips.lookup vip with
  | none => some (false, lb)
  | some current =>
      let current := if set then current.setVipFlags flag else current.unsetVipFlags flag
      let lb := { lb with vips := lb.vips.insert vip current }
      if lb.config.testing then some (true, lb)
      else lb.updateVipMap folly env .add vip
        { flags := current.vipFlags, vipNum := current.vipNum }

/-! ## Reals of a VIP -/

/-- The locals of the loop of `modifyRealsForVip`. The owners record for which
address each update was made; the code does not keep them. -/
structure RealsBatch where
  lb : KatranLb
  curReals : List Nat
  ureals : List UpdateReal
  owners : List (Nat × IPAddress)

/-- Append an update that adds a real. -/
def RealsBatch.push (folly : Folly) (batch : RealsBatch) (raddr : IPAddress) (num : Nat)
    (weight : UInt32) : RealsBatch :=
  { batch with
    ureals := batch.ureals ++ [{
      action := .add
      updatedReal := { num := num, weight := weight.toNat, hash := folly.hash raddr } }]
    owners := batch.owners ++ [(num, raddr)] }

/-- The body of the loop for a removal. -/
def delReal (batch : RealsBatch) (raddr : IPAddress) : RealsBatch :=
  match batch.lb.reals.lookup raddr.key with
  | none => batch
  | some rmeta =>
      if rmeta.num ∈ batch.curReals then
        { batch with
          lb := batch.lb.decreaseRefCountForReal (some raddr)
          ureals := batch.ureals ++ [{
            action := .del, updatedReal := { num := rmeta.num, weight := 0, hash := 0 } }] }
      else batch

/-- The body of the loop for an addition. A real that is new to the balancer is
not appended to `cur_reals`. -/
def addReal (folly : Folly) (env : Env) (batch : RealsBatch) (raddr : IPAddress)
    (weight : UInt32) : RealsBatch :=
  match batch.lb.reals.lookup raddr.key with
  | some rmeta =>
      if rmeta.num ∈ batch.curReals then batch.push folly raddr rmeta.num weight
      else
        { batch with
          lb := (batch.lb.increaseRefCountForReal env raddr).2
          curReals := batch.curReals ++ [rmeta.num] }.push folly raddr rmeta.num weight
  | none =>
      let (rnum, lb) := batch.lb.increaseRefCountForReal env raddr
      if rnum = lb.config.maxReals.toNat then { batch with lb := lb }
      else { batch with lb := lb }.push folly raddr rnum weight

/-- The body of the loop of `modifyRealsForVip`. -/
def modifyReal (folly : Folly) (env : Env) (action : ModifyAction) (batch : RealsBatch)
    (real : NewReal) : RealsBatch :=
  match folly.parse real.address with
  | none => { batch with lb := (batch.lb.validateAddress folly real.address false).2 }
  | some raddr =>
      match action with
      | .del => delReal batch raddr
      | .add => addReal folly env batch raddr real.weight

/-- The loop of `modifyRealsForVip` over the reals it is given. -/
def modifyRealsBatch (folly : Folly) (env : Env) (lb : KatranLb) (action : ModifyAction)
    (reals : List NewReal) (current : Vip) : RealsBatch :=
  reals.foldl (modifyReal folly env action)
    { lb := lb, curReals := current.getReals env.listing, ureals := [], owners := [] }

/-- Write one position of a VIP's ring. -/
def writePosition (env : Env) (vipNum : Nat) (lb : KatranLb) (pos : RealPos) : KatranLb :=
  (lb.bpfCall env fun maps => { maps with
    chRings := Function.update maps.chRings
      ((vipNum * lb.config.chRingSize.toNat + pos.pos) % 2 ^ 32) pos.real }).2

/-- Adds reals to a VIP or removes them, and writes the slots of its ring that have changed. -/
def modifyRealsForVip (folly : Folly) (env : Env) (lb : KatranLb) (action : ModifyAction)
    (reals : List NewReal) (vip : VipKey) : Option (Bool × KatranLb) :=
  if lb.config.disableForwarding then some (false, lb)
  else
    match lb.vips.lookup vip with
    | none => some (false, lb)
    | some current =>
        let batch := lb.modifyRealsBatch folly env action reals current
        (current.batchRealsUpdate env.fuel env.sorting batch.ureals).map
          fun (chPositions, updated) =>
          let lb := { batch.lb with vips := batch.lb.vips.insert vip updated }
          (true, if lb.config.testing then lb
            else chPositions.foldl (writePosition env updated.vipNum) lb)

/-- The batch of one real that is added. -/
def addRealForVip (folly : Folly) (env : Env) (lb : KatranLb) (real : NewReal) (vip : VipKey) :
    Option (Bool × KatranLb) :=
  if lb.config.disableForwarding then some (false, lb)
  else lb.modifyRealsForVip folly env .add [real] vip

/-- The batch of one real that is removed. -/
def delRealForVip (folly : Folly) (env : Env) (lb : KatranLb) (real : NewReal) (vip : VipKey) :
    Option (Bool × KatranLb) :=
  if lb.config.disableForwarding then some (false, lb)
  else lb.modifyRealsForVip folly env .del [real] vip

/-- The loop of `getRealsForVip`. -/
def reportReal (state : List (Option IPAddress × Nat) × KatranLb) (endpoint : Endpoint) :
    List (Option IPAddress × Nat) × KatranLb :=
  let (real, lb) := state.2.realOfNum endpoint.num
  (state.1 ++ [(real, endpoint.weight)], lb)

/-- The addresses and weights of the reals of a VIP; throws for an unknown VIP. -/
def getRealsForVip (env : Env) (lb : KatranLb) (vip : VipKey) :
    Option (List (Option IPAddress × Nat) × KatranLb) :=
  if lb.config.disableForwarding then some ([], lb)
  else (lb.vips.lookup vip).map fun current =>
    (current.getRealsAndWeight env.listing).foldl reportReal ([], lb)

/-! ## QUIC ids -/

/-- The body of the loop of `modifyQuicRealsMapping`. -/
def modifyQuicReal (folly : Folly) (env : Env) (action : ModifyAction)
    (state : KatranLb × UnorderedMap UInt32 Nat) (real : QuicReal) :
    KatranLb × UnorderedMap UInt32 Nat :=
  let (lb, toUpdate) := state
  match folly.parse real.address with
  | none => ((lb.validateAddress folly real.address false).2, toUpdate)
  | some raddr =>
      if real.id > kMaxQuicId then (lb, toUpdate)
      else
        match action with
        | .del =>
            if raddr.key ∈ lb.quicMapping then
              let lb := lb.decreaseRefCountForReal (some raddr)
              ({ lb with quicMapping := lb.quicMapping.erase raddr.key }, toUpdate)
            else (lb, toUpdate)
        | .add =>
            if raddr.key ∈ lb.quicMapping then (lb, toUpdate)
            else
              let (rnum, lb) := lb.increaseRefCountForReal env raddr
              if rnum = lb.config.maxReals.toNat then (lb, toUpdate)
              else
                ({ lb with quicMapping := lb.quicMapping.insert raddr.key real.id },
                  toUpdate.insert real.id rnum)

/-- Writes an entry of `quic_mapping`. A failure is only counted. -/
def writeQuicMapping (env : Env) (lb : KatranLb) (mapping : Sigma fun _ : UInt32 => Nat) :
    KatranLb :=
  (lb.bpfCall env fun maps => { maps with
    quicMapping := Function.update maps.quicMapping mapping.1.toNat mapping.2 }).2

/-- Routes connection ids to reals, or forgets them. -/
def modifyQuicRealsMapping (folly : Folly) (env : Env) (lb : KatranLb) (action : ModifyAction)
    (reals : List QuicReal) : KatranLb :=
  if lb.config.disableForwarding then lb
  else
    let (lb, toUpdate) := reals.foldl (modifyQuicReal folly env action) (lb, ∅)
    if lb.config.testing then lb
    else (env.listing.visit toUpdate.entries).foldl (writeQuicMapping env) lb

/-! ## Source routing rules -/

/-- Write or remove a rule in the trie of its family. -/
def modifyLpmSrcRule (env : Env) (lb : KatranLb) (action : ModifyAction) (src : CIDRNetwork)
    (rnum : Nat) : Bool × KatranLb :=
  let value := match action with
    | .add => some rnum
    | .del => none
  lb.bpfCall env fun maps =>
    if src.address.isV4 then
      { maps with lpmSrcV4 := Function.update maps.lpmSrcV4 src.prefixBits value }
    else
      { maps with lpmSrcV6 := Function.update maps.lpmSrcV6 src.prefixBits value }

/-- What the calls on rules return that fail as a whole. -/
def kError : Int := -1

/-- Whether source routing calls are refused. -/
def srcRoutingDisabled (lb : KatranLb) : Bool :=
  lb.config.disableForwarding || (!lb.features.srcRouting && !lb.config.testing)

/-- The loop over the networks of a rule: the result, the state, and the
networks that were installed, which the code does not keep. -/
def installRules (env : Env) (dst : IPAddress) :
    List CIDRNetwork → KatranLb → Int × KatranLb × List CIDRNetwork
  | [], lb => (0, lb, [])
  | src :: srcs, lb =>
      if lb.lpmSrcMapping.entries.length + 1 > lb.config.maxLpmSrcSize.toNat then (kError, lb, [])
      else
        let (rnum, lb) := lb.increaseRefCountForReal env dst
        if rnum = lb.config.maxReals.toNat then (kError, lb, [])
        else
          let first := ((lb.lpmSrcMapping.lookup src.key).map SrcRule.src).getD src
          let lb := { lb with lpmSrcMapping := lb.lpmSrcMapping.insert src.key ⟨first, rnum⟩ }
          let lb := if lb.config.testing then lb else (lb.modifyLpmSrcRule env .add src rnum).2
          let (rval, lb, installed) := installRules env dst srcs lb
          (rval, lb, src :: installed)

/-- `addSrcRoutingRule` for networks. -/
def addSrcRoutingRuleCidr (folly : Folly) (env : Env) (lb : KatranLb) (srcs : List CIDRNetwork)
    (dst : String) : Int × KatranLb × List CIDRNetwork :=
  if lb.srcRoutingDisabled then (kError, lb, [])
  else
    match folly.parse dst with
    | none => (kError, (lb.validateAddress folly dst false).2, [])
    | some addr => installRules env addr srcs lb

/-- The loop that collects the networks to install and counts the errors. -/
def collectNetworks (folly : Folly) (total : Nat) :
    List String → (numErrors : Int) → List CIDRNetwork → KatranLb →
      Int × List CIDRNetwork × KatranLb
  | [], numErrors, srcNetworks, lb => (numErrors, srcNetworks, lb)
  | src :: srcs, numErrors, srcNetworks, lb =>
      let (addrType, lb) := lb.validateAddress folly src true
      match addrType, folly.tryCreateNetwork src with
      | .network, some network =>
          if lb.lpmSrcMapping.entries.length + srcNetworks.length + 1 >
              lb.config.maxLpmSrcSize.toNat then
            (numErrors + (total - srcNetworks.length : Nat), srcNetworks, lb)
          else collectNetworks folly total srcs numErrors (srcNetworks ++ [network]) lb
      | _, _ => collectNetworks folly total srcs (numErrors + 1) srcNetworks lb

/-- `addSrcRoutingRule` for strings. -/
def addSrcRoutingRule (folly : Folly) (env : Env) (lb : KatranLb) (srcs : List String)
    (dst : String) : Int × KatranLb × List CIDRNetwork :=
  if lb.srcRoutingDisabled then (kError, lb, [])
  else
    match folly.parse dst with
    | none => (kError, (lb.validateAddress folly dst false).2, [])
    | some _ =>
        let (numErrors, srcNetworks, lb) := collectNetworks folly srcs.length srcs 0 [] lb
        let (rval, lb, installed) := lb.addSrcRoutingRuleCidr folly env srcNetworks dst
        (if rval = kError then rval else numErrors, lb, installed)

/-- The body of the loop of `delSrcRoutingRule`. -/
def removeRule (env : Env) (lb : KatranLb) (src : CIDRNetwork) : KatranLb :=
  match lb.lpmSrcMapping.lookup src.key with
  | none => lb
  | some rule =>
      let (dst, lb) := lb.realOfNum rule.rnum
      let lb := lb.decreaseRefCountForReal dst
      let lb := if lb.config.testing then lb else (lb.modifyLpmSrcRule env .del src rule.rnum).2
      { lb with lpmSrcMapping := lb.lpmSrcMapping.erase src.key }

/-- `delSrcRoutingRule` for networks. -/
def delSrcRoutingRuleCidr (env : Env) (lb : KatranLb) (srcs : List CIDRNetwork) :
    Bool × KatranLb :=
  if lb.srcRoutingDisabled then (false, lb) else (true, srcs.foldl (removeRule env) lb)

/-- `delSrcRoutingRule` for strings. -/
def delSrcRoutingRule (folly : Folly) (env : Env) (lb : KatranLb) (srcs : List String) :
    Bool × KatranLb :=
  if lb.srcRoutingDisabled then (false, lb)
  else lb.delSrcRoutingRuleCidr env (srcs.filterMap folly.tryCreateNetwork)

/-- The body of the loop of `clearAllSrcRoutingRules`, which dereferences the
entry of the rule's real without looking whether there is one. -/
def clearRule (env : Env) (lb : KatranLb) (rule : SrcRule) : Option KatranLb :=
  (lb.numToReals.lookup rule.rnum).map fun dst =>
    let lb := lb.decreaseRefCountForReal dst
    if lb.config.testing then lb else (lb.modifyLpmSrcRule env .del rule.src rule.rnum).2

/-- Removes the rules one after the other. A failed call throws. -/
def clearAllSrcRoutingRules (env : Env) (lb : KatranLb) : Option (Bool × KatranLb) :=
  if lb.srcRoutingDisabled then some (false, lb)
  else
    ((env.listing.visit lb.lpmSrcMapping.entries).foldlM
      (fun lb entry => clearRule env lb entry.2) lb).map
        fun lb => (true, { lb with lpmSrcMapping := ∅ })

end KatranLb

/-- The public mutators of the library. -/
inductive Op where
  | addVip (vip : VipKey) (flags : UInt32)
  | delVip (vip : VipKey)
  | modifyVip (vip : VipKey) (flag : UInt32) (set : Bool)
  | addRealForVip (real : NewReal) (vip : VipKey)
  | delRealForVip (real : NewReal) (vip : VipKey)
  | modifyRealsForVip (action : ModifyAction) (reals : List NewReal) (vip : VipKey)
  | modifyQuicRealsMapping (action : ModifyAction) (reals : List QuicReal)
  | addSrcRoutingRule (srcs : List String) (dst : String)
  | addSrcRoutingRuleCidr (srcs : List CIDRNetwork) (dst : String)
  | delSrcRoutingRule (srcs : List String)
  | delSrcRoutingRuleCidr (srcs : List CIDRNetwork)
  | clearAllSrcRoutingRules
deriving DecidableEq, Repr

/-- How a condition on operations is decided, by operation. Only what is neither `True` nor
`False` needs to be given. -/
structure Op.Decides (condition : Op → Prop) where
  addVip : ∀ vip flags, Decidable (condition (.addVip vip flags)) := by
    intros; first | exact .isTrue trivial | exact .isFalse id
  delVip : ∀ vip, Decidable (condition (.delVip vip)) := by
    intros; first | exact .isTrue trivial | exact .isFalse id
  modifyVip : ∀ vip flag set, Decidable (condition (.modifyVip vip flag set)) := by
    intros; first | exact .isTrue trivial | exact .isFalse id
  addRealForVip : ∀ real vip, Decidable (condition (.addRealForVip real vip)) := by
    intros; first | exact .isTrue trivial | exact .isFalse id
  delRealForVip : ∀ real vip, Decidable (condition (.delRealForVip real vip)) := by
    intros; first | exact .isTrue trivial | exact .isFalse id
  addRealsForVip : ∀ reals vip, Decidable (condition (.modifyRealsForVip .add reals vip)) := by
    intros; first | exact .isTrue trivial | exact .isFalse id
  delRealsForVip : ∀ reals vip, Decidable (condition (.modifyRealsForVip .del reals vip)) := by
    intros; first | exact .isTrue trivial | exact .isFalse id
  addQuicReals : ∀ reals, Decidable (condition (.modifyQuicRealsMapping .add reals)) := by
    intros; first | exact .isTrue trivial | exact .isFalse id
  delQuicReals : ∀ reals, Decidable (condition (.modifyQuicRealsMapping .del reals)) := by
    intros; first | exact .isTrue trivial | exact .isFalse id
  addSrcRoutingRule : ∀ srcs dst, Decidable (condition (.addSrcRoutingRule srcs dst)) := by
    intros; first | exact .isTrue trivial | exact .isFalse id
  addSrcRoutingRuleCidr : ∀ srcs dst, Decidable (condition (.addSrcRoutingRuleCidr srcs dst)) := by
    intros; first | exact .isTrue trivial | exact .isFalse id
  delSrcRoutingRule : ∀ srcs, Decidable (condition (.delSrcRoutingRule srcs)) := by
    intros; first | exact .isTrue trivial | exact .isFalse id
  delSrcRoutingRuleCidr : ∀ srcs, Decidable (condition (.delSrcRoutingRuleCidr srcs)) := by
    intros; first | exact .isTrue trivial | exact .isFalse id
  clearAllSrcRoutingRules : Decidable (condition .clearAllSrcRoutingRules) := by
    first | exact .isTrue trivial | exact .isFalse id

/-- A condition that is decided for each operation is decidable. -/
@[reducible] def Op.Decides.decidablePred {condition : Op → Prop} (decides : Op.Decides condition) :
    DecidablePred condition
  | .addVip vip flags => decides.addVip vip flags
  | .delVip vip => decides.delVip vip
  | .modifyVip vip flag set => decides.modifyVip vip flag set
  | .addRealForVip real vip => decides.addRealForVip real vip
  | .delRealForVip real vip => decides.delRealForVip real vip
  | .modifyRealsForVip .add reals vip => decides.addRealsForVip reals vip
  | .modifyRealsForVip .del reals vip => decides.delRealsForVip reals vip
  | .modifyQuicRealsMapping .add reals => decides.addQuicReals reals
  | .modifyQuicRealsMapping .del reals => decides.delQuicReals reals
  | .addSrcRoutingRule srcs dst => decides.addSrcRoutingRule srcs dst
  | .addSrcRoutingRuleCidr srcs dst => decides.addSrcRoutingRuleCidr srcs dst
  | .delSrcRoutingRule srcs => decides.delSrcRoutingRule srcs
  | .delSrcRoutingRuleCidr srcs => decides.delSrcRoutingRuleCidr srcs
  | .clearAllSrcRoutingRules => decides.clearAllSrcRoutingRules

/-- The operations on VIPs and their reals. -/
def Op.OfVips : Op → Prop
  | .addVip _ _ => True
  | .delVip _ => True
  | .modifyVip _ _ _ => True
  | .addRealForVip _ _ => True
  | .delRealForVip _ _ => True
  | .modifyRealsForVip _ _ _ => True
  | _ => False

instance : DecidablePred Op.OfVips := Op.Decides.decidablePred {}

/-- A case for each of the operations on VIPs. -/
@[elab_as_elim]
theorem Op.OfVips.cases {motive : (op : Op) → op.OfVips → Prop} {op : Op} (ofVips : op.OfVips)
    (addVip : ∀ vip flags, motive (.addVip vip flags) trivial)
    (delVip : ∀ vip, motive (.delVip vip) trivial)
    (modifyVip : ∀ vip flag set, motive (.modifyVip vip flag set) trivial)
    (addRealForVip : ∀ real vip, motive (.addRealForVip real vip) trivial)
    (delRealForVip : ∀ real vip, motive (.delRealForVip real vip) trivial)
    (modifyRealsForVip : ∀ action reals vip, motive (.modifyRealsForVip action reals vip) trivial) :
    motive op ofVips := by
  cases op with
  | addVip vip flags => exact addVip vip flags
  | delVip vip => exact delVip vip
  | modifyVip vip flag set => exact modifyVip vip flag set
  | addRealForVip real vip => exact addRealForVip real vip
  | delRealForVip real vip => exact delRealForVip real vip
  | modifyRealsForVip action reals vip => exact modifyRealsForVip action reals vip
  | modifyQuicRealsMapping _ _ => exact ofVips.elim
  | addSrcRoutingRule _ _ => exact ofVips.elim
  | addSrcRoutingRuleCidr _ _ => exact ofVips.elim
  | delSrcRoutingRule _ => exact ofVips.elim
  | delSrcRoutingRuleCidr _ => exact ofVips.elim
  | clearAllSrcRoutingRules => exact ofVips.elim

namespace KatranLb

/-- The state after a call that returns. -/
def perform (folly : Folly) (env : Env) (lb : KatranLb) : Op → Option KatranLb
  | .addVip vip flags => (lb.addVip folly env vip flags).map Prod.snd
  | .delVip vip => (lb.delVip folly env vip).map Prod.snd
  | .modifyVip vip flag set => (lb.modifyVip folly env vip flag set).map Prod.snd
  | .addRealForVip real vip => (lb.addRealForVip folly env real vip).map Prod.snd
  | .delRealForVip real vip => (lb.delRealForVip folly env real vip).map Prod.snd
  | .modifyRealsForVip action reals vip =>
      (lb.modifyRealsForVip folly env action reals vip).map Prod.snd
  | .modifyQuicRealsMapping action reals => some (lb.modifyQuicRealsMapping folly env action reals)
  | .addSrcRoutingRule srcs dst => some (lb.addSrcRoutingRule folly env srcs dst).2.1
  | .addSrcRoutingRuleCidr srcs dst => some (lb.addSrcRoutingRuleCidr folly env srcs dst).2.1
  | .delSrcRoutingRule srcs => some (lb.delSrcRoutingRule folly env srcs).2
  | .delSrcRoutingRuleCidr srcs => some (lb.delSrcRoutingRuleCidr env srcs).2
  | .clearAllSrcRoutingRules => (lb.clearAllSrcRoutingRules env).map Prod.snd

/-- A call that returns, under whatever the library does not control. -/
def Step (folly : Folly) (lb : KatranLb) (op : Op) (after : KatranLb) : Prop :=
  ∃ env, lb.perform folly env op = some after

/-- Make calls one after the other in one environment. -/
def performAll (folly : Folly) (env : Env) (lb : KatranLb) (ops : List Op) : Option KatranLb :=
  Run.execAll (fun lb op => lb.perform folly env op) lb ops

/-- Calls that are performed one after the other are a run. -/
theorem run_of_performAll {folly : Folly} {env : Env} {lb after : KatranLb} {ops : List Op}
    (performed : lb.performAll folly env ops = some after) : Run (Step folly) lb ops after :=
  Run.of_execAll (fun _ _ _ computed => ⟨env, computed⟩) performed

end KatranLb

end Katran
