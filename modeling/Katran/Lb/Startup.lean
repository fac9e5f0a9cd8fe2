import Katran.Foundation.Attempt
import Katran.Lb.BpfLoader
import Katran.Lb.Lrus
import Katran.Lb.RouterMac
import Katran.System.Healthchecks

/-! # Starting and stopping the balancer

The balancer is constructed, its programs are loaded and attached, and when it is destroyed
they are detached. Each of these may throw, and what was done before stays done. Only the tables
of the cores are taken to be as they were before if `initLrus` or `attachLrus` throws; nothing
here looks at them then.

If loading returns, the maps hold what the configuration says (`loaded_as_configured`): the
writes are made in a fixed order, no two of them meet, and the first that fails throws.
-/

namespace Katran

open Foundation Attempt

/-- The position of the router's MAC address. -/
def kMacAddrPos : Nat := 0
/-- The position of the tunnel device for IPv4. -/
def kIpv4TunPos : Nat := 1
/-- The position of the tunnel device for IPv6. -/
def kIpv6TunPos : Nat := 2
/-- The position of the main interface. -/
def kMainIntfPos : Nat := 3
/-- The position of the interface for health checks. -/
def kHcIntfPos : Nat := 4
/-- The position of the IPv4 source address. -/
def kSrcV4Pos : Nat := 0
/-- The position of the IPv6 source address. -/
def kSrcV6Pos : Nat := 1
/-- The position of the program that unwrapped packets get to. -/
def kRecirculationIndex : Nat := 0
/-- The size of the root array. -/
def rootArraySize : Nat := 3

/-- The part of `KatranConfig` that is read while the balancer is started or stopped. -/
structure StartConfig where
  mainInterface : String
  v4TunInterface : String
  v6TunInterface : String
  balancerProgPath : String
  healthcheckingProgPath : String
  defaultMac : List UInt8
  priority : UInt32 := 2307
  rootMapPath : String := ""
  rootMapPos : UInt32 := 2
  enableHc : Bool := true
  disableForwarding : Bool := false
  testing : Bool := false
  lrus : LruConfig := {}
  hcInterface : String := ""
  katranSrcV4 : String := ""
  katranSrcV6 : String := ""
  localMac : List UInt8 := []

/-- `struct KatranFeatures` -/
structure LoadedFeatures where
  srcRouting : Bool := false
  inlineDecap : Bool := false
  introspection : Bool := false
  gueEncap : Bool := false
  directHealthchecking : Bool := false
deriving DecidableEq, Repr

/-- What the kernel has: entries of the maps that are written at the start, and the programs
at the hooks, by interface, by interface and priority, and in root arrays by descriptor. Several
filters may have one priority. -/
structure Host where
  ctlMac : List UInt8
  hcCtrlMap : Nat → UInt32
  pcktSrcs : Nat → HcRealDefinition
  hcPcktSrcsMap : Nat → HcRealDefinition
  hcPcktMacs : Nat → List UInt8
  katranSubprograms : Nat → Option Int
  lruMapsMapping : Int → Option Int
  xdp : UInt32 → Option Int
  tcEgress : UInt32 → UInt16 → List Int
  rootArray : Int → UInt32 → Option Int

/-- A call of the adapter that may be refused. -/
inductive AdapterCall where
  | updateMap (name : String) (key : Nat)
  | modifyXdpProg
  | detachXdpProg
  | addTcBpfFilter
  | deleteTcBpfFilter
  | updateRoot
  | deleteRoot
deriving DecidableEq, Repr

/-- What the system answers: the indices of interfaces, zero for none, the files and how they
are loaded, connection tables, calls, the descriptor of the pinned root array, and what is in
`rootMapFd_` before it is set. -/
structure StartEnv where
  folly : Folly
  getInterfaceIndex : String → UInt32
  balancer : LoadEnv
  balancerObject : Option BpfObject
  healthchecking : LoadEnv
  healthcheckingObject : Option BpfObject
  lrus : LruEnv
  succeeds : AdapterCall → Bool
  getPinnedBpfObject : String → Int
  strayRootMapFd : Int

/-- The library's own state, and the kernel's. -/
structure Starter where
  config : StartConfig
  loader : BpfLoader := {}
  lrus : Lrus := {}
  /-- `ctlValues_[kMacAddrPos].mac` -/
  mac : List UInt8 := []
  /-- `ctlValues_[position].ifindex` -/
  ifindex : Nat → UInt32 := fun _ => 0
  standalone : Bool
  progsLoaded : Bool := false
  progsAttached : Bool := false
  rootMapFd : Int
  features : LoadedFeatures := {}
  host : Host

namespace Starter

/-- Procedures throw exceptions with a text. -/
abbrev Procedure := Attempt Starter String

variable (env : StartEnv)

/-! ## The constructor -/

/-- An index of an interface is resolved. -/
def resolve (position : Nat) (interface : Starter → String) (what : String) : Procedure :=
  Attempt.bind fun starter =>
    let index := env.getInterfaceIndex (interface starter)
    if index = 0 then fail what
    else modify fun starter =>
      { starter with ifindex := Function.update starter.ifindex position index }

/-- The balancer before the body of its constructor. -/
def begin (config : StartConfig) (host : Host) : Starter where
  config := config
  standalone := true
  rootMapFd := env.strayRootMapFd
  host := host

/-- The body of the constructor. -/
def construct : Procedure := Attempt.all [
  modify fun starter => if starter.config.rootMapPath ≠ "" then { starter with standalone := false }
    else starter,
  modify fun starter => if starter.config.hcInterface = "" then
    { starter with config := { starter.config with hcInterface := starter.config.mainInterface } }
    else starter,
  Attempt.bind fun starter => if starter.config.testing then pass else Attempt.all [
    Attempt.bind fun starter =>
      if starter.config.defaultMac.length ≠ 6 then fail "mac's size is not equal to six byte"
      else modify fun starter => { starter with mac := starter.config.defaultMac },
    Attempt.bind fun starter => if starter.config.enableHc then Attempt.all [
      resolve env kHcIntfPos (·.config.hcInterface)
        "can't resolve ifindex for healthcheck interface",
      resolve env kIpv4TunPos (·.config.v4TunInterface) "can't resolve ifindex for v4tunel intf",
      resolve env kIpv6TunPos (·.config.v6TunInterface) "can't resolve ifindex for v6tunel intf"]
      else pass,
    resolve env kMainIntfPos (·.config.mainInterface) "can't resolve ifindex for main intf"]]

/-! ## Loading -/

/-- The descriptor of the forwarding program. -/
def getKatranProgFd (starter : Starter) : Int := starter.loader.getProgFdByName "xdp-balancer"

/-- The descriptor of the program for health checks. -/
def getHealthcheckerProgFd (starter : Starter) : Int := starter.loader.getProgFdByName "cls-hc"

/-- An entry of a map is written. -/
def bpfUpdateMap (name : String) (key : Nat) (what : String) (change : Starter → Host → Host) :
    Procedure :=
  update (env.succeeds (.updateMap name key)) what fun starter =>
    { starter with host := change starter starter.host }

/-- The loader after a call, unless its result is an error. -/
def loaded (refused : Int → Bool) (result : Int × BpfLoader) (what : String) : Procedure :=
  Attempt.all [
    modify fun starter => { starter with loader := result.2 },
    if refused result.1 then fail what else pass]

/-- The connection table that is the prototype of those in `lru_maps_mapping`. -/
def lruPrototype (config : StartConfig) (lrus : Lrus) : Int :=
  match config.lrus.forwardingCores with
  | core :: _ => (lrus.read env.lrus core).1
  | [] => env.lrus.descriptor 0

/-- `initLrus`, with the prototype that it hands to the loader. -/
def initLrus : Procedure := Attempt.bind fun starter =>
  match Lrus.initLrus env.lrus starter.config.lrus with
  | none => fail "can't create LRU"
  | some lrus =>
      Attempt.all [
        modify fun starter => { starter with lrus := lrus },
        loaded (· < 0) (starter.loader.setInnerMapPrototype "lru_maps_mapping"
          (lruPrototype env starter.config lrus))
          "can't update inner_maps_fds w/ prototype for main lru"]

/-- Loads one of the programs, and throws if it cannot be loaded. -/
def loadBpfProg (load : LoadEnv) (object : Option BpfObject) (path : Starter → String)
    (what : String) : Procedure := Attempt.bind fun starter =>
  loaded (· ≠ 0) (starter.loader.loadBpfFile load object (path starter) .unspec) what

/-- The maps that have to be there. -/
def requiredMaps (config : StartConfig) : List String :=
  (if config.disableForwarding then []
    else ["ctl_array", "vip_map", "ch_rings", "reals", "stats", "lru_maps_mapping",
      "quic_mapping"]) ++
  if config.enableHc then ["hc_ctrl_map", "hc_reals_map", "hc_stats_map"] else []

/-- The programs and maps that the configuration needs must have been loaded. -/
def initialSanityChecking : Procedure := Attempt.bind fun starter =>
  if ¬ starter.config.disableForwarding ∧ starter.getKatranProgFd < 0 then
    fail "can't get fd for prog: xdp-balancer"
  else if starter.config.enableHc ∧ starter.getHealthcheckerProgFd < 0 then
    fail "can't get fd for prog: cls-hc"
  else if ∃ name ∈ requiredMaps starter.config, starter.loader.getMapFdByName name < 0 then
    fail "map not found"
  else pass

/-- The features that the loaded maps tell. -/
def discovered (features : LoadedFeatures) (loader : BpfLoader) : LoadedFeatures :=
  let present (name : String) := decide (0 ≤ loader.getMapFdByName name)
  { srcRouting := features.srcRouting || present "lpm_src_v4"
    inlineDecap := features.inlineDecap || present "decap_dst"
    introspection := features.introspection || present "event_pipe"
    gueEncap := features.gueEncap || present "pckt_srcs"
    directHealthchecking := features.directHealthchecking || present "hc_pckt_srcs_map" }

/-- What the program can do is told by the maps it has. -/
def featureDiscovering : Procedure := modify fun starter =>
  { starter with features := discovered starter.features starter.loader }

/-- The source address of a family, if one is given. -/
def setupSrc (name : String) (key : Nat) (address : StartConfig → String) (what : String)
    (change : Nat → HcRealDefinition → Host → Host) : Procedure := Attempt.bind fun starter =>
  if address starter.config = "" then pass
  else
    match env.folly.parse (address starter.config) with
    | none => fail "invalid address"
    | some src => bpfUpdateMap env name key what fun _ => change key (parseAddrToBeaddr src true)

/-- Writes an entry of `pckt_srcs`. -/
def writePcktSrc (key : Nat) (src : HcRealDefinition) (host : Host) : Host :=
  { host with pcktSrcs := Function.update host.pcktSrcs key src }

/-- Writes an entry of `hc_pckt_srcs_map`. -/
def writeHcPcktSrc (key : Nat) (src : HcRealDefinition) (host : Host) : Host :=
  { host with hcPcktSrcsMap := Function.update host.hcPcktSrcsMap key src }

/-- Writes the source addresses for GUE, of which one is needed. -/
def setupGueEnvironment : Procedure := Attempt.bind fun starter =>
  if starter.config.katranSrcV4 = "" ∧ starter.config.katranSrcV6 = "" then
    fail "No source address provided to use as source GUE encapsulation"
  else Attempt.all [
    setupSrc env "pckt_srcs" kSrcV4Pos (·.katranSrcV4)
      "can not update src v4 address for GUE packet" writePcktSrc,
    setupSrc env "pckt_srcs" kSrcV6Pos (·.katranSrcV6)
      "can not update src v6 address for GUE packet" writePcktSrc]

/-- An address for direct health checks. -/
def setupHcMac (position : Nat) (mac : StartConfig → List UInt8) : Procedure :=
  bpfUpdateMap env "hc_pckt_macs" position "can not update healthchecks mac address"
    fun starter host =>
      { host with hcPcktMacs := Function.update host.hcPcktMacs position (mac starter.config) }

/-- Writes the source addresses for direct health checks, of which one is needed. -/
def setupHcEnvironment : Procedure := Attempt.bind fun starter =>
  if starter.config.katranSrcV4 = "" ∧ starter.config.katranSrcV6 = "" then
    fail "No source address provided for direct healthchecking"
  else Attempt.all [
    setupSrc env "hc_pckt_srcs_map" kSrcV4Pos (·.katranSrcV4)
      "can not update src v4 address for direct healthchecking" writeHcPcktSrc,
    setupSrc env "hc_pckt_srcs_map" kSrcV6Pos (·.katranSrcV6)
      "can not update src v6 address for direct healthchecking" writeHcPcktSrc,
    Attempt.bind fun starter =>
      if starter.config.localMac.length ≠ 6 then fail "src mac's size is not equal to six byte"
      else Attempt.all [
        setupHcMac env kHcSrcMacPos (·.localMac),
        setupHcMac env kHcDstMacPos (·.defaultMac)]]

/-- Unwrapped packets get to the program again. -/
def enableRecirculation : Procedure :=
  bpfUpdateMap env "katran_subprograms" kRecirculationIndex
    "can not update katran_subprograms for recirculation" fun starter host => { host with
      katranSubprograms :=
        Function.update host.katranSubprograms kRecirculationIndex (some starter.getKatranProgFd) }

/-- The router's MAC address is written to `ctl_array`. -/
def setupCtl : Procedure :=
  bpfUpdateMap env "ctl_array" kMacAddrPos "can't update ctl array for main program"
    fun starter host => { host with ctlMac := starter.mac }

/-- The index of an interface is written to `hc_ctrl_map`. -/
def setupHcCtrl (position : Nat) : Procedure :=
  bpfUpdateMap env "hc_ctrl_map" position "can't update ctrl map for hc program"
    fun starter host => { host with
      hcCtrlMap := Function.update host.hcCtrlMap position (starter.ifindex position) }

/-- Enters the tables of the cores. A core without one throws. -/
def attachLrus : Procedure := Attempt.bind fun starter =>
  match Lrus.attachLrus env.lrus starter.config.lrus starter.progsLoaded starter.lrus with
  | none => fail "can't attach lru to forwarding core"
  | some (lrus, mapping) => modify fun starter =>
      { starter with lrus := lrus, host := { starter.host with lruMapsMapping := mapping } }

/-- Part of the start, under a condition. -/
def onlyIf (condition : Starter → Bool) (procedure : Procedure) : Procedure :=
  Attempt.bind fun starter => if condition starter then procedure else pass

/-- Whether the balancer forwards packets. -/
def forwards (starter : Starter) : Bool := !starter.config.disableForwarding

/-- `loadBpfProgs` until the programs have been checked. -/
def loadSteps : List Procedure := [
  onlyIf forwards (Attempt.all [initLrus env,
    loadBpfProg env.balancer env.balancerObject (·.config.balancerProgPath)
      "can't load main bpf program"]),
  onlyIf (·.config.enableHc) (loadBpfProg env.healthchecking env.healthcheckingObject
    (·.config.healthcheckingProgPath) "can't load healthchecking bpf program"),
  initialSanityChecking]

/-- The rest of `loadBpfProgs`. -/
def setupSteps : List Procedure := [
  featureDiscovering,
  onlyIf (fun starter => starter.forwards && starter.features.gueEncap) (setupGueEnvironment env),
  onlyIf (fun starter => starter.forwards && starter.features.inlineDecap)
    (enableRecirculation env),
  onlyIf forwards (setupCtl env),
  onlyIf (·.config.enableHc) (Attempt.all [setupHcCtrl env kIpv4TunPos, setupHcCtrl env kIpv6TunPos,
    setupHcCtrl env kMainIntfPos,
    onlyIf (·.features.directHealthchecking) (setupHcEnvironment env)]),
  modify fun starter => { starter with progsLoaded := true },
  onlyIf forwards (attachLrus env)]

/-- Loads the programs and writes their configuration. -/
def loadBpfProgs : Procedure := Attempt.all (loadSteps env ++ setupSteps env)

/-! ## What the parts of loading leave -/

variable {env} {starter after : Starter}

private theorem returns_onlyIf {condition : Starter → Bool} {procedure : Procedure} :
    Returns (onlyIf condition procedure) starter after ↔
      (condition starter = true ∧ Returns procedure starter after) ∨
        (condition starter = false ∧ after = starter) := by
  unfold onlyIf
  rw [returns_bind]
  cases condition starter with
  | true => simp only [↓reduceIte, true_and, Bool.true_eq_false, false_and, or_false]
  | false =>
      simp only [Bool.false_eq_true, ↓reduceIte, returns_pass, false_and, true_and, false_or]

private theorem returns_bpfUpdateMap {name what : String} {key : Nat}
    {change : Starter → Host → Host}
    (returned : Returns (bpfUpdateMap env name key what change) starter after) :
    after = { starter with host := change starter starter.host } :=
  (returns_update.mp returned).2

/-- Source addresses with that of one family, if one is given. -/
def withSource (env : StartEnv) (key : Nat) (text : String) (srcs : Nat → HcRealDefinition) :
    Nat → HcRealDefinition :=
  match env.folly.parse text with
  | none => srcs
  | some src => if text = "" then srcs else Function.update srcs key (parseAddrToBeaddr src true)

/-- Source addresses as the configuration gives them. -/
def withSources (env : StartEnv) (config : StartConfig) (srcs : Nat → HcRealDefinition) :
    Nat → HcRealDefinition :=
  withSource env kSrcV6Pos config.katranSrcV6 (withSource env kSrcV4Pos config.katranSrcV4 srcs)

private theorem returns_setupSrc {name what : String} {key : Nat} {address : StartConfig → String}
    {change : Nat → HcRealDefinition → Host → Host}
    (returned : Returns (setupSrc env name key address what change) starter after) :
    (address starter.config = "" ∧ after = starter) ∨
      ∃ src, env.folly.parse (address starter.config) = some src ∧ address starter.config ≠ "" ∧
        after = { starter with host := change key (parseAddrToBeaddr src true) starter.host } := by
  unfold setupSrc at returned
  rw [returns_bind] at returned
  split at returned
  next empty => exact .inl ⟨empty, returns_pass.mp returned⟩
  next given =>
    split at returned
    · exact (not_returns_fail returned).elim
    next src parsed => exact .inr ⟨src, parsed, given, returns_bpfUpdateMap returned⟩

private theorem withSource_of_empty (key : Nat) {text : String} (empty : text = "")
    (srcs : Nat → HcRealDefinition) : withSource env key text srcs = srcs := by
  unfold withSource
  split
  · rfl
  · rw [if_pos empty]

private theorem withSource_of_parsed (key : Nat) {text : String} {src : IPAddress}
    (parsed : env.folly.parse text = some src) (given : text ≠ "")
    (srcs : Nat → HcRealDefinition) :
    withSource env key text srcs = Function.update srcs key (parseAddrToBeaddr src true) := by
  simp only [withSource, parsed, given, ↓reduceIte]

/-- A source address is valid, if one is given. -/
def ValidSource (env : StartEnv) (text : String) : Prop :=
  text ≠ "" → ∃ src, env.folly.parse text = some src

/-- There is a source address, and those that are given are valid. -/
structure ValidSources (env : StartEnv) (config : StartConfig) : Prop where
  some : config.katranSrcV4 ≠ "" ∨ config.katranSrcV6 ≠ ""
  v4 : ValidSource env config.katranSrcV4
  v6 : ValidSource env config.katranSrcV6

/-- Every address that is given is entered for its family. -/
theorem ValidSources.entered {config : StartConfig} (valid : ValidSources env config)
    (srcs : Nat → HcRealDefinition) :
    (config.katranSrcV4 ≠ "" → ∃ src, env.folly.parse config.katranSrcV4 = Option.some src ∧
      withSources env config srcs kSrcV4Pos = parseAddrToBeaddr src true) ∧
    (config.katranSrcV6 ≠ "" → ∃ src, env.folly.parse config.katranSrcV6 = Option.some src ∧
      withSources env config srcs kSrcV6Pos = parseAddrToBeaddr src true) := by
  constructor
  · intro given
    obtain ⟨src, parsed⟩ := valid.v4 given
    refine ⟨src, parsed, ?_⟩
    have elsewhere (before : Nat → HcRealDefinition) :
        withSource env kSrcV6Pos config.katranSrcV6 before kSrcV4Pos = before kSrcV4Pos := by
      by_cases empty : config.katranSrcV6 = ""
      · rw [withSource_of_empty kSrcV6Pos empty]
      · obtain ⟨other, otherParsed⟩ := valid.v6 empty
        rw [withSource_of_parsed kSrcV6Pos otherParsed empty, Function.update_of_ne (by decide)]
    rw [withSources, elsewhere, withSource_of_parsed kSrcV4Pos parsed given, Function.update_self]
  · intro given
    obtain ⟨src, parsed⟩ := valid.v6 given
    refine ⟨src, parsed, ?_⟩
    rw [withSources, withSource_of_parsed kSrcV6Pos parsed given, Function.update_self]

/-- An address of one family for tunnels. -/
theorem returns_setupPcktSrc {what : String} {key : Nat} {address : StartConfig → String}
    (returned : Returns (setupSrc env "pckt_srcs" key address what writePcktSrc) starter after) :
    ValidSource env (address starter.config) ∧
    after = { starter with host := { starter.host with
      pcktSrcs := withSource env key (address starter.config) starter.host.pcktSrcs } } := by
  rcases returns_setupSrc returned with ⟨empty, rfl⟩ | ⟨src, parsed, given, rfl⟩
  · rw [withSource_of_empty key empty]
    exact ⟨fun given => (given empty).elim, rfl⟩
  · rw [withSource_of_parsed key parsed given]
    exact ⟨fun _ => ⟨src, parsed⟩, rfl⟩

/-- An address of one family for direct health checks. -/
theorem returns_setupHcPcktSrc {what : String} {key : Nat} {address : StartConfig → String}
    (returned : Returns (setupSrc env "hc_pckt_srcs_map" key address what writeHcPcktSrc) starter
      after) :
    ValidSource env (address starter.config) ∧
    after = { starter with host := { starter.host with
      hcPcktSrcsMap :=
        withSource env key (address starter.config) starter.host.hcPcktSrcsMap } } := by
  rcases returns_setupSrc returned with ⟨empty, rfl⟩ | ⟨src, parsed, given, rfl⟩
  · rw [withSource_of_empty key empty]
    exact ⟨fun given => (given empty).elim, rfl⟩
  · rw [withSource_of_parsed key parsed given]
    exact ⟨fun _ => ⟨src, parsed⟩, rfl⟩

private theorem returns_setupGueEnvironment
    (returned : Returns (setupGueEnvironment env) starter after) :
    ValidSources env starter.config ∧
    after = { starter with host := { starter.host with
      pcktSrcs := withSources env starter.config starter.host.pcktSrcs } } := by
  unfold setupGueEnvironment at returned
  rw [returns_bind] at returned
  split at returned
  · exact (not_returns_fail returned).elim
  next given =>
    obtain ⟨middle, first, rest⟩ := returns_all_cons.mp returned
    obtain ⟨later, second, done⟩ := returns_all_cons.mp rest
    obtain ⟨v4, rfl⟩ := returns_setupPcktSrc first
    obtain ⟨v6, rfl⟩ := returns_setupPcktSrc second
    exact ⟨⟨Decidable.not_and_iff_not_or_not.mp given, v4, v6⟩, returns_pass.mp done⟩

/-- The addresses of frames of direct health checks. -/
def withMacs (config : StartConfig) (macs : Nat → List UInt8) : Nat → List UInt8 :=
  Function.update (Function.update macs kHcSrcMacPos config.localMac) kHcDstMacPos config.defaultMac

private theorem returns_setupHcEnvironment
    (returned : Returns (setupHcEnvironment env) starter after) :
    starter.config.localMac.length = 6 ∧ ValidSources env starter.config ∧
    after = { starter with host := { starter.host with
      hcPcktSrcsMap := withSources env starter.config starter.host.hcPcktSrcsMap
      hcPcktMacs := withMacs starter.config starter.host.hcPcktMacs } } := by
  unfold setupHcEnvironment at returned
  rw [returns_bind] at returned
  split at returned
  · exact (not_returns_fail returned).elim
  next given =>
    obtain ⟨first, src4, rest⟩ := returns_all_cons.mp returned
    obtain ⟨second, src6, rest⟩ := returns_all_cons.mp rest
    obtain ⟨third, macs, done⟩ := returns_all_cons.mp rest
    obtain ⟨v4, rfl⟩ := returns_setupHcPcktSrc src4
    obtain ⟨v6, rfl⟩ := returns_setupHcPcktSrc src6
    obtain rfl := returns_pass.mp done
    rw [returns_bind] at macs
    split at macs
    · exact (not_returns_fail macs).elim
    next six =>
      obtain ⟨fourth, source, rest⟩ := returns_all_cons.mp macs
      obtain ⟨fifth, destination, done⟩ := returns_all_cons.mp rest
      obtain rfl := returns_bpfUpdateMap source
      obtain rfl := returns_bpfUpdateMap destination
      obtain rfl := returns_pass.mp done
      exact ⟨Decidable.not_not.mp six,
        ⟨Decidable.not_and_iff_not_or_not.mp given, v4, v6⟩, rfl⟩

private theorem returns_loaded {refused : Int → Bool} {result : Int × BpfLoader} {what : String}
    (returned : Returns (loaded refused result what) starter after) :
    after = { starter with loader := result.2 } := by
  obtain ⟨_, loads, rest⟩ := returns_all_cons.mp returned
  obtain ⟨_, checks, done⟩ := returns_all_cons.mp rest
  obtain rfl := returns_modify.mp loads
  obtain rfl := returns_pass.mp done
  split at checks
  · exact (not_returns_fail checks).elim
  · exact returns_pass.mp checks

private theorem returns_initLrus (returned : Returns (initLrus env) starter after) :
    ∃ lrus loader, Lrus.initLrus env.lrus starter.config.lrus = some lrus ∧
      after = { starter with lrus := lrus, loader := loader } := by
  unfold initLrus at returned
  rw [returns_bind] at returned
  split at returned
  · exact (not_returns_fail returned).elim
  next lrus initialised =>
    obtain ⟨_, initialises, rest⟩ := returns_all_cons.mp returned
    obtain ⟨_, prepares, done⟩ := returns_all_cons.mp rest
    obtain rfl := returns_modify.mp initialises
    obtain rfl := returns_loaded prepares
    exact ⟨lrus, _, initialised, returns_pass.mp done⟩

private theorem returns_loadBpfProg {load : LoadEnv} {object : Option BpfObject}
    {path : Starter → String}
    {what : String} (returned : Returns (loadBpfProg load object path what) starter after) :
    ∃ loader, after = { starter with loader := loader } := by
  unfold loadBpfProg at returned
  rw [returns_bind] at returned
  exact ⟨_, returns_loaded returned⟩

/-- The programs and maps that have to be there. -/
structure Sane (starter : Starter) : Prop where
  balancer : starter.config.disableForwarding = false → 0 ≤ starter.getKatranProgFd
  healthchecker : starter.config.enableHc = true → 0 ≤ starter.getHealthcheckerProgFd
  maps : ∀ name ∈ requiredMaps starter.config, 0 ≤ starter.loader.getMapFdByName name

/-- If the checks return, the programs and maps are there. -/
theorem returns_initialSanityChecking (returned : Returns initialSanityChecking starter after) :
    starter.Sane ∧ after = starter := by
  unfold initialSanityChecking at returned
  rw [returns_bind] at returned
  split at returned
  · exact (not_returns_fail returned).elim
  next balancer =>
    split at returned
    · exact (not_returns_fail returned).elim
    next healthchecker =>
      split at returned
      · exact (not_returns_fail returned).elim
      next maps =>
        refine ⟨⟨?_, ?_, ?_⟩, returns_pass.mp returned⟩
        · intro forwarding
          exact Int.not_lt.mp fun missing => balancer ⟨by rw [forwarding]; nofun, missing⟩
        · intro enabled
          exact Int.not_lt.mp fun missing => healthchecker ⟨enabled, missing⟩
        · intro name member
          exact Int.not_lt.mp fun missing => maps ⟨name, member, missing⟩

private theorem returns_attachLrus (returned : Returns (attachLrus env) starter after) :
    ∃ lrus mapping, Lrus.attachLrus env.lrus starter.config.lrus starter.progsLoaded starter.lrus =
        some (lrus, mapping) ∧
      after = { starter with
        lrus := lrus
        host := { starter.host with lruMapsMapping := mapping } } := by
  unfold attachLrus at returned
  rw [returns_bind] at returned
  split at returned
  · exact (not_returns_fail returned).elim
  next lrus mapping attached => exact ⟨lrus, mapping, attached, returns_modify.mp returned⟩

/-- The balancer and the kernel after loading has returned. -/
structure LoadedAs (env : StartEnv) (starter after : Starter) : Prop where
  config : after.config = starter.config
  ifindex : after.ifindex = starter.ifindex
  mac : after.mac = starter.mac
  standalone : after.standalone = starter.standalone
  progsAttached : after.progsAttached = starter.progsAttached
  progsLoaded : after.progsLoaded = true
  sane : after.Sane
  lrus : starter.config.disableForwarding = false → ∃ lrus,
    Lrus.initLrus env.lrus starter.config.lrus = some lrus ∧
      Lrus.attachLrus env.lrus starter.config.lrus true lrus =
        some (after.lrus, after.host.lruMapsMapping)
  ctl : starter.config.disableForwarding = false → after.host.ctlMac = starter.mac
  gue : starter.config.disableForwarding = false → 0 ≤ after.loader.getMapFdByName "pckt_srcs" →
    ValidSources env starter.config ∧
      after.host.pcktSrcs = withSources env starter.config starter.host.pcktSrcs
  recirculation : starter.config.disableForwarding = false →
    0 ≤ after.loader.getMapFdByName "decap_dst" →
      after.host.katranSubprograms kRecirculationIndex = some after.getKatranProgFd
  hcCtrl : starter.config.enableHc = true → ∀ position ∈ [kIpv4TunPos, kIpv6TunPos, kMainIntfPos],
    after.host.hcCtrlMap position = starter.ifindex position
  direct : starter.config.enableHc = true →
    0 ≤ after.loader.getMapFdByName "hc_pckt_srcs_map" →
      after.features.directHealthchecking = true ∧ starter.config.localMac.length = 6 ∧
        ValidSources env starter.config ∧
        after.host.hcPcktSrcsMap = withSources env starter.config starter.host.hcPcktSrcsMap ∧
        after.host.hcPcktMacs = withMacs starter.config starter.host.hcPcktMacs
  xdp : after.host.xdp = starter.host.xdp
  tcEgress : after.host.tcEgress = starter.host.tcEgress
  rootArray : after.host.rootArray = starter.host.rootArray

/-- The files are loaded. -/
theorem returns_loading {middle : Starter}
    (balancer : Returns (onlyIf forwards (Attempt.all [initLrus env,
      loadBpfProg env.balancer env.balancerObject (·.config.balancerProgPath)
        "can't load main bpf program"])) starter middle)
    (healthchecker : Returns (onlyIf (·.config.enableHc) (loadBpfProg env.healthchecking
      env.healthcheckingObject (·.config.healthcheckingProgPath)
        "can't load healthchecking bpf program")) middle after) :
    ∃ lrus loader, after = { starter with lrus := lrus, loader := loader } ∧
      (starter.config.disableForwarding = false →
        Lrus.initLrus env.lrus starter.config.lrus = some lrus) := by
  have first : ∃ lrus loader, middle = { starter with lrus := lrus, loader := loader } ∧
      (starter.config.disableForwarding = false →
        Lrus.initLrus env.lrus starter.config.lrus = some lrus) := by
    rcases returns_onlyIf.mp balancer with ⟨_, loads⟩ | ⟨disabled, rfl⟩
    · obtain ⟨early, initialises, rest⟩ := returns_all_cons.mp loads
      obtain ⟨later, loads, done⟩ := returns_all_cons.mp rest
      obtain ⟨lrus, _, initialised, rfl⟩ := returns_initLrus initialises
      obtain ⟨loader, rfl⟩ := returns_loadBpfProg loads
      obtain rfl := returns_pass.mp done
      exact ⟨lrus, loader, rfl, fun _ => initialised⟩
    · refine ⟨_, _, rfl, ?_⟩
      intro forwarding
      rw [forwards, forwarding] at disabled
      cases disabled
  obtain ⟨lrus, loader, rfl, initialised⟩ := first
  rcases returns_onlyIf.mp healthchecker with ⟨_, loads⟩ | ⟨_, rfl⟩
  · obtain ⟨later, rfl⟩ := returns_loadBpfProg loads
    exact ⟨lrus, later, rfl, initialised⟩
  · exact ⟨lrus, loader, rfl, initialised⟩

/-- The maps of the forwarding program are set up. -/
theorem returns_setupForwarding {first second : Starter}
    (gue : Returns (onlyIf (fun starter => starter.forwards && starter.features.gueEncap)
      (setupGueEnvironment env)) starter first)
    (recirculation : Returns (onlyIf (fun starter => starter.forwards &&
      starter.features.inlineDecap) (enableRecirculation env)) first second)
    (ctl : Returns (onlyIf forwards (setupCtl env)) second after) :
    ∃ pcktSrcs katranSubprograms ctlMac,
      after = { starter with host := { starter.host with
        pcktSrcs := pcktSrcs, katranSubprograms := katranSubprograms, ctlMac := ctlMac } } ∧
      (starter.forwards = true → ctlMac = starter.mac) ∧
      (starter.forwards = true → starter.features.gueEncap = true →
        ValidSources env starter.config ∧
          pcktSrcs = withSources env starter.config starter.host.pcktSrcs) ∧
      (starter.forwards = true → starter.features.inlineDecap = true →
        katranSubprograms kRecirculationIndex = some starter.getKatranProgFd) := by
  have sources : ∃ pcktSrcs,
      first = { starter with host := { starter.host with pcktSrcs := pcktSrcs } } ∧
      (starter.forwards = true → starter.features.gueEncap = true →
        ValidSources env starter.config ∧
          pcktSrcs = withSources env starter.config starter.host.pcktSrcs) := by
    rcases returns_onlyIf.mp gue with ⟨_, returned⟩ | ⟨disabled, rfl⟩
    · obtain ⟨valid, same⟩ := returns_setupGueEnvironment returned
      exact ⟨_, same, fun _ _ => ⟨valid, rfl⟩⟩
    · refine ⟨_, rfl, ?_⟩
      intro forwarding enabled
      rw [forwarding, enabled] at disabled
      cases disabled
  obtain ⟨pcktSrcs, rfl, sources⟩ := sources
  have programs : ∃ katranSubprograms,
      second = { starter with host := { starter.host with
        pcktSrcs := pcktSrcs, katranSubprograms := katranSubprograms } } ∧
      (starter.forwards = true → starter.features.inlineDecap = true →
        katranSubprograms kRecirculationIndex = some starter.getKatranProgFd) := by
    rcases returns_onlyIf.mp recirculation with ⟨_, returned⟩ | ⟨disabled, rfl⟩
    · exact ⟨_, returns_bpfUpdateMap returned, fun _ _ => Function.update_self ..⟩
    · refine ⟨_, rfl, ?_⟩
      intro forwarding enabled
      change (starter.forwards && starter.features.inlineDecap) = false at disabled
      rw [forwarding, enabled] at disabled
      cases disabled
  obtain ⟨katranSubprograms, rfl, programs⟩ := programs
  rcases returns_onlyIf.mp ctl with ⟨_, returned⟩ | ⟨disabled, rfl⟩
  · exact ⟨pcktSrcs, katranSubprograms, _, returns_bpfUpdateMap returned, fun _ => rfl, sources,
      programs⟩
  · refine ⟨pcktSrcs, katranSubprograms, _, rfl, ?_, sources, programs⟩
    intro forwarding
    cases disabled.symm.trans forwarding

/-- The maps of the program for health checks are set up. -/
theorem returns_setupHealthchecks (returned : Returns (onlyIf (·.config.enableHc)
      (Attempt.all [setupHcCtrl env kIpv4TunPos, setupHcCtrl env kIpv6TunPos,
        setupHcCtrl env kMainIntfPos,
        onlyIf (·.features.directHealthchecking) (setupHcEnvironment env)])) starter after) :
    ∃ hcCtrlMap hcPcktSrcsMap hcPcktMacs,
      after = { starter with host := { starter.host with
        hcCtrlMap := hcCtrlMap, hcPcktSrcsMap := hcPcktSrcsMap, hcPcktMacs := hcPcktMacs } } ∧
      (starter.config.enableHc = true →
        ∀ position ∈ [kIpv4TunPos, kIpv6TunPos, kMainIntfPos],
          hcCtrlMap position = starter.ifindex position) ∧
      (starter.config.enableHc = true → starter.features.directHealthchecking = true →
        starter.config.localMac.length = 6 ∧ ValidSources env starter.config ∧
          hcPcktSrcsMap = withSources env starter.config starter.host.hcPcktSrcsMap ∧
          hcPcktMacs = withMacs starter.config starter.host.hcPcktMacs) := by
  rcases returns_onlyIf.mp returned with ⟨_, returned⟩ | ⟨disabled, rfl⟩
  · obtain ⟨_, ipv4, rest⟩ := returns_all_cons.mp returned
    obtain ⟨_, ipv6, rest⟩ := returns_all_cons.mp rest
    obtain ⟨_, main, rest⟩ := returns_all_cons.mp rest
    obtain ⟨_, direct, done⟩ := returns_all_cons.mp rest
    obtain rfl := returns_bpfUpdateMap ipv4
    obtain rfl := returns_bpfUpdateMap ipv6
    obtain rfl := returns_bpfUpdateMap main
    obtain rfl := returns_pass.mp done
    have indices : ∀ position ∈ [kIpv4TunPos, kIpv6TunPos, kMainIntfPos],
        Function.update (Function.update (Function.update starter.host.hcCtrlMap kIpv4TunPos
          (starter.ifindex kIpv4TunPos)) kIpv6TunPos (starter.ifindex kIpv6TunPos)) kMainIntfPos
            (starter.ifindex kMainIntfPos) position = starter.ifindex position := by
      intro position member
      simp only [List.mem_cons, List.not_mem_nil, or_false] at member
      rcases member with rfl | rfl | rfl <;> rfl
    rcases returns_onlyIf.mp direct with ⟨_, returned⟩ | ⟨disabled, rfl⟩
    · obtain ⟨six, valid, rfl⟩ := returns_setupHcEnvironment returned
      exact ⟨_, _, _, rfl, fun _ => indices, fun _ _ => ⟨six, valid, rfl, rfl⟩⟩
    · refine ⟨_, _, _, rfl, fun _ => indices, ?_⟩
      intro _ enabled
      cases disabled.symm.trans enabled
  · refine ⟨_, _, _, rfl, ?_, ?_⟩
    · intro enabled
      cases disabled.symm.trans enabled
    · intro enabled
      cases disabled.symm.trans enabled

/-- If the loading returns, everything has been loaded and written. -/
theorem returns_loadBpfProgs (returned : Returns (loadBpfProgs env) starter after) :
    LoadedAs env starter after := by
  obtain ⟨_, balancer, rest⟩ := returns_all_cons.mp returned
  obtain ⟨_, healthchecker, rest⟩ := returns_all_cons.mp rest
  obtain ⟨_, checks, rest⟩ := returns_all_cons.mp rest
  obtain ⟨_, discovers, rest⟩ := returns_all_cons.mp rest
  obtain ⟨_, gue, rest⟩ := returns_all_cons.mp rest
  obtain ⟨_, recirculation, rest⟩ := returns_all_cons.mp rest
  obtain ⟨_, ctl, rest⟩ := returns_all_cons.mp rest
  obtain ⟨_, checking, rest⟩ := returns_all_cons.mp rest
  obtain ⟨_, loads, rest⟩ := returns_all_cons.mp rest
  obtain ⟨_, attaches, done⟩ := returns_all_cons.mp rest
  obtain rfl := returns_pass.mp done
  obtain ⟨lrus, loader, rfl, initialised⟩ := returns_loading balancer healthchecker
  obtain ⟨sane, rfl⟩ := returns_initialSanityChecking checks
  obtain rfl := returns_modify.mp discovers
  obtain ⟨pcktSrcs, katranSubprograms, ctlMac, rfl, ctl, sources, programs⟩ :=
    returns_setupForwarding gue recirculation ctl
  obtain ⟨hcCtrlMap, hcPcktSrcsMap, hcPcktMacs, rfl, indices, direct⟩ :=
    returns_setupHealthchecks checking
  obtain rfl := returns_modify.mp loads
  have mapping : ∃ later lruMapsMapping, after = { starter with
      lrus := later, loader := loader, progsLoaded := true
      features := discovered starter.features loader
      host := { starter.host with
        pcktSrcs := pcktSrcs, katranSubprograms := katranSubprograms, ctlMac := ctlMac
        hcCtrlMap := hcCtrlMap, hcPcktSrcsMap := hcPcktSrcsMap, hcPcktMacs := hcPcktMacs
        lruMapsMapping := lruMapsMapping } } ∧
      (starter.config.disableForwarding = false →
        Lrus.attachLrus env.lrus starter.config.lrus true lrus = some (later, lruMapsMapping)) := by
    rcases returns_onlyIf.mp attaches with ⟨_, returned⟩ | ⟨disabled, rfl⟩
    · obtain ⟨later, lruMapsMapping, attached, rfl⟩ := returns_attachLrus returned
      exact ⟨later, lruMapsMapping, rfl, fun _ => attached⟩
    · refine ⟨_, _, rfl, ?_⟩
      intro forwarding
      change (!starter.config.disableForwarding) = false at disabled
      rw [forwarding] at disabled
      cases disabled
  obtain ⟨later, lruMapsMapping, rfl, attached⟩ := mapping
  have forwarding (enabled : starter.config.disableForwarding = false) :
      (!starter.config.disableForwarding) = true := by
    rw [enabled]
    rfl
  exact {
    config := rfl
    ifindex := rfl
    mac := rfl
    standalone := rfl
    progsAttached := rfl
    progsLoaded := rfl
    sane := ⟨sane.balancer, sane.healthchecker, sane.maps⟩
    lrus := fun enabled => ⟨lrus, initialised enabled, attached enabled⟩
    ctl := fun enabled => ctl (forwarding enabled)
    gue := fun enabled present => sources (forwarding enabled)
      (by simp only [discovered, decide_eq_true present, Bool.or_true])
    recirculation := fun enabled present => programs (forwarding enabled)
      (by simp only [discovered, decide_eq_true present, Bool.or_true])
    hcCtrl := indices
    direct := fun enabled present => by
      have feature : (discovered starter.features loader).directHealthchecking = true := by
        simp only [discovered, decide_eq_true present, Bool.or_true]
      exact ⟨feature, direct enabled feature⟩
    xdp := rfl
    tcEgress := rfl
    rootArray := rfl }

private theorem returns_resolve {position : Nat} {interface : Starter → String} {what : String}
    (returned : Returns (resolve env position interface what) starter after) :
    env.getInterfaceIndex (interface starter) ≠ 0 ∧
      after = { starter with
        ifindex := Function.update starter.ifindex position
          (env.getInterfaceIndex (interface starter)) } := by
  unfold resolve at returned
  rw [returns_bind] at returned
  dsimp only at returned
  split at returned
  · exact (not_returns_fail returned).elim
  next known => exact ⟨known, returns_modify.mp returned⟩

/-- The configuration with the interface for health checks, which is the main one if none is
given. -/
def completed (config : StartConfig) : StartConfig :=
  { config with
    hcInterface := if config.hcInterface = "" then config.mainInterface else config.hcInterface }

private theorem completed_eq (config : StartConfig) : completed config =
    if config.hcInterface = "" then { config with hcInterface := config.mainInterface }
    else config := by
  unfold completed
  split <;> rfl

/-- The balancer after its constructor has returned. -/
structure ConstructedAs (env : StartEnv) (config : StartConfig) (host : Host) (made : Starter) :
    Prop where
  configured : made.config = completed config
  standalone : made.standalone = decide (config.rootMapPath = "")
  progsLoaded : made.progsLoaded = false
  progsAttached : made.progsAttached = false
  rootMapFd : made.rootMapFd = env.strayRootMapFd
  hosted : made.host = host
  six : config.defaultMac.length = 6
  mac : made.mac = config.defaultMac
  main : made.ifindex kMainIntfPos = env.getInterfaceIndex config.mainInterface
  healthchecks : config.enableHc = true →
    made.ifindex kHcIntfPos = env.getInterfaceIndex (completed config).hcInterface ∧
    made.ifindex kIpv4TunPos = env.getInterfaceIndex config.v4TunInterface ∧
    made.ifindex kIpv6TunPos = env.getInterfaceIndex config.v6TunInterface
  mainKnown : env.getInterfaceIndex config.mainInterface ≠ 0
  hcKnown : config.enableHc = true →
    env.getInterfaceIndex (completed config).hcInterface ≠ 0 ∧
    env.getInterfaceIndex config.v4TunInterface ≠ 0 ∧
    env.getInterfaceIndex config.v6TunInterface ≠ 0

/-- The first two lines of the constructor. -/
theorem returns_settle {config : StartConfig} {host : Host} {first second : Starter}
    (roots : Returns (modify fun starter : Starter => if starter.config.rootMapPath ≠ "" then
      { starter with standalone := false } else starter : Procedure) (begin env config host) first)
    (defaults : Returns (modify fun starter : Starter => if starter.config.hcInterface = "" then
      { starter with config := { starter.config with hcInterface := starter.config.mainInterface } }
      else starter : Procedure) first second) :
    second = { begin env config host with
      config := completed config, standalone := decide (config.rootMapPath = "") } := by
  have settled := returns_modify.mp defaults
  rw [returns_modify.mp roots] at settled
  rw [settled, completed_eq]
  unfold begin
  by_cases shared : config.rootMapPath = "" <;> by_cases given : config.hcInterface = ""
  · simp only [shared, given, ne_eq, not_true_eq_false, ↓reduceIte, decide_true]
  · simp only [shared, given, ne_eq, not_true_eq_false, ↓reduceIte, decide_true]
  · simp only [shared, given, ne_eq, not_false_eq_true, ↓reduceIte, decide_false]
  · simp only [shared, given, ne_eq, not_false_eq_true, ↓reduceIte, decide_false]

/-- If the constructor returns, the balancer is as configured. -/
theorem returns_construct {config : StartConfig} {host : Host} {made : Starter}
    (serving : config.testing = false)
    (returned : Returns (construct env) (begin env config host) made) :
    ConstructedAs env config host made := by
  obtain ⟨_, roots, rest⟩ := returns_all_cons.mp returned
  obtain ⟨_, defaults, rest⟩ := returns_all_cons.mp rest
  obtain ⟨_, resolves, done⟩ := returns_all_cons.mp rest
  obtain rfl := returns_pass.mp done
  obtain rfl := returns_settle roots defaults
  rw [returns_bind, if_neg (by rw [show (completed config).testing = false from serving]; nofun)]
    at resolves
  obtain ⟨_, addresses, rest⟩ := returns_all_cons.mp resolves
  obtain ⟨_, healthchecks, rest⟩ := returns_all_cons.mp rest
  obtain ⟨_, main, done⟩ := returns_all_cons.mp rest
  obtain rfl := returns_pass.mp done
  rw [returns_bind] at addresses
  split at addresses
  · exact (not_returns_fail addresses).elim
  next six =>
    obtain rfl := returns_modify.mp addresses
    rw [returns_bind] at healthchecks
    split at healthchecks
    next enabled =>
      obtain ⟨_, hc, rest⟩ := returns_all_cons.mp healthchecks
      obtain ⟨_, ipv4, rest⟩ := returns_all_cons.mp rest
      obtain ⟨_, ipv6, done⟩ := returns_all_cons.mp rest
      obtain rfl := returns_pass.mp done
      obtain ⟨hcKnown, rfl⟩ := returns_resolve hc
      obtain ⟨ipv4Known, rfl⟩ := returns_resolve ipv4
      obtain ⟨ipv6Known, rfl⟩ := returns_resolve ipv6
      obtain ⟨mainKnown, rfl⟩ := returns_resolve main
      exact ⟨rfl, rfl, rfl, rfl, rfl, rfl, Decidable.not_not.mp six, rfl, rfl,
        fun _ => ⟨rfl, rfl, rfl⟩, mainKnown, fun _ => ⟨hcKnown, ipv4Known, ipv6Known⟩⟩
    next disabled =>
      obtain rfl := returns_pass.mp healthchecks
      obtain ⟨mainKnown, rfl⟩ := returns_resolve main
      exact ⟨rfl, rfl, rfl, rfl, rfl, rfl, Decidable.not_not.mp six, rfl, rfl,
        fun enabled => (disabled enabled).elim, mainKnown, fun enabled => (disabled enabled).elim⟩

/-- Every source address that is given is in the map, under its family, and one is. -/
def Sourced (env : StartEnv) (config : StartConfig) (srcs : Nat → HcRealDefinition) : Prop :=
  (config.katranSrcV4 ≠ "" ∨ config.katranSrcV6 ≠ "") ∧
  (config.katranSrcV4 ≠ "" → ∃ src, env.folly.parse config.katranSrcV4 = some src ∧
    srcs kSrcV4Pos = parseAddrToBeaddr src true) ∧
  (config.katranSrcV6 ≠ "" → ∃ src, env.folly.parse config.katranSrcV6 = some src ∧
    srcs kSrcV6Pos = parseAddrToBeaddr src true)

/-- The maps of the forwarding program hold the configuration. -/
structure ForwardsAs (env : StartEnv) (config : StartConfig) (after : Starter) : Prop where
  program : 0 ≤ after.getKatranProgFd
  ctl : after.host.ctlMac = config.defaultMac ∧ config.defaultMac.length = 6
  gue : 0 ≤ after.loader.getMapFdByName "pckt_srcs" → Sourced env config after.host.pcktSrcs
  recirculation : 0 ≤ after.loader.getMapFdByName "decap_dst" →
    after.host.katranSubprograms kRecirculationIndex = some after.getKatranProgFd
  lrus : ∃ lrus, Lrus.initLrus env.lrus config.lrus = some lrus ∧
    Lrus.attachLrus env.lrus config.lrus true lrus = some (after.lrus, after.host.lruMapsMapping)

/-- The maps of the program for health checks hold the configuration. -/
structure ChecksAs (env : StartEnv) (config : StartConfig) (after : Starter) : Prop where
  program : 0 ≤ after.getHealthcheckerProgFd
  interfaces : ∀ position name, (position, name) ∈ [(kIpv4TunPos, config.v4TunInterface),
      (kIpv6TunPos, config.v6TunInterface), (kMainIntfPos, config.mainInterface)] →
    after.host.hcCtrlMap position = env.getInterfaceIndex name ∧
      after.host.hcCtrlMap position ≠ 0
  direct : 0 ≤ after.loader.getMapFdByName "hc_pckt_srcs_map" →
    Sourced env config after.host.hcPcktSrcsMap ∧
    after.host.hcPcktMacs kHcSrcMacPos = config.localMac ∧ config.localMac.length = 6 ∧
    after.host.hcPcktMacs kHcDstMacPos = config.defaultMac ∧ config.defaultMac.length = 6

private theorem ValidSources.sourced {config : StartConfig} (valid : ValidSources env config)
    (srcs : Nat → HcRealDefinition) : Sourced env config (withSources env config srcs) :=
  ⟨valid.some, valid.entered srcs⟩

/-- A balancer that forwards has been loaded as configured. -/
theorem ConstructedAs.forwards {config : StartConfig} {host : Host} {made : Starter}
    (constructed : ConstructedAs env config host made) (loaded : LoadedAs env made after)
    (forwarding : config.disableForwarding = false) : ForwardsAs env config after := by
  obtain ⟨configured, _, _, _, _, _, six, mac, _, _, _, _⟩ := constructed
  have enabled : made.config.disableForwarding = false := by rw [configured]; exact forwarding
  refine ⟨loaded.sane.balancer (by rw [loaded.config]; exact enabled),
    ⟨(loaded.ctl enabled).trans mac, six⟩, ?_, loaded.recirculation enabled, ?_⟩
  · intro present
    obtain ⟨valid, entered⟩ := loaded.gue enabled present
    rw [configured] at valid entered
    have valid : ValidSources env config := ⟨valid.some, valid.v4, valid.v6⟩
    rw [entered]
    exact valid.sourced made.host.pcktSrcs
  · obtain ⟨lrus, initialised, attached⟩ := loaded.lrus enabled
    rw [configured] at initialised attached
    exact ⟨lrus, initialised, attached⟩

private theorem ConstructedAs.checks {config : StartConfig} {host : Host} {made : Starter}
    (constructed : ConstructedAs env config host made) (loaded : LoadedAs env made after)
    (checking : config.enableHc = true) : ChecksAs env config after := by
  have enabled : made.config.enableHc = true := by rw [constructed.configured]; exact checking
  have indices := loaded.hcCtrl enabled
  obtain ⟨_, ipv4, ipv6⟩ := constructed.healthchecks checking
  obtain ⟨_, ipv4Known, ipv6Known⟩ := constructed.hcKnown checking
  refine ⟨loaded.sane.healthchecker (by rw [loaded.config]; exact enabled), ?_, ?_⟩
  · intro position name listed
    simp only [List.mem_cons, List.not_mem_nil, or_false, Prod.mk.injEq] at listed
    rcases listed with ⟨rfl, rfl⟩ | ⟨rfl, rfl⟩ | ⟨rfl, rfl⟩
    · rw [indices kIpv4TunPos (by decide), ipv4]
      exact ⟨rfl, ipv4Known⟩
    · rw [indices kIpv6TunPos (by decide), ipv6]
      exact ⟨rfl, ipv6Known⟩
    · rw [indices kMainIntfPos (by decide), constructed.main]
      exact ⟨rfl, constructed.mainKnown⟩
  · intro present
    obtain ⟨_, six, valid, sources, macs⟩ := loaded.direct enabled present
    rw [constructed.configured] at six valid sources macs
    have valid : ValidSources env config := ⟨valid.some, valid.v4, valid.v6⟩
    rw [sources, macs]
    exact ⟨valid.sourced made.host.hcPcktSrcsMap, rfl, six, rfl, constructed.six⟩

/-- **A balancer is loaded as it is configured.** Whatever the system answers: if the
constructor and loading have returned, the programs are there, the maps hold what the
configuration says, and the hooks are as they were. -/
theorem loaded_as_configured {config : StartConfig} {host : Host} {made after : Starter}
    (serving : config.testing = false)
    (constructed : Returns (construct env) (begin env config host) made)
    (loaded : Returns (loadBpfProgs env) made after) :
    (config.disableForwarding = false → ForwardsAs env config after) ∧
      (config.enableHc = true → ChecksAs env config after) ∧
      (∀ name ∈ requiredMaps config, 0 ≤ after.loader.getMapFdByName name) ∧
      after.host.xdp = host.xdp ∧ after.host.tcEgress = host.tcEgress ∧
      after.host.rootArray = host.rootArray := by
  have constructed := returns_construct serving constructed
  have loaded := returns_loadBpfProgs loaded
  refine ⟨constructed.forwards loaded, constructed.checks loaded, ?_, ?_, ?_, ?_⟩
  · have maps := loaded.sane.maps
    rw [loaded.config, constructed.configured] at maps
    exact maps
  · rw [loaded.xdp, constructed.hosted]
  · rw [loaded.tcEgress, constructed.hosted]
  · rw [loaded.rootArray, constructed.hosted]

/-- A kernel without programs and entries. -/
def emptyHost : Host where
  ctlMac := []
  hcCtrlMap := fun _ => 0
  pcktSrcs := fun _ => ⟨⟨0, 0, 0, 0⟩, 0⟩
  hcPcktSrcsMap := fun _ => ⟨⟨0, 0, 0, 0⟩, 0⟩
  hcPcktMacs := fun _ => []
  katranSubprograms := fun _ => none
  lruMapsMapping := fun _ => none
  xdp := fun _ => none
  tcEgress := fun _ _ => []
  rootArray := fun _ _ => none

/-- The forwarding program, with its maps. -/
def balancerObject : BpfObject :=
  ⟨["xdp-balancer"], ["ctl_array", "vip_map", "ch_rings", "reals", "stats", "lru_maps_mapping",
    "quic_mapping", "decap_dst", "katran_subprograms", "pckt_srcs"], by decide⟩

/-- The program for health checks, with its maps. -/
def healthcheckingObject : BpfObject :=
  ⟨["cls-hc"], ["hc_ctrl_map", "hc_reals_map", "hc_stats_map", "hc_pckt_srcs_map",
    "hc_pckt_macs"], by decide⟩

/-- A system on which everything succeeds, with three interfaces. -/
def orderlyStart : StartEnv where
  folly := .small
  getInterfaceIndex := fun name =>
    if name = "eth0" then 2 else if name = "ipip" then 3 else if name = "ip6tnl" then 4 else 0
  balancer := BpfLoader.obliging 100
  balancerObject := some balancerObject
  healthchecking := BpfLoader.obliging 200
  healthcheckingObject := some healthcheckingObject
  lrus := Lrus.orderlyEnv
  succeeds := fun _ => true
  getPinnedBpfObject := fun _ => 7
  strayRootMapFd := 0

/-- A configuration that forwards and sends health checks. -/
def smallConfig : StartConfig where
  mainInterface := "eth0"
  v4TunInterface := "ipip"
  v6TunInterface := "ip6tnl"
  balancerProgPath := "balancer_kern.o"
  healthcheckingProgPath := "healthchecking.o"
  defaultMac := [0, 0, 0x5e, 0, 0x53, 1]
  localMac := [0, 0, 0x5e, 0, 0x53, 2]
  katranSrcV4 := "10.0.0.1"

/-- The balancer after it has been started with it. -/
def started : Starter := (construct orderlyStart (begin orderlyStart smallConfig emptyHost)).2

/-- A small balancer forwards and sends health checks as configured. -/
theorem loaded_as_configured_small :
    ForwardsAs orderlyStart smallConfig (loadBpfProgs orderlyStart started).2 ∧
      ChecksAs orderlyStart smallConfig (loadBpfProgs orderlyStart started).2 := by
  have constructed : Returns (construct orderlyStart)
      (begin orderlyStart smallConfig emptyHost) started := Prod.ext (by decide +kernel) rfl
  have loaded : Returns (loadBpfProgs orderlyStart) started
      (loadBpfProgs orderlyStart started).2 := Prod.ext (by decide +kernel) rfl
  obtain ⟨forwards, checks, _⟩ := loaded_as_configured rfl constructed loaded
  exact ⟨forwards rfl, checks rfl⟩

end Starter

end Katran
