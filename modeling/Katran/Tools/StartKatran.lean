import Katran.Lb.MacHelpers
import Katran.Lb.Startup
import Katran.Tools.Affinitize

/-! # Starting katran on the cores that serve the interrupts

The starter tells the server in one line of text on which cores to forward and on which nodes
these are. The server splits the line into flags, reads the numbers back and creates a table of
connections for each of the cores. So every interrupt of the interface is served by a core that
has a table of its own, on its own node.

The text comes back as it was meant only if no path or name in it has a blank (`Plain`).
-/

namespace Katran

open Foundation UnorderedMap Attempt

/-! ## Arguments -/

/-- The flags of the starter that it hands on. -/
structure StarterFlags where
  hcProg : List Char := []
  balancerProg : List Char := []
  ipipIntf : List Char := "ipip0".toList
  ipip6Intf : List Char := "ipip60".toList
  mapPath : List Char := []
  progPos : Int := 2
  priority : Int := 2307
  shutDelay : Int := 1000
  enableHc : Bool := false
  lruSize : Int := 1000000
  strategy : Int := 2
  intf : List Char := "enp0s3".toList

namespace StarterFlags

/-- No text of the flags has a blank. -/
structure Plain (flags : StarterFlags) : Prop where
  hcProg : ' ' ∉ flags.hcProg
  balancerProg : ' ' ∉ flags.balancerProg
  ipipIntf : ' ' ∉ flags.ipipIntf
  ipip6Intf : ' ' ∉ flags.ipip6Intf
  mapPath : ' ' ∉ flags.mapPath
  intf : ' ' ∉ flags.intf

end StarterFlags

/-- A flag behind others. -/
def flagText (name : String) (value : List Char) : List Char := ' ' :: argument name.toList value

/-- A flag that is true or false, as text. -/
def formatBool (value : Bool) : List Char := if value then "true".toList else "false".toList

/-- The body of the loops of `prepareKatranArgs`: the separator is empty before the first number. -/
def joinNum (state : List Char × List Char) (num : Int) : List Char × List Char :=
  (state.1 ++ state.2 ++ itoa num, if state.2 = [] then [','] else state.2)

namespace Machine

variable (machine : Machine)

/-- The arguments with which the balancer is started. -/
def prepareKatranArgs (flags : StarterFlags) : Option (List Char) := do
  let forwardingCpus ← machine.getAffinitizeMapping flags.intf flags.strategy
  let topology ← machine.getCpuTopology
  let numaNodes ← topology.getNumaListForCpus forwardingCpus
  let args := argument "balancer_prog".toList flags.balancerProg ++ flagText "intf" flags.intf ++
    flagText "hc_forwarding" (formatBool flags.enableHc) ++ flagText "map_path" flags.mapPath ++
    flagText "prog_pos" (itoa flags.progPos) ++ flagText "ipip_intf" flags.ipipIntf ++
    flagText "ipip6_intf" flags.ipip6Intf ++ flagText "priority" (itoa flags.priority) ++
    flagText "lru_size" (itoa flags.lruSize) ++ flagText "shutdown_delay" (itoa flags.shutDelay)
  let args := args ++
    if flags.enableHc then flagText "healthchecker_prog" flags.hcProg else []
  let cpus := (forwardingCpus.map Int.ofNat).foldl joinNum (flagText "forwarding_cores" [], [])
  let numa := numaNodes.foldl joinNum (flagText "numa_nodes" [], [])
  some (args ++ cpus.1 ++ numa.1)

/-- The fifth field of the line that the kernel has for the gateway. -/
def getDefaultMac (out : List Char) : List Char :=
  if out = [] ∨ (fields out).length < 5 then [] else (fields out).getD 4 []

/-- The arguments that `StartKatran` starts the server with, given what is known of the gateway. -/
def startArguments (args neighbor : List Char) : Option (List (List Char)) :=
  if getDefaultMac neighbor = [] then none
  else some ((args ++ flagText "default_mac" (getDefaultMac neighbor)).splitOn ' ')

end Machine

/-! ## The server -/

/-- Conversions of the libraries: `folly::to<int32_t>`, the values of flags, addresses. -/
structure ServerEnv where
  toInt32 : List Char → Option Int
  intFlag : List Char → Option Int
  boolFlag : List Char → Option Bool
  parseMac : ParseMac

/-- Decimal numbers are read as what they are, or not at all. -/
structure ServerEnv.Exact (env : ServerEnv) : Prop where
  toInt32 : ∀ num value, env.toInt32 (itoa num) = some value → value = num
  intFlag : ∀ num value, env.intFlag (itoa num) = some value → value = num

/-- The value of a flag for a text. -/
def textFlag (arguments : List (List Char)) (name default : String) : List Char :=
  (flagValue name.toList arguments).getD default.toList

/-- The value of a flag for a number; a value that is none ends the program. -/
def ServerEnv.numberFlag (env : ServerEnv) (arguments : List (List Char)) (name : String)
    (default : Int) : Option Int :=
  ((flagValue name.toList arguments).map env.intFlag).getD (some default)

/-- The value of a flag for a choice. -/
def ServerEnv.switchFlag (env : ServerEnv) (arguments : List (List Char)) (name : String)
    (default : Bool) : Option Bool :=
  ((flagValue name.toList arguments).map env.boolFlag).getD (some default)

/-- The configuration that the server makes of its arguments. -/
def serverConfig (env : ServerEnv) (arguments : List (List Char)) : Option StartConfig := do
  let text (name default : String) : String := String.ofList (textFlag arguments name default)
  let forwardingCores ← readNums env.toInt32 (textFlag arguments "forwarding_cores" "")
  let numaNodes ← readNums env.toInt32 (textFlag arguments "numa_nodes" "")
  let priority ← env.numberFlag arguments "priority" 2307
  let progPos ← env.numberFlag arguments "prog_pos" 2
  let lruSize ← env.numberFlag arguments "lru_size" 8000000
  let hcForwarding ← env.switchFlag arguments "hc_forwarding" true
  some {
    mainInterface := text "intf" "eth0"
    v4TunInterface := text "ipip_intf" "ipip0"
    v6TunInterface := text "ipip6_intf" "ipip60"
    balancerProgPath := text "balancer_prog" "./balancer_kern.o"
    healthcheckingProgPath := text "healthchecker_prog" "./healthchecking_ipip.o"
    defaultMac := convertMacToUint env.parseMac (text "default_mac" "00:00:00:00:00:01")
    priority := (priority % 0x100000000).toNat.toUInt32
    rootMapPath := text "map_path" ""
    rootMapPos := (progPos % 0x100000000).toNat.toUInt32
    enableHc := hcForwarding
    lrus := ⟨(lruSize % 0x10000000000000000).toNat.toUInt64, forwardingCores, numaNodes⟩
    hcInterface := text "hc_intf" "" }

/-! ## What the server is told -/

private theorem foldl_joinNum (nums : List Int) (start : List Char) :
    (nums.foldl joinNum (start, [])).1 = start ++ commaSeparated nums := by
  have later : ∀ (nums : List Int) (text : List Char), nums ≠ [] →
      (nums.foldl joinNum (text, [','])).1 = text ++ ',' :: commaSeparated nums := by
    intro nums
    induction nums with
    | nil => exact fun _ none => absurd rfl none
    | cons num nums ih =>
        intro text _
        by_cases last : nums = []
        · subst last
          simp only [List.foldl_cons, List.foldl_nil, joinNum, commaSeparated, List.map_cons,
            List.map_nil, List.intercalate_singleton, List.append_assoc, List.singleton_append]
        · rw [List.foldl_cons, commaSeparated_cons num last]
          refine (ih _ last).trans ?_
          simp only [List.append_assoc, List.cons_append, List.nil_append]
  cases nums with
  | nil => exact (List.append_nil start).symm
  | cons num nums =>
      by_cases last : nums = []
      · subst last
        simp only [List.foldl_cons, List.foldl_nil, joinNum, commaSeparated, List.map_cons,
          List.map_nil, List.intercalate_singleton, List.append_nil]
      · rw [List.foldl_cons, commaSeparated_cons num last]
        refine (later nums _ last).trans ?_
        simp only [List.append_nil, List.append_assoc]

/-- The parts of a text that is split are without what it was split at. -/
theorem notMem_of_mem_splitOnP {splits : Char → Bool} {text part : List Char}
    (member : part ∈ text.splitOnP splits) {letter : Char} (split : splits letter = true) :
    letter ∉ part := by
  induction text generalizing part with
  | nil =>
      rw [List.splitOnP_nil, List.mem_singleton] at member
      rw [member]
      exact List.not_mem_nil
  | cons first text ih =>
      rw [List.splitOnP_cons_eq_if_modifyHead] at member
      split at member
      next =>
        rcases List.mem_cons.mp member with rfl | later
        · exact List.not_mem_nil
        · exact ih later
      next other =>
        cases parts : text.splitOnP splits with
        | nil =>
            rw [parts] at member
            cases member
        | cons head rest =>
            rw [parts, List.modifyHead_cons] at member
            rcases List.mem_cons.mp member with rfl | later
            · have inHead := ih (parts ▸ List.mem_cons_self : head ∈ text.splitOnP splits)
              rw [List.mem_cons, not_or]
              exact ⟨fun same => other (same ▸ split), inHead⟩
            · exact ih (parts ▸ List.mem_cons_of_mem _ later)

namespace Machine

variable {machine : Machine}

private theorem blank_notMem_getDefaultMac (out : List Char) : ' ' ∉ getDefaultMac out := by
  rw [getDefaultMac]
  split
  next => exact List.not_mem_nil
  next found =>
    rw [not_or, Nat.not_lt] at found
    rw [List.getD_eq_getElem _ _ (by omega)]
    have member := List.getElem_mem (l := fields out) (n := 4) (by omega)
    exact notMem_of_mem_splitOnP (List.mem_filter.mp member).1 rfl

end Machine

/-- The flags that the server is given in front of the size of its tables. -/
def StarterFlags.first (flags : StarterFlags) : List (List Char × List Char) :=
  [("balancer_prog".toList, flags.balancerProg), ("intf".toList, flags.intf),
    ("hc_forwarding".toList, formatBool flags.enableHc), ("map_path".toList, flags.mapPath),
    ("prog_pos".toList, itoa flags.progPos), ("ipip_intf".toList, flags.ipipIntf),
    ("ipip6_intf".toList, flags.ipip6Intf), ("priority".toList, itoa flags.priority)]

/-- What the server is told only for health checks. -/
def StarterFlags.checks (flags : StarterFlags) : List (List Char × List Char) :=
  if flags.enableHc then [("healthchecker_prog".toList, flags.hcProg)] else []

/-- The flags that the server is given, with their values. -/
def StarterFlags.told (flags : StarterFlags) (cpus nodes : List Int) (mac : List Char) :
    List (List Char × List Char) :=
  flags.first ++ ("lru_size".toList, itoa flags.lruSize) ::
    ("shutdown_delay".toList, itoa flags.shutDelay) :: (flags.checks ++
      [("forwarding_cores".toList, commaSeparated cpus),
        ("numa_nodes".toList, commaSeparated nodes), ("default_mac".toList, mac)])

namespace StarterFlags

variable {flags : StarterFlags} {cpus nodes : List Int} {mac : List Char}

/-- The names of the flags can be given in arguments. -/
theorem isFlagName : ∀ name ∈ ["balancer_prog", "intf", "hc_forwarding", "map_path", "prog_pos",
    "ipip_intf", "ipip6_intf", "priority", "lru_size", "shutdown_delay", "healthchecker_prog",
    "forwarding_cores", "numa_nodes", "default_mac"], IsFlagName name.toList := by
  decide

private theorem Plain.first (plain : flags.Plain) :
    ∀ flag ∈ flags.first, IsFlagName flag.1 ∧ ' ' ∉ flag.2 := by
  have number (num : Int) : ' ' ∉ itoa num := notMem_itoa rfl (by decide) num
  have bool : ' ' ∉ formatBool flags.enableHc := by
    cases flags.enableHc with
    | false => decide
    | true => decide
  intro flag member
  simp only [StarterFlags.first, List.mem_cons, List.not_mem_nil, or_false] at member
  rcases member with rfl | rfl | rfl | rfl | rfl | rfl | rfl | rfl
  · exact ⟨isFlagName "balancer_prog" (by decide), plain.balancerProg⟩
  · exact ⟨isFlagName "intf" (by decide), plain.intf⟩
  · exact ⟨isFlagName "hc_forwarding" (by decide), bool⟩
  · exact ⟨isFlagName "map_path" (by decide), plain.mapPath⟩
  · exact ⟨isFlagName "prog_pos" (by decide), number _⟩
  · exact ⟨isFlagName "ipip_intf" (by decide), plain.ipipIntf⟩
  · exact ⟨isFlagName "ipip6_intf" (by decide), plain.ipip6Intf⟩
  · exact ⟨isFlagName "priority" (by decide), number _⟩

private theorem Plain.told (plain : flags.Plain) (macPlain : ' ' ∉ mac) (cpus nodes : List Int) :
    ∀ flag ∈ flags.told cpus nodes mac, IsFlagName flag.1 ∧ ' ' ∉ flag.2 := by
  have number (num : Int) : ' ' ∉ itoa num := notMem_itoa rfl (by decide) num
  have numbers (nums : List Int) : ' ' ∉ commaSeparated nums :=
    notMem_commaSeparated rfl (by decide) (by decide) nums
  rw [StarterFlags.told, List.forall_mem_append, List.forall_mem_cons, List.forall_mem_cons,
    List.forall_mem_append]
  refine ⟨plain.first, ⟨isFlagName "lru_size" (by decide), number _⟩,
    ⟨isFlagName "shutdown_delay" (by decide), number _⟩, ?_, ?_⟩
  · rw [StarterFlags.checks]
    split
    · rw [List.forall_mem_singleton]
      exact ⟨isFlagName "healthchecker_prog" (by decide), plain.hcProg⟩
    · exact nofun
  · rw [List.forall_mem_cons, List.forall_mem_cons, List.forall_mem_singleton]
    exact ⟨⟨isFlagName "forwarding_cores" (by decide), numbers _⟩,
      ⟨isFlagName "numa_nodes" (by decide), numbers _⟩,
      isFlagName "default_mac" (by decide), macPlain⟩

/-- The line of text holds these flags. -/
theorem startArguments_eq {machine : Machine} {args neighbor : List Char}
    {arguments : List (List Char)} (prepared : machine.prepareKatranArgs flags = some args)
    (given : Machine.startArguments args neighbor = some arguments) :
    ∃ (forwardingCpus : List Nat) (topology : Machine.CpuTopology) (numaNodes : List Int),
      machine.getAffinitizeMapping flags.intf flags.strategy = some forwardingCpus ∧
      machine.getCpuTopology = some topology ∧
      topology.getNumaListForCpus forwardingCpus = some numaNodes ∧
      arguments = (commandLine (flags.told (forwardingCpus.map Int.ofNat) numaNodes
        (Machine.getDefaultMac neighbor))).splitOn ' ' := by
  obtain ⟨forwardingCpus, mapped, rest⟩ := Option.bind_eq_some_iff.mp prepared
  obtain ⟨topology, read, rest⟩ := Option.bind_eq_some_iff.mp rest
  obtain ⟨numaNodes, nodes, rest⟩ := Option.bind_eq_some_iff.mp rest
  refine ⟨forwardingCpus, topology, numaNodes, mapped, read, nodes, ?_⟩
  rw [Machine.startArguments] at given
  split at given
  · cases given
  · obtain rfl := Option.some.inj given
    obtain rfl := Option.some.inj rest
    refine congrArg (List.splitOn ' ') ?_
    rw [foldl_joinNum, foldl_joinNum]
    have check : (if flags.enableHc then flagText "healthchecker_prog" flags.hcProg else []) =
        flags.checks.flatMap fun flag => ' ' :: argument flag.1 flag.2 := by
      rw [checks]
      split
      · simp only [List.flatMap_cons, List.flatMap_nil, List.append_nil, flagText]
      · rfl
    rw [check]
    simp only [StarterFlags.told, first, List.append_assoc, List.cons_append, commandLine_cons,
      List.nil_append, List.flatMap_append, List.flatMap_cons, List.flatMap_nil, flagText, argument,
      List.append_nil]

/-- The values that the server finds for the size of its tables, the cores and the nodes. -/
theorem Plain.flagValue (plain : flags.Plain) (macPlain : ' ' ∉ mac) (cpus nodes : List Int) :
    let arguments := (commandLine (flags.told cpus nodes mac)).splitOn ' '
    Foundation.flagValue "lru_size".toList arguments = some (itoa flags.lruSize) ∧
      Foundation.flagValue "forwarding_cores".toList arguments = some (commaSeparated cpus) ∧
      Foundation.flagValue "numa_nodes".toList arguments = some (commaSeparated nodes) := by
  have valid := plain.told macPlain cpus nodes
  have different : ∀ pair ∈ [("shutdown_delay", "lru_size"), ("healthchecker_prog", "lru_size"),
      ("forwarding_cores", "lru_size"), ("numa_nodes", "lru_size"), ("default_mac", "lru_size"),
      ("numa_nodes", "forwarding_cores"), ("default_mac", "forwarding_cores"),
      ("default_mac", "numa_nodes")], pair.1.toList ≠ pair.2.toList := by
    decide
  refine ⟨?_, ?_, ?_⟩
  · apply flagValue_commandLine valid
    rw [List.forall_mem_cons, List.forall_mem_append, List.forall_mem_cons, List.forall_mem_cons,
      List.forall_mem_singleton]
    refine ⟨different ("shutdown_delay", _) (by decide), ?_,
      different ("forwarding_cores", _) (by decide), different ("numa_nodes", _) (by decide),
      different ("default_mac", _) (by decide)⟩
    rw [checks]
    split
    · rw [List.forall_mem_singleton]
      exact different ("healthchecker_prog", _) (by decide)
    · exact nofun
  · have whole : flags.told cpus nodes mac = (flags.first ++
        ("lru_size".toList, itoa flags.lruSize) ::
        ("shutdown_delay".toList, itoa flags.shutDelay) :: flags.checks) ++
        ("forwarding_cores".toList, commaSeparated cpus) ::
          [("numa_nodes".toList, commaSeparated nodes), ("default_mac".toList, mac)] := by
      simp only [StarterFlags.told, List.append_assoc, List.cons_append]
    rw [whole] at valid ⊢
    apply flagValue_commandLine valid
    rw [List.forall_mem_cons, List.forall_mem_singleton]
    exact ⟨different ("numa_nodes", _) (by decide), different ("default_mac", _) (by decide)⟩
  · have whole : flags.told cpus nodes mac = (flags.first ++
        ("lru_size".toList, itoa flags.lruSize) ::
        ("shutdown_delay".toList, itoa flags.shutDelay) :: (flags.checks ++
          [("forwarding_cores".toList, commaSeparated cpus)])) ++
        ("numa_nodes".toList, commaSeparated nodes) :: [("default_mac".toList, mac)] := by
      simp only [StarterFlags.told, List.append_assoc, List.cons_append, List.nil_append]
    rw [whole] at valid ⊢
    apply flagValue_commandLine valid
    rw [List.forall_mem_singleton]
    exact different ("default_mac", _) (by decide)

/-- What the server makes of these flags. -/
theorem Plain.serverConfig (plain : flags.Plain) (macPlain : ' ' ∉ mac) {env : ServerEnv}
    (exact : env.Exact) {config : StartConfig}
    (read : Katran.serverConfig env ((commandLine (flags.told cpus nodes mac)).splitOn ' ') =
      some config) :
    config.lrus = ⟨(flags.lruSize % 0x10000000000000000).toNat.toUInt64, cpus, nodes⟩ ∧
      config.testing = false ∧ config.disableForwarding = false := by
  obtain ⟨size, cores, numa⟩ := plain.flagValue macPlain cpus nodes
  obtain ⟨forwardingCores, readCores, rest⟩ := Option.bind_eq_some_iff.mp read
  obtain ⟨numaNodes, readNodes, rest⟩ := Option.bind_eq_some_iff.mp rest
  obtain ⟨priority, _, rest⟩ := Option.bind_eq_some_iff.mp rest
  obtain ⟨progPos, _, rest⟩ := Option.bind_eq_some_iff.mp rest
  obtain ⟨lruSize, readSize, rest⟩ := Option.bind_eq_some_iff.mp rest
  obtain ⟨hcForwarding, _, rest⟩ := Option.bind_eq_some_iff.mp rest
  obtain rfl := Option.some.inj rest
  rw [textFlag, cores, Option.getD_some] at readCores
  rw [textFlag, numa, Option.getD_some] at readNodes
  rw [ServerEnv.numberFlag, size, Option.map_some, Option.getD_some] at readSize
  obtain rfl := eq_of_readNums exact.toInt32 readCores
  obtain rfl := eq_of_readNums exact.toInt32 readNodes
  obtain rfl := exact.intFlag _ _ readSize
  exact ⟨rfl, rfl, rfl⟩

end StarterFlags

/-! ## Tables of the cores -/

namespace Lrus

variable {env : LruEnv} {config : LruConfig} {lrus after : Lrus}

/-- Tables are created on the nodes that are listed with their cores. -/
theorem created_of_initCores {size flags : Nat} {pairs : List (Int × Int)}
    (returned : initCores env size flags pairs lrus = some after) :
    ∀ lru ∈ after.created, lru ∈ lrus.created ∨ ∃ pair ∈ pairs,
      lru.core = some pair.1 ∧ lru.numaNode = pair.2 ∧ lru.mapFlags = flags := by
  induction pairs generalizing lrus with
  | nil =>
      obtain rfl := Option.some.inj returned
      exact fun _ known => .inl known
  | cons pair pairs ih =>
      obtain ⟨core, numaNode⟩ := pair
      rw [initCores] at returned
      split at returned
      next => cases returned
      next =>
        dsimp only [createLruMap] at returned
        split at returned
        next => cases returned
        next =>
          intro lru member
          rcases ih returned lru member with known | ⟨pair, listed, facts⟩
          · rcases List.mem_append.mp known with earlier | new
            · exact .inl earlier
            · rw [List.mem_singleton] at new
              subst new
              exact .inr ⟨_, List.mem_cons_self, rfl, rfl, rfl⟩
          · exact .inr ⟨pair, List.mem_cons_of_mem _ listed, facts⟩

/-- With a node for every core, every table is on the node of its core. -/
theorem nodes_of_initLrus (cores : config.forwardingCores ≠ []) (nodes : config.numaNodes ≠ [])
    (initialised : initLrus env config = some lrus) :
    ∀ lru ∈ lrus.created, ∃ pair ∈ config.forwardingCores.zip config.numaNodes,
      lru.core = some pair.1 ∧ lru.numaNode = pair.2 ∧ lru.mapFlags = kMapNumaNode := by
  rw [initLrus, if_neg cores] at initialised
  split at initialised
  next => cases initialised
  next =>
    obtain ⟨made, returned, prototype⟩ := Option.bind_eq_some_iff.mp initialised
    rw [if_pos nodes, if_pos nodes] at returned
    have same : lrus.created = made.created := by
      obtain ⟨core, rest, listed⟩ := List.exists_cons_of_ne_nil cores
      rw [setPrototype, listed] at prototype
      dsimp only at prototype
      split at prototype
      next => cases prototype
      next =>
        split at prototype
        next => cases prototype
        next =>
          obtain rfl := Option.some.inj prototype
          rfl
    intro lru member
    rw [same] at member
    rcases created_of_initCores returned lru member with none | found
    · cases none
    · exact found

/-- So every core that is listed has a table of its own, on its node. -/
theorem table_of_core {mapping : Int → Option Int} {core : Int}
    (nodes : config.numaNodes ≠ []) (initialised : initLrus env config = some lrus)
    (attached : attachLrus env config true lrus = some (after, mapping))
    (listed : core ∈ config.forwardingCores) :
    ∃ lru ∈ after.created, lru.core = some core ∧ mapping core = some lru.fd ∧ 0 ≤ lru.fd ∧
      lru.maxEntries = config.lruSize.toNat / config.forwardingCores.length % 2 ^ 32 ∧
      lru.mapFlags = kMapNumaNode ∧
      (core, lru.numaNode) ∈ config.forwardingCores.zip config.numaNodes := by
  have cores : config.forwardingCores ≠ [] := List.ne_nil_of_mem listed
  have created := created_initLrus cores initialised
  have attached := attached_attachCores attached
  obtain ⟨lru, known, own, valid, entry⟩ :=
    created.held core listed (attached.inside core listed).2
  obtain ⟨pair, among, ofPair, node, flags⟩ := nodes_of_initLrus cores nodes initialised lru known
  refine ⟨lru, attached.created ▸ known, own, ?_, valid, created.sizes lru known, flags, ?_⟩
  · rw [attached.written, if_pos listed, List.getD_eq_getElem?_getD, entry, Option.getD_some]
  · rw [node, Option.some.inj (own.symm.trans ofPair)]
    exact among

end Lrus

/-! ## Interrupts -/

private theorem lookup_of_getNumaListForCpus {topology : Machine.CpuTopology} {cpus : List Nat}
    {nodes : List Int} (listed : topology.getNumaListForCpus cpus = some nodes) :
    nodes.length = cpus.length ∧ ∀ cpu : Nat, ∀ node,
      (Int.ofNat cpu, node) ∈ (cpus.map Int.ofNat).zip nodes →
        topology.cpu2Numa.lookup cpu = some node := by
  induction cpus generalizing nodes with
  | nil =>
      obtain rfl := Option.some.inj listed
      exact ⟨rfl, nofun⟩
  | cons first cpus ih =>
      rw [Machine.CpuTopology.getNumaListForCpus, List.mapM_cons] at listed
      obtain ⟨node, found, rest⟩ := Option.bind_eq_some_iff.mp listed
      obtain ⟨others, further, same⟩ := Option.bind_eq_some_iff.mp rest
      obtain rfl := Option.some.inj same
      obtain ⟨length, lookups⟩ := ih further
      refine ⟨congrArg Nat.succ length, ?_⟩
      intro cpu another member
      rw [List.map_cons, List.zip_cons_cons] at member
      rcases List.mem_cons.mp member with own | later
      · obtain ⟨core, rfl⟩ := Prod.mk.inj own
        rw [Int.ofNat.inj core]
        exact found
      · exact lookups cpu another later

namespace Machine

variable {machine : Machine}

/-- The cores that serve interrupts are those that the second reading of the host gives. -/
theorem served_of_affinitizeIntf {intf : List Char} {strategy : Int} {files written : Files}
    {cpus : List Nat} (affinitized : machine.affinitizeIntf intf strategy files = some written)
    (mapped : machine.getAffinitizeMapping intf strategy = some cpus) :
    cpus.Nodup ∧ ∃ irqs, machine.getInterfaceIrq intf = some irqs ∧
      ∀ irq ∈ irqs, ∃ cpu ∈ cpus, ServedBy written irq cpu := by
  obtain ⟨known, chosen, found⟩ := Option.bind_eq_some_iff.mp mapped
  obtain ⟨second, again, rfl⟩ := Option.map_eq_some_iff.mp found
  rw [affinitizeIntf, chosen] at affinitized
  obtain ⟨first, done, rfl⟩ := Option.map_eq_some_iff.mp affinitized
  obtain ⟨irqs, topo, listed, read, _, writing⟩ := affinitized_of_affinitize done
  obtain ⟨_, _, listedAgain, readAgain, _, reading⟩ := affinitized_of_affinitize again
  obtain rfl := Option.some.inj (listed.symm.trans listedAgain)
  obtain rfl := Option.some.inj (read.symm.trans readAgain)
  refine ⟨reading.nodup, irqs, listed, ?_⟩
  intro irq member
  obtain ⟨i, cpu, position, picked, served⟩ := writing.served rfl irq member
  have inside := (List.getElem?_eq_some_iff.mp position).1
  exact ⟨cpu, (reading.mem_iff cpu).mpr ⟨i, inside, picked⟩, served⟩

/-- **Every interrupt is served by a core with a table of its own.** The starter affinitizes the
interrupts of an interface by a strategy and starts the server with a line of text, the server
makes its configuration of it, and the library is constructed and loads its programs with that.
If all of this gets through, then no core is listed twice, and for every interrupt of the
interface the kernel lets exactly one core serve it, `lru_maps_mapping` holds for that core a
table that was created for it, on the node of the core, with the core's part of the size that
the starter was given, modulo 2^32. -/
theorem interrupts_served {flags : StarterFlags} {files written : Files}
    {args neighbor : List Char} {arguments : List (List Char)} {server : ServerEnv}
    {config : StartConfig} {env : StartEnv} {host : Host} {made loaded : Starter}
    (affinitized : machine.affinitizeIntf flags.intf flags.strategy files = some written)
    (prepared : machine.prepareKatranArgs flags = some args)
    (given : startArguments args neighbor = some arguments) (plain : flags.Plain)
    (exact : server.Exact) (read : serverConfig server arguments = some config)
    (constructed : Returns (Starter.construct env) (Starter.begin env config host) made)
    (loads : Returns (Starter.loadBpfProgs env) made loaded) :
    config.lrus.forwardingCores.Nodup ∧ ∃ irqs topology,
      machine.getInterfaceIrq flags.intf = some irqs ∧ machine.getCpuTopology = some topology ∧
      ∀ irq ∈ irqs, ∃ cpu : Nat, ServedBy written irq cpu ∧ ∃ lru ∈ loaded.lrus.created,
        lru.core = some (cpu : Int) ∧ loaded.host.lruMapsMapping cpu = some lru.fd ∧
        0 ≤ lru.fd ∧ topology.cpu2Numa.lookup cpu = some lru.numaNode ∧
        lru.mapFlags = kMapNumaNode ∧
        lru.maxEntries = (flags.lruSize % 0x10000000000000000).toNat /
          config.lrus.forwardingCores.length % 2 ^ 32 := by
  obtain ⟨cpus, topology, nodes, mapped, known, placed, rfl⟩ :=
    StarterFlags.startArguments_eq prepared given
  obtain ⟨told, serving, forwarding⟩ :=
    plain.serverConfig (blank_notMem_getDefaultMac neighbor) exact read
  obtain ⟨distinct, irqs, listed, serves⟩ := served_of_affinitizeIntf affinitized mapped
  obtain ⟨lrus, initialised, attached⟩ := ((Starter.returns_construct serving constructed).forwards
    (Starter.returns_loadBpfProgs loads) forwarding).lrus
  obtain ⟨length, lookups⟩ := lookup_of_getNumaListForCpus placed
  rw [told] at initialised attached ⊢
  refine ⟨distinct.map Int.ofNat_injective, irqs, topology, listed, known, ?_⟩
  intro irq member
  obtain ⟨cpu, among, served⟩ := serves irq member
  have some : nodes ≠ [] := by
    intro none
    rw [none, List.length_nil] at length
    rw [List.length_eq_zero_iff.mp length.symm] at among
    cases among
  obtain ⟨lru, created, own, entry, valid, size, numa, node⟩ := Lrus.table_of_core some initialised
    attached (List.mem_map_of_mem among)
  have fits : (flags.lruSize % 0x10000000000000000).toNat < 2 ^ 64 := by omega
  have whole : (flags.lruSize % 0x10000000000000000).toNat.toUInt64.toNat =
      (flags.lruSize % 0x10000000000000000).toNat := Nat.mod_eq_of_lt fits
  rw [whole] at size
  exact ⟨cpu, served, lru, created, own, entry, valid, lookups cpu _ node, numa, size⟩

/-- Conversions that read decimal numbers of 32 and 64 bits. -/
def decimalServer : ServerEnv where
  toInt32 := readInt 0x80000000
  intFlag := readInt 0x8000000000000000
  boolFlag := fun text => if text = "true".toList then some true
    else if text = "false".toList then some false else none
  parseMac := readMac

private theorem decimalServer_exact : decimalServer.Exact :=
  ⟨fun _ _ read => eq_of_readInt_itoa read, fun _ _ read => eq_of_readInt_itoa read⟩

/-- The programs of a balancer without tunnels in user datagrams. -/
def plainStart : StartEnv :=
  { Starter.orderlyStart with
    balancerObject := some ⟨["xdp-balancer"], ["ctl_array", "vip_map", "ch_rings", "reals", "stats",
      "lru_maps_mapping", "quic_mapping"], by decide⟩ }

/-- Flags that start a small balancer. -/
def smallFlags : StarterFlags where
  balancerProg := "b.o".toList
  lruSize := 4000
  intf := "eth0".toList

/-- What the kernel knows of the gateway of a small host. -/
def smallNeighbor : List Char := "10.0.2.2 dev eth0 lladdr 52:54:00:12:35:02 REACHABLE\n".toList

/-- The arguments that they give. -/
def smallArguments : Option (List (List Char)) :=
  (small.prepareKatranArgs smallFlags).bind fun args => startArguments args smallNeighbor

/-- The library, constructed for a configuration. -/
def constructedFor (config : StartConfig) : Option String × Starter :=
  Starter.construct plainStart (Starter.begin plainStart config Starter.emptyHost)

private theorem smallArguments_start :
    (smallArguments.bind (serverConfig decimalServer)).map (fun config =>
    ((constructedFor config).1, (Starter.loadBpfProgs plainStart (constructedFor config).2).1,
      config.lrus.forwardingCores)) = some (none, none, [0, 2, 1, 3]) := by
  decide +kernel

/-- Five interrupts are served by four cores, each of which has a table with 1000 entries. -/
theorem interrupts_served_small : ∃ config written,
    smallArguments.bind (serverConfig decimalServer) = some config ∧
    config.lrus.forwardingCores = [0, 2, 1, 3] ∧
    small.affinitizeIntf "eth0".toList 2 (fun _ => none) = some written ∧
    ∀ irq ∈ [24, 25, 26, 27, 28], ∃ cpu : Nat, ServedBy written irq cpu ∧ ∃ fd,
      (Starter.loadBpfProgs plainStart (constructedFor config).2).2.host.lruMapsMapping cpu =
        some fd := by
  obtain ⟨config, configured, started⟩ := Option.map_eq_some_iff.mp smallArguments_start
  obtain ⟨constructs, rest⟩ := Prod.mk.inj started
  obtain ⟨loads, cores⟩ := Prod.mk.inj rest
  obtain ⟨arguments, prepared, read⟩ := Option.bind_eq_some_iff.mp configured
  obtain ⟨args, prepared, given⟩ := Option.bind_eq_some_iff.mp prepared
  obtain ⟨written, affinitized⟩ := Option.isSome_iff_exists.mp
    (show (small.affinitizeIntf smallFlags.intf 2 fun _ => none).isSome = true by decide +kernel)
  have plain : smallFlags.Plain :=
    ⟨by decide, by decide, by decide, by decide, by decide, by decide⟩
  have constructed : Returns (Starter.construct plainStart)
      (Starter.begin plainStart config Starter.emptyHost) (constructedFor config).2 :=
    Prod.ext constructs rfl
  have loaded : Returns (Starter.loadBpfProgs plainStart) (constructedFor config).2
      (Starter.loadBpfProgs plainStart (constructedFor config).2).2 := Prod.ext loads rfl
  obtain ⟨_, irqs, _, listed, _, serves⟩ := interrupts_served affinitized prepared given plain
    decimalServer_exact read constructed loaded
  have five : small.getInterfaceIrq "eth0".toList = some [24, 25, 26, 27, 28] := by
    decide +kernel
  obtain rfl := Option.some.inj (listed.symm.trans five)
  refine ⟨config, written, configured, cores, affinitized, ?_⟩
  intro irq member
  obtain ⟨cpu, served, lru, _, _, entry, _⟩ := serves irq member
  exact ⟨cpu, served, lru.fd, entry⟩

end Machine

end Katran
