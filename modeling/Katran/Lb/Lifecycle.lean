import Katran.Foundation.Run
import Katran.Lb.Startup

/-! # Attaching and detaching the programs

The forwarding program is put at the main interface, or into a slot of a root array if other
programs share the interface, and the program for health checks becomes a filter at an
interface. Attaching may throw at any point, and may be called again. The destructor removes
the programs only if attaching has returned before.

Whatever was called, and whatever was refused, the hooks are left as they were found
(`hooks_restored`), if removals are not refused and nothing was in the places that the
balancer takes.
-/

namespace Katran

open Foundation Attempt

namespace Host

/-- A program is put at an interface. A negative descriptor takes the program there away. -/
def modifyXdpProg (host : Host) (index : UInt32) (fd : Int) : Host :=
  { host with xdp := Function.update host.xdp index (if fd < 0 then none else some fd) }

/-- The filters of a priority at an interface. -/
def setFilters (host : Host) (index : UInt32) (priority : UInt16) (filters : List Int) : Host :=
  { host with
    tcEgress := Function.update host.tcEgress index
      (Function.update (host.tcEgress index) priority filters) }

/-- Adds a filter at the egress of an interface. -/
def addTcBpfFilter (host : Host) (index : UInt32) (priority : UInt16) (fd : Int) : Host :=
  host.setFilters index priority (host.tcEgress index priority ++ [fd])

/-- Deletes the filters of a priority at the egress of an interface. -/
def deleteTcBpfFilter (host : Host) (index : UInt32) (priority : UInt16) : Host :=
  host.setFilters index priority []

/-- A slot of a root array is filled or emptied. -/
def setRoot (host : Host) (root : Int) (position : UInt32) (entry : Option Int) : Host :=
  { host with
    rootArray := Function.update host.rootArray root
      (Function.update (host.rootArray root) position entry) }

end Host

/-- `xdp_root`: the first program of the array, if there is one. -/
def xdpRoot (array : UInt32 → Option Int) : Option Int :=
  ([0, 1, 2] : List UInt32).findSome? array

/-- A program gets the packets if no slot before its own is taken. -/
theorem xdpRoot_eq {array : UInt32 → Option Int} {position : UInt32} {fd : Int}
    (inside : position.toNat < rootArraySize) (registered : array position = some fd)
    (first : ∀ earlier, earlier < position → array earlier = none) : xdpRoot array = some fd := by
  unfold xdpRoot
  have cases : position = 0 ∨ position = 1 ∨ position = 2 := by
    simp only [← UInt32.toNat_inj, UInt32.reduceToNat]
    unfold rootArraySize at inside
    omega
  rcases cases with rfl | rfl | rfl
  · simp only [List.findSome?_cons, registered]
  · simp only [List.findSome?_cons, registered, first 0 (by decide)]
  · simp only [List.findSome?_cons, registered, first 0 (by decide), first 1 (by decide)]

namespace Starter

/-- `TC_H_MAKE(priority << 16, protocol)` has room for sixteen bits of a priority. -/
def tcPriority (config : StartConfig) : UInt16 := config.priority.toUInt16

variable (env : StartEnv)

/-- What a change of the host makes of the state. -/
def onHost (starter : Starter) (change : Host → Host) : Starter :=
  { starter with host := change starter.host }

/-- The forwarding program is registered in the root array. -/
def registerRoot : Procedure := Attempt.all [
  modify fun starter =>
    { starter with rootMapFd := env.getPinnedBpfObject starter.config.rootMapPath },
  Attempt.bind fun starter =>
    if starter.rootMapFd < 0 then fail "can't get fd of xdp's root map" else pass,
  Attempt.bind fun starter =>
    update (env.succeeds .updateRoot && decide (starter.config.rootMapPos.toNat < rootArraySize))
      "can't register in root array" (·.onHost (·.setRoot starter.rootMapFd
        starter.config.rootMapPos (some starter.getKatranProgFd)))]

/-- The forwarding program is put in its place. -/
def attachMain : Procedure := Attempt.bind fun starter =>
  if starter.standalone then
    update (env.succeeds .modifyXdpProg) "can't attach main bpf prog to main inteface"
      (·.onHost (·.modifyXdpProg (starter.ifindex kMainIntfPos) starter.getKatranProgFd))
  else if starter.config.disableForwarding then pass
  else registerRoot env

/-- The forwarding program is taken out of its place. Errors are ignored. -/
def removeMain (starter : Starter) : Starter :=
  if starter.standalone then
    if env.succeeds .detachXdpProg then
      starter.onHost (·.modifyXdpProg (starter.ifindex kMainIntfPos) (-1))
    else starter
  else
    if env.succeeds .deleteRoot then
      starter.onHost (·.setRoot starter.rootMapFd starter.config.rootMapPos none)
    else starter

/-- The part of `attachBpfProgs` for health checks: a filter that cannot be added throws. -/
def attachHealthchecker : Procedure := Attempt.bind fun starter =>
  if env.succeeds .addTcBpfFilter then
    modify (·.onHost (·.addTcBpfFilter (starter.ifindex kHcIntfPos) (tcPriority starter.config)
      starter.getHealthcheckerProgFd))
  else Attempt.all [
    modify (removeMain env),
    fail "can't attach healthchecking bpf prog to given inteface"]

/-- The programs are attached once they are loaded. -/
def attachBpfProgs : Procedure := Attempt.bind fun starter =>
  if starter.progsLoaded then Attempt.all [
    attachMain env,
    onlyIf (·.config.enableHc) (attachHealthchecker env),
    modify fun starter => { starter with progsAttached := true }]
  else fail "failed to attach bpf prog: prog not loaded"

/-- The destructor. -/
def destroy (starter : Starter) : Starter :=
  if !starter.config.testing && starter.progsAttached then
    let starter := removeMain env starter
    if starter.config.enableHc && env.succeeds .deleteTcBpfFilter then
      starter.onHost (·.deleteTcBpfFilter (starter.ifindex kHcIntfPos) (tcPriority starter.config))
    else starter
  else starter

/-! ## The places of the programs -/

/-- Where the programs of a balancer go. -/
structure Place where
  main : UInt32
  checks : UInt32
  priority : UInt16
  root : Int
  position : UInt32

/-- What is in these places. -/
structure Slots where
  xdp : Option Int
  filters : List Int
  root : Option Int

/-- What some kernel has in the places. -/
def Place.slots (place : Place) (host : Host) : Slots where
  xdp := host.xdp place.main
  filters := host.tcEgress place.checks place.priority
  root := host.rootArray place.root place.position

/-- The hooks are those of another kernel, but for what is in the places. -/
structure Place.Filled (place : Place) (base : Host) (slots : Slots) (host : Host) : Prop where
  xdp : host.xdp = Function.update base.xdp place.main slots.xdp
  filters : host.tcEgress = Function.update base.tcEgress place.checks
    (Function.update (base.tcEgress place.checks) place.priority slots.filters)
  root : host.rootArray = Function.update base.rootArray place.root
    (Function.update (base.rootArray place.root) place.position slots.root)

/-- The hooks are those of another kernel. -/
structure SameHooks (base host : Host) : Prop where
  xdp : host.xdp = base.xdp
  tcEgress : host.tcEgress = base.tcEgress
  rootArray : host.rootArray = base.rootArray

section Places

variable {place : Place} {base host : Host} {slots : Slots}

private theorem Place.filled_slots (same : SameHooks base host) :
    place.Filled base (place.slots base) host where
  xdp := by
    rw [same.xdp]
    exact (Function.update_eq_self ..).symm
  filters := by rw [same.tcEgress, slots, Function.update_eq_self, Function.update_eq_self]
  root := by rw [same.rootArray, slots, Function.update_eq_self, Function.update_eq_self]

private theorem Place.Filled.sameHooks (filled : place.Filled base slots host)
    (xdp : slots.xdp = (place.slots base).xdp)
    (filters : slots.filters = (place.slots base).filters)
    (root : slots.root = (place.slots base).root) : SameHooks base host where
  xdp := by
    rw [filled.xdp, xdp]
    exact Function.update_eq_self ..
  tcEgress := by rw [filled.filters, filters, Place.slots, Function.update_eq_self,
    Function.update_eq_self]
  rootArray := by rw [filled.root, root, Place.slots, Function.update_eq_self,
    Function.update_eq_self]

private theorem Place.Filled.modifyXdpProg (filled : place.Filled base slots host) (fd : Int) :
    place.Filled base { slots with xdp := if fd < 0 then none else some fd }
      (host.modifyXdpProg place.main fd) where
  xdp := by
    change Function.update host.xdp place.main _ = _
    rw [filled.xdp, Function.update_idem]
  filters := filled.filters
  root := filled.root

private theorem Place.Filled.setFilters (filled : place.Filled base slots host)
    (filters : List Int) :
    place.Filled base { slots with filters := filters }
      (host.setFilters place.checks place.priority filters) where
  xdp := filled.xdp
  filters := by
    change Function.update host.tcEgress place.checks _ = _
    rw [filled.filters, Function.update_idem, Function.update_self, Function.update_idem]
  root := filled.root

private theorem Place.Filled.setRoot (filled : place.Filled base slots host) (entry : Option Int) :
    place.Filled base
    { slots with root := entry } (host.setRoot place.root place.position entry) where
  xdp := filled.xdp
  filters := filled.filters
  root := by
    change Function.update host.rootArray place.root _ = _
    rw [filled.root, Function.update_idem, Function.update_self, Function.update_idem]

private theorem Place.Filled.read_filters (filled : place.Filled base slots host) :
    host.tcEgress place.checks place.priority = slots.filters := by
  rw [filled.filters, Function.update_self, Function.update_self]

private theorem Place.Filled.read_root (filled : place.Filled base slots host) :
    host.rootArray place.root place.position = slots.root := by
  rw [filled.root, Function.update_self, Function.update_self]

private theorem Place.Filled.read_xdp (filled : place.Filled base slots host) :
    host.xdp place.main = slots.xdp := by
  rw [filled.xdp, Function.update_self]

end Places

/-! ## Loading does not touch the hooks -/

/-- What neither loading nor a part of it changes, whether or not it returns. -/
structure Quiet (before after : Starter) : Prop where
  config : after.config = before.config
  standalone : after.standalone = before.standalone
  ifindex : after.ifindex = before.ifindex
  progsAttached : after.progsAttached = before.progsAttached
  rootMapFd : after.rootMapFd = before.rootMapFd
  hooks : SameHooks before.host after.host
  programs : ∀ name fd, before.loader.progs.lookup name = some fd →
    after.loader.progs.lookup name = some fd

private theorem SameHooks.refl (host : Host) : SameHooks host host := ⟨rfl, rfl, rfl⟩

private theorem SameHooks.trans {first middle last : Host} (left : SameHooks first middle)
    (right : SameHooks middle last) : SameHooks first last :=
  ⟨right.xdp.trans left.xdp, right.tcEgress.trans left.tcEgress,
    right.rootArray.trans left.rootArray⟩

variable {first middle last starter made : Starter}

private theorem Quiet.refl (starter : Starter) : Quiet starter starter :=
  ⟨rfl, rfl, rfl, rfl, rfl, .refl _, fun _ _ found => found⟩

private theorem Quiet.trans (left : Quiet first middle) (right : Quiet middle last) :
    Quiet first last where
  config := right.config.trans left.config
  standalone := right.standalone.trans left.standalone
  ifindex := right.ifindex.trans left.ifindex
  progsAttached := right.progsAttached.trans left.progsAttached
  rootMapFd := right.rootMapFd.trans left.rootMapFd
  hooks := left.hooks.trans right.hooks
  programs name fd found := right.programs name fd (left.programs name fd found)

/-- Loading files. -/
structure QuietLoad (before after : Starter) : Prop extends Quiet before after where
  progsLoaded : after.progsLoaded = before.progsLoaded

/-- Setting up maps. -/
structure QuietSetup (before after : Starter) : Prop extends Quiet before after where
  loader : after.loader = before.loader

private theorem QuietLoad.refl (starter : Starter) : QuietLoad starter starter := ⟨.refl _, rfl⟩

private theorem QuietLoad.trans (left : QuietLoad first middle) (right : QuietLoad middle last) :
    QuietLoad first last :=
  ⟨left.toQuiet.trans right.toQuiet, right.progsLoaded.trans left.progsLoaded⟩

private theorem QuietSetup.refl (starter : Starter) : QuietSetup starter starter := ⟨.refl _, rfl⟩

private theorem QuietSetup.trans (left : QuietSetup first middle) (right : QuietSetup middle last) :
    QuietSetup first last :=
  ⟨left.toQuiet.trans right.toQuiet, right.loader.trans left.loader⟩

/-- A loader that knows the programs that were known. -/
theorem quietLoad_of_loader {lrus : Lrus} {loader : BpfLoader}
    (programs : ∀ name fd, starter.loader.progs.lookup name = some fd →
      loader.progs.lookup name = some fd) :
    QuietLoad starter { starter with lrus := lrus, loader := loader } :=
  ⟨⟨rfl, rfl, rfl, rfl, rfl, .refl _, programs⟩, rfl⟩

private theorem loaded_state (refused : Int → Bool) (result : Int × BpfLoader) (what : String)
    (starter : Starter) :
    (loaded refused result what starter).2 = { starter with loader := result.2 } := by
  unfold loaded
  cases refused result.1 with
  | true => rfl
  | false => rfl

private theorem keeps_onlyIf {related : Starter → Starter → Prop}
    (refl : ∀ starter, related starter starter)
    {condition : Starter → Bool} {procedure : Procedure} (keeps : Keeps related procedure) :
    Keeps related (onlyIf condition procedure) := by
  intro starter
  unfold onlyIf Attempt.bind
  dsimp only
  split
  · exact keeps starter
  · exact refl starter

private theorem keeps_loadBpfProg {load : LoadEnv} {object : Option BpfObject}
    {path : Starter → String}
    {what : String} : Keeps QuietLoad (loadBpfProg load object path what) := by
  intro starter
  unfold loadBpfProg Attempt.bind
  rw [loaded_state]
  exact quietLoad_of_loader fun name fd found => BpfLoader.loadBpfFile_progs found

private theorem keeps_initLrus : Keeps QuietLoad (initLrus env) := by
  intro starter
  cases initialised : Lrus.initLrus env.lrus starter.config.lrus with
  | none =>
    simp only [initLrus, Attempt.bind, initialised]
    exact .refl starter
  | some lrus =>
    simp only [initLrus, Attempt.bind, initialised]
    refine related_andThen (fun _ _ _ => QuietLoad.trans)
      (quietLoad_of_loader fun _ _ found => found) ?_
    intro middle prepared
    obtain rfl := returns_modify.mp prepared
    refine related_andThen (fun _ _ _ => QuietLoad.trans) ?_ fun later _ => .refl later
    rw [loaded_state]
    refine quietLoad_of_loader fun name fd found => ?_
    unfold BpfLoader.setInnerMapPrototype
    split
    · exact found
    · exact found

/-- A write to a map that is not a hook. -/
theorem keeps_bpfUpdateMap {name what : String} {key : Nat} {change : Starter → Host → Host}
    (same : ∀ starter host, SameHooks host (change starter host)) :
    Keeps QuietSetup (bpfUpdateMap env name key what change) := by
  refine .update .refl fun starter => ?_
  exact ⟨⟨rfl, rfl, rfl, rfl, rfl, same starter starter.host, fun _ _ found => found⟩, rfl⟩

private theorem keeps_fail (what : String) : Keeps QuietSetup (fail what : Procedure) := .refl

private theorem keeps_pass : Keeps QuietSetup (pass : Procedure) := .refl

/-- A sequence of parts that only set up maps. -/
theorem keeps_all {procedures : List Procedure}
    (each : ∀ procedure ∈ procedures, Keeps QuietSetup procedure) :
    Keeps QuietSetup (Attempt.all procedures) :=
  .all .refl (fun _ _ _ => QuietSetup.trans) each

private theorem keeps_setupSrc {name what : String} {key : Nat} {address : StartConfig → String}
    {change : Nat → HcRealDefinition → Host → Host}
    (same : ∀ key src host, SameHooks host (change key src host)) :
    Keeps QuietSetup (setupSrc env name key address what change) := by
  refine .bind fun starter => ?_
  split
  · exact keeps_pass
  · split
    · exact keeps_fail _
    · exact keeps_bpfUpdateMap env fun _ host => same _ _ host

private theorem keeps_setupGueEnvironment : Keeps QuietSetup (setupGueEnvironment env) := by
  refine .bind fun starter => ?_
  split
  · exact keeps_fail _
  · refine keeps_all ?_
    simp only [List.forall_mem_cons, List.not_mem_nil, false_implies, implies_true, and_true]
    exact ⟨keeps_setupSrc env fun _ _ _ => ⟨rfl, rfl, rfl⟩,
      keeps_setupSrc env fun _ _ _ => ⟨rfl, rfl, rfl⟩⟩

private theorem keeps_setupHcEnvironment : Keeps QuietSetup (setupHcEnvironment env) := by
  refine .bind fun starter => ?_
  split
  · exact keeps_fail _
  · refine keeps_all ?_
    simp only [List.forall_mem_cons, List.not_mem_nil, false_implies, implies_true, and_true]
    refine ⟨keeps_setupSrc env fun _ _ _ => ⟨rfl, rfl, rfl⟩,
      keeps_setupSrc env fun _ _ _ => ⟨rfl, rfl, rfl⟩, .bind fun starter => ?_⟩
    split
    · exact keeps_fail _
    · refine keeps_all ?_
      simp only [List.forall_mem_cons, List.not_mem_nil, false_implies, implies_true, and_true]
      exact ⟨keeps_bpfUpdateMap env fun _ _ => ⟨rfl, rfl, rfl⟩,
        keeps_bpfUpdateMap env fun _ _ => ⟨rfl, rfl, rfl⟩⟩

private theorem keeps_attachLrus : Keeps QuietSetup (attachLrus env) := by
  refine .bind fun starter => ?_
  split
  · exact keeps_fail _
  · exact .modify fun _ => ⟨⟨rfl, rfl, rfl, rfl, rfl, ⟨rfl, rfl, rfl⟩, fun _ _ found => found⟩, rfl⟩

/-- The programs that a configuration needs are known. -/
structure Programs (config : StartConfig) (loader : BpfLoader) : Prop where
  balancer : config.disableForwarding = false → 0 ≤ loader.getProgFdByName "xdp-balancer"
  healthchecker : config.enableHc = true → 0 ≤ loader.getProgFdByName "cls-hc"

private theorem getProgFdByName_of_known {loader later : BpfLoader} {name : String}
    (programs : ∀ name fd, loader.progs.lookup name = some fd →
      later.progs.lookup name = some fd) (known : 0 ≤ loader.getProgFdByName name) :
    0 ≤ later.getProgFdByName name := by
  unfold BpfLoader.getProgFdByName at known ⊢
  split at known
  · exact absurd known (by decide)
  next fd found =>
    rw [programs name fd found]
    exact known

private theorem Programs.later {config : StartConfig} {loader later : BpfLoader}
    (programs : Programs config loader) (keeps : ∀ name fd, loader.progs.lookup name = some fd →
      later.progs.lookup name = some fd) : Programs config later where
  balancer forwarding := getProgFdByName_of_known keeps (programs.balancer forwarding)
  healthchecker enabled := getProgFdByName_of_known keeps (programs.healthchecker enabled)

private theorem keeps_loadSteps : Keeps QuietLoad (Attempt.all (loadSteps env)) := by
  have trans (first middle last : Starter) : QuietLoad first middle → QuietLoad middle last →
      QuietLoad first last := QuietLoad.trans
  refine .all .refl trans ?_
  simp only [loadSteps, List.forall_mem_cons, List.not_mem_nil, false_implies, implies_true,
    and_true]
  refine ⟨keeps_onlyIf .refl (.all .refl trans ?_), keeps_onlyIf .refl keeps_loadBpfProg,
    .bind fun starter => ?_⟩
  · simp only [List.forall_mem_cons, List.not_mem_nil, false_implies, implies_true, and_true]
    exact ⟨keeps_initLrus env, keeps_loadBpfProg⟩
  · split
    · exact .refl
    · split
      · exact .refl
      · split
        · exact .refl
        · exact .refl

private theorem keeps_setupSteps : Keeps QuietSetup (Attempt.all (setupSteps env)) := by
  refine keeps_all ?_
  simp only [setupSteps, List.forall_mem_cons, List.not_mem_nil, false_implies, implies_true,
    and_true]
  refine ⟨fun starter => ⟨⟨rfl, rfl, rfl, rfl, rfl, .refl _, fun _ _ found => found⟩, rfl⟩,
    keeps_onlyIf .refl (keeps_setupGueEnvironment env),
    keeps_onlyIf .refl (keeps_bpfUpdateMap env fun _ _ => ⟨rfl, rfl, rfl⟩),
    keeps_onlyIf .refl (keeps_bpfUpdateMap env fun _ _ => ⟨rfl, rfl, rfl⟩),
    keeps_onlyIf .refl (keeps_all ?_),
    fun starter => ⟨⟨rfl, rfl, rfl, rfl, rfl, .refl _, fun _ _ found => found⟩, rfl⟩,
    keeps_onlyIf .refl (keeps_attachLrus env)⟩
  simp only [List.forall_mem_cons, List.not_mem_nil, false_implies, implies_true, and_true]
  exact ⟨keeps_bpfUpdateMap env fun _ _ => ⟨rfl, rfl, rfl⟩,
    keeps_bpfUpdateMap env fun _ _ => ⟨rfl, rfl, rfl⟩,
    keeps_bpfUpdateMap env fun _ _ => ⟨rfl, rfl, rfl⟩,
    keeps_onlyIf .refl (keeps_setupHcEnvironment env)⟩

/-- Loading, whether or not it returns: hooks are not touched, and if the programs count as
loaded then they are known. -/
theorem loadBpfProgs_quiet (starter : Starter)
    (known : starter.progsLoaded = true → Programs starter.config starter.loader) :
    let after := (loadBpfProgs env starter).2
    Quiet starter after ∧ (after.progsLoaded = true → Programs after.config after.loader) := by
  intro after
  -- The programs count as loaded only after they have been checked.
  rcases all_append_cases (loadSteps env) (setupSteps env) starter with
    stopped | ⟨middle, returned, continued⟩
  · have quiet := keeps_loadSteps env starter
    rw [← stopped] at quiet
    refine ⟨quiet.toQuiet, ?_⟩
    intro flagged
    have programs := known (quiet.progsLoaded.symm.trans flagged)
    rw [← quiet.config] at programs
    exact programs.later quiet.programs
  · have first := keeps_loadSteps env starter
    rw [show (Attempt.all (loadSteps env) starter).2 = middle from congrArg Prod.snd returned]
      at first
    have second := keeps_setupSteps env middle
    rw [← continued] at second
    refine ⟨first.toQuiet.trans second.toQuiet, ?_⟩
    intro _
    obtain ⟨_, _, rest⟩ := returns_all_cons.mp returned
    obtain ⟨_, _, rest⟩ := returns_all_cons.mp rest
    obtain ⟨_, checks, done⟩ := returns_all_cons.mp rest
    obtain rfl := returns_pass.mp done
    obtain ⟨sane, rfl⟩ := returns_initialSanityChecking checks
    rw [show after.loader = _ from second.loader, show after.config = _ from second.config]
    exact ⟨sane.balancer, sane.healthchecker⟩

/-! ## Lives of a balancer -/

/-- The places of a balancer that has been constructed. If it does not forward then
`rootMapFd_` is never set. -/
def place (made : Starter) (pinned : Int) : Place where
  main := made.ifindex kMainIntfPos
  checks := made.ifindex kHcIntfPos
  priority := tcPriority made.config
  root := if made.config.disableForwarding then made.rootMapFd else pinned
  position := made.config.rootMapPos

/-- What every balancer that has been constructed keeps true later. -/
structure Tracked (made : Starter) (pinned : Int) (slots : Slots) (starter : Starter) : Prop where
  config : starter.config = made.config
  standalone : starter.standalone = made.standalone
  ifindex : starter.ifindex = made.ifindex
  filled : (made.place pinned).Filled made.host slots starter.host
  rooted : made.config.disableForwarding = true ∨ starter.progsAttached = true →
    made.standalone = false → starter.rootMapFd = (made.place pinned).root
  xdp : made.standalone = false → slots.xdp = ((made.place pinned).slots made.host).xdp
  root : made.standalone = true → slots.root = ((made.place pinned).slots made.host).root
  filters : made.config.enableHc = false →
    slots.filters = ((made.place pinned).slots made.host).filters
  programs : starter.progsLoaded = true → Programs starter.config starter.loader

/-- Nothing is in the places that the balancer takes. -/
structure Free (made : Starter) (pinned : Int) : Prop where
  xdp : made.standalone = true → ((made.place pinned).slots made.host).xdp = none
  root : made.standalone = false → ((made.place pinned).slots made.host).root = none
  filters : made.config.enableHc = true → ((made.place pinned).slots made.host).filters = []

/-- Removals are not refused, and the pinned array stays the same. -/
structure Removes (made : Starter) (pinned : Int) (env : StartEnv) : Prop where
  detachXdpProg : env.succeeds .detachXdpProg = true
  deleteRoot : env.succeeds .deleteRoot = true
  deleteTcBpfFilter : env.succeeds .deleteTcBpfFilter = true
  pinned : env.getPinnedBpfObject made.config.rootMapPath = pinned

/-- The place of the forwarding program. -/
def Slots.main (slots : Slots) (standalone : Bool) : Option Int :=
  if standalone then slots.xdp else slots.root

/-- The hooks with another program for forwarding, in the slot that it is to have. -/
def Slots.withMain (slots : Slots) (standalone : Bool) (entry : Option Int) : Slots :=
  if standalone then { slots with xdp := entry } else { slots with root := entry }

variable {env} {pinned : Int} {slots : Slots}

private theorem Tracked.removeMain (tracked : Tracked made pinned slots starter)
    (removes : Removes made pinned env)
    (rooted : made.standalone = false → starter.rootMapFd = (made.place pinned).root) :
    Tracked made pinned (slots.withMain made.standalone none) (removeMain env starter) := by
  unfold Starter.removeMain Slots.withMain
  rw [tracked.standalone, tracked.ifindex, tracked.config]
  cases mode : made.standalone with
  | true =>
      rw [if_pos rfl, if_pos rfl, if_pos removes.detachXdpProg]
      have filled := tracked.filled.modifyXdpProg (-1)
      rw [if_pos (by decide)] at filled
      exact { tracked with
        filled := filled
        xdp := fun shared => by cases mode.symm.trans shared }
  | false =>
      rw [if_neg nofun, if_neg nofun, if_pos removes.deleteRoot, rooted mode]
      exact { tracked with
        filled := tracked.filled.setRoot none
        root := fun alone => by cases mode.symm.trans alone }

/-- The forwarding program is in its place. -/
structure MainPlaced (made : Starter) (pinned : Int) (slots : Slots) (starter : Starter) : Prop
    extends Tracked made pinned slots starter where
  reached : made.standalone = false → starter.rootMapFd = (made.place pinned).root
  main : made.config.disableForwarding = false →
    slots.main made.standalone = some starter.getKatranProgFd ∧
      (made.standalone = false → made.config.rootMapPos.toNat < rootArraySize)

private theorem registerRoot_cases {root : Int} {position : UInt32}
    (found : env.getPinnedBpfObject starter.config.rootMapPath = root)
    (placed : starter.config.rootMapPos = position) :
    (∃ what, registerRoot env starter = (some what, { starter with rootMapFd := root })) ∨
      (position.toNat < rootArraySize ∧ registerRoot env starter = (none, { starter with
        rootMapFd := root
        host := starter.host.setRoot root position (some starter.getKatranProgFd) })) := by
  subst found placed
  simp only [registerRoot, Attempt.all, andThen, Attempt.modify, Attempt.bind]
  by_cases missing : env.getPinnedBpfObject starter.config.rootMapPath < 0
  · rw [if_pos missing]
    exact .inl ⟨_, rfl⟩
  · rw [if_neg missing]
    dsimp only [Attempt.pass]
    cases granted : env.succeeds .updateRoot &&
        decide (starter.config.rootMapPos.toNat < rootArraySize) with
    | false => exact .inl ⟨_, rfl⟩
    | true =>
        have inside := of_decide_eq_true (Bool.and_eq_true_iff.mp granted).2
        exact .inr ⟨inside, rfl⟩

private theorem attachMain_eq (starter : Starter) : attachMain env starter =
    (if starter.standalone then
      update (env.succeeds .modifyXdpProg) "can't attach main bpf prog to main inteface"
        (·.onHost (·.modifyXdpProg (starter.ifindex kMainIntfPos) starter.getKatranProgFd))
    else if starter.config.disableForwarding then pass
    else registerRoot env) starter := rfl

/-- The forwarding program is put in its place, or that is refused and nothing has changed. -/
theorem Tracked.attachMain (tracked : Tracked made pinned slots starter)
    (removes : Removes made pinned env) (loaded : starter.progsLoaded = true) :
    let result := Starter.attachMain env starter
    result.2.progsAttached = starter.progsAttached ∧
    ((result.1 ≠ none ∧ Tracked made pinned slots result.2) ∨
      (result.1 = none ∧ ∃ later, MainPlaced made pinned later result.2 ∧
        later.withMain made.standalone none = slots.withMain made.standalone none)) := by
  have programs := tracked.programs loaded
  rw [tracked.config] at programs
  rw [attachMain_eq, tracked.standalone, tracked.config, tracked.ifindex]
  cases alone : made.standalone with
  | true =>
      rw [if_pos rfl]
      cases granted : env.succeeds .modifyXdpProg with
      | false => exact ⟨rfl, .inl ⟨nofun, tracked⟩⟩
      | true =>
          refine ⟨rfl, .inr ⟨rfl, _, { tracked with
            filled := tracked.filled.modifyXdpProg starter.getKatranProgFd
            xdp := fun shared => by cases alone.symm.trans shared
            reached := fun shared => by cases alone.symm.trans shared
            main := ?_ }, rfl⟩⟩
          intro forwarding
          have known : ¬ starter.getKatranProgFd < 0 :=
            Int.not_lt.mpr (programs.balancer forwarding)
          rw [alone, if_neg known]
          exact ⟨rfl, nofun⟩
  | false =>
      rw [if_neg nofun]
      cases disabled : made.config.disableForwarding with
      | true =>
          rw [if_pos rfl]
          exact ⟨rfl, .inr ⟨rfl, slots, { tracked with
            reached := tracked.rooted (.inl disabled)
            main := fun enabled => by cases disabled.symm.trans enabled }, rfl⟩⟩
      | false =>
          rw [if_neg nofun]
          have root : (made.place pinned).root = pinned := by
            simp only [Starter.place, disabled, Bool.false_eq_true, ↓reduceIte]
          have pinnedTracked : Tracked made pinned slots { starter with rootMapFd := pinned } :=
            { tracked with rooted := fun _ _ => root.symm }
          have found : env.getPinnedBpfObject starter.config.rootMapPath = pinned := by
            rw [tracked.config]
            exact removes.pinned
          have placed : starter.config.rootMapPos = made.config.rootMapPos := by rw [tracked.config]
          rcases registerRoot_cases found placed with ⟨what, same⟩ | ⟨inside, same⟩
          · rw [same]
            exact ⟨rfl, .inl ⟨nofun, pinnedTracked⟩⟩
          · rw [same]
            have filled := tracked.filled.setRoot (some starter.getKatranProgFd)
            rw [root] at filled
            refine ⟨rfl, .inr ⟨rfl, _, { pinnedTracked with
              filled := filled
              root := fun contrary => by cases alone.symm.trans contrary
              reached := fun _ => root.symm
              main := ?_ }, rfl⟩⟩
            intro _
            rw [alone]
            exact ⟨rfl, fun _ => inside⟩

private theorem Free.withMain (free : Free made pinned) :
    ((made.place pinned).slots made.host).withMain made.standalone none =
      (made.place pinned).slots made.host := by
  cases alone : made.standalone with
  | true =>
      have empty := free.xdp alone
      generalize (made.place pinned).slots made.host = slots at empty
      cases slots
      cases empty
      rfl
  | false =>
      have empty := free.root alone
      generalize (made.place pinned).slots made.host = slots at empty
      cases slots
      cases empty
      rfl

private theorem removeMain_progsAttached (starter : Starter) :
    (removeMain env starter).progsAttached = starter.progsAttached := by
  unfold removeMain
  split
  · split <;> rfl
  · split <;> rfl

/-- The part of `attachBpfProgs` for health checks. The filter is added, or the forwarding
program is taken away again. -/
theorem MainPlaced.attachHealthchecker (placed : MainPlaced made pinned slots starter)
    (removes : Removes made pinned env) :
    let result := onlyIf (·.config.enableHc) (Starter.attachHealthchecker env) starter
    (result.1 ≠ none ∧ result.2.progsAttached = starter.progsAttached ∧
      Tracked made pinned (slots.withMain made.standalone none) result.2) ∨
    (result.1 = none ∧ ∃ later, MainPlaced made pinned later result.2 ∧
      (made.config.enableHc = true → result.2.getHealthcheckerProgFd ∈ later.filters)) := by
  have chosen : onlyIf (·.config.enableHc) (Starter.attachHealthchecker env) starter =
      (if starter.config.enableHc then Starter.attachHealthchecker env else pass) starter := rfl
  have added : Starter.attachHealthchecker env starter =
      (if env.succeeds .addTcBpfFilter then
        Attempt.modify (·.onHost (·.addTcBpfFilter (starter.ifindex kHcIntfPos)
          (tcPriority starter.config) starter.getHealthcheckerProgFd))
      else Attempt.all [Attempt.modify (Starter.removeMain env),
        fail "can't attach healthchecking bpf prog to given inteface"] : Procedure) starter := rfl
  rw [chosen, placed.config]
  cases enabled : made.config.enableHc with
  | false => exact .inr ⟨rfl, slots, placed, nofun⟩
  | true =>
      rw [if_pos rfl, added]
      cases env.succeeds .addTcBpfFilter with
      | false =>
          exact .inl ⟨nofun, removeMain_progsAttached starter,
            placed.toTracked.removeMain removes placed.reached⟩
      | true =>
          refine .inr ⟨rfl, { slots with
            filters := slots.filters ++ [starter.getHealthcheckerProgFd] }, { placed with
            filled := ?_
            filters := fun disabled => by cases enabled.symm.trans disabled
            main := placed.main }, fun _ => List.mem_append_right _ List.mem_cons_self⟩
          have filled := placed.filled.setFilters
            (slots.filters ++ [starter.getHealthcheckerProgFd])
          rw [← placed.filled.read_filters] at filled ⊢
          change (made.place pinned).Filled made.host _ (starter.host.addTcBpfFilter
            (starter.ifindex kHcIntfPos) (tcPriority starter.config)
            starter.getHealthcheckerProgFd)
          rw [placed.ifindex, placed.config]
          exact filled

/-- Where the programs are when attaching has returned. -/
structure InPlace (made : Starter) (pinned : Int) (starter : Starter) : Prop where
  standalone : made.config.disableForwarding = false → made.standalone = true →
    starter.host.xdp (made.ifindex kMainIntfPos) = some starter.getKatranProgFd
  shared : made.config.disableForwarding = false → made.standalone = false →
    starter.host.rootArray pinned made.config.rootMapPos = some starter.getKatranProgFd ∧
      ((∀ earlier, earlier < made.config.rootMapPos →
          starter.host.rootArray pinned earlier = none) →
        xdpRoot (starter.host.rootArray pinned) = some starter.getKatranProgFd)
  healthchecker : made.config.enableHc = true → starter.getHealthcheckerProgFd ∈
    starter.host.tcEgress (made.ifindex kHcIntfPos) (tcPriority made.config)

private theorem MainPlaced.inPlace (placed : MainPlaced made pinned slots starter)
    (checks : made.config.enableHc = true → starter.getHealthcheckerProgFd ∈ slots.filters) :
    InPlace made pinned starter where
  standalone := by
    intro forwarding alone
    have main := (placed.main forwarding).1
    rw [alone] at main
    exact placed.filled.read_xdp.trans main
  shared := by
    intro forwarding shared
    obtain ⟨main, inside⟩ := placed.main forwarding
    rw [shared] at main
    have read := placed.filled.read_root.trans main
    simp only [Starter.place, forwarding, Bool.false_eq_true, ↓reduceIte] at read
    exact ⟨read, xdpRoot_eq (inside shared) read⟩
  healthchecker := by
    intro enabled
    have read := placed.filled.read_filters
    change starter.host.tcEgress (made.ifindex kHcIntfPos) (tcPriority made.config) = _ at read
    rw [read]
    exact checks enabled

private theorem attachBpfProgs_eq (loaded : starter.progsLoaded = true) :
    attachBpfProgs env starter =
    andThen (attachMain env) (andThen (onlyIf (·.config.enableHc) (attachHealthchecker env))
      (andThen (Attempt.modify fun starter => { starter with progsAttached := true }) pass))
      starter := by
  have chosen : attachBpfProgs env starter = (if starter.progsLoaded then _
    else fail "failed to attach bpf prog: prog not loaded" : Procedure) starter := rfl
  rw [chosen, if_pos loaded]
  rfl

private theorem Tracked.attachBpfProgs (tracked : Tracked made pinned slots starter)
    (removes : Removes made pinned env) (free : Free made pinned)
    (detached : starter.progsAttached = false → slots = (made.place pinned).slots made.host) :
    let result := Starter.attachBpfProgs env starter
    (∃ later, Tracked made pinned later result.2 ∧ (result.2.progsAttached = false →
      later = (made.place pinned).slots made.host)) ∧
    (result.1 = none → InPlace made pinned result.2) := by
  cases loaded : starter.progsLoaded with
  | false =>
      have refused : Starter.attachBpfProgs env starter =
          (some "failed to attach bpf prog: prog not loaded", starter) := by
        simp only [Starter.attachBpfProgs, Attempt.bind, loaded, Bool.false_eq_true, ↓reduceIte,
          fail]
      rw [refused]
      exact ⟨⟨slots, tracked, detached⟩, nofun⟩
  | true =>
      rw [attachBpfProgs_eq loaded]
      obtain ⟨flag, outcome⟩ := tracked.attachMain removes loaded
      revert flag outcome
      unfold andThen
      generalize Starter.attachMain env starter = result
      obtain ⟨error, middle⟩ := result
      rintro flag (⟨failed, middleTracked⟩ | ⟨rfl, later, placed, same⟩)
      · obtain ⟨error, rfl⟩ := Option.ne_none_iff_exists'.mp failed
        refine ⟨⟨slots, middleTracked, ?_⟩, nofun⟩
        intro unattached
        exact detached (flag.symm.trans unattached)
      · have outcome := placed.attachHealthchecker removes
        revert outcome
        dsimp only
        generalize onlyIf _ (Starter.attachHealthchecker env) middle = result
        obtain ⟨error, last⟩ := result
        rintro (⟨failed, lastFlag, removed⟩ | ⟨rfl, final, placed, checks⟩)
        · obtain ⟨error, rfl⟩ := Option.ne_none_iff_exists'.mp failed
          refine ⟨⟨_, removed, ?_⟩, nofun⟩
          intro unattached
          rw [same, detached (flag.symm.trans (lastFlag.symm.trans unattached)), free.withMain]
        · refine ⟨⟨final, { placed.toTracked with rooted := fun _ => placed.reached }, nofun⟩,
            fun _ => ?_⟩
          have inPlace := placed.inPlace checks
          exact ⟨inPlace.standalone, inPlace.shared, inPlace.healthchecker⟩

/-- A call of the balancer, and what the system answers. -/
inductive LifeEvent where
  | load (env : StartEnv)
  | attach (env : StartEnv)

/-- What the system answers during an event. -/
def LifeEvent.system : LifeEvent → StartEnv
  | load env => env
  | attach env => env

/-- A call, which may throw. -/
def perform (starter : Starter) : LifeEvent → Starter
  | .load env => (loadBpfProgs env starter).2
  | .attach env => (attachBpfProgs env starter).2

/-- One call after the other. -/
def live (starter : Starter) (events : List LifeEvent) : Starter := events.foldl perform starter

/-- The balancer between calls: if it is not attached then nothing is in its places. -/
def Kept (made : Starter) (pinned : Int) (starter : Starter) : Prop :=
  ∃ slots, Tracked made pinned slots starter ∧
    (starter.progsAttached = false → slots = (made.place pinned).slots made.host)

/-- A call of the balancer's life, successful or not, keeps the hooks of the others. -/
theorem Kept.perform (kept : Kept made pinned starter) (free : Free made pinned) {event : LifeEvent}
    (removes : Removes made pinned event.system) : Kept made pinned (starter.perform event) := by
  obtain ⟨slots, tracked, detached⟩ := kept
  cases event with
  | load env =>
      obtain ⟨quiet, programs⟩ := loadBpfProgs_quiet env starter tracked.programs
      refine ⟨slots, ?_, fun unattached => detached (quiet.progsAttached.symm.trans unattached)⟩
      exact { tracked with
        config := quiet.config.trans tracked.config
        standalone := quiet.standalone.trans tracked.standalone
        ifindex := quiet.ifindex.trans tracked.ifindex
        filled := ⟨quiet.hooks.xdp.trans tracked.filled.xdp,
          quiet.hooks.tcEgress.trans tracked.filled.filters,
          quiet.hooks.rootArray.trans tracked.filled.root⟩
        rooted := fun reason shared => quiet.rootMapFd.trans
          (tracked.rooted (reason.imp_right quiet.progsAttached.symm.trans) shared)
        programs := programs }
  | attach env => exact (tracked.attachBpfProgs removes free detached).1

private theorem Kept.live {events : List LifeEvent} (kept : Kept made pinned starter)
    (free : Free made pinned) (removes : ∀ event ∈ events, Removes made pinned event.system) :
    Kept made pinned (starter.live events) := by
  induction events generalizing starter with
  | nil => exact kept
  | cons event events ih =>
      exact ih (kept.perform free (removes event List.mem_cons_self))
        fun later member => removes later (List.mem_cons_of_mem _ member)

/-- A balancer that has just been constructed. -/
theorem ConstructedAs.kept {config : StartConfig} {host : Host}
    (constructed : ConstructedAs env config host made) : Kept made pinned made := by
  refine ⟨(made.place pinned).slots made.host, ⟨rfl, rfl, rfl, ?_, ?_, fun _ => rfl, fun _ => rfl,
    fun _ => rfl, ?_⟩, fun _ => rfl⟩
  · exact Place.filled_slots (.refl _)
  · rintro (disabled | attached) _
    · simp only [Starter.place, disabled, ↓reduceIte]
    · cases constructed.progsAttached.symm.trans attached
  · intro loaded
    cases constructed.progsLoaded.symm.trans loaded

/-- The destructor empties the places. -/
theorem Kept.destroy (kept : Kept made pinned starter) (serving : made.config.testing = false)
    (free : Free made pinned) (removes : Removes made pinned env) :
    SameHooks made.host (destroy env starter).host := by
  obtain ⟨slots, tracked, detached⟩ := kept
  unfold Starter.destroy
  rw [tracked.config, serving]
  cases attached : starter.progsAttached with
  | false =>
      have filled := tracked.filled
      rw [detached attached] at filled
      exact filled.sameHooks rfl rfl rfl
  | true =>
      have removed := tracked.removeMain removes (tracked.rooted (.inr attached))
      have emptied : (slots.withMain made.standalone none).xdp =
            ((made.place pinned).slots made.host).xdp ∧
          (slots.withMain made.standalone none).root =
            ((made.place pinned).slots made.host).root := by
        unfold Slots.withMain
        cases alone : made.standalone with
        | true => exact ⟨(free.xdp alone).symm, tracked.root alone⟩
        | false => exact ⟨tracked.xdp alone, (free.root alone).symm⟩
      simp only [Bool.not_false, ↓reduceIte, removed.config, removed.ifindex,
        removes.deleteTcBpfFilter, Bool.and_true]
      cases enabled : made.config.enableHc with
      | false => exact removed.filled.sameHooks emptied.1 (removed.filters enabled) emptied.2
      | true =>
          exact (removed.filled.setFilters []).sameHooks emptied.1 (free.filters enabled).symm
            emptied.2

/-- **The hooks are restored.** After any calls, of which any may have thrown: a balancer that
is not attached has left the hooks as they were, and so has every balancer when it is destroyed.
When attaching returns, packets get to the programs. -/
theorem hooks_restored {config : StartConfig} {host : Host} {env : StartEnv} {made : Starter}
    {pinned : Int} (serving : config.testing = false)
    (constructed : Returns (construct env) (begin env config host) made)
    (free : Free made pinned) {events : List LifeEvent}
    (removes : ∀ event ∈ events, Removes made pinned event.system) :
    let starter := made.live events
    (starter.progsAttached = false → SameHooks host starter.host) ∧
    ∀ next, Removes made pinned next → SameHooks host (destroy next starter).host ∧
      ∀ after, Returns (attachBpfProgs next) starter after → InPlace made pinned after := by
  intro starter
  have constructed := returns_construct serving constructed
  have kept : Kept made pinned starter := constructed.kept.live free removes
  rw [← constructed.hosted]
  refine ⟨?_, ?_⟩
  · intro unattached
    obtain ⟨slots, tracked, detached⟩ := kept
    have filled := tracked.filled
    rw [detached unattached] at filled
    exact filled.sameHooks rfl rfl rfl
  · intro next obliging
    have running : made.config.testing = false := by
      rw [constructed.configured]
      exact serving
    refine ⟨kept.destroy running free obliging, ?_⟩
    intro after returned
    obtain ⟨slots, tracked, detached⟩ := kept
    have inPlace := (tracked.attachBpfProgs obliging free detached).2
    rw [show attachBpfProgs next starter = (none, after) from returned] at inPlace
    exact inPlace rfl

/-- A balancer that shares its interface. -/
def sharedConfig : StartConfig := { smallConfig with rootMapPath := "/mnt/bpf/root_array" }

/-- A system on which filters cannot be added. -/
def withoutFilters : StartEnv :=
  { orderlyStart with succeeds := fun call => decide (call ≠ .addTcBpfFilter) }

/-- A balancer that has been started behind another program of the root array. -/
def sharing : Starter := (construct orderlyStart (begin orderlyStart sharedConfig emptyHost)).2

/-- Attaching fails at first, and returns when it is called again. -/
theorem hooks_restored_retried :
    let starter := sharing.live [.load orderlyStart, .attach withoutFilters]
    let attached := (attachBpfProgs orderlyStart starter).2
    SameHooks emptyHost starter.host ∧ attached.host.rootArray 7 2 = some 100 ∧
      SameHooks emptyHost (destroy orderlyStart attached).host := by
  intro starter attached
  have constructed : Returns (construct orderlyStart)
      (begin orderlyStart sharedConfig emptyHost) sharing := Prod.ext (by decide +kernel) rfl
  have free : Free sharing 7 := ⟨fun _ => rfl, fun _ => rfl, fun _ => rfl⟩
  have orderly : Removes sharing 7 orderlyStart := ⟨rfl, rfl, rfl, rfl⟩
  have refusing : Removes sharing 7 withoutFilters := ⟨rfl, rfl, rfl, rfl⟩
  have first : ∀ event ∈ [LifeEvent.load orderlyStart, .attach withoutFilters],
      Removes sharing 7 event.system := by
    simp only [List.forall_mem_cons, List.not_mem_nil, false_implies, implies_true, and_true]
    exact ⟨orderly, refusing⟩
  have second : ∀ event ∈ [LifeEvent.load orderlyStart, .attach withoutFilters,
      .attach orderlyStart], Removes sharing 7 event.system := by
    simp only [List.forall_mem_cons, List.not_mem_nil, false_implies, implies_true, and_true]
    exact ⟨orderly, refusing, orderly⟩
  have returned : Returns (attachBpfProgs orderlyStart) starter attached :=
    Prod.ext (by decide +kernel) rfl
  obtain ⟨unattached, later⟩ := hooks_restored rfl constructed free first
  have placed := ((later orderlyStart orderly).2 attached returned).shared rfl (by decide +kernel)
  refine ⟨unattached (by decide +kernel), ?_,
    ((hooks_restored rfl constructed free second).2 orderlyStart orderly).1⟩
  rw [show attached.getKatranProgFd = 100 from by decide +kernel] at placed
  exact placed.1

end Starter

end Katran
