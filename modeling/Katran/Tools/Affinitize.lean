import Katran.Foundation.Arguments
import Katran.Foundation.Assoc
import Katran.Foundation.HexText
import Katran.Foundation.Rounds

/-! # Interrupts of an interface and the cores that serve them

The starter reads the interrupts of an interface and the topology of the cores from the files of
the kernel, and writes for every interrupt the core that is to serve it into a file of the kernel.
There are three strategies, and all of them go round a list of cores again and again. So the
cores that get interrupts get equally many of them, up to one (`interrupts_balanced`).

A call of `log.Fatal`, a division by zero and an index out of range end the program, here `none`.
-/

namespace Katran

open Foundation UnorderedMap

/-- A host as a program sees it: files and directories, the number of cores, which files can be
written, and the regular expressions of the library. -/
structure Machine where
  readFile : List Char → Option (List Char)
  readDir : List Char → Option (List (List Char))
  numCpu : Nat
  compile : List Char → Option (List Char → Bool)
  writable : List Char → Bool

namespace Machine

variable (machine : Machine)

/-! ## Interrupts -/

/-- White space of texts. -/
def isSpace (letter : Char) : Bool :=
  letter.toNat ∈ [0x09, 0x0a, 0x0b, 0x0c, 0x0d, 0x20, 0x85, 0xa0, 0x1680, 0x2028, 0x2029, 0x202f,
    0x205f, 0x3000] ∨ 0x2000 ≤ letter.toNat ∧ letter.toNat ≤ 0x200a

/-- The parts of a text between white space. -/
def fields (text : List Char) : List (List Char) := (text.splitOnP isSpace).filter (· ≠ [])

/-- `strconv.Atoi`, for numbers of 64 bits. -/
def atoi (text : List Char) : Option Int := readInt 0x8000000000000000 text

/-- The number of a line that is not that of an interrupt. -/
def kError : Int := -1

/-- The number at the start of a line of `/proc/interrupts`, or -1. -/
def parseInterruptLine (line : List Char) : Int :=
  match fields line with
  | [] => kError
  | field :: _ =>
      match field.splitOn ':' with
      | [] => kError
      | irqNum :: _ => (atoi irqNum).getD kError

/-- The loop of `parseProcIrqs`. -/
def irqsOfLines (chosen : List Char → Bool) (lines : List (List Char)) : List Int :=
  lines.filterMap fun line =>
    if chosen line ∧ 0 ≤ parseInterruptLine line then some (parseInterruptLine line) else none

/-- The interrupts of the lines of `/proc/interrupts` that name an interface. -/
def parseProcIrqs (intf : List Char) : Option (List Int) := do
  let intfRegexp ← machine.compile (".*".toList ++ intf ++ ".*".toList)
  let file ← machine.readFile "/proc/interrupts".toList
  some (irqsOfLines (fun line => intf = [] ∨ intfRegexp line = true) (file.splitOn '\n'))

/-- The message-signalled interrupts of a device. -/
def getMsiIrqForDevice (intf : List Char) : Option (List Int) := do
  let files ← machine.readDir ("/sys/class/net/".toList ++ intf ++ "/device/msi_irqs/".toList)
  files.mapM (atoi)

/-- Those of the device's interrupts that are in `/proc/interrupts`. -/
def parseMsiIrqs (intf : List Char) : Option (List Int) := do
  let regIrqs ← machine.parseProcIrqs []
  let msiIrqs ← machine.getMsiIrqForDevice intf
  some (msiIrqs.filter (· ∈ regIrqs))

/-- The interrupts of an interface. -/
def getInterfaceIrq (intf : List Char) : Option (List Int) := do
  let irqs ← machine.parseProcIrqs intf
  if irqs ≠ [] then some irqs else machine.parseMsiIrqs intf

/-! ## Cores -/

/-- The node of a core. -/
def getNumaNodeOfCpu (cpu : Nat) : Option Int := do
  let numa ← machine.readFile
    ("/sys/devices/system/cpu/cpu".toList ++ itoa cpu ++ "/topology/physical_package_id".toList)
  atoi ((numa.splitOn '\n').headD [])

/-- The cores and nodes of a host. -/
structure CpuTopology where
  cpu2Numa : UnorderedMap Nat Int
  numa2Cpu : UnorderedMap Int (List Nat)
  ncpus : Nat

/-- The cores of a node; none if it is not there. -/
def CpuTopology.cpusOf (topology : CpuTopology) (numa : Int) : List Nat :=
  (topology.numa2Cpu.lookup numa).getD []

/-- The loop of `getCpuTopology`. -/
def addCpu (topology : CpuTopology) (cpu : Nat) : Option CpuTopology :=
  (machine.getNumaNodeOfCpu cpu).map fun numa =>
    { topology with
      cpu2Numa := topology.cpu2Numa.insert cpu numa
      numa2Cpu := topology.numa2Cpu.insert numa (topology.cpusOf numa ++ [cpu]) }

/-- The topology as the host lists it, core by core. -/
def getCpuTopology : Option CpuTopology :=
  (List.range machine.numCpu).foldlM machine.addCpu ⟨∅, ∅, machine.numCpu⟩

/-- The nodes of cores; ends the program if a core is not there. -/
def CpuTopology.getNumaListForCpus (topology : CpuTopology) (cpus : List Nat) :
    Option (List Int) :=
  cpus.mapM topology.cpu2Numa.lookup

/-! ## Affinity -/

/-- The file with the cores of an interrupt. -/
def irqFile (irq : Int) : List Char := "/proc/irq/".toList ++ itoa irq ++ "/smp_affinity".toList

/-- The mask with the bit of a core, in groups of 32 bits with the highest first. -/
def affinityMask (cpu ncpus : Nat) : Option (List Char) :=
  let mask := List.replicate (ncpus / 32 + 1) "00000000".toList
  if cpu / 32 < mask.length then
    some ([','].intercalate (mask.set (cpu / 32) (hexDigits 8 (2 ^ (cpu % 32)))).reverse)
  else none

/-- The contents of files, by path. -/
abbrev Files := List Char → Option (List Char)

/-- Binds an interrupt to a core. -/
def writeAffinityToFile (irq : Int) (cpu ncpus : Nat) (files : Files) : Option Files :=
  (affinityMask cpu ncpus).bind fun cpuFlagStr =>
    if machine.writable (irqFile irq) then
      some (Function.update files (irqFile irq) (some cpuFlagStr))
    else none

/-- The cores that have been given interrupts, and the files that have been written. -/
structure Affinity where
  forwardingCpus : List Nat
  files : Files

/-- The body of the loops of the strategies, which differ in the core for an interrupt. -/
def affinitizeIrq (ncpus : Nat) (cpuFor : Nat → Option Nat) (write : Bool) (state : Affinity)
    (irq : Int × Nat) : Option Affinity :=
  (cpuFor irq.2).bind fun cpu =>
    let forwardingCpus :=
      if cpu ∈ state.forwardingCpus then state.forwardingCpus else state.forwardingCpus ++ [cpu]
    if write then
      (machine.writeAffinityToFile irq.1 cpu ncpus state.files).map fun files =>
        ⟨forwardingCpus, files⟩
    else some ⟨forwardingCpus, state.files⟩

/-- Every interrupt of an interface gets a core. -/
def affinitizeIrqs (cpuFor : CpuTopology → Nat → Option Nat) (intf : List Char) (write : Bool)
    (files : Files) : Option Affinity := do
  let irqs ← machine.getInterfaceIrq intf
  let topo ← machine.getCpuTopology
  irqs.zipIdx.foldlM (machine.affinitizeIrq topo.ncpus (cpuFor topo) write) ⟨[], files⟩

/-- The node of the strategy that takes a single one. -/
def numaNode : Int := 0

/-- The order in which the interrupts go to the cores. -/
inductive Strategy where
  | seqNodes
  | sameNode
  | allNodes
deriving DecidableEq, Repr

/-- The core that a strategy has for an interrupt. -/
def CpuTopology.cpuFor (topo : CpuTopology) : Strategy → Nat → Option Nat
  | .seqNodes, i => if topo.ncpus = 0 then none else some (i % topo.ncpus)
  | .sameNode, i =>
      let cpus := topo.cpusOf numaNode
      if cpus.length = 0 then none else cpus[i % cpus.length]?
  | .allNodes, i =>
      let nodes := topo.numa2Cpu.keys.length
      let perNode := (topo.cpusOf numaNode).length
      if nodes = 0 ∨ perNode = 0 then none
      else (topo.cpusOf (i % nodes : Nat))[i / nodes % perNode]?

/-- `affinitizeSeqNodes` goes over all cores. -/
def affinitizeSeqNodes := machine.affinitizeIrqs fun topo => topo.cpuFor .seqNodes

/-- `affinitizeSameNode` stays on one node. -/
def affinitizeSameNode := machine.affinitizeIrqs fun topo => topo.cpuFor .sameNode

/-- `affinitizeAllNodes` goes from node to node. -/
def affinitizeAllNodes := machine.affinitizeIrqs fun topo => topo.cpuFor .allNodes

/-- The strategy of a number. -/
def Strategy.ofInt (strategy : Int) : Option Strategy :=
  if strategy = 0 then some .seqNodes
  else if strategy = 1 then some .sameNode
  else if strategy = 2 then some .allNodes
  else none

/-- What `AffinitizeIntf` and `GetAffinitizeMapping` do for a strategy. -/
def affinitize : Strategy → List Char → Bool → Files → Option Affinity
  | .seqNodes => machine.affinitizeSeqNodes
  | .sameNode => machine.affinitizeSameNode
  | .allNodes => machine.affinitizeAllNodes

/-- A strategy that is not there changes nothing. -/
def affinitizeIntf (intf : List Char) (strategy : Int) (files : Files) : Option Files :=
  match Strategy.ofInt strategy with
  | some known => (machine.affinitize known intf true files).map Affinity.files
  | none => some files

/-- The cores that a strategy binds the interface's interrupts to. -/
def getAffinitizeMapping (intf : List Char) (strategy : Int) : Option (List Nat) :=
  (Strategy.ofInt strategy).bind fun known =>
    (machine.affinitize known intf false fun _ => none).map Affinity.forwardingCpus

/-! ## Masks -/

/-- A group of digits of a mask, as the kernel reads it. -/
def readGroup (group : List Char) : Option Nat :=
  if group ≠ [] ∧ group.length ≤ 8 then
    group.foldlM (fun value digit => (hexValue digit).map fun low => 16 * value + low) 0
  else none

/-- The next group has the next lower 32 bits. -/
def shiftIn (bits : Nat) (group : List Char) : Option Nat :=
  (readGroup group).map fun low => 2 ^ 32 * bits + low

/-- The bits of a mask, as the kernel reads it. -/
def readMask (mask : List Char) : Option Nat := (mask.splitOn ',').foldlM shiftIn 0

private theorem readGroup_bit : ∀ bit < 32, readGroup (hexDigits 8 (2 ^ bit)) = some (2 ^ bit) ∧
    ',' ∉ hexDigits 8 (2 ^ bit) := by
  decide +kernel

private theorem foldlM_shiftIn_zeros (count : Nat) :
    (List.replicate count "00000000".toList).reverse.foldlM shiftIn 0 = some 0 := by
  induction count with
  | zero => rfl
  | succ count ih =>
      rw [List.replicate_succ, List.reverse_cons, List.foldlM_append, ih]
      rfl

/-- The bit of a group is found where the group was put. -/
theorem foldlM_shiftIn_set {group : List Char} {value : Nat} (read : readGroup group = some value)
    {count index : Nat} (inside : index < count) :
    ((List.replicate count "00000000".toList).set index group).reverse.foldlM shiftIn 0 =
      some (2 ^ (32 * index) * value) := by
  induction count generalizing index with
  | zero => exact absurd inside (Nat.not_lt_zero _)
  | succ count ih =>
      rw [List.replicate_succ]
      cases index with
      | zero =>
          rw [List.set_cons_zero, List.reverse_cons, List.foldlM_append, foldlM_shiftIn_zeros,
            Option.bind_eq_bind, Option.bind_some, List.foldlM_cons, shiftIn, read]
          simp only [Option.map_some, List.foldlM_nil, Option.bind_eq_bind, Option.bind_some,
            Option.pure_def, Nat.mul_zero, Nat.zero_add, Nat.pow_zero, Nat.one_mul]
      | succ index =>
          rw [List.set_cons_succ, List.reverse_cons, List.foldlM_append,
            ih (Nat.lt_of_succ_lt_succ inside), Option.bind_eq_bind, Option.bind_some,
            List.foldlM_cons, shiftIn]
          have zero : readGroup "00000000".toList = some 0 := by decide +kernel
          have shifted : 2 ^ 32 * (2 ^ (32 * index) * value) = 2 ^ (32 * (index + 1)) * value := by
            rw [Nat.mul_add_one, Nat.pow_add, Nat.mul_assoc, Nat.mul_left_comm]
          rw [zero, Option.map_some, shifted]
          rfl

/-- The kernel reads the mask as the one core it was written for. -/
theorem readMask_affinityMask {cpu ncpus : Nat} {mask : List Char}
    (written : affinityMask cpu ncpus = some mask) : readMask mask = some (2 ^ cpu) := by
  obtain ⟨bit, plain⟩ := readGroup_bit (cpu % 32) (Nat.mod_lt _ (by decide))
  rw [affinityMask, List.length_replicate] at written
  split at written
  next inside =>
    obtain rfl := Option.some.inj written
    have apart : ∀ group ∈ ((List.replicate (ncpus / 32 + 1) "00000000".toList).set (cpu / 32)
        (hexDigits 8 (2 ^ (cpu % 32)))).reverse, ',' ∉ group := by
      intro group member
      rcases List.mem_or_eq_of_mem_set (List.mem_reverse.mp member) with other | rfl
      · rw [List.eq_of_mem_replicate other]
        decide
      · exact plain
    have nonempty : ((List.replicate (ncpus / 32 + 1) "00000000".toList).set (cpu / 32)
        (hexDigits 8 (2 ^ (cpu % 32)))).reverse ≠ [] := by
      rw [ne_eq, List.reverse_eq_nil_iff, List.set_eq_nil_iff, List.replicate_eq_nil_iff]
      omega
    rw [readMask, List.splitOn_intercalate ',' apart nonempty, foldlM_shiftIn_set bit inside,
      ← Nat.pow_add, Nat.div_add_mod]
  next => cases written

/-- An interrupt is served by this core and no other. -/
def ServedBy (files : Files) (irq : Int) (cpu : Nat) : Prop :=
  (files (irqFile irq)).bind readMask = some (2 ^ cpu)

private theorem ServedBy.unique {files : Files} {irq : Int} {cpu other : Nat}
    (served : ServedBy files irq cpu) (again : ServedBy files irq other) : cpu = other :=
  Nat.pow_right_injective (Nat.le_refl 2) (Option.some.inj (served.symm.trans again))

private theorem irqFile_injective : Function.Injective irqFile := by
  intro first second same
  exact itoa_injective (List.append_cancel_left (List.append_cancel_right same))

private theorem servedBy_update (files : Files) (irq : Int) {cpu ncpus : Nat} {mask : List Char}
    (masked : affinityMask cpu ncpus = some mask) :
    ServedBy (Function.update files (irqFile irq) (some mask)) irq cpu := by
  rw [ServedBy, Function.update_self, Option.bind_some]
  exact readMask_affinityMask masked

private theorem ServedBy.update_of_ne {files : Files} {irq other : Int} {cpu : Nat}
    (served : ServedBy files irq cpu) (different : irq ≠ other) (mask : List Char) :
    ServedBy (Function.update files (irqFile other) (some mask)) irq cpu := by
  rw [ServedBy, Function.update_of_ne fun same => different (irqFile_injective same)]
  exact served

/-- What is true after some interrupts have got their cores. -/
structure Affinitized (cpuFor : Nat → Option Nat) (write : Bool) (irqs : List Int)
    (state : Affinity) : Prop where
  assigned : ∀ i < irqs.length, ∃ cpu, cpuFor i = some cpu
  nodup : state.forwardingCpus.Nodup
  mem_iff : ∀ cpu, cpu ∈ state.forwardingCpus ↔ ∃ i < irqs.length, cpuFor i = some cpu
  served : write = true → ∀ irq ∈ irqs, ∃ i cpu, irqs[i]? = some irq ∧ cpuFor i = some cpu ∧
    ServedBy state.files irq cpu

namespace Affinitized

variable {machine : Machine} {cpuFor : Nat → Option Nat} {write : Bool} {irqs : List Int}
  {state after : Affinity} {ncpus : Nat} {irq : Int}

/-- One more interrupt gets a core. -/
theorem step (affinitized : Affinitized cpuFor write irqs state)
    (taken : machine.affinitizeIrq ncpus cpuFor write state (irq, irqs.length) = some after) :
    Affinitized cpuFor write (irqs ++ [irq]) after := by
  obtain ⟨cpu, chosen, rest⟩ := Option.bind_eq_some_iff.mp taken
  dsimp only at chosen rest
  have cpus : after.forwardingCpus =
      if cpu ∈ state.forwardingCpus then state.forwardingCpus
      else state.forwardingCpus ++ [cpu] := by
    split at rest
    · obtain ⟨files, _, rfl⟩ := Option.map_eq_some_iff.mp rest
      rfl
    · exact congrArg Affinity.forwardingCpus (Option.some.inj rest).symm
  have known : ∀ other, other ∈ after.forwardingCpus ↔
      other ∈ state.forwardingCpus ∨ other = cpu := by
    intro other
    rw [cpus]
    split
    next old => exact ⟨.inl, fun either => either.elim id fun same => same ▸ old⟩
    next => rw [List.mem_append, List.mem_singleton]
  constructor
  case assigned =>
    intro i inside
    rw [List.length_append, List.length_singleton, Nat.lt_succ_iff_lt_or_eq] at inside
    rcases inside with earlier | rfl
    · exact affinitized.assigned i earlier
    · exact ⟨cpu, chosen⟩
  case nodup =>
    rw [cpus]
    split
    next => exact affinitized.nodup
    next new =>
      rw [← List.concat_eq_append]
      exact affinitized.nodup.concat new
  case mem_iff =>
    intro other
    rw [known, affinitized.mem_iff, List.length_append, List.length_singleton]
    constructor
    · rintro (⟨i, inside, found⟩ | rfl)
      · exact ⟨i, Nat.lt_succ_of_lt inside, found⟩
      · exact ⟨irqs.length, Nat.lt_succ_self _, chosen⟩
    · rintro ⟨i, inside, found⟩
      rcases Nat.lt_succ_iff_lt_or_eq.mp inside with earlier | rfl
      · exact .inl ⟨i, earlier, found⟩
      · exact .inr (Option.some.inj (found.symm.trans chosen))
  case served =>
    intro writes other member
    rw [if_pos writes] at rest
    obtain ⟨files, written, rfl⟩ := Option.map_eq_some_iff.mp rest
    obtain ⟨mask, masked, stored⟩ := Option.bind_eq_some_iff.mp written
    split at stored
    · obtain rfl := Option.some.inj stored
      by_cases same : other = irq
      · refine ⟨irqs.length, cpu, ?_, chosen, ?_⟩
        · rw [List.getElem?_append_right (Nat.le_refl _), Nat.sub_self, same]
          rfl
        · exact same ▸ servedBy_update state.files irq masked
      · have earlier : other ∈ irqs :=
          (List.mem_append.mp member).resolve_right fun last => same (List.mem_singleton.mp last)
        obtain ⟨i, core, listed, found, served⟩ := affinitized.served writes other earlier
        refine ⟨i, core, ?_, found, ?_⟩
        · rw [List.getElem?_append_left (List.getElem?_eq_some_iff.mp listed).1]
          exact listed
        · exact served.update_of_ne same mask
    · cases stored

private theorem foldlM {start : Affinity} (empty : start.forwardingCpus = [])
    (taken : irqs.zipIdx.foldlM (machine.affinitizeIrq ncpus cpuFor write) start = some after) :
    Affinitized cpuFor write irqs after := by
  induction irqs using List.reverseRecOn generalizing after with
  | nil =>
      obtain rfl := Option.some.inj taken
      refine ⟨nofun, empty ▸ List.nodup_nil, ?_, nofun⟩
      intro cpu
      rw [empty]
      exact ⟨nofun, nofun⟩
  | append_singleton irqs irq ih =>
      rw [List.zipIdx_append, List.foldlM_append] at taken
      obtain ⟨state, earlier, last⟩ := Option.bind_eq_some_iff.mp taken
      rw [Nat.zero_add, List.zipIdx_singleton, List.foldlM_cons] at last
      obtain ⟨next, step, same⟩ := Option.bind_eq_some_iff.mp last
      obtain rfl := Option.some.inj same
      exact (ih earlier).step step

end Affinitized

/-! ## Rounds -/

namespace CpuTopology

variable {machine : Machine} {topology after : CpuTopology} {count : Nat}

/-- What is true after so many cores have been read. -/
structure Sound (topology : CpuTopology) (count : Nat) : Prop where
  mem_iff : ∀ cpu numa, cpu ∈ topology.cpusOf numa ↔ topology.cpu2Numa.lookup cpu = some numa
  nodup : ∀ numa, (topology.cpusOf numa).Nodup
  known : ∀ cpu, cpu ∈ topology.cpu2Numa ↔ cpu < count

private theorem Sound.addCpu (sound : Sound topology count)
    (taken : machine.addCpu topology count = some after) : Sound after (count + 1) := by
  obtain ⟨numa, read, rfl⟩ := Option.map_eq_some_iff.mp taken
  have new : topology.cpu2Numa.lookup count = none :=
    AList.lookup_eq_none.mpr fun member => Nat.lt_irrefl _ ((sound.known count).mp member)
  have cpus : ∀ other, cpusOf { topology with
      cpu2Numa := topology.cpu2Numa.insert count numa
      numa2Cpu := topology.numa2Cpu.insert numa (topology.cpusOf numa ++ [count]) } other =
      if other = numa then topology.cpusOf numa ++ [count] else topology.cpusOf other := by
    intro other
    rw [cpusOf, lookup_insert_eq_ite]
    split
    · rfl
    · rfl
  constructor
  case mem_iff =>
    intro cpu other
    rw [cpus, lookup_insert_eq_ite]
    by_cases own : cpu = count
    · subst own
      have absent : ∀ other, cpu ∉ topology.cpusOf other := by
        intro other member
        rw [sound.mem_iff, new] at member
        cases member
      simp only [↓reduceIte, Option.some.injEq]
      split
      next same =>
        simp only [List.mem_append, absent, List.mem_singleton, or_true, same]
      next different =>
        simp only [absent, false_iff]
        exact fun same => different same.symm
    · rw [if_neg own, ← sound.mem_iff]
      split
      next same => simp only [List.mem_append, List.mem_singleton, own, or_false, same]
      next => rfl
  case nodup =>
    intro other
    rw [cpus]
    split
    next =>
      rw [← List.concat_eq_append]
      refine (sound.nodup numa).concat ?_
      intro member
      rw [sound.mem_iff, new] at member
      cases member
    next => exact sound.nodup other
  case known =>
    intro cpu
    rw [AList.mem_insert, sound.known, Nat.lt_succ_iff_lt_or_eq, or_comm]

private theorem sound_of_getCpuTopology (read : machine.getCpuTopology = some topology) :
    Sound topology machine.numCpu := by
  have loop : ∀ count topology, (List.range count).foldlM machine.addCpu
      ⟨∅, ∅, machine.numCpu⟩ = some topology → Sound topology count := by
    intro count
    induction count with
    | zero =>
        intro topology start
        obtain rfl := Option.some.inj start
        refine ⟨?_, fun _ => List.nodup_nil, ?_⟩
        · intro cpu numa
          exact ⟨nofun, nofun⟩
        · intro cpu
          exact ⟨fun member => absurd member (AList.notMem_empty cpu), nofun⟩
    | succ count ih =>
        intro topology taken
        rw [List.range_succ, List.foldlM_append] at taken
        obtain ⟨before, earlier, last⟩ := Option.bind_eq_some_iff.mp taken
        rw [List.foldlM_cons] at last
        obtain ⟨next, added, same⟩ := Option.bind_eq_some_iff.mp last
        obtain rfl := Option.some.inj same
        exact (ih before earlier).addCpu added
  exact loop machine.numCpu topology read

/-- How many interrupts a strategy serves before it starts again. -/
def period (topo : CpuTopology) : Strategy → Nat
  | .seqNodes => topo.ncpus
  | .sameNode => (topo.cpusOf numaNode).length
  | .allNodes => topo.numa2Cpu.keys.length * (topo.cpusOf numaNode).length

/-- The cores come round. -/
theorem cyclic_seqNodes (topo : CpuTopology) : Cyclic (topo.cpuFor .seqNodes) topo.ncpus where
  idle := fun none _ => if_pos none
  repeats := by
    intro i
    rw [cpuFor, cpuFor, Nat.mod_mod]
  once := by
    intro first firstInside second secondInside cpu found again
    rw [cpuFor] at found again
    split at found
    · cases found
    · next some =>
      rw [if_neg some] at again
      have same := Option.some.inj (found.trans again.symm)
      rwa [Nat.mod_eq_of_lt firstInside, Nat.mod_eq_of_lt secondInside] at same

/-- The cores of the node come round. -/
theorem Sound.cyclic_sameNode (sound : Sound topology count) :
    Cyclic (topology.cpuFor .sameNode) (topology.cpusOf numaNode).length where
  idle := fun none _ => if_pos none
  repeats := by
    intro i
    rw [cpuFor, cpuFor, Nat.mod_mod]
  once := by
    intro first firstInside second secondInside cpu found again
    have some : (topology.cpusOf numaNode).length ≠ 0 := by
      intro none
      rw [none] at firstInside
      cases firstInside
    rw [cpuFor, if_neg some, Nat.mod_eq_of_lt firstInside] at found
    rw [cpuFor, if_neg some, Nat.mod_eq_of_lt secondInside] at again
    exact (List.getElem?_inj firstInside (sound.nodup numaNode)).mp (found.trans again.symm)

/-- A core is at one place of one node. -/
theorem Sound.cyclic_allNodes (sound : Sound topology count) : Cyclic (topology.cpuFor .allNodes)
    (topology.numa2Cpu.keys.length * (topology.cpusOf numaNode).length) where
  idle := fun none _ => if_pos (Nat.mul_eq_zero.mp none)
  repeats := by
    intro i
    rw [cpuFor, cpuFor, Nat.mod_mul_right_mod, Nat.mod_mul_right_div_self, Nat.mod_mod]
  once := by
    intro first firstInside second secondInside cpu found again
    rw [cpuFor] at found again
    split at found
    · cases found
    · next some =>
      rw [if_neg some] at again
      have firstNode := (sound.mem_iff cpu _).mp (List.mem_of_getElem? found)
      have secondNode := (sound.mem_iff cpu _).mp (List.mem_of_getElem? again)
      have node := Int.ofNat.inj (Option.some.inj (firstNode.symm.trans secondNode))
      rw [← node] at again
      have place := (List.getElem?_inj (List.getElem?_eq_some_iff.mp found).1
        (sound.nodup _)).mp (found.trans again.symm)
      rw [Nat.mod_eq_of_lt (Nat.div_lt_of_lt_mul firstInside),
        Nat.mod_eq_of_lt (Nat.div_lt_of_lt_mul secondInside)] at place
      rw [← Nat.div_add_mod first topology.numa2Cpu.keys.length, place, node, Nat.div_add_mod]

/-- Every strategy goes round. -/
theorem Sound.cyclic (sound : Sound topology count) (strategy : Strategy) :
    Cyclic (topology.cpuFor strategy) (topology.period strategy) := by
  cases strategy with
  | seqNodes => exact topology.cyclic_seqNodes
  | sameNode => exact sound.cyclic_sameNode
  | allNodes => exact sound.cyclic_allNodes

end CpuTopology

variable {machine}

/-- What a strategy does. -/
theorem affinitized_of_affinitize {strategy : Strategy} {intf : List Char} {write : Bool}
    {files : Files} {affinity : Affinity}
    (done : machine.affinitize strategy intf write files = some affinity) :
    ∃ irqs topo, machine.getInterfaceIrq intf = some irqs ∧
      machine.getCpuTopology = some topo ∧ topo.Sound machine.numCpu ∧
      Affinitized (topo.cpuFor strategy) write irqs affinity := by
  have same : machine.affinitize strategy intf write files =
      machine.affinitizeIrqs (fun topo => topo.cpuFor strategy) intf write files := by
    cases strategy with
    | seqNodes => rfl
    | sameNode => rfl
    | allNodes => rfl
  rw [same] at done
  obtain ⟨irqs, listed, rest⟩ := Option.bind_eq_some_iff.mp done
  obtain ⟨topo, read, taken⟩ := Option.bind_eq_some_iff.mp rest
  exact ⟨irqs, topo, listed, read, CpuTopology.sound_of_getCpuTopology read,
    .foldlM rfl taken⟩

instance (files : Files) (irq : Int) (cpu : Nat) : Decidable (ServedBy files irq cpu) :=
  inferInstanceAs (Decidable ((files (irqFile irq)).bind readMask = some (2 ^ cpu)))

/-- An interrupt that is listed once is served by the core of its position. -/
theorem Affinitized.servedBy_iff {cpuFor : Nat → Option Nat} {irqs : List Int} {state : Affinity}
    (affinitized : Affinitized cpuFor true irqs state) (distinct : irqs.Nodup) {i : Nat}
    {irq : Int} (found : irqs[i]? = some irq) (cpu : Nat) :
    ServedBy state.files irq cpu ↔ cpuFor i = some cpu := by
  obtain ⟨inside, rfl⟩ := List.getElem?_eq_some_iff.mp found
  obtain ⟨j, core, again, picked, served⟩ :=
    affinitized.served rfl _ (List.getElem_mem inside)
  obtain rfl := (List.getElem?_inj inside distinct).mp (found.trans again.symm)
  rw [picked, Option.some.injEq]
  constructor
  · exact fun other => served.unique other
  · rintro rfl
    exact served

/-- **Interrupts are spread evenly.** Whatever strategy an interface is affinitized by, and
whatever the host has of interrupts, nodes and cores: if the program gets through, every
interrupt is served by exactly one core, and that is one of the cores that katran is told to
forward on. Every such core is told once, as many as the strategy has cores or interrupts are
there, and each of them gets its part of the interrupts, or one more. -/
theorem interrupts_balanced {strategy : Strategy} {intf : List Char} {files : Files}
    {affinity : Affinity} {irqs : List Int} {topo : CpuTopology}
    (listed : machine.getInterfaceIrq intf = some irqs)
    (read : machine.getCpuTopology = some topo) (distinct : irqs.Nodup)
    (done : machine.affinitize strategy intf true files = some affinity) :
    affinity.forwardingCpus.Nodup ∧
      affinity.forwardingCpus.length = min irqs.length (topo.period strategy) ∧
      (∀ irq ∈ irqs, ∃ cpu ∈ affinity.forwardingCpus, ServedBy affinity.files irq cpu) ∧
      ∀ cpu ∈ affinity.forwardingCpus,
        let load := irqs.countP fun irq => ServedBy affinity.files irq cpu
        irqs.length / topo.period strategy ≤ load ∧
          load ≤ irqs.length / topo.period strategy + 1 := by
  obtain ⟨_, _, listedAgain, readAgain, sound, affinitized⟩ := affinitized_of_affinitize done
  obtain rfl := Option.some.inj (listed.symm.trans listedAgain)
  obtain rfl := Option.some.inj (read.symm.trans readAgain)
  have cyclic := sound.cyclic strategy
  refine ⟨affinitized.nodup,
    cyclic.length_picked affinitized.nodup affinitized.assigned affinitized.mem_iff, ?_, ?_⟩
  · intro irq member
    obtain ⟨i, cpu, found, picked, served⟩ := affinitized.served rfl irq member
    exact ⟨cpu, (affinitized.mem_iff cpu).mpr
      ⟨i, (List.getElem?_eq_some_iff.mp found).1, picked⟩, served⟩
  · intro cpu member
    obtain ⟨i, inside, picked⟩ := (affinitized.mem_iff cpu).mp member
    have load : (irqs.countP fun irq => ServedBy affinity.files irq cpu) =
        irqs.length / topo.period strategy +
          if i % topo.period strategy < irqs.length % topo.period strategy then 1 else 0 := by
      rw [← cyclic.count_picked picked]
      apply countP_eq_count
      intro j irq found
      rw [decide_eq_true_eq]
      exact affinitized.servedBy_iff distinct found cpu
    dsimp only
    rw [load]
    split
    · exact ⟨Nat.le_add_right _ _, Nat.le_refl _⟩
    · exact ⟨Nat.le_add_right _ _, Nat.le_succ _⟩

/-- Two nodes with two cores each, and an interface with five interrupts. -/
def small : Machine where
  readFile := fun path =>
    if path = "/proc/interrupts".toList then
      some ("  9: 3 acpi\n 24: 7 eth0-0\n 25: 8 eth0-1\n 26: 9 eth0-2\n 27: 9 eth0-3\n" ++
        " 28: 4 eth0-4\nNMI: 0\n").toList
    else
      match [0, 1, 2, 3].find? fun cpu => path = "/sys/devices/system/cpu/cpu".toList ++
          itoa (Int.ofNat cpu) ++ "/topology/physical_package_id".toList with
      | some cpu => some (itoa (Int.ofNat (cpu / 2)) ++ ['\n'])
      | none => none
  readDir := fun _ => none
  numCpu := 4
  compile := fun _ => some fun line => line.tails.any fun rest => "eth0".toList.isPrefixOf rest
  writable := fun _ => true

private theorem small_affinitizes :
    (small.affinitize .allNodes "eth0".toList true fun _ => none).isSome = true := by
  decide +kernel

/-- The first core gets two of the five interrupts, the others get one. -/
theorem interrupts_balanced_small :
    let affinity := (small.affinitize .allNodes "eth0".toList true fun _ => none).get
      small_affinitizes
    affinity.forwardingCpus = [0, 2, 1, 3] ∧ ∀ cpu ∈ affinity.forwardingCpus,
      let load := [24, 25, 26, 27, 28].countP fun irq => ServedBy affinity.files irq cpu
      1 ≤ load ∧ load ≤ 2 := by
  intro affinity
  have cpus : affinity.forwardingCpus = [0, 2, 1, 3] := by decide +kernel
  have listed : small.getInterfaceIrq "eth0".toList = some [24, 25, 26, 27, 28] := by
    decide +kernel
  obtain ⟨topo, read⟩ := Option.isSome_iff_exists.mp
    (show small.getCpuTopology.isSome = true by decide +kernel)
  have period : topo.period .allNodes = 4 := by
    have computed : small.getCpuTopology.map (fun topo => topo.period .allNodes) = some 4 := by
      decide +kernel
    rw [read, Option.map_some] at computed
    exact Option.some.inj computed
  obtain ⟨_, _, _, loads⟩ := interrupts_balanced listed read (by decide)
    (Option.some_get small_affinitizes).symm
  rw [period] at loads
  exact ⟨cpus, loads⟩

end Machine

end Katran
