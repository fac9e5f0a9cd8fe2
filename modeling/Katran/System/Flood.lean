import Katran.Foundation.Quanta
import Katran.System.Traceless

/-! # How many connections are let into the connection tables

`is_under_flood` is a limiter by quanta of a second, kept in an entry of `stats` of each
core. Nothing else writes that entry, so the calls on a core find it as the call before has
left it, and the limiter's bounds hold for them and for what `get_packet_dst` records.
-/

namespace Katran

open Foundation

variable {cfg : BpfConfig} {cpu : Nat}

/-- The calls find what the one before has left. -/
def HandedOn {Call : Type} (before after : Call → LbStats) : LbStats → List Call → Prop
  | _, [] => True
  | stats, call :: calls => before call = stats ∧ HandedOn before after (after call) calls

/-! ## The limiter -/

/-- A call of `is_under_flood`, at a time and in a state. -/
structure FloodCall where
  curTime : UInt64
  flow : FlowMaps

/-- The entry after the call. -/
def FloodCall.left (cfg : BpfConfig) (cpu : Nat) (call : FloodCall) : LbStats :=
  rate cfg (isUnderFlood cfg cpu call.curTime call.flow).2 cpu

/-- Whether the call resets the counter. -/
def FloodCall.resets (cfg : BpfConfig) (cpu : Nat) (call : FloodCall) : Bool :=
  call.curTime - (rate cfg call.flow cpu).v2 > oneSec

/-- A call lets a connection through if it returns false. -/
def FloodCall.event (cfg : BpfConfig) (cpu : Nat) (call : FloodCall) : TimedEvent where
  time := call.curTime.toNat
  renewed := call.resets cfg cpu
  passed := !(isUnderFlood cfg cpu call.curTime call.flow).1

/-- The calls of `is_under_flood` on a core, from an entry that is zero at first: time does
not go back, and there are not as many of them as a counter holds. -/
structure FloodCalls (cfg : BpfConfig) (cpu : Nat) (calls : List FloodCall) : Prop where
  handed : HandedOn (fun call => rate cfg call.flow cpu) (FloodCall.left cfg cpu) {} calls
  ordered : calls.Pairwise fun earlier later => earlier.curTime ≤ later.curTime
  few : calls.length < 2 ^ 64

/-- The entry is what a limiter knows. -/
structure LbStats.Tracks (stats : LbStats) (quantum : Quantum) : Prop where
  count : stats.v1.toNat = quantum.count
  since : stats.v2.toNat = quantum.since

namespace FloodCall

variable {stats : LbStats} {quantum : Quantum} {call : FloodCall}

/-- No wrap around: the quantum began before. -/
theorem late_iff (tracks : stats.Tracks quantum) {curTime : UInt64}
    (begun : quantum.since ≤ curTime.toNat) :
    curTime - stats.v2 > oneSec ↔ oneSec.toNat < curTime.toNat - quantum.since := by
  have before : stats.v2 ≤ curTime := by
    rw [UInt64.le_iff_toNat_le, tracks.since]
    exact begun
  rw [gt_iff_lt, UInt64.lt_iff_toNat_lt, UInt64.toNat_sub_of_le _ _ before, tracks.since]

private theorem tracks_next (tracks : stats.Tracks quantum) {curTime : UInt64}
    (begun : quantum.since ≤ curTime.toNat) (few : quantum.count + 1 < 2 ^ 64) :
    (countConn curTime stats).Tracks (quantum.next oneSec.toNat curTime.toNat) := by
  unfold countConn Quantum.next
  by_cases late : curTime - stats.v2 > oneSec
  · rw [if_pos late, if_pos ((late_iff tracks begun).mp late)]
    exact ⟨rfl, rfl⟩
  · rw [if_neg late, if_neg fun other => late ((late_iff tracks begun).mpr other)]
    refine ⟨?_, tracks.since⟩
    have one : (1 : UInt64).toNat = 1 := rfl
    rw [LbStats.addV1, UInt64.toNat_add, tracks.count, one, Nat.mod_eq_of_lt few]

/-- A call does to a connection what the limiter does. -/
theorem event_eq (inside : cfg.maxVips + newConnRateCntr < cfg.statsMapSize)
    (tracks : (rate cfg call.flow cpu).Tracks quantum) (begun : quantum.since ≤ call.curTime.toNat)
    (few : quantum.count + 1 < 2 ^ 64) :
    call.event cfg cpu =
      quantum.event cfg.maxConnRate.toNat oneSec.toNat call.curTime.toNat := by
  have late := late_iff tracks begun
  have renewed : call.resets cfg cpu =
      decide (oneSec.toNat < call.curTime.toNat - quantum.since) := decide_eq_decide.mpr late
  unfold event Quantum.event
  rw [renewed]
  congr 1
  unfold isUnderFlood
  dsimp only
  rw [if_pos inside]
  split
  next now =>
    have resets := late.mp now
    simp only [Bool.not_false, resets, true_or, decide_true]
  next soon =>
    have exceeds : (rate cfg call.flow cpu).v1 + 1 > cfg.maxConnRate ↔
        cfg.maxConnRate.toNat < quantum.count + 1 := by
      have one : (1 : UInt64).toNat = 1 := rfl
      rw [gt_iff_lt, UInt64.lt_iff_toNat_lt, UInt64.toNat_add, tracks.count, one,
        Nat.mod_eq_of_lt few]
    have still : ¬ oneSec.toNat < call.curTime.toNat - quantum.since :=
      fun now => soon (late.mpr now)
    simp only [still, false_or]
    rw [← decide_not]
    refine decide_eq_decide.mpr ?_
    rw [← Nat.not_lt]
    exact not_congr exceeds

private theorem map_event_eq (inside : cfg.maxVips + newConnRateCntr < cfg.statsMapSize)
    {calls : List FloodCall}
    (handed : HandedOn (fun call => rate cfg call.flow cpu) (left cfg cpu) stats calls)
    (ordered : calls.Pairwise fun earlier later => earlier.curTime ≤ later.curTime)
    (tracks : stats.Tracks quantum) (begun : ∀ call ∈ calls, quantum.since ≤ call.curTime.toNat)
    (few : quantum.count + calls.length < 2 ^ 64) :
    calls.map (event cfg cpu) = quantum.events cfg.maxConnRate.toNat oneSec.toNat
      (calls.map fun call => call.curTime.toNat) := by
  induction calls generalizing stats quantum with
  | nil => rfl
  | cons call calls ih =>
      obtain ⟨rfl, handed⟩ := handed
      obtain ⟨after, ordered⟩ := List.pairwise_cons.mp ordered
      have started := begun call List.mem_cons_self
      rw [List.length_cons] at few
      have room : quantum.count + 1 < 2 ^ 64 := by omega
      rw [left, rate_isUnderFlood_of_lt inside, if_pos rfl] at handed
      rw [List.map_cons, List.map_cons, Quantum.events, event_eq inside tracks started room]
      congr 1
      refine ih handed ordered (tracks_next tracks started room) ?_ ?_
      · intro later listed
        have order := UInt64.le_iff_toNat_le.mp (after later listed)
        have known := begun later (List.mem_cons_of_mem _ listed)
        unfold Quantum.next
        split
        · exact order
        · exact known
      · unfold Quantum.next
        split
        · dsimp only
          omega
        · dsimp only
          omega

end FloodCall

private theorem FloodCalls.rateBound {calls : List FloodCall}
    (inside : cfg.maxVips + newConnRateCntr < cfg.statsMapSize)
    (sequence : FloodCalls cfg cpu calls) :
    RateBound oneSec.toNat (max 1 cfg.maxConnRate.toNat) (calls.map (FloodCall.event cfg cpu)) := by
  have zero : ({} : LbStats).Tracks ⟨0, 0⟩ := ⟨rfl, rfl⟩
  rw [FloodCall.map_event_eq inside sequence.handed sequence.ordered zero
    (fun _ _ => Nat.zero_le _) (by rw [Nat.zero_add]; exact sequence.few)]
  refine Quantum.rateBound_events ?_
  rw [List.pairwise_map]
  exact sequence.ordered.imp fun order => UInt64.le_iff_toNat_le.mp order

/-! ## The connections that are recorded -/

/-- A call of `get_packet_dst`, in a state. -/
structure DstCall where
  maps : ConfigMaps
  env : PacketEnv
  isIpv6 : Bool
  lruMap : Option Nat
  info : VipMeta
  pckt : PacketDescription
  flow : FlowMaps

namespace DstCall

/-- What the call returns and leaves. -/
def result (cfg : BpfConfig) (call : DstCall) : Option Chosen × FlowMaps :=
  getPacketDst cfg call.maps call.env call.isIpv6 call.lruMap call.info call.pckt call.flow

/-- The call of `is_under_flood` it makes. -/
def flood (call : DstCall) : FloodCall := ⟨call.env.floodTime, call.flow⟩

/-- Whether it puts an entry into the connection table (`lru_result`). -/
def inserts (cfg : BpfConfig) (call : DstCall) : Bool :=
  (call.result cfg).1.isSome ∧ ¬ call.info.lruBypass ∧
    ¬ (isUnderFlood cfg call.env.cpu call.env.floodTime call.flow).1

/-- A call is counted if it puts an entry into the connection table. -/
def event (cfg : BpfConfig) (call : DstCall) : TimedEvent where
  time := call.env.floodTime.toNat
  renewed := call.flood.resets cfg call.env.cpu
  passed := call.inserts cfg

/-- The connection table has another entry if the call puts one there, and is the same
otherwise. -/
theorem lru_result (cfg : BpfConfig) (call : DstCall) :
    (call.inserts cfg = true ∧ ∃ recorded entry,
      (call.result cfg).2.lru = store call.flow.lru call.lruMap recorded entry) ∨
    (call.inserts cfg = false ∧ (call.result cfg).2.lru = call.flow.lru) := by
  have spec := getPacketDst_spec cfg call.maps call.env call.isIpv6 call.lruMap call.info call.pckt
    call.flow
  dsimp only at spec
  rw [← result] at spec
  unfold inserts
  rcases spec with ⟨failed, same, _⟩ | ⟨key, recorded, _, _, chosen, lru⟩
  · refine .inr ⟨?_, same⟩
    rw [failed]
    exact decide_eq_false fun both => absurd both.1 (by decide)
  · unfold recordedLru at lru
    split at lru
    next used =>
      refine .inl ⟨decide_eq_true ⟨?_, used⟩, recorded, _, lru⟩
      rw [chosen]
      rfl
    next unused => exact .inr ⟨decide_eq_false fun both => unused both.2, lru⟩

end DstCall

/-- The calls of `get_packet_dst` on a core, from an entry that is zero at first. -/
structure DstCalls (cfg : BpfConfig) (cpu : Nat) (calls : List DstCall) : Prop where
  core : ∀ call ∈ calls, call.env.cpu = cpu
  handed : HandedOn (fun call => rate cfg call.flow cpu)
    (fun call => rate cfg (call.result cfg).2 cpu) {} calls
  ordered : calls.Pairwise fun earlier later => earlier.env.floodTime ≤ later.env.floodTime
  few : calls.length < 2 ^ 64

private theorem HandedOn.flood {calls : List DstCall} {stats : LbStats}
    (core : ∀ call ∈ calls, call.env.cpu = cpu)
    (handed : HandedOn (fun call => rate cfg call.flow cpu)
      (fun call => rate cfg (call.result cfg).2 cpu) stats calls) :
    HandedOn (fun call => rate cfg call.flow cpu) (FloodCall.left cfg cpu) stats
      (calls.map DstCall.flood) := by
  induction calls generalizing stats with
  | nil => trivial
  | cons call calls ih =>
      obtain ⟨found, handed⟩ := handed
      refine ⟨found, ?_⟩
      have counted : rate cfg (call.result cfg).2 cpu = call.flood.left cfg cpu := by
        unfold DstCall.result FloodCall.left DstCall.flood
        rw [getPacketDst_rate, core call List.mem_cons_self]
      dsimp only at handed
      rw [counted] at handed
      exact ih (fun other listed => core other (List.mem_cons_of_mem _ listed)) handed

private theorem DstCalls.flood {calls : List DstCall} (sequence : DstCalls cfg cpu calls) :
    FloodCalls cfg cpu (calls.map DstCall.flood) where
  handed := HandedOn.flood sequence.core sequence.handed
  ordered := List.pairwise_map.mpr sequence.ordered
  few := by
    rw [List.length_map]
    exact sequence.few

/-- **New connections are limited.** Of the calls of `is_under_flood` on a core, at most as many
return false as the rate allows (and one, if it allows none) from one reset of the counter to
the next, and at most twice as many within a second. No more entries are put into the connection
table. -/
theorem new_connections_limited (cfg : BpfConfig) (cpu : Nat)
    (inside : cfg.maxVips + newConnRateCntr < cfg.statsMapSize) :
    (∀ calls, FloodCalls cfg cpu calls →
      RateBound oneSec.toNat (max 1 cfg.maxConnRate.toNat)
        (calls.map (FloodCall.event cfg cpu))) ∧
    (∀ calls, DstCalls cfg cpu calls →
      RateBound oneSec.toNat (max 1 cfg.maxConnRate.toNat) (calls.map (DstCall.event cfg))) := by
  refine ⟨fun calls sequence => sequence.rateBound inside, fun calls sequence => ?_⟩
  have bound := sequence.flood.rateBound inside
  rw [List.map_map] at bound
  refine bound.mono (fun _ _ => rfl) ?_ ?_
  · intro call listed
    unfold DstCall.event
    rw [sequence.core call listed]
    rfl
  · intro call listed counted
    have calm := (of_decide_eq_true counted).2.2
    rw [sequence.core call listed] at calm
    rw [Function.comp_apply, FloodCall.event, DstCall.flood]
    exact Bool.not_eq_true' _ ▸ Bool.not_eq_true _ ▸ calm

/-- A rate of one connection. -/
def slowConfig : BpfConfig := { smallConfig with maxConnRate := 1 }

/-- A call for a new connection. -/
def opensAt (now : UInt64) (flow : FlowMaps) : DstCall where
  maps := twoReals
  env := sampleEnv now
  isIpv6 := false
  lruMap := some 0
  info := ⟨0, 1⟩
  pckt := { flow := connection }
  flow := flow

/-- Two of them within a second. -/
def opensTwice : List DstCall :=
  [opensAt 5 .fresh, opensAt 6 ((opensAt 5 .fresh).result slowConfig).2]

private theorem opensTwice_calls : DstCalls slowConfig 0 opensTwice where
  core := by
    intro call listed
    rcases List.mem_pair.mp listed with rfl | rfl
    · rfl
    · rfl
  handed := ⟨rfl, rfl, trivial⟩
  ordered := by decide
  few := by decide

/-- Only the first of the connections is recorded. -/
theorem new_connections_limited_twice :
    DstCalls slowConfig 0 opensTwice ∧
      opensTwice.map (DstCall.inserts slowConfig) = [true, false] ∧
      RateBound oneSec.toNat (max 1 slowConfig.maxConnRate.toNat)
        ((opensTwice.map DstCall.flood).map (FloodCall.event slowConfig 0)) ∧
      RateBound oneSec.toNat (max 1 slowConfig.maxConnRate.toNat)
        (opensTwice.map (DstCall.event slowConfig)) := by
  have limited := new_connections_limited slowConfig 0 (by decide)
  exact ⟨opensTwice_calls, by decide +kernel, limited.1 _ opensTwice_calls.flood,
    limited.2 _ opensTwice_calls⟩

end Katran
