import Katran.Foundation.Run
import Katran.Pcap.PcapWriter

/-! # The monitor's queue

Event readers, callers of the monitor and the writer's thread share one bounded queue. The
readers write without blocking, and `stopMonitor` and `restartMonitor` wait for room. The
destructor writes without blocking as well and then waits for the writer's thread, so that
a queue which is full at this moment loses the message that ends the thread.
-/

namespace Katran

open Foundation

/-- The constructor from a captured packet and its event. -/
def PcapMsgMeta.ofEvent (msg : PcapMsg) (event : UInt32) : PcapMsgMeta :=
  { msg := msg, event := event }

/-- Where the owner of a monitor is: it may call, or it waits in the destructor's `join`, or
this has returned. -/
inductive Owner where
  | calling
  | joining
  | joined
deriving DecidableEq, Repr

/-- A monitor with its threads. The last three fields are not the source's: the number of
events that are still to come, and the control messages in the order in which they are
sent, and in which `runMulti` has taken them. -/
structure KatranMonitor where
  queueSize : Nat
  positive : 0 < queueSize
  queue : List PcapMsgMeta := []
  writer : PcapWriter
  /-- Whether `runMulti` has returned. -/
  writerDone : Bool := false
  /-- The messages of the calls of `blockingWrite` that wait, the first to wait first. -/
  waiting : List PcapMsgMeta := []
  owner : Owner := .calling
  eventsLeft : Nat
  sent : List PcapMsgMeta := []
  consumed : List PcapMsgMeta := []

namespace KatranMonitor

/-- The constructor; a queue cannot have the capacity zero. -/
def new (queueSize : Nat) (writer : PcapWriter) (events : Nat) : Option KatranMonitor :=
  if positive : 0 < queueSize then
    some { queueSize := queueSize, positive := positive, writer := writer, eventsLeft := events }
  else none

/-- `MPMCQueue::write`, which has no effect on a full queue. -/
def write (monitor : KatranMonitor) (msg : PcapMsgMeta) : Bool × KatranMonitor :=
  if monitor.queue.length < monitor.queueSize then
    (true, { monitor with queue := monitor.queue ++ [msg] })
  else (false, monitor)

/-- `sizeof(struct event_metadata)` -/
def eventMetadataSize : Nat := 12

/-- A reader's callback. It logs an error when the queue is full. -/
def handlePerfEvent (monitor : KatranMonitor) (size : Nat) (msg : PcapMsg) (event : UInt32) :
    KatranMonitor :=
  if size < eventMetadataSize then monitor else (monitor.write (.ofEvent msg event)).2

/-- The message that ends the consumer. -/
def shutdownMsg : PcapMsgMeta := { control := true, shutdown := true }

/-- The message that stops the capture. -/
def stopMsg : PcapMsgMeta := { control := true, stop := true }

/-- The message that starts the capture again. -/
def restartMsg (limit : UInt32) : PcapMsgMeta :=
  { control := true, restart := true, packetLimit := limit }

/-- The start of a call of `blockingWrite` with a control message. -/
def beginWrite (monitor : KatranMonitor) (msg : PcapMsgMeta) : KatranMonitor :=
  { monitor with waiting := monitor.waiting ++ [msg], sent := monitor.sent ++ [msg] }

/-- Asks the consumer to stop. -/
def stopMonitor (monitor : KatranMonitor) : KatranMonitor := monitor.beginWrite stopMsg

/-- Asks the consumer to start again. -/
def restartMonitor (monitor : KatranMonitor) (limit : UInt32) : KatranMonitor :=
  monitor.beginWrite (restartMsg limit)

/-- The destructor up to its `join`. Nothing looks at what `write` returns. -/
def destroy (monitor : KatranMonitor) : KatranMonitor :=
  { (monitor.write shutdownMsg).2 with
    owner := .joining
    sent := monitor.sent ++ [shutdownMsg] }

/-- The writer's thread takes a message. -/
def take (monitor : KatranMonitor) (unixUsec : Nat) (msg : PcapMsgMeta)
    (rest : List PcapMsgMeta) : KatranMonitor :=
  let monitor :=
    { monitor with
      queue := rest
      consumed := if msg.control then monitor.consumed ++ [msg] else monitor.consumed }
  match monitor.writer.runMultiStep unixUsec msg with
  | none => { monitor with writerDone := true }
  | some (writer, _) => { monitor with writer := writer }

/-- What a thread does next. -/
inductive Label where
  | handlePerfEvent (size : Nat) (msg : PcapMsg) (event : UInt32)
  | stopMonitor
  | restartMonitor (limit : UInt32)
  /-- A call of `blockingWrite` that has waited finds room and returns. -/
  | blockingWrite
  | destroy
  /-- A turn of `runMulti` at some time. -/
  | runMulti (unixUsec : Nat)
  | join

/-- One step of one thread. Nobody calls a monitor after its destructor or destroys it while
a call waits. -/
def step (monitor : KatranMonitor) : Label → Option KatranMonitor
  | .handlePerfEvent size msg event =>
      if 0 < monitor.eventsLeft then
        some { monitor.handlePerfEvent size msg event with eventsLeft := monitor.eventsLeft - 1 }
      else none
  | .stopMonitor => if monitor.owner = .calling then some monitor.stopMonitor else none
  | .restartMonitor limit =>
      if monitor.owner = .calling then some (monitor.restartMonitor limit) else none
  | .blockingWrite =>
      match monitor.waiting with
      | [] => none
      | msg :: waiting =>
          if monitor.queue.length < monitor.queueSize then
            some { monitor with queue := monitor.queue ++ [msg], waiting := waiting }
          else none
  | .destroy =>
      if monitor.owner = .calling ∧ monitor.waiting = [] then some monitor.destroy else none
  | .runMulti unixUsec =>
      match monitor.queue with
      | [] => none
      | msg :: rest =>
          if monitor.writerDone then none else some (monitor.take unixUsec msg rest)
  | .join =>
      if monitor.owner = .joining ∧ monitor.writerDone then
        some { monitor with owner := .joined }
      else none

/-- A step of the monitor or of its consumer. -/
def Step (before : KatranMonitor) (label : Label) (after : KatranMonitor) : Prop :=
  before.step label = some after

/-- The condition on a step: the queue is not full when the destructor writes to it. -/
def Roomy (before : KatranMonitor) (label : Label) : Prop :=
  label = .destroy → before.queue.length < before.queueSize

/-- A step that meets the condition. -/
def RoomyStep (before : KatranMonitor) (label : Label) (after : KatranMonitor) : Prop :=
  Roomy before label ∧ Step before label after

/-- The control messages that are still to be taken: those in the queue, and then those of the
calls that wait. -/
def pending (monitor : KatranMonitor) : List PcapMsgMeta :=
  monitor.queue.filter (·.control) ++ monitor.waiting

/-- Every control message has been taken, or is in the queue, or its call waits; and they are
so in the order of sending. -/
def NoneLost (monitor : KatranMonitor) : Prop :=
  monitor.sent = monitor.consumed ++ monitor.pending

/-- A step that is not the start of a call. -/
def Inner (before : KatranMonitor) (label : Label) (after : KatranMonitor) : Prop :=
  (label ≠ .stopMonitor ∧ (∀ limit, label ≠ .restartMonitor limit) ∧ label ≠ .destroy) ∧
    Step before label after

/-- Every call has returned. -/
def Returned (monitor : KatranMonitor) : Prop := monitor.waiting = [] ∧ monitor.owner ≠ .joining

/-- A bound on the steps that can follow without another call. -/
def remaining (monitor : KatranMonitor) : Nat :=
  2 * monitor.eventsLeft + 2 * monitor.waiting.length + monitor.queue.length +
    if monitor.owner = .joining then 1 else 0

variable {monitor after : KatranMonitor} {label : Label}

/-! ## No message is lost -/

/-- What the messages that are to be taken say about the writer's thread. -/
structure Accounted (monitor : KatranMonitor) : Prop where
  order : monitor.NoneLost
  waits : ∀ msg ∈ monitor.waiting, msg.control = true
  /-- The thread runs until the destructor, and nothing before it ends the thread. -/
  running : monitor.owner = .calling → monitor.writerDone = false ∧
    ∀ msg ∈ monitor.pending, msg.shutdown = false
  /-- The message that ends the thread is the last one. -/
  ending : monitor.owner ≠ .calling → monitor.waiting = [] ∧
    (monitor.writerDone = true ∧ monitor.pending = [] ∨
      monitor.writerDone = false ∧ ∃ earlier, monitor.pending = earlier ++ [shutdownMsg] ∧
        ∀ msg ∈ earlier, msg.shutdown = false)
  joined : monitor.owner = .joined → monitor.writerDone = true

private theorem new_accounted {queueSize events : Nat} {writer : PcapWriter}
    (built : new queueSize writer events = some monitor) : monitor.Accounted := by
  unfold new at built
  split at built
  next positive =>
    obtain rfl := Option.some.inj built
    exact ⟨rfl, nofun, fun _ => ⟨rfl, nofun⟩, fun absurd => (absurd rfl).elim, nofun⟩
  next => cases built

/-- A message that goes to the queue, or a call that goes on, without a change to what is to
be taken. -/
theorem Accounted.same (accounted : monitor.Accounted) (waiting queue : List PcapMsgMeta)
    (events : Nat) (shorter : waiting <:+ monitor.waiting)
    (same : queue.filter (·.control) ++ waiting = monitor.pending) :
    Accounted { monitor with waiting := waiting, queue := queue, eventsLeft := events } where
  order := accounted.order.trans (congrArg (monitor.consumed ++ ·) same.symm)
  waits := fun msg member => accounted.waits msg (shorter.mem member)
  running := by
    intro calling
    obtain ⟨runs, others⟩ := accounted.running calling
    exact ⟨runs, fun msg member => others msg (same ▸ member)⟩
  ending := by
    intro destroyed
    obtain ⟨none, last⟩ := accounted.ending destroyed
    rw [none] at shorter
    rw [← same] at last
    exact ⟨List.suffix_nil.mp shorter, last⟩
  joined := accounted.joined

/-- A message of a reader is no control message. -/
theorem Accounted.handlePerfEvent (accounted : monitor.Accounted) (size : Nat) (msg : PcapMsg)
    (event : UInt32) (events : Nat) :
    Accounted { monitor.handlePerfEvent size msg event with eventsLeft := events } := by
  unfold KatranMonitor.handlePerfEvent write
  split
  next => exact accounted.same monitor.waiting monitor.queue events (List.suffix_refl _) rfl
  next =>
    split
    next =>
      refine accounted.same monitor.waiting _ events (List.suffix_refl _) ?_
      rw [List.filter_append]
      exact congrArg (· ++ monitor.waiting) (List.append_nil _)
    next => exact accounted.same monitor.waiting monitor.queue events (List.suffix_refl _) rfl

/-- A call finds room: its message goes from the calls that wait to the end of the queue. -/
theorem Accounted.blockingWrite (accounted : monitor.Accounted) {msg : PcapMsgMeta}
    {waiting : List PcapMsgMeta} (waits : monitor.waiting = msg :: waiting) :
    Accounted { monitor with queue := monitor.queue ++ [msg], waiting := waiting } := by
  have isControl : msg.control = true := by
    apply accounted.waits
    rw [waits]
    exact List.mem_cons_self
  refine accounted.same waiting _ monitor.eventsLeft ?_ ?_
  · rw [waits]
    exact List.suffix_cons msg waiting
  · rw [pending, waits, List.filter_append, List.filter_cons, if_pos isControl, List.append_assoc]
    rfl

private theorem Accounted.beginWrite (accounted : monitor.Accounted)
    (calling : monitor.owner = .calling)
    {msg : PcapMsgMeta} (isControl : msg.control = true) (other : msg.shutdown = false) :
    Accounted (monitor.beginWrite msg) := by
  have appended : (monitor.beginWrite msg).pending = monitor.pending ++ [msg] :=
    (List.append_assoc _ _ _).symm
  refine ⟨?_, ?_, ?_, fun destroyed => (destroyed calling).elim, accounted.joined⟩
  · unfold NoneLost
    rw [appended, ← List.append_assoc]
    exact congrArg (· ++ [msg]) accounted.order
  · intro sent member
    rcases List.mem_append.mp member with earlier | new
    · exact accounted.waits sent earlier
    · rw [List.mem_singleton.mp new]
      exact isControl
  · intro _
    obtain ⟨runs, others⟩ := accounted.running calling
    refine ⟨runs, fun sent member => ?_⟩
    rw [appended] at member
    rcases List.mem_append.mp member with earlier | new
    · exact others sent earlier
    · rw [List.mem_singleton.mp new]
      exact other

/-- The destructor's message is the last one, if there is room for it. -/
theorem Accounted.destroy (accounted : monitor.Accounted) (calling : monitor.owner = .calling)
    (none : monitor.waiting = []) (room : monitor.queue.length < monitor.queueSize) :
    Accounted monitor.destroy := by
  have written : monitor.destroy =
      { monitor with
        queue := monitor.queue ++ [shutdownMsg], owner := .joining
        sent := monitor.sent ++ [shutdownMsg] } := by
    unfold KatranMonitor.destroy write
    rw [if_pos room]
  have appended : monitor.destroy.pending = monitor.pending ++ [shutdownMsg] := by
    rw [written]
    simp only [pending, none, List.append_nil, List.filter_append]
    rfl
  obtain ⟨runs, others⟩ := accounted.running calling
  refine ⟨?_, ?_, ?_, ?_, ?_⟩
  · unfold NoneLost
    rw [appended, ← List.append_assoc]
    rw [written]
    exact congrArg (· ++ [shutdownMsg]) accounted.order
  · rw [written]
    exact accounted.waits
  · rw [written]
    nofun
  · intro _
    rw [appended]
    rw [written]
    exact ⟨none, .inr ⟨runs, monitor.pending, rfl, others⟩⟩
  · rw [written]
    nofun

/-- `runMulti` ends exactly with a shutdown message. -/
theorem runMultiStep_eq_none_iff (writer : PcapWriter) (unixUsec : Nat) (msg : PcapMsgMeta) :
    writer.runMultiStep unixUsec msg = none ↔ msg.control = true ∧ msg.shutdown = true := by
  unfold PcapWriter.runMultiStep
  split
  next isControl =>
    split
    next ends => exact ⟨fun _ => ⟨isControl, ends⟩, fun _ => rfl⟩
    next goesOn =>
      refine ⟨fun returned => ?_, fun both => (goesOn both.2).elim⟩
      split at returned
      next => cases returned
      next =>
        split at returned
        next => cases returned
        next => cases returned
  next packet => exact ⟨nofun, fun both => (packet both.1).elim⟩

/-- What taking a message changes. -/
theorem take_fields (monitor : KatranMonitor) (unixUsec : Nat) (msg : PcapMsgMeta)
    (rest : List PcapMsgMeta) :
    (monitor.take unixUsec msg rest).queue = rest ∧
      (monitor.take unixUsec msg rest).waiting = monitor.waiting ∧
      (monitor.take unixUsec msg rest).owner = monitor.owner ∧
      (monitor.take unixUsec msg rest).eventsLeft = monitor.eventsLeft ∧
      (monitor.take unixUsec msg rest).sent = monitor.sent ∧
      (monitor.take unixUsec msg rest).consumed =
        (if msg.control then monitor.consumed ++ [msg] else monitor.consumed) ∧
      (monitor.take unixUsec msg rest).writerDone =
        (monitor.writerDone || (msg.control && msg.shutdown)) := by
  have ends := runMultiStep_eq_none_iff monitor.writer unixUsec msg
  cases returned : monitor.writer.runMultiStep unixUsec msg with
  | none =>
      obtain ⟨isControl, shuts⟩ := ends.mp returned
      simp only [take, returned, true_and]
      rw [isControl, shuts]
      exact (Bool.or_true _).symm
  | some result =>
      have goesOn : ¬ (msg.control && msg.shutdown) = true := by
        intro both
        rw [Bool.and_eq_true] at both
        cases returned.symm.trans (ends.mpr both)
      simp only [take, returned, true_and]
      rw [Bool.eq_false_iff.mpr goesOn]
      exact (Bool.or_false _).symm

/-- A packet is taken: what is to be taken of the control messages stays. -/
theorem Accounted.takePacket (accounted : monitor.Accounted) {unixUsec : Nat} {msg : PcapMsgMeta}
    {rest : List PcapMsgMeta} (first : monitor.queue = msg :: rest)
    (packet : msg.control = false) : Accounted (monitor.take unixUsec msg rest) := by
  obtain ⟨queue, waiting, owner, _, sent, consumed, done⟩ :=
    take_fields monitor unixUsec msg rest
  have same : (monitor.take unixUsec msg rest).pending = monitor.pending := by
    rw [pending, pending, queue, waiting, first, List.filter_cons, packet]
    rfl
  simp only [packet, Bool.false_eq_true, ↓reduceIte, Bool.false_and, Bool.or_false] at consumed done
  refine ⟨?_, ?_, ?_, ?_, ?_⟩
  · rw [NoneLost, same, sent, consumed]
    exact accounted.order
  · rw [waiting]
    exact accounted.waits
  · rw [owner, done, same]
    exact accounted.running
  · rw [owner, waiting, done, same]
    exact accounted.ending
  · rw [owner, done]
    exact accounted.joined

/-- A control message is taken: it is the first of those that were to be taken. -/
theorem Accounted.takeControl (accounted : monitor.Accounted) {unixUsec : Nat} {msg : PcapMsgMeta}
    {rest : List PcapMsgMeta} (runs : monitor.writerDone = false)
    (first : monitor.queue = msg :: rest) (isControl : msg.control = true) :
    Accounted (monitor.take unixUsec msg rest) := by
  obtain ⟨queue, waiting, owner, _, sent, consumed, done⟩ :=
    take_fields monitor unixUsec msg rest
  have split : monitor.pending = msg :: (monitor.take unixUsec msg rest).pending := by
    rw [pending, pending, queue, waiting, first, List.filter_cons, if_pos isControl]
    rfl
  simp only [isControl, runs, ↓reduceIte, Bool.true_and, Bool.false_or] at consumed done
  refine ⟨?_, ?_, ?_, ?_, ?_⟩
  · rw [NoneLost, sent, consumed, List.append_assoc, List.singleton_append, ← split]
    exact accounted.order
  · rw [waiting]
    exact accounted.waits
  · rw [owner, done]
    intro calling
    obtain ⟨_, others⟩ := accounted.running calling
    rw [split] at others
    exact ⟨others msg List.mem_cons_self, fun later member =>
      others later (List.mem_cons_of_mem msg member)⟩
  · rw [owner, waiting, done]
    intro destroyed
    obtain ⟨none, ended | ⟨_, earlier, last, others⟩⟩ := accounted.ending destroyed
    · cases runs.symm.trans ended.1
    · refine ⟨none, ?_⟩
      rw [split] at last
      -- the message is the last one exactly if no other is before it
      cases earlier with
      | nil =>
          obtain ⟨rfl, empty⟩ := List.cons.inj last
          exact .inl ⟨rfl, empty⟩
      | cons head earlier =>
          obtain ⟨rfl, later⟩ := List.cons.inj last
          exact .inr ⟨others msg List.mem_cons_self, earlier, later, fun sent member =>
            others sent (List.mem_cons_of_mem msg member)⟩
  · rw [owner]
    intro returned
    cases runs.symm.trans (accounted.joined returned)

/-- One step keeps the account, if the destructor finds room. -/
theorem Accounted.step (accounted : monitor.Accounted) (taken : RoomyStep monitor label after) :
    after.Accounted := by
  obtain ⟨room, taken⟩ := taken
  unfold Step KatranMonitor.step at taken
  cases label with
  | handlePerfEvent size msg event =>
      obtain ⟨_, returned⟩ := Option.ite_none_right_eq_some.mp taken
      obtain rfl := Option.some.inj returned
      exact accounted.handlePerfEvent size msg event _
  | stopMonitor =>
      obtain ⟨calling, returned⟩ := Option.ite_none_right_eq_some.mp taken
      obtain rfl := Option.some.inj returned
      exact accounted.beginWrite calling rfl rfl
  | restartMonitor limit =>
      obtain ⟨calling, returned⟩ := Option.ite_none_right_eq_some.mp taken
      obtain rfl := Option.some.inj returned
      exact accounted.beginWrite calling rfl rfl
  | blockingWrite =>
      dsimp only at taken
      split at taken
      next => cases taken
      next msg waiting waits =>
        obtain ⟨_, returned⟩ := Option.ite_none_right_eq_some.mp taken
        obtain rfl := Option.some.inj returned
        exact accounted.blockingWrite waits
  | destroy =>
      obtain ⟨⟨calling, none⟩, returned⟩ := Option.ite_none_right_eq_some.mp taken
      obtain rfl := Option.some.inj returned
      exact accounted.destroy calling none (room rfl)
  | runMulti unixUsec =>
      dsimp only at taken
      split at taken
      next => cases taken
      next msg rest first =>
        obtain ⟨runs, returned⟩ := Option.ite_none_left_eq_some.mp taken
        obtain rfl := Option.some.inj returned
        cases isControl : msg.control with
        | false => exact accounted.takePacket first isControl
        | true => exact accounted.takeControl (Bool.eq_false_iff.mpr runs) first isControl
  | join =>
      obtain ⟨⟨joining, done⟩, returned⟩ := Option.ite_none_right_eq_some.mp taken
      obtain rfl := Option.some.inj returned
      refine ⟨accounted.order, accounted.waits, nofun, fun _ => ?_, fun _ => done⟩
      apply accounted.ending
      rw [joining]
      nofun

/-! ## Calls return -/

/-- A step that is not the start of a call uses up some of what remains. -/
theorem remaining_of_inner (taken : Inner monitor label after) :
    after.remaining < monitor.remaining := by
  obtain ⟨⟨noStop, noRestart, noDestroy⟩, taken⟩ := taken
  unfold Step step at taken
  cases label with
  | handlePerfEvent size msg event =>
      obtain ⟨some, returned⟩ := Option.ite_none_right_eq_some.mp taken
      obtain rfl := Option.some.inj returned
      unfold handlePerfEvent write
      split
      next =>
        simp only [remaining]
        omega
      next =>
        split
        next =>
          simp only [remaining, List.length_append, List.length_singleton]
          omega
        next =>
          simp only [remaining]
          omega
  | stopMonitor => exact (noStop rfl).elim
  | restartMonitor limit => exact (noRestart limit rfl).elim
  | blockingWrite =>
      dsimp only at taken
      split at taken
      next => cases taken
      next msg waiting waits =>
        obtain ⟨_, returned⟩ := Option.ite_none_right_eq_some.mp taken
        obtain rfl := Option.some.inj returned
        simp only [remaining, waits, List.length_append, List.length_cons, List.length_nil]
        omega
  | destroy => exact (noDestroy rfl).elim
  | runMulti unixUsec =>
      dsimp only at taken
      split at taken
      next => cases taken
      next msg rest first =>
        obtain ⟨_, returned⟩ := Option.ite_none_left_eq_some.mp taken
        obtain rfl := Option.some.inj returned
        obtain ⟨queue, waiting, owner, events, _⟩ := take_fields monitor unixUsec msg rest
        rw [remaining, remaining, queue, waiting, owner, events, first, List.length_cons]
        omega
  | join =>
      obtain ⟨⟨joining, _⟩, returned⟩ := Option.ite_none_right_eq_some.mp taken
      obtain rfl := Option.some.inj returned
      simp only [remaining, joining, ↓reduceIte, reduceCtorEq]
      omega

/-- A run without the start of a call is no longer than what remains. -/
theorem length_le_remaining {labels : List Label} (run : Run Inner monitor labels after) :
    labels.length ≤ monitor.remaining := by
  induction run with
  | nil => exact Nat.zero_le _
  | cons taken _ ih =>
      have less := remaining_of_inner taken
      rw [List.length_cons]
      omega

/-- Where a call has not returned, some step can be taken. -/
theorem Accounted.returned_of_stuck (accounted : monitor.Accounted)
    (stuck : ∀ label after, ¬ Inner monitor label after) : monitor.Returned := by
  have emptied : monitor.writerDone = false → monitor.queue = [] := by
    intro runs
    cases first : monitor.queue with
    | nil => rfl
    | cons msg rest =>
        refine (stuck (.runMulti 0) (monitor.take 0 msg rest) ⟨⟨nofun, nofun, nofun⟩, ?_⟩).elim
        unfold Step KatranMonitor.step
        rw [first, runs]
        rfl
  have joinable : monitor.owner = .joining → monitor.writerDone = false := by
    intro joining
    by_contra done
    rw [Bool.not_eq_false] at done
    refine stuck .join { monitor with owner := .joined } ⟨⟨nofun, nofun, nofun⟩, ?_⟩
    exact if_pos ⟨joining, done⟩
  constructor
  · by_contra waits
    have calling : monitor.owner = .calling := by
      by_contra destroyed
      exact waits (accounted.ending destroyed).1
    have empty := emptied (accounted.running calling).1
    obtain ⟨msg, waiting, waits⟩ := List.exists_cons_of_ne_nil waits
    refine stuck .blockingWrite
      { monitor with queue := monitor.queue ++ [msg], waiting := waiting }
      ⟨⟨nofun, nofun, nofun⟩, ?_⟩
    unfold Step KatranMonitor.step
    rw [waits, empty]
    exact if_pos monitor.positive
  · intro joining
    have runs := joinable joining
    obtain ⟨none, ended | ⟨_, earlier, last, _⟩⟩ := accounted.ending (by rw [joining]; nofun)
    · cases runs.symm.trans ended.1
    · rw [pending, emptied runs, none] at last
      exact List.append_ne_nil_of_right_ne_nil earlier (List.cons_ne_nil _ _) last.symm

/-- When `join` has returned, every control message has been taken. -/
theorem Accounted.consumed_of_joined (accounted : monitor.Accounted)
    (returned : monitor.owner = .joined) : monitor.consumed = monitor.sent := by
  obtain ⟨_, ended | ⟨runs, _⟩⟩ := accounted.ending (by rw [returned]; nofun)
  · have order := accounted.order
    rw [NoneLost, ended.2, List.append_nil] at order
    exact order.symm
  · cases runs.symm.trans (accounted.joined returned)

/-- **Control messages are kept.** In every run where the destructor finds room, control
messages are taken in the order of sending and none is lost; and from every state, each call
returns after finitely many steps of the threads, whatever their order, the destructor's `join`
among them. -/
theorem control_messages_kept {queueSize events : Nat} {writer : PcapWriter}
    {first last : KatranMonitor} {labels : List Label}
    (built : new queueSize writer events = some first) (run : Run RoomyStep first labels last) :
    last.NoneLost ∧ (last.owner = .joined → last.consumed = last.sent) ∧
      ∀ future later, Run Inner last future later →
        future.length ≤ last.remaining ∧
          ((∀ label after, ¬ Inner later label after) → later.Returned) := by
  have kept : ∀ before label after, Accounted before → RoomyStep before label after →
      Accounted after := fun _ _ _ accounted taken => accounted.step taken
  have accounted : last.Accounted := run.invariant Accounted kept (new_accounted built)
  refine ⟨accounted.order, accounted.consumed_of_joined, ?_⟩
  intro future later goesOn
  have roomy : Run RoomyStep last future later := by
    apply goesOn.mono
    intro before label after taken
    exact ⟨fun destroys => (taken.1.2.2 destroys).elim, taken.2⟩
  exact ⟨length_le_remaining goesOn,
    (roomy.invariant Accounted kept accounted).returned_of_stuck⟩

/-- A monitor with a queue for one message, to which one event comes. -/
def oneSlot : KatranMonitor :=
  { queueSize := 1, positive := by decide, writer := .new [] 0 0, eventsLeft := 1 }

/-- Stopped, and then destroyed when the queue is empty again. -/
theorem control_messages_kept_stopped :
    ∃ last, Run RoomyStep oneSlot
        [.stopMonitor, .blockingWrite, .runMulti 0, .destroy, .runMulti 0, .join] last ∧
      last.owner = .joined ∧ last.consumed = [stopMsg, shutdownMsg] := by
  have run : Run RoomyStep oneSlot
      [.stopMonitor, .blockingWrite, .runMulti 0, .destroy, .runMulti 0, .join]
      { oneSlot with
        writer := (PcapWriter.new [] 0 0).stopWriters, writerDone := true, owner := .joined
        sent := [stopMsg, shutdownMsg], consumed := [stopMsg, shutdownMsg] } :=
    .cons ⟨nofun, rfl⟩ (.cons ⟨nofun, rfl⟩ (.cons ⟨nofun, rfl⟩
      (.cons ⟨fun _ => Nat.one_pos, rfl⟩ (.cons ⟨nofun, rfl⟩ (.cons ⟨nofun, rfl⟩ (.nil _))))))
  have built : new 1 (.new [] 0 0) 1 = some oneSlot := rfl
  have consumed := (control_messages_kept built run).2.1 rfl
  exact ⟨_, run, rfl, consumed⟩

/-- The event fills the queue when the destructor writes its message. -/
def lostShutdown : KatranMonitor :=
  { oneSlot with eventsLeft := 0, owner := .joining, sent := [shutdownMsg] }

/-- The message is lost, and `join` never returns. -/
theorem shutdown_lost :
    new 1 (.new [] 0 0) 1 = some oneSlot ∧
      Run Step oneSlot [.handlePerfEvent 12 {} 0, .destroy, .runMulti 0] lostShutdown ∧
      ¬ lostShutdown.NoneLost ∧ ¬ lostShutdown.Returned ∧
      ∀ label after, ¬ Step lostShutdown label after := by
  refine ⟨rfl, .cons rfl (.cons rfl (.cons rfl (.nil _))), nofun, fun returned =>
    returned.2 rfl, ?_⟩
  intro label after taken
  cases label with
  | _ => cases taken

end KatranMonitor

end Katran
