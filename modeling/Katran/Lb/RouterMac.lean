import Katran.Lb.KatranLb

/-! # The mac address of the default router

The library keeps the address in `ctlValues_` and writes it to two maps: to `ctl_array`
unless it does not forward, and to `hc_pckt_macs` if it sends health checks directly.
`changeMac` writes its own copy first and returns as soon as an update fails, so a failed
call leaves the copies apart. They agree as long as no update fails, or only in calls that
change nothing.
-/

namespace Katran

/-- The size of a MAC address. -/
def kMacBytes : Nat := 6
/-- The position of the source in `hc_pckt_macs`. -/
def kHcSrcMacPos : Nat := 0
/-- The position of the destination in `hc_pckt_macs`. -/
def kHcDstMacPos : Nat := 1

/-- The load balancer, whose kernel maps have entry `kMacAddrPos` of `ctl_array`, with its own
copy of the router's address and with `hc_pckt_macs`. -/
structure RouterLb where
  lb : KatranLb
  /-- `ctlValues_[kMacAddrPos].mac` -/
  mac : List UInt8
  directHealthchecking : Bool
  hcPcktMacs : Nat → List UInt8

namespace RouterLb

variable {env : Env} {router : RouterLb} {newMac : List UInt8}

/-- An address that has not been set. -/
def noMac : List UInt8 := List.replicate kMacBytes 0

/-- The state after the programs have been loaded with a default address, which tests do not
do. -/
def loaded (lb : KatranLb) (defaultMac localMac : List UInt8) (directHealthchecking : Bool) :
    RouterLb where
  lb :=
    if lb.config.testing ∨ lb.config.disableForwarding then lb
    else { lb with kernel := { lb.kernel with ctlMac := defaultMac } }
  mac := if lb.config.testing then noMac else defaultMac
  directHealthchecking := directHealthchecking
  hcPcktMacs := fun position =>
    if lb.config.testing ∨ ¬ directHealthchecking then noMac
    else if position = kHcDstMacPos then defaultMac
    else localMac

/-- The MAC address that the library has for the router. -/
def getMac (router : RouterLb) : List UInt8 := router.mac

/-- The first part of `changeMac`: the address for forwarding. -/
def updateCtl (env : Env) (router : RouterLb) : Bool × RouterLb :=
  if router.lb.config.disableForwarding then (true, router)
  else
    let (done, lb) := router.lb.bpfCall env fun maps => { maps with ctlMac := router.mac }
    (done, { router with lb := lb })

/-- The second part of `changeMac`: the address for direct health checks. -/
def updateHc (env : Env) (router : RouterLb) : Bool × RouterLb :=
  if router.directHealthchecking then
    let (done, lb) := router.lb.bpfCall env id
    (done, { router with
      lb := lb
      hcPcktMacs := if done then Function.update router.hcPcktMacs kHcDstMacPos router.mac
        else router.hcPcktMacs })
  else (true, router)

/-- Writes the MAC address to the programs, one after the other. -/
def changeMac (env : Env) (router : RouterLb) (newMac : List UInt8) : Bool × RouterLb :=
  if newMac.length ≠ kMacBytes then (false, router)
  else
    let router := { router with mac := newMac }
    if router.lb.config.testing then (true, router)
    else
      match router.updateCtl env with
      | (false, router) => (false, router)
      | (true, router) => router.updateHc env

/-! ## What calls are to do -/

/-- The maps that are in use hold the address. -/
structure MapsHold (router : RouterLb) : Prop where
  ctl : router.lb.config.testing = false → router.lb.config.disableForwarding = false →
    router.lb.kernel.ctlMac = router.getMac
  hc : router.lb.config.testing = false → router.directHealthchecking = true →
    router.hcPcktMacs kHcDstMacPos = router.getMac

/-- The address and the maps are as before. -/
structure Unchanged (router after : RouterLb) : Prop where
  mac : after.getMac = router.getMac
  ctl : after.lb.kernel = router.lb.kernel
  hc : after.hcPcktMacs = router.hcPcktMacs

/-- A call that fails changes nothing, and after every call the maps hold the address. -/
structure AllOrNothing (env : Env) (router : RouterLb) (newMac : List UInt8) : Prop where
  nothing : (router.changeMac env newMac).1 = false →
    Unchanged router (router.changeMac env newMac).2
  all : (router.changeMac env newMac).2.MapsHold

/-- All updates that a call makes succeed. -/
def UpdatesSucceed (env : Env) (router : RouterLb) : Prop :=
  (router.lb.config.disableForwarding = false → env.succeeds router.lb.bpfCalls = true) ∧
  (router.directHealthchecking = true →
    env.succeeds (if router.lb.config.disableForwarding then router.lb.bpfCalls
      else router.lb.bpfCalls + 1) = true)

/-- The call is refused or changes nothing, or makes no update that fails. -/
def Spared (env : Env) (router : RouterLb) (newMac : List UInt8) : Prop :=
  newMac.length ≠ kMacBytes ∨ router.lb.config.testing = true ∨ newMac = router.getMac ∨
    router.UpdatesSucceed env

/-- Something holds of each of some calls, in the state in which it is made. -/
def EachCall (env : Env) (good : RouterLb → List UInt8 → Prop) :
    RouterLb → List (List UInt8) → Prop
  | _, [] => True
  | router, newMac :: later =>
      good router newMac ∧ EachCall env good (router.changeMac env newMac).2 later

/-! ## What calls do -/

/-- What an update of the kernel's maps leaves alone. -/
structure SameSetup (router after : RouterLb) : Prop where
  config : after.lb.config = router.lb.config
  directHealthchecking : after.directHealthchecking = router.directHealthchecking
  mac : after.mac = router.mac

/-- The outcome of a bpf call, and the maps after it. -/
theorem bpfCall_cases (env : Env) (lb : KatranLb) (change : ConfigMaps → ConfigMaps) :
    ∃ after, lb.bpfCall env change = (env.succeeds lb.bpfCalls, after) ∧
      after.config = lb.config ∧ after.bpfCalls = lb.bpfCalls + 1 ∧
      after.kernel = if env.succeeds lb.bpfCalls then change lb.kernel else lb.kernel := by
  unfold KatranLb.bpfCall
  cases env.succeeds lb.bpfCalls with
  | true => exact ⟨_, rfl, rfl, rfl, rfl⟩
  | false => exact ⟨_, rfl, rfl, rfl, rfl⟩

private theorem updateCtl_cases (env : Env) (router : RouterLb) :
    (router.lb.config.disableForwarding = true ∧ router.updateCtl env = (true, router)) ∨
    (router.lb.config.disableForwarding = false ∧ ∃ after,
      router.updateCtl env = (env.succeeds router.lb.bpfCalls, after) ∧ SameSetup router after ∧
      after.lb.bpfCalls = router.lb.bpfCalls + 1 ∧ after.hcPcktMacs = router.hcPcktMacs ∧
      after.lb.kernel = if env.succeeds router.lb.bpfCalls then
        { router.lb.kernel with ctlMac := router.mac } else router.lb.kernel) := by
  unfold updateCtl
  cases router.lb.config.disableForwarding with
  | true => exact .inl ⟨rfl, rfl⟩
  | false =>
      obtain ⟨lb, returned, config, calls, kernel⟩ := bpfCall_cases env router.lb fun maps =>
        { maps with ctlMac := router.mac }
      rw [returned]
      exact .inr ⟨rfl, _, rfl, ⟨config, rfl, rfl⟩, calls, rfl, kernel⟩

private theorem updateHc_cases (env : Env) (router : RouterLb) :
    (router.directHealthchecking = false ∧ router.updateHc env = (true, router)) ∨
    (router.directHealthchecking = true ∧ ∃ after,
      router.updateHc env = (env.succeeds router.lb.bpfCalls, after) ∧ SameSetup router after ∧
      after.lb.kernel = router.lb.kernel ∧
      after.hcPcktMacs = if env.succeeds router.lb.bpfCalls then
        Function.update router.hcPcktMacs kHcDstMacPos router.mac else router.hcPcktMacs) := by
  unfold updateHc
  cases direct : router.directHealthchecking with
  | false => exact .inl ⟨rfl, rfl⟩
  | true =>
      obtain ⟨lb, returned, config, _, kernel⟩ := bpfCall_cases env router.lb id
      rw [returned]
      refine .inr ⟨rfl, _, rfl, ⟨config, direct.symm, rfl⟩, ?_, rfl⟩
      dsimp only
      rw [kernel]
      split <;> rfl

/-- A call that is not refused sets the address, and the maps it updates before one fails. -/
structure Attempt (env : Env) (router : RouterLb) (newMac : List UInt8) (done : Bool)
    (after : RouterLb) : Prop where
  config : after.lb.config = router.lb.config
  directHealthchecking : after.directHealthchecking = router.directHealthchecking
  mac : after.mac = newMac
  succeeded : done = true ↔ router.UpdatesSucceed env
  ctl : after.lb.kernel = router.lb.kernel ∨ (router.lb.config.disableForwarding = false ∧
    after.lb.kernel = { router.lb.kernel with ctlMac := newMac })
  ctlDone : done = true → router.lb.config.disableForwarding = false →
    after.lb.kernel.ctlMac = newMac
  hc : after.hcPcktMacs = router.hcPcktMacs ∨ (router.directHealthchecking = true ∧
    after.hcPcktMacs = Function.update router.hcPcktMacs kHcDstMacPos newMac)
  hcDone : done = true → router.directHealthchecking = true →
    after.hcPcktMacs kHcDstMacPos = newMac

/-- The part of an attempt that is left once `ctl_array` has the address, if it is to have
it. -/
theorem Attempt.of_updateHc {next : RouterLb} (same : SameSetup { router with mac := newMac } next)
    (macs : next.hcPcktMacs = router.hcPcktMacs)
    (kernel : next.lb.kernel = router.lb.kernel ∨ (router.lb.config.disableForwarding = false ∧
      next.lb.kernel = { router.lb.kernel with ctlMac := newMac }))
    (written : router.lb.config.disableForwarding = false → next.lb.kernel.ctlMac = newMac)
    (rest : router.UpdatesSucceed env ↔
      (router.directHealthchecking = true → env.succeeds next.lb.bpfCalls = true)) :
    Attempt env router newMac (next.updateHc env).1 (next.updateHc env).2 := by
  rcases updateHc_cases env next with
    ⟨indirect, returned⟩ | ⟨direct, after, returned, setup, unwritten, hcMacs⟩
  · have indirect : router.directHealthchecking = false :=
      same.directHealthchecking.symm.trans indirect
    rw [returned]
    exact
      { config := same.config
        directHealthchecking := same.directHealthchecking
        mac := same.mac
        succeeded := by simp only [rest, indirect, Bool.false_eq_true, false_implies]
        ctl := kernel
        ctlDone := fun _ => written
        hc := .inl macs
        hcDone := by simp only [indirect, Bool.false_eq_true, false_implies, implies_true] }
  · have direct : router.directHealthchecking = true := same.directHealthchecking.symm.trans direct
    rw [same.mac, macs] at hcMacs
    rw [returned]
    exact
      { config := setup.config.trans same.config
        directHealthchecking := setup.directHealthchecking.trans same.directHealthchecking
        mac := setup.mac.trans same.mac
        succeeded := by simp only [rest, direct, true_implies]
        ctl := by
          rw [unwritten]
          exact kernel
        ctlDone := by
          rw [unwritten]
          exact fun _ => written
        hc := by
          rw [hcMacs]
          split
          · exact .inr ⟨direct, rfl⟩
          · exact .inl rfl
        hcDone := by
          intro done _
          rw [hcMacs, if_pos done, Function.update_self] }

/-- A call that is neither refused nor a test is an attempt. -/
theorem attempt_changeMac (size : newMac.length = kMacBytes)
    (live : router.lb.config.testing = false) :
    Attempt env router newMac (router.changeMac env newMac).1 (router.changeMac env newMac).2 := by
  simp only [changeMac, size, ne_eq, not_true_eq_false, live, Bool.false_eq_true, ↓reduceIte]
  rcases updateCtl_cases env { router with mac := newMac } with
    ⟨idle, returned⟩ | ⟨forwards, next, returned, same, calls, macs, kernel⟩
  · dsimp only at idle
    rw [returned]
    refine Attempt.of_updateHc ⟨rfl, rfl, rfl⟩ rfl (.inl rfl) ?_ ?_
    · simp only [idle, Bool.true_eq_false, false_implies]
    · simp only [UpdatesSucceed, idle, Bool.true_eq_false, false_implies, true_and, ↓reduceIte]
  · dsimp only at forwards calls macs kernel
    rw [returned]
    dsimp only
    cases wrote : env.succeeds router.lb.bpfCalls with
    | false =>
        rw [wrote] at kernel
        exact
          { config := same.config
            directHealthchecking := same.directHealthchecking
            mac := same.mac
            succeeded := by
              simp only [UpdatesSucceed, forwards, wrote, true_implies, Bool.false_eq_true,
                false_and]
            ctl := .inl kernel
            ctlDone := fun done => absurd done Bool.false_ne_true
            hc := .inl macs
            hcDone := fun done => absurd done Bool.false_ne_true }
    | true =>
        rw [wrote, if_pos rfl] at kernel
        refine Attempt.of_updateHc same macs (.inr ⟨forwards, kernel⟩) (fun _ => by rw [kernel]) ?_
        simp only [UpdatesSucceed, forwards, wrote, calls, Bool.false_eq_true, ↓reduceIte,
          implies_true, true_and]

/-- Every call that is not refused sets the address. -/
theorem changeMac_mac (env : Env) (router : RouterLb) (newMac : List UInt8) :
    (router.changeMac env newMac).2.mac =
      if newMac.length = kMacBytes then newMac else router.mac := by
  by_cases size : newMac.length = kMacBytes
  · rw [if_pos size]
    cases live : router.lb.config.testing with
    | true => simp only [changeMac, size, ne_eq, not_true_eq_false, live, ↓reduceIte]
    | false => exact (attempt_changeMac size live).mac
  · rw [if_neg size, changeMac, if_pos size]

/-! ## Histories -/

private theorem Attempt.allOrNothing_of_done
    (attempt : Attempt env router newMac (router.changeMac env newMac).1
      (router.changeMac env newMac).2)
    (done : (router.changeMac env newMac).1 = true) : AllOrNothing env router newMac where
  nothing failed := absurd (failed.symm.trans done) Bool.false_ne_true
  all :=
    { ctl := by
        intro _ forwards
        rw [attempt.config] at forwards
        exact (attempt.ctlDone done forwards).trans attempt.mac.symm
      hc := by
        intro _ direct
        rw [attempt.directHealthchecking] at direct
        exact (attempt.hcDone done direct).trans attempt.mac.symm }

/-- An attempt to set the address that is set already. -/
theorem Attempt.allOrNothing_of_same
    (attempt : Attempt env router newMac (router.changeMac env newMac).1
      (router.changeMac env newMac).2)
    (hold : router.MapsHold) (live : router.lb.config.testing = false)
    (same : newMac = router.getMac) : AllOrNothing env router newMac := by
  have kernel : (router.changeMac env newMac).2.lb.kernel = router.lb.kernel := by
    rcases attempt.ctl with unwritten | ⟨forwards, written⟩
    · exact unwritten
    · rw [written, same, ← hold.ctl live forwards]
  have macs : (router.changeMac env newMac).2.hcPcktMacs = router.hcPcktMacs := by
    rcases attempt.hc with unwritten | ⟨direct, written⟩
    · exact unwritten
    · rw [written, same, ← hold.hc live direct, Function.update_eq_self]
  have address : (router.changeMac env newMac).2.getMac = router.getMac := attempt.mac.trans same
  refine ⟨fun _ => ⟨address, kernel, macs⟩, ?_, ?_⟩
  · rw [attempt.config, kernel, address]
    exact hold.ctl
  · rw [attempt.config, attempt.directHealthchecking, macs, address]
    exact hold.hc

/-- Where the maps hold the address, a call is all or nothing exactly if it is spared. -/
theorem MapsHold.allOrNothing_iff (hold : router.MapsHold) :
    AllOrNothing env router newMac ↔ router.Spared env newMac := by
  unfold Spared
  by_cases size : newMac.length = kMacBytes
  · cases live : router.lb.config.testing with
    | true =>
        have returned : router.changeMac env newMac = (true, { router with mac := newMac }) := by
          simp only [changeMac, size, ne_eq, not_true_eq_false, live, ↓reduceIte]
        simp only [true_or, or_true, iff_true]
        constructor
        · rw [returned]
          exact fun failed => absurd failed.symm Bool.false_ne_true
        · rw [returned]
          constructor
          · exact fun untested => absurd (untested.symm.trans live) Bool.false_ne_true
          · exact fun untested => absurd (untested.symm.trans live) Bool.false_ne_true
    | false =>
        have attempt : Attempt env router newMac _ _ := attempt_changeMac size live
        simp only [size, ne_eq, not_true_eq_false, Bool.false_eq_true, false_or]
        constructor
        · intro good
          by_cases succeeds : router.UpdatesSucceed env
          · exact .inr succeeds
          · have failed := Bool.eq_false_iff.mpr fun done => succeeds (attempt.succeeded.mp done)
            exact .inl (attempt.mac.symm.trans (good.nothing failed).mac)
        · intro either
          rcases either with same | succeeds
          · exact attempt.allOrNothing_of_same hold live same
          · exact attempt.allOrNothing_of_done (attempt.succeeded.mpr succeeds)
  · have returned : router.changeMac env newMac = (false, router) := by
      rw [changeMac, if_pos size]
    simp only [size, not_false_eq_true, ne_eq, true_or, iff_true]
    constructor
    · rw [returned]
      exact fun _ => ⟨rfl, rfl, rfl⟩
    · rw [returned]
      exact hold

private theorem loaded_mapsHold (lb : KatranLb) (defaultMac localMac : List UInt8)
    (directHealthchecking : Bool) :
    (loaded lb defaultMac localMac directHealthchecking).MapsHold where
  ctl := by
    unfold loaded getMac
    dsimp only
    split
    next unloaded =>
      intro live forwards
      rw [live, forwards] at unloaded
      exact absurd unloaded (by decide)
    next =>
      intro live _
      dsimp only at live
      rw [live]
      rfl
  hc := by
    have setup : (loaded lb defaultMac localMac directHealthchecking).lb.config = lb.config := by
      unfold loaded
      dsimp only
      split <;> rfl
    rw [setup]
    intro live direct
    have direct : directHealthchecking = true := direct
    simp only [loaded, getMac, live, direct, Bool.false_eq_true, not_true_eq_false, or_self,
      ↓reduceIte]

/-- **Changing the address is all or nothing** in every history of calls all of which are
spared, and in no other. -/
theorem changeMac_allOrNothing_iff (env : Env) (lb : KatranLb) (defaultMac localMac : List UInt8)
    (directHealthchecking : Bool) (newMacs : List (List UInt8)) :
    EachCall env (AllOrNothing env) (loaded lb defaultMac localMac directHealthchecking) newMacs ↔
      EachCall env (Spared env) (loaded lb defaultMac localMac directHealthchecking) newMacs := by
  have hold := loaded_mapsHold lb defaultMac localMac directHealthchecking
  generalize loaded lb defaultMac localMac directHealthchecking = router at hold ⊢
  induction newMacs generalizing router with
  | nil => exact Iff.rfl
  | cons newMac later ih =>
      have step : AllOrNothing env router newMac ↔ router.Spared env newMac := hold.allOrNothing_iff
      constructor
      · intro good
        exact ⟨step.mp good.1, (ih _ good.1.all).mp good.2⟩
      · intro spared
        have good := step.mpr spared.1
        exact ⟨good, (ih _ good.all).mpr spared.2⟩

/-- The second update fails: the call returns false, and the map for health checks has another
address than the library and the map for forwarding. -/
theorem changeMac_halfway :
    let env : Env := { Env.plain 0 with succeeds := fun call => call ≠ 1 }
    let router := loaded (.new {} {} (.fresh noMac fun _ => true)) [2, 0, 0, 0, 0, 1]
      [2, 0, 0, 0, 0, 9] true
    let result := router.changeMac env [2, 0, 0, 0, 0, 2]
    result.1 = false ∧ result.2.getMac = [2, 0, 0, 0, 0, 2] ∧
      result.2.lb.kernel.ctlMac = [2, 0, 0, 0, 0, 2] ∧
      result.2.hcPcktMacs kHcDstMacPos = [2, 0, 0, 0, 0, 1] ∧
      ¬ EachCall env (AllOrNothing env) router [[2, 0, 0, 0, 0, 2]] := by
  intro env router result
  have failed : result.1 = false := by decide +kernel
  have address : result.2.getMac = [2, 0, 0, 0, 0, 2] := by decide +kernel
  refine ⟨failed, address, by decide +kernel, by decide +kernel, ?_⟩
  intro good
  have same := (good.1.nothing failed).mac
  exact absurd (address.symm.trans same) (by decide +kernel)

end RouterLb

end Katran
