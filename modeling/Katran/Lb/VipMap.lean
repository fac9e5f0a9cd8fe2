import Katran.Foundation.Encoded
import Katran.Lb.Rings

/-! # VIPs in the kernel

The library keeps its VIPs under the text of their addresses, the kernel under the
binary address. As long as no two configured VIPs are spellings of one address and port,
`vip_map` is the table of VIPs under their encodings (`VipsEncoded`). Nothing keeps a
second spelling from being added, so this is a condition on what is added.

Each of the operations on VIPs makes one bpf call, after it has changed the library's
own tables. Whether the call fails shows in the result of `modifyVip` only.
-/

namespace Katran

open Foundation UnorderedMap

/-- The key of a VIP in the kernel. -/
def VipKey.encode (folly : Folly) (vip : VipKey) : Option VipDefinition :=
  (folly.parse vip.address).map fun addr => vipDefinition addr vip

/-- The key of a VIP whose address can be parsed. -/
theorem VipKey.encode_of_parsed {folly : Folly} (vip : VipKey) {addr : IPAddress}
    (parsed : folly.parse vip.address = some addr) :
    vip.encode folly = some (vipDefinition addr vip) := by
  rw [encode, parsed, Option.map_some]

/-- The VIP that a call is about. -/
def Op.vip? : Op → Option VipKey
  | .addVip vip _ => some vip
  | .delVip vip => some vip
  | .modifyVip vip _ _ => some vip
  | _ => none

/-- What the kernel is to know about a VIP. -/
def Vip.vipMeta (vip : Vip) : VipMeta := { flags := vip.vipFlags, vipNum := vip.vipNum }

namespace KatranLb

variable {folly : Folly} {env : Env} {lb after : KatranLb} {vip : VipKey} {done : Bool}

/-- What the kernel is to know about the configured VIPs. -/
def vipMetas (lb : KatranLb) (vip : VipKey) : Option VipMeta :=
  (lb.vips.lookup vip).map Vip.vipMeta

/-- The kernel has the configured VIPs, each under its encoding, and no other. -/
def VipsEncoded (folly : Folly) (lb : KatranLb) : Prop :=
  Encoded (VipKey.encode folly) lb.vipMetas lb.kernel.vipMap

/-- The VIPs are those with an entry. -/
theorem vipMetas_ne_none {lb : KatranLb} {vip : VipKey} :
    lb.vipMetas vip ≠ none ↔ vip ∈ lb.vips := by
  rw [← AList.lookup_isSome, vipMetas, Option.isSome_iff_ne_none, ne_eq, Option.map_eq_none_iff]

private theorem vipMetas_of_vips {vips : UnorderedMap VipKey Vip} (same : after.vips = vips)
    (other : VipKey) : after.vipMetas other = (vips.lookup other).map Vip.vipMeta := by
  rw [vipMetas, same]

private theorem vipMetas_insert {current : Vip} (same : after.vips = lb.vips.insert vip current) :
    after.vipMetas = Function.update lb.vipMetas vip (some current.vipMeta) := by
  funext other
  rw [vipMetas_of_vips same, lookup_insert_eq_ite, Function.update_apply]
  split <;> rfl

private theorem vipMetas_erase (same : after.vips = lb.vips.erase vip) :
    after.vipMetas = Function.update lb.vipMetas vip none := by
  funext other
  rw [vipMetas_of_vips same, lookup_erase_eq_ite, Function.update_apply]
  split <;> rfl

/-- A VIP that is added is not another spelling of one that is configured. -/
def SpelledOnce (folly : Folly) (lb : KatranLb) : Op → Prop
  | .addVip vip _ => lb.config.disableForwarding = false → lb.vipNums ≠ [] →
      ∀ other ∈ lb.vips, other.encode folly = vip.encode folly → other = vip
  | _ => True

instance (folly : Folly) (lb : KatranLb) : DecidablePred (lb.SpelledOnce folly) :=
  Op.Decides.decidablePred {
    addVip := fun vip _ => decidable_of_iff (lb.config.disableForwarding = false →
      lb.vipNums ≠ [] → ∀ other ∈ lb.vips.keys, other.encode folly = vip.encode folly →
        other = vip) Iff.rfl }

namespace VipsEncoded

/-- A new balancer has nothing to encode. -/
theorem new (config : KatranConfig) (features : KatranFeatures) {kernel : ConfigMaps}
    (empty : kernel.vipMap = fun _ => none) :
    (KatranLb.new config features kernel).VipsEncoded folly := by
  unfold VipsEncoded
  have noVips : (KatranLb.new config features kernel).vipMetas = fun _ => none := by
    funext vip
    simp only [vipMetas, KatranLb.new, AList.lookup_empty, Option.map_none]
  rw [noVips]
  change Encoded _ _ kernel.vipMap
  rw [empty]
  exact .empty

private theorem addVip {flags : UInt32} (encoded : lb.VipsEncoded folly) (reliable : env.Reliable)
    (live : lb.config.testing = false) (once : lb.SpelledOnce folly (.addVip vip flags))
    (returned : lb.addVip folly env vip flags = some (done, after)) : after.VipsEncoded folly := by
  rcases addVip_cases returned with
    ⟨rfl, same⟩ | ⟨rfl, forwards, absent, addr, vipNum, vipNums, parsed, free, same⟩
  · rcases addVip_kernel reliable live returned with ⟨_, kernel⟩ | ⟨wrong, _⟩
    · have metas : after.vipMetas = lb.vipMetas := funext (vipMetas_of_vips same.vips)
      rw [VipsEncoded, metas, kernel]
      exact encoded
    · cases wrong
  · rcases addVip_kernel reliable live returned with ⟨wrong, _⟩ | ⟨_, written⟩
    · cases wrong
    · have coded := vip.encode_of_parsed parsed
      rw [VipsEncoded, vipMetas_insert same.vips, written addr vipNum vipNums parsed free]
      apply Encoded.insert encoded coded
      intro other otherCoded present
      exact once forwards (by rw [free]; nofun) other (vipMetas_ne_none.mp present)
        (otherCoded.trans coded.symm)

private theorem delVip (encoded : lb.VipsEncoded folly) (reliable : env.Reliable)
    (live : lb.config.testing = false) (returned : lb.delVip folly env vip = some (done, after)) :
    after.VipsEncoded folly := by
  rcases delVip_kernel reliable live returned with ⟨_, rfl⟩ | ⟨rfl, addr, parsed, kernel⟩
  · exact encoded
  · rcases delVip_cases returned with ⟨wrong, _⟩ | ⟨_, _, current, found, same⟩
    · cases wrong
    · rw [VipsEncoded, vipMetas_erase same.vips, kernel]
      apply Encoded.erase encoded
      · exact vip.encode_of_parsed parsed
      · exact vipMetas_ne_none.mpr (mem_of_lookup found)

private theorem modifyVip {flag : UInt32} {set : Bool} (encoded : lb.VipsEncoded folly)
    (reliable : env.Reliable) (live : lb.config.testing = false)
    (returned : lb.modifyVip folly env vip flag set = some (done, after)) :
    after.VipsEncoded folly := by
  rcases modifyVip_kernel reliable live returned with rfl | ⟨addr, current, parsed, read, kernel⟩
  · exact encoded
  · have coded := vip.encode_of_parsed parsed
    rcases modifyVip_cases returned with ⟨_, rfl⟩ | ⟨earlier, vipFlags, found, same⟩
    · exact encoded
    · rw [same.vips, AList.lookup_insert] at read
      obtain rfl := Option.some.inj read
      rw [VipsEncoded, vipMetas_insert same.vips, kernel]
      apply Encoded.insert encoded coded
      intro other otherCoded present
      exact encoded.injective other vip _ otherCoded coded present
        (vipMetas_ne_none.mpr (mem_of_lookup found))

private theorem modifyRealsForVip {action : ModifyAction} {reals : List NewReal}
    (encoded : lb.VipsEncoded folly) (reliable : env.Reliable) (live : lb.config.testing = false)
    (returned : lb.modifyRealsForVip folly env action reals vip = some (done, after)) :
    after.VipsEncoded folly := by
  rcases modifyRealsForVip_cases returned with
    ⟨_, rfl, _⟩ | ⟨_, forwards, current, chPositions, updated, found, ring, same⟩
  · exact encoded
  · have rest := modifyRealsBatch_sameRest folly env lb action reals current
    have only := modifyRealsBatch_onlyReals folly env lb action reals current
    have kernel : after.kernel.vipMap = lb.kernel.vipMap := by
      rw [modifyRealsForVip_kernel reliable live forwards found ring returned, only]
    have metas : after.vipMetas = lb.vipMetas := by
      obtain ⟨_, number, flags, _⟩ := Vip.reals_of_batchRealsUpdate ring
      have kept : updated.vipMeta = current.vipMeta := by
        rw [Vip.vipMeta, Vip.vipMeta, number, flags]
      have vips : after.vips = lb.vips.insert vip updated := by
        rw [same.vips, rest.vips]
      rw [vipMetas_insert vips, kept, Function.update_eq_self_iff, vipMetas, found, Option.map_some]
    rw [VipsEncoded, metas, kernel]
    exact encoded

/-- Every operation on VIPs keeps the encoding. -/
theorem step {op : Op} (encoded : lb.VipsEncoded folly) (live : lb.config.testing = false)
    (ofVips : op.OfVips) (once : lb.SpelledOnce folly op)
    (taken : ReliableStep folly lb op after) : after.VipsEncoded folly := by
  obtain ⟨env, reliable, performed⟩ := taken
  cases ofVips using Op.OfVips.cases with
  | addVip vip flags =>
      obtain ⟨⟨done, _⟩, returned, rfl⟩ := Option.map_eq_some_iff.mp performed
      exact encoded.addVip reliable live once returned
  | delVip vip =>
      obtain ⟨⟨done, _⟩, returned, rfl⟩ := Option.map_eq_some_iff.mp performed
      exact encoded.delVip reliable live returned
  | modifyVip vip flag set =>
      obtain ⟨⟨done, _⟩, returned, rfl⟩ := Option.map_eq_some_iff.mp performed
      exact encoded.modifyVip reliable live returned
  | addRealForVip real vip =>
      obtain ⟨⟨done, _⟩, returned, rfl⟩ := Option.map_eq_some_iff.mp performed
      rw [addRealForVip_eq] at returned
      exact encoded.modifyRealsForVip reliable live returned
  | delRealForVip real vip =>
      obtain ⟨⟨done, _⟩, returned, rfl⟩ := Option.map_eq_some_iff.mp performed
      rw [delRealForVip_eq] at returned
      exact encoded.modifyRealsForVip reliable live returned
  | modifyRealsForVip action reals vip =>
      obtain ⟨⟨done, _⟩, returned, rfl⟩ := Option.map_eq_some_iff.mp performed
      exact encoded.modifyRealsForVip reliable live returned

end VipsEncoded

/-- **The VIPs in the kernel are the configured ones.** In every run of operations on
VIPs whose bpf calls succeed and which never adds a second spelling of a configured VIP,
`vip_map` has the number and flags of every configured VIP under its encoding, and
nothing else, and no two VIPs have one entry. -/
theorem vip_map_mirrors {config : KatranConfig} {features : KatranFeatures} {kernel : ConfigMaps}
    {ops : List Op} (live : config.testing = false) (empty : kernel.vipMap = fun _ => none)
    (run : Run (fun before op after => ReliableStep folly before op after ∧ op.OfVips ∧
      before.SpelledOnce folly op) (KatranLb.new config features kernel) ops lb) :
    (∀ vip current, lb.vips.lookup vip = some current → ∃ key, vip.encode folly = some key ∧
      lb.kernel.vipMap key = some { flags := current.vipFlags, vipNum := current.vipNum }) ∧
    (∀ key entry, lb.kernel.vipMap key = some entry → ∃ vip current,
      lb.vips.lookup vip = some current ∧ vip.encode folly = some key ∧
        entry = { flags := current.vipFlags, vipNum := current.vipNum }) ∧
    (∀ vip ∈ lb.vips, ∀ other ∈ lb.vips, vip.encode folly = other.encode folly → vip = other) := by
  obtain ⟨_, encoded, _⟩ : lb.PoolsSound ∧ lb.VipsEncoded folly ∧ lb.config = config := by
    apply Run.invariant
      (fun lb => lb.PoolsSound ∧ lb.VipsEncoded folly ∧ lb.config = config) _ run
    · exact ⟨.new config features kernel, .new config features empty, rfl⟩
    · rintro before op after ⟨sound, encoded, rfl⟩ ⟨taken, ofVips, once⟩
      obtain ⟨kept, same⟩ := sound.step taken.step
      exact ⟨kept, encoded.step live ofVips once taken, same⟩
  refine ⟨?_, ?_, ?_⟩
  · intro vip current found
    have metas : lb.vipMetas vip = some current.vipMeta := by
      rw [vipMetas, found, Option.map_some]
    obtain ⟨key, coded⟩ := encoded.encodes vip _ metas
    exact ⟨key, coded, (encoded.stored key _).mpr ⟨vip, coded, metas⟩⟩
  · intro key entry found
    obtain ⟨vip, coded, metas⟩ := (encoded.stored key entry).mp found
    obtain ⟨current, read, rfl⟩ := Option.map_eq_some_iff.mp metas
    exact ⟨vip, current, read, coded, rfl⟩
  · intro vip member other otherMember same
    obtain ⟨current, found⟩ := exists_lookup_of_mem member
    obtain ⟨key, coded⟩ := encoded.encodes vip current.vipMeta (by rw [vipMetas, found]; rfl)
    exact encoded.injective vip other key coded (same ▸ coded) (vipMetas_ne_none.mpr member)
      (vipMetas_ne_none.mpr otherMember)

/-- The library knows two spellings of one address. -/
def spellings : Folly :=
  { Folly.small with
    parse := fun text =>
      if text = "fc00::1" ∨ text = "fc00:0::1" then some (.v6 ⟨0x000000fc, 0, 0, 0x01000000⟩)
      else Folly.small.parse text }

/-- Operations on VIPs that spell no VIP a second time, with succeeding bpf calls. -/
def spelledAll (lb : KatranLb) (ops : List Op) : Option KatranLb :=
  Run.execAll (fun lb op => if op.OfVips ∧ lb.SpelledOnce spellings op
    then lb.perform spellings (.plain 20) op else none) lb ops

private theorem run_of_spelledAll {ops : List Op} (performed : lb.spelledAll ops = some after) :
    Run (fun before op after => ReliableStep spellings before op after ∧ op.OfVips ∧
      before.SpelledOnce spellings op) lb ops after := by
  apply Run.of_execAll _ performed
  intro before op next computed
  split at computed
  next permitted => exact ⟨⟨.plain 20, Env.plain_reliable 20, computed⟩, permitted⟩
  next => cases computed

/-- A VIP is replaced by another spelling of it. -/
def respelled : List Op :=
  [.addVip ⟨"fc00::1", 80, 6⟩ 0, .addVip ⟨"10.200.1.1", 80, 6⟩ 1, .delVip ⟨"fc00::1", 80, 6⟩,
    .addVip ⟨"fc00:0::1", 80, 6⟩ 2, .modifyVip ⟨"fc00:0::1", 80, 6⟩ 4 true]

private theorem respelled_returns : (tiny.spelledAll respelled).isSome = true := by decide +kernel

/-- A VIP that is removed and added under another spelling has the right entry. -/
theorem vip_map_mirrors_respelled :
    ∃ lb, tiny.spelledAll respelled = some lb ∧
      ∀ vip current, lb.vips.lookup vip = some current → ∃ key, vip.encode spellings = some key ∧
        lb.kernel.vipMap key = some { flags := current.vipFlags, vipNum := current.vipNum } := by
  have returned := (Option.some_get respelled_returns).symm
  exact ⟨_, returned, (vip_map_mirrors rfl rfl (run_of_spelledAll returned)).1⟩

/-- Two spellings of one VIP are configured, and one is deleted. -/
def spelledTwice : List Op :=
  [.addVip ⟨"fc00::1", 80, 6⟩ 0, .addVip ⟨"fc00:0::1", 80, 6⟩ 1, .delVip ⟨"fc00:0::1", 80, 6⟩]

/-- The VIPs with their entries in the kernel. -/
def vipEntries (lb : KatranLb) : List (VipKey × Option VipMeta × Option VipMeta) :=
  lb.vips.keys.map fun vip =>
    (vip, lb.vipMetas vip, (vip.encode spellings).bind lb.kernel.vipMap)

/-- The second spelling takes over the entry of the first, and its removal leaves the
first without one. -/
theorem vip_map_shared_by_spellings :
    (tiny.performAll spellings (.plain 20) (spelledTwice.take 2)).map vipEntries =
      some [(⟨"fc00:0::1", 80, 6⟩, some ⟨1, 1⟩, some ⟨1, 1⟩),
        (⟨"fc00::1", 80, 6⟩, some ⟨0, 0⟩, some ⟨1, 1⟩)] ∧
    (tiny.performAll spellings (.plain 20) spelledTwice).map vipEntries =
      some [(⟨"fc00::1", 80, 6⟩, some ⟨0, 0⟩, none)] := by
  decide +kernel

/-! ## Failing calls -/

/-- What a call on a VIP returns. -/
def callVip (folly : Folly) (env : Env) (lb : KatranLb) : Op → Option (Bool × KatranLb)
  | .addVip vip flags => lb.addVip folly env vip flags
  | .delVip vip => lb.delVip folly env vip
  | .modifyVip vip flag set => lb.modifyVip folly env vip flag set
  | _ => none

/-- The kernel has what the library has about a VIP. -/
def VipAgrees (folly : Folly) (lb : KatranLb) (vip : VipKey) : Prop :=
  ∀ key, vip.encode folly = some key → lb.kernel.vipMap key = lb.vipMetas vip

/-- A call tells the truth: after success the kernel has what the library has about its
VIP, and after failure nothing has changed. -/
structure TellsTruth (folly : Folly) (lb : KatranLb) (op : Op) (done : Bool) (after : KatranLb) :
    Prop where
  success : done = true → ∀ vip ∈ op.vip?, after.VipAgrees folly vip
  failure : done = false → after.vips.lookup = lb.vips.lookup ∧ after.vipNums = lb.vipNums ∧
    after.reals = lb.reals ∧ after.realNums = lb.realNums

/-- The bpf call that a call makes, if it makes one, succeeds, or would not change
anything: the entry is there already, or missing already, or the flags stay the same. -/
def KernelFollows (folly : Folly) (env : Env) (lb : KatranLb) : Op → Prop
  | .addVip vip flags => ∀ vipNum vipNums key, lb.config.disableForwarding = false →
      vip ∉ lb.vips → lb.vipNums = vipNum :: vipNums → vip.encode folly = some key →
        env.succeeds lb.bpfCalls = true ∨
          lb.kernel.vipMap key = some { flags := flags, vipNum := vipNum }
  | .delVip vip => ∀ key, lb.config.disableForwarding = false → vip ∈ lb.vips →
      vip.encode folly = some key → env.succeeds lb.bpfCalls = true ∨ lb.kernel.vipMap key = none
  | .modifyVip vip flag set => ∀ current, lb.vips.lookup vip = some current →
      env.succeeds lb.bpfCalls = true ∨ flagged current flag set = current
  | _ => True

private theorem trySetVip_apply (maps : ConfigMaps) (succeeds : Bool) (key : VipDefinition)
    (entry : Option VipMeta) :
    (maps.trySetVip succeeds key entry).vipMap key =
      if succeeds then entry else maps.vipMap key := by
  cases succeeds with
  | true => exact Function.update_self ..
  | false => rfl

/-- `addVip` succeeds if there is nothing against it. -/
theorem addVip_done {flags : UInt32} {vipNum : Nat} {vipNums : List Nat} {key : VipDefinition}
    (forwards : lb.config.disableForwarding = false) (absent : vip ∉ lb.vips)
    (free : lb.vipNums = vipNum :: vipNums) (coded : vip.encode folly = some key)
    (returned : lb.addVip folly env vip flags = some (done, after)) : done = true := by
  obtain ⟨addr, parsed, _⟩ := Option.map_eq_some_iff.mp coded
  simp only [addVip, forwards, Bool.false_eq_true, ↓reduceIte, validateAddress, parsed,
    reduceCtorEq, free, absent] at returned
  split at returned
  · exact (Prod.mk.inj (Option.some.inj returned)).1.symm
  · obtain ⟨_, _, same⟩ := Option.map_eq_some_iff.mp returned
    exact (Prod.mk.inj same).1.symm

/-- `delVip` succeeds on a configured VIP. -/
theorem delVip_done (forwards : lb.config.disableForwarding = false) (present : vip ∈ lb.vips)
    (returned : lb.delVip folly env vip = some (done, after)) : done = true := by
  obtain ⟨current, found⟩ := exists_lookup_of_mem present
  simp only [delVip, forwards, Bool.false_eq_true, ↓reduceIte, found] at returned
  split at returned
  · exact (Prod.mk.inj (Option.some.inj returned)).1.symm
  · obtain ⟨_, _, same⟩ := Option.map_eq_some_iff.mp returned
    exact (Prod.mk.inj same).1.symm

private theorem addVip_tellsTruth_iff {flags : UInt32} (live : lb.config.testing = false)
    (returned : lb.addVip folly env vip flags = some (done, after)) :
    TellsTruth folly lb (.addVip vip flags) done after ↔
      KernelFollows folly env lb (.addVip vip flags) := by
  rcases addVip_cases returned with
    ⟨rfl, same⟩ | ⟨rfl, forwards, absent, addr, vipNum, vipNums, parsed, free, same⟩
  · constructor
    · intro _ vipNum vipNums key forwards absent free coded
      cases addVip_done forwards absent free coded returned
    · intro _
      exact ⟨nofun, fun _ => ⟨by rw [same.vips], same.vipNums, same.reals, same.realNums⟩⟩
  · rcases addVip_tries live returned with ⟨wrong, _⟩ | ⟨_, written⟩
    · cases wrong
    have coded := vip.encode_of_parsed parsed
    have metas : after.vipMetas vip = some { flags := flags, vipNum := vipNum } := by
      rw [vipMetas_insert same.vips, Function.update_self]
      rfl
    have entry : after.kernel.vipMap (vipDefinition addr vip) =
        if env.succeeds lb.bpfCalls then some { flags := flags, vipNum := vipNum }
        else lb.kernel.vipMap (vipDefinition addr vip) := by
      rw [written addr vipNum vipNums parsed free, trySetVip_apply]
    constructor
    · intro truth vipNum' vipNums' key _ _ free' coded'
      obtain ⟨rfl, rfl⟩ := List.cons.inj (free.symm.trans free')
      obtain rfl := Option.some.inj (coded.symm.trans coded')
      have agrees := truth.success rfl vip rfl _ coded
      rw [metas, entry] at agrees
      split at agrees
      next succeeded => exact .inl succeeded
      next => exact .inr agrees
    · intro follows
      refine ⟨?_, nofun⟩
      intro _ other listed key coded'
      obtain rfl := Option.some.inj listed
      obtain rfl := Option.some.inj (coded.symm.trans coded')
      rw [metas, entry]
      rcases follows vipNum vipNums _ forwards absent free coded with succeeded | there
      · rw [if_pos succeeded]
      · rw [there, ite_self]

private theorem delVip_tellsTruth_iff (live : lb.config.testing = false)
    (returned : lb.delVip folly env vip = some (done, after)) :
    TellsTruth folly lb (.delVip vip) done after ↔ KernelFollows folly env lb (.delVip vip) := by
  rcases delVip_tries live returned with ⟨rfl, rfl⟩ | ⟨rfl, addr, parsed, written⟩
  · constructor
    · intro _ key forwards present _
      cases delVip_done forwards present returned
    · intro _
      exact ⟨nofun, fun _ => ⟨rfl, rfl, rfl, rfl⟩⟩
  · rcases delVip_cases returned with ⟨wrong, _⟩ | ⟨_, forwards, current, found, same⟩
    · cases wrong
    have coded := vip.encode_of_parsed parsed
    have metas : after.vipMetas vip = none := by
      rw [vipMetas_erase same.vips, Function.update_self]
    have entry : after.kernel.vipMap (vipDefinition addr vip) =
        if env.succeeds lb.bpfCalls then none
        else lb.kernel.vipMap (vipDefinition addr vip) := by
      rw [written, trySetVip_apply]
    constructor
    · intro truth key _ _ coded'
      obtain rfl := Option.some.inj (coded.symm.trans coded')
      have agrees := truth.success rfl vip rfl _ coded
      rw [metas, entry] at agrees
      split at agrees
      next succeeded => exact .inl succeeded
      next => exact .inr agrees
    · intro follows
      refine ⟨?_, nofun⟩
      intro _ other listed key coded'
      obtain rfl := Option.some.inj listed
      obtain rfl := Option.some.inj (coded.symm.trans coded')
      rw [metas, entry]
      rcases follows _ forwards (mem_of_lookup found) coded with succeeded | there
      · rw [if_pos succeeded]
      · rw [there, ite_self]

private theorem modifyVip_tellsTruth_iff {flag : UInt32} {set : Bool}
    (live : lb.config.testing = false)
    (returned : lb.modifyVip folly env vip flag set = some (done, after)) :
    TellsTruth folly lb (.modifyVip vip flag set) done after ↔
      KernelFollows folly env lb (.modifyVip vip flag set) := by
  rcases modifyVip_tries live returned with
    ⟨rfl, rfl, absent⟩ | ⟨addr, current, parsed, found, told, same, written⟩
  · constructor
    · intro _ current found
      cases absent.symm.trans found
    · intro _
      exact ⟨nofun, fun _ => ⟨rfl, rfl, rfl, rfl⟩⟩
  · have coded := vip.encode_of_parsed parsed
    constructor
    · intro truth other found'
      obtain rfl := Option.some.inj (found.symm.trans found')
      cases succeeded : env.succeeds lb.bpfCalls with
      | true => exact .inl rfl
      | false =>
          have unchanged := congrFun (truth.failure (told.trans succeeded)).1 vip
          rw [same.vips, AList.lookup_insert, found] at unchanged
          exact .inr (Option.some.inj unchanged)
    · intro follows
      constructor
      · intro finished other listed key coded'
        obtain rfl := Option.some.inj listed
        obtain rfl := Option.some.inj (coded.symm.trans coded')
        rw [written, trySetVip_apply, vipMetas_insert same.vips, Function.update_self,
          if_pos (told.symm.trans finished)]
        rfl
      · intro failed
        rcases follows current found with succeeded | kept
        · cases failed.symm.trans (told.trans succeeded)
        · refine ⟨?_, same.vipNums, same.reals, same.realNums⟩
          funext other
          rw [same.vips, lookup_insert_eq_ite, kept]
          split
          next equal => rw [equal, found]
          next => rfl

/-- The calls that `callVip` makes. -/
theorem op_of_callVip {op : Op} (returned : lb.callVip folly env op = some (done, after)) :
    (∃ vip flags, op = .addVip vip flags) ∨ (∃ vip, op = .delVip vip) ∨
      ∃ vip flag set, op = .modifyVip vip flag set := by
  cases op with
  | addVip vip flags => exact .inl ⟨vip, flags, rfl⟩
  | delVip vip => exact .inr (.inl ⟨vip, rfl⟩)
  | modifyVip vip flag set => exact .inr (.inr ⟨vip, flag, set, rfl⟩)
  | addRealForVip _ _ => cases returned
  | delRealForVip _ _ => cases returned
  | modifyRealsForVip _ _ _ => cases returned
  | modifyQuicRealsMapping _ _ => cases returned
  | addSrcRoutingRule _ _ => cases returned
  | addSrcRoutingRuleCidr _ _ => cases returned
  | delSrcRoutingRule _ => cases returned
  | delSrcRoutingRuleCidr _ => cases returned
  | clearAllSrcRoutingRules => cases returned

/-- A call tells the truth exactly if the kernel follows. -/
theorem tellsTruth_iff {op : Op} (live : lb.config.testing = false)
    (returned : lb.callVip folly env op = some (done, after)) :
    TellsTruth folly lb op done after ↔ KernelFollows folly env lb op := by
  rcases op_of_callVip returned with ⟨vip, flags, rfl⟩ | ⟨vip, rfl⟩ | ⟨vip, flag, set, rfl⟩
  · exact addVip_tellsTruth_iff live returned
  · exact delVip_tellsTruth_iff live returned
  · exact modifyVip_tellsTruth_iff live returned

private theorem callVip_config {op : Op} (returned : lb.callVip folly env op = some (done, after)) :
    after.config = lb.config := by
  rcases op_of_callVip returned with ⟨vip, flags, rfl⟩ | ⟨vip, rfl⟩ | ⟨vip, flag, set, rfl⟩
  · rcases addVip_cases returned with ⟨_, same⟩ | ⟨_, _, _, _, _, _, _, _, same⟩
    · exact same.config
    · exact same.config
  · rcases delVip_cases returned with ⟨_, rfl, _⟩ | ⟨_, _, current, _, same⟩
    · rfl
    · exact same.config.trans (foldl_releaseNum_sameRest lb (current.getReals env.listing)).config
  · rcases modifyVip_cases returned with ⟨_, rfl⟩ | ⟨_, _, _, same⟩
    · rfl
    · exact same.config

/-- A call on a VIP with its result. -/
def Call (folly : Folly) (lb : KatranLb) (call : Env × Op × Bool) (after : KatranLb) : Prop :=
  lb.callVip folly call.1 call.2.1 = some (call.2.2, after)

/-- **VIP calls tell the truth exactly if the kernel follows.** In a run of calls on VIPs
of which any bpf calls may fail, all tell the truth if and only if each of them, at its
turn, makes no bpf call, or one that succeeds, or one that would not change anything. -/
theorem calls_tell_truth_iff {start : KatranLb} {calls : List (Env × Op × Bool)}
    (live : start.config.testing = false) :
    Run (fun before call after => Call folly before call after ∧
      TellsTruth folly before call.2.1 call.2.2 after) start calls lb ↔
    Run (fun before call after => Call folly before call after ∧
      KernelFollows folly call.1 before call.2.1) start calls lb := by
  have kept : ∀ (before : KatranLb) (call : Env × Op × Bool) (after : KatranLb),
      before.config.testing = false → Call folly before call after →
        after.config.testing = false := by
    intro before call after live returned
    rw [callVip_config returned]
    exact live
  constructor
  · intro run
    apply run.mono_of_invariant (fun lb => lb.config.testing = false) _ _ live
    · intro before call after live taken
      exact kept before call after live taken.1
    · rintro before call after live ⟨returned, truth⟩
      exact ⟨returned, (tellsTruth_iff live returned).mp truth⟩
  · intro run
    apply run.mono_of_invariant (fun lb => lb.config.testing = false) _ _ live
    · intro before call after live taken
      exact kept before call after live taken.1
    · rintro before call after live ⟨returned, follows⟩
      exact ⟨returned, (tellsTruth_iff live returned).mpr follows⟩

/-- No bpf call succeeds. -/
def refused : Env := { Env.plain 20 with succeeds := fun _ => false }

private theorem oneVip_returns :
    (tiny.callVip .small (.plain 20) (.addVip ⟨"10.200.1.1", 80, 6⟩ 1)).isSome = true := by
  decide +kernel

/-- A balancer with one VIP, whose flags are 1. -/
def oneVip : KatranLb :=
  ((tiny.callVip .small (.plain 20) (.addVip ⟨"10.200.1.1", 80, 6⟩ 1)).get oneVip_returns).2

/-- The flags are set already when the bpf call fails. -/
theorem calls_tell_truth_iff_unchanged :
    ∃ after, Run (fun before call after => Call .small before call after ∧
      TellsTruth .small before call.2.1 call.2.2 after) oneVip
        [(refused, .modifyVip ⟨"10.200.1.1", 80, 6⟩ 1 true, false)] after := by
  have failed : (oneVip.callVip .small refused (.modifyVip ⟨"10.200.1.1", 80, 6⟩ 1 true)).map
      Prod.fst = some false := by
    decide +kernel
  have flags : ∀ current ∈ oneVip.vips.lookup ⟨"10.200.1.1", 80, 6⟩, current.vipFlags = 1 := by
    decide +kernel
  obtain ⟨⟨done, after⟩, returned, rfl⟩ := Option.map_eq_some_iff.mp failed
  refine ⟨after, (calls_tell_truth_iff (by decide +kernel)).mpr (.cons ⟨returned, ?_⟩ (.nil _))⟩
  intro current found
  have one := flags current found
  obtain ⟨vipNum, vipFlags, chRingSize, reals, chRing⟩ := current
  obtain rfl : vipFlags = 1 := one
  have set : (1 : UInt32) ||| 1 = 1 := by decide
  exact .inr (by simp only [flagged, ↓reduceIte, Vip.setVipFlags, set])

/-- `addVip` reports success although the kernel has no entry, and `modifyVip` reports
failure although it has changed the flags. -/
theorem calls_hide_failures :
    ((tiny.callVip .small refused (.addVip ⟨"10.200.1.1", 80, 6⟩ 1)).map fun result =>
      (result.1, result.2.vipMetas ⟨"10.200.1.1", 80, 6⟩,
        result.2.kernel.vipMap ⟨.ofV4 0x0101c80a, 0x5000, 6⟩)) = some (true, some ⟨1, 0⟩, none) ∧
    ((oneVip.callVip .small refused (.modifyVip ⟨"10.200.1.1", 80, 6⟩ 4 true)).map fun result =>
      (result.1, oneVip.vipMetas ⟨"10.200.1.1", 80, 6⟩, result.2.vipMetas ⟨"10.200.1.1", 80, 6⟩)) =
        some (false, some ⟨1, 0⟩, some ⟨5, 0⟩) := by
  decide +kernel

end KatranLb

end Katran
