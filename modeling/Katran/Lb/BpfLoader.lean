import Katran.Foundation.Assoc
import Katran.Foundation.Run

/-! # Loading bpf objects

The loader keeps the programs and maps of the objects it has loaded under their names. A
name may be in use by a map of another object only if it was registered as shared, and the
new object is then bound to the map that was registered. So all objects that have a map of
some name, and the library itself, work on the same map of the kernel, with one exception:
a map that is registered under a name that is already loaded does not reach the objects that
have been loaded before, while the name is bound to it when the next object is loaded.
-/

namespace Katran

open Foundation UnorderedMap

/-- A descriptor of a map, and the map in the kernel that it refers to. Copies of a descriptor
differ in their number only. -/
structure Descriptor where
  fd : Int
  kernelMap : Nat
deriving DecidableEq, Repr

/-- The type of a program, by the part of its section's name. -/
inductive BpfProgType where
  | unspec
  | xdp
  | schedCls
  | other (type : Nat)
deriving DecidableEq, Repr

/-- `struct bpf_object` when it has been opened: the titles of its programs and the names of
its maps, which are symbols of the file and so all different. -/
structure BpfObject where
  programs : List String
  maps : List String
  nodup : maps.Nodup
deriving DecidableEq, Repr

/-- What libbpf answers while an object is loaded, by the position of the program or map. -/
structure LoadEnv where
  reuses : Nat → Bool
  setsInner : Nat → Bool
  loads : List BpfProgType → Bool
  progFd : Nat → Int
  mapFd : Nat → Descriptor
  dupFd : Nat → Int

/-- An object that has been loaded, with the descriptors of its maps. -/
structure LoadedObject where
  programs : List (String × Int)
  maps : List (String × Descriptor)
deriving DecidableEq, Repr

/-- `BpfLoader`, with the objects, programs and maps it has loaded. -/
structure BpfLoader where
  bpfObjects : UnorderedMap String LoadedObject := ∅
  progs : UnorderedMap String Int := ∅
  maps : UnorderedMap String Descriptor := ∅
  sharedMaps : UnorderedMap String Descriptor := ∅
  innerMapsProto : UnorderedMap String Int := ∅

/-- `normalizeBpfProgType`: the type that the title of a program tells, if none is given. -/
def normalizeBpfProgType (title : String) (type : BpfProgType) : BpfProgType :=
  if type ≠ .unspec then type
  else if title.toList.take 3 = "xdp".toList then .xdp
  else if title.toList.take 3 = "cls".toList then .schedCls
  else .unspec

/-- Where a map of an object comes from. -/
inductive MapSource where
  | shared (descriptor : Descriptor)
  | created (innerFd : Option Int)
deriving DecidableEq, Repr

namespace BpfLoader

/-- What a call returns that fails. -/
def kError : Int := 1
/-- What a call returns for a name that it does not have. -/
def kNotExists : Int := -1
/-- What a call returns that succeeds. -/
def kSuccess : Int := 0
/-- The longest name of a shared map. -/
def kMaxSharedMapNameSize : Nat := 15

/-- The descriptor of a map, or -1. -/
def getMapFdByName (loader : BpfLoader) (name : String) : Int :=
  match loader.maps.lookup name with
  | none => kNotExists
  | some descriptor => descriptor.fd

/-- The descriptor of a program, or -1. -/
def getProgFdByName (loader : BpfLoader) (name : String) : Int :=
  match loader.progs.lookup name with
  | none => kNotExists
  | some fd => fd

/-- Shares a map with the objects that are loaded later. -/
def updateSharedMap (loader : BpfLoader) (name : String) (descriptor : Descriptor) :
    Int × BpfLoader :=
  if name ∈ loader.sharedMaps then (kNotExists, loader)
  else if name.utf8ByteSize > kMaxSharedMapNameSize then (kNotExists, loader)
  else (kSuccess, { loader with sharedMaps := loader.sharedMaps.insert name descriptor })

/-- Gives the prototype of an inner map for the objects that are loaded later. -/
def setInnerMapPrototype (loader : BpfLoader) (name : String) (fd : Int) : Int × BpfLoader :=
  if name ∈ loader.innerMapsProto then (kError, loader)
  else (kSuccess, { loader with innerMapsProto := loader.innerMapsProto.insert name fd })

/-- The body of the loop over the maps of an object that is about to be loaded. -/
def prepareMap (env : LoadEnv) (loader : BpfLoader) (name : String) (index : Nat) :
    Option MapSource :=
  match loader.sharedMaps.lookup name with
  | some shared => if env.reuses index then some (.shared shared) else none
  | none =>
      if name ∈ loader.maps then none
      else
        match loader.innerMapsProto.lookup name with
        | some fd => if env.setsInner index then some (.created (some fd)) else none
        | none => some (.created none)

/-- The descriptor of a map that has been loaded. -/
def mapDescriptor (env : LoadEnv) (index : Nat) : MapSource → Descriptor
  | .shared descriptor => ⟨env.dupFd index, descriptor.kernelMap⟩
  | .created _ => env.mapFd index

/-- The maps of an object with their descriptors, unless one of them cannot be prepared. -/
def prepareMaps (env : LoadEnv) (loader : BpfLoader) :
    (index : Nat) → List String → Option (List (String × Descriptor))
  | _, [] => some []
  | index, name :: names =>
      match loader.prepareMap env name index, loader.prepareMaps env (index + 1) names with
      | some source, some rest => some ((name, mapDescriptor env index source) :: rest)
      | _, _ => none

/-- Enter names one after the other. -/
def enter {Value : Type} (table : UnorderedMap String Value) (entries : List (String × Value)) :
    UnorderedMap String Value :=
  entries.foldl (fun table entry => table.insert entry.1 entry.2) table

/-- `loadBpfObject`: neither its name nor the names of its programs may be taken. -/
def loadBpfObject (env : LoadEnv) (loader : BpfLoader) (obj : BpfObject) (name : String)
    (type : BpfProgType) : Int × BpfLoader :=
  if name ∈ loader.bpfObjects then (kError, loader)
  else if ∃ title ∈ obj.programs, title ∈ loader.progs then (kError, loader)
  else
    match loader.prepareMaps env 0 obj.maps with
    | none => (kError, loader)
    | some maps =>
        if env.loads (obj.programs.map (normalizeBpfProgType · type)) then
          let programs := obj.programs.mapIdx fun index title => (title, env.progFd index)
          (kSuccess, { loader with
            progs := enter loader.progs programs
            maps := enter loader.maps maps
            bpfObjects := loader.bpfObjects.insert name ⟨programs, maps⟩ })
        else (kError, loader)

/-- `loadBpfFile`, of a file that may not be one. -/
def loadBpfFile (env : LoadEnv) (opened : Option BpfObject) (loader : BpfLoader) (path : String)
    (type : BpfProgType) : Int × BpfLoader :=
  match opened with
  | none => (kError, loader)
  | some obj => loader.loadBpfObject env obj path type

/-- `loadBpfFromBuffer`: every buffer has the same name. -/
def loadBpfFromBuffer (env : LoadEnv) (opened : Option BpfObject) (loader : BpfLoader)
    (type : BpfProgType) : Int × BpfLoader :=
  match opened with
  | none => (kError, loader)
  | some obj => loader.loadBpfObject env obj "buffer" type

/-! ## Entering names -/

section Enter

variable {Value : Type} {table : UnorderedMap String Value} {entries : List (String × Value)}
  {name : String} {value : Value}

private theorem lookup_enter_of_notMem (absent : name ∉ entries.map Prod.fst) :
    (enter table entries).lookup name = table.lookup name := by
  induction entries generalizing table with
  | nil => rfl
  | cons entry entries ih =>
      rw [List.map_cons, List.mem_cons, not_or] at absent
      change (enter (table.insert entry.1 entry.2) entries).lookup name = _
      rw [ih absent.2, lookup_insert_eq_ite, if_neg absent.1]

private theorem lookup_enter_of_mem (nodup : (entries.map Prod.fst).Nodup)
    (member : (name, value) ∈ entries) : (enter table entries).lookup name = some value := by
  induction entries generalizing table with
  | nil => cases member
  | cons entry entries ih =>
      rw [List.map_cons, List.nodup_cons] at nodup
      change (enter (table.insert entry.1 entry.2) entries).lookup name = _
      rcases List.mem_cons.mp member with rfl | later
      · rw [lookup_enter_of_notMem nodup.1, AList.lookup_insert]
      · exact ih nodup.2 later

end Enter

/-! ## What loading does -/

variable {env : LoadEnv} {loader after : BpfLoader} {name path : String}

/-- A map that can be prepared is shared, or its name is not in use. -/
theorem prepareMap_cases {index : Nat} {source : MapSource}
    (prepared : loader.prepareMap env name index = some source) :
    (∃ shared, loader.sharedMaps.lookup name = some shared ∧ source = .shared shared) ∨
      (loader.sharedMaps.lookup name = none ∧ name ∉ loader.maps) := by
  unfold prepareMap at prepared
  split at prepared
  next shared registered =>
    split at prepared
    · exact .inl ⟨shared, registered, (Option.some.inj prepared).symm⟩
    · cases prepared
  next unregistered =>
    split at prepared
    · cases prepared
    next unused => exact .inr ⟨unregistered, unused⟩

/-- The maps of an object as they are bound. -/
structure Binds (loader : BpfLoader) (names : List String) (entries : List (String × Descriptor)) :
    Prop where
  names : entries.map Prod.fst = names
  bound : ∀ name descriptor, (name, descriptor) ∈ entries →
    (∃ shared, loader.sharedMaps.lookup name = some shared ∧
      descriptor.kernelMap = shared.kernelMap) ∨
    (loader.sharedMaps.lookup name = none ∧ name ∉ loader.maps)

private theorem prepareMaps_binds {index : Nat} {names : List String}
    {entries : List (String × Descriptor)}
    (prepared : loader.prepareMaps env index names = some entries) :
    Binds loader names entries := by
  induction names generalizing index entries with
  | nil =>
      obtain rfl := Option.some.inj prepared
      exact ⟨rfl, nofun⟩
  | cons name names ih =>
      unfold prepareMaps at prepared
      split at prepared
      next source rest source_prepared rest_prepared =>
        obtain rfl := Option.some.inj prepared
        obtain ⟨same, bound⟩ := ih rest_prepared
        refine ⟨by rw [List.map_cons, same], ?_⟩
        intro other descriptor member
        rcases List.mem_cons.mp member with first | later
        · obtain ⟨rfl, rfl⟩ := Prod.mk.inj first
          rcases prepareMap_cases source_prepared with ⟨shared, registered, rfl⟩ | unused
          · exact .inl ⟨shared, registered, rfl⟩
          · exact .inr unused
        · exact bound other descriptor later
      next => cases prepared

/-- An object is loaded as a whole, or nothing changes. -/
inductive Loads (loader : BpfLoader) (path : String) : BpfLoader → Prop
  | refused : Loads loader path loader
  | loaded (programs : List (String × Int)) (maps : List (String × Descriptor))
      (names : List String) (nodup : names.Nodup) (new : path ∉ loader.bpfObjects)
      (fresh : ∀ title ∈ programs.map Prod.fst, title ∉ loader.progs)
      (binds : Binds loader names maps) :
      Loads loader path { loader with
        progs := enter loader.progs programs
        maps := enter loader.maps maps
        bpfObjects := loader.bpfObjects.insert path ⟨programs, maps⟩ }

private theorem loadBpfObject_loads (env : LoadEnv) (loader : BpfLoader) (obj : BpfObject)
    (path : String) (type : BpfProgType) :
    let result := loader.loadBpfObject env obj path type
    Loads loader path result.2 ∧ (result.1 ≠ kSuccess → result.2 = loader) := by
  unfold loadBpfObject
  dsimp only
  split
  · exact ⟨.refused, fun _ => rfl⟩
  next new =>
    split
    · exact ⟨.refused, fun _ => rfl⟩
    next fresh =>
      split
      · exact ⟨.refused, fun _ => rfl⟩
      next maps prepared =>
        split
        · refine ⟨.loaded _ maps obj.maps obj.nodup new ?_ (prepareMaps_binds prepared),
            fun failed => (failed rfl).elim⟩
          intro title member loaded
          obtain ⟨⟨_, fd⟩, entered, rfl⟩ := List.mem_map.mp member
          obtain ⟨index, inside, same⟩ := List.mem_mapIdx.mp entered
          obtain ⟨rfl, _⟩ := Prod.mk.inj same
          exact fresh ⟨_, List.getElem_mem inside, loaded⟩
        · exact ⟨.refused, fun _ => rfl⟩

/-! ## Names keep their meaning -/

/-- Names that were known mean the same later: a program has its descriptor, and a map is the
same map of the kernel. -/
structure Keeps (loader after : BpfLoader) : Prop where
  progs : ∀ name fd, loader.progs.lookup name = some fd → after.progs.lookup name = some fd
  maps : ∀ name descriptor, loader.maps.lookup name = some descriptor →
    ∃ later, after.maps.lookup name = some later ∧ later.kernelMap = descriptor.kernelMap
  objects : ∀ path obj, loader.bpfObjects.lookup path = some obj →
    after.bpfObjects.lookup path = some obj

private theorem Keeps.refl (loader : BpfLoader) : Keeps loader loader where
  progs := fun _ _ found => found
  maps := fun _ descriptor found => ⟨descriptor, found, rfl⟩
  objects := fun _ _ found => found

private theorem Keeps.trans {middle : BpfLoader} (left : Keeps loader middle)
    (right : Keeps middle after) :
    Keeps loader after where
  progs := fun name fd found => right.progs name fd (left.progs name fd found)
  maps := by
    intro name descriptor found
    obtain ⟨later, read, same⟩ := left.maps name descriptor found
    obtain ⟨last, readLast, sameLast⟩ := right.maps name later read
    exact ⟨last, readLast, sameLast.trans same⟩
  objects := fun path obj found => right.objects path obj (left.objects path obj found)

/-- A map that is registered and loaded is the registered one, and every loaded object works
on the maps that the names mean. -/
structure Coherent (loader : BpfLoader) : Prop where
  shared : ∀ name descriptor registered, loader.maps.lookup name = some descriptor →
    loader.sharedMaps.lookup name = some registered →
      descriptor.kernelMap = registered.kernelMap
  objects : ∀ path obj, loader.bpfObjects.lookup path = some obj →
    ∀ name descriptor, (name, descriptor) ∈ obj.maps →
      ∃ known, loader.maps.lookup name = some known ∧ known.kernelMap = descriptor.kernelMap

/-- A loader that has loaded nothing is coherent. -/
theorem Coherent.empty : Coherent {} where
  shared := by
    intro name descriptor registered found
    simp only [AList.lookup_empty, reduceCtorEq] at found
  objects := by
    intro path obj found
    simp only [AList.lookup_empty, reduceCtorEq] at found

/-- What an object binds: new names, and names that keep their meaning. -/
theorem Coherent.maps_enter (coherent : loader.Coherent) {names : List String}
    {maps : List (String × Descriptor)} (binds : Binds loader names maps) (nodup : names.Nodup)
    {descriptor : Descriptor} (found : loader.maps.lookup name = some descriptor) :
    ∃ later, (enter loader.maps maps).lookup name = some later ∧
      later.kernelMap = descriptor.kernelMap := by
  have distinct : (maps.map Prod.fst).Nodup := binds.names ▸ nodup
  by_cases listed : name ∈ maps.map Prod.fst
  · obtain ⟨⟨_, later⟩, member, rfl⟩ := List.mem_map.mp listed
    refine ⟨later, lookup_enter_of_mem distinct member, ?_⟩
    rcases binds.bound _ later member with ⟨shared, registered, same⟩ | ⟨_, unused⟩
    · exact same.trans (coherent.shared _ descriptor shared found registered).symm
    · exact (unused (mem_of_lookup found)).elim
  · exact ⟨descriptor, by rw [lookup_enter_of_notMem listed, found], rfl⟩

private theorem Loads.progs (loads : Loads loader path after) {fd : Int}
    (found : loader.progs.lookup name = some fd) : after.progs.lookup name = some fd := by
  cases loads with
  | refused => exact found
  | loaded programs maps names nodup new fresh binds =>
      change (enter loader.progs programs).lookup name = some fd
      rw [lookup_enter_of_notMem fun listed => fresh name listed (mem_of_lookup found), found]

/-- A program that has been loaded keeps its descriptor. -/
theorem loadBpfFile_progs {opened : Option BpfObject} {type : BpfProgType} {fd : Int}
    (found : loader.progs.lookup name = some fd) :
    (loader.loadBpfFile env opened path type).2.progs.lookup name = some fd := by
  cases opened with
  | none => exact found
  | some obj => exact (loadBpfObject_loads env loader obj path type).1.progs found

private theorem Loads.keeps (loads : Loads loader path after) (coherent : loader.Coherent) :
    Keeps loader after := by
  have progs {name : String} {fd : Int} (found : loader.progs.lookup name = some fd) :=
    loads.progs found
  cases loads with
  | refused => exact .refl loader
  | loaded programs maps names nodup new fresh binds =>
      refine ⟨fun name fd found => progs found,
        fun name descriptor found => coherent.maps_enter binds nodup found, ?_⟩
      intro other obj found
      change (loader.bpfObjects.insert path _).lookup other = some obj
      rw [lookup_insert_eq_ite, if_neg, found]
      rintro rfl
      exact new (mem_of_lookup found)

private theorem Loads.coherent (loads : Loads loader path after) (coherent : loader.Coherent) :
    after.Coherent := by
  have keeps := loads.keeps coherent
  cases loads with
  | refused => exact coherent
  | loaded programs maps names nodup new fresh binds =>
      have distinct : (maps.map Prod.fst).Nodup := binds.names ▸ nodup
      refine ⟨?_, ?_⟩
      · intro name descriptor registered found shared
        change (enter loader.maps maps).lookup name = some descriptor at found
        change loader.sharedMaps.lookup name = some registered at shared
        by_cases listed : name ∈ maps.map Prod.fst
        · obtain ⟨⟨_, bound⟩, member, rfl⟩ := List.mem_map.mp listed
          rw [lookup_enter_of_mem distinct member] at found
          obtain rfl := Option.some.inj found
          rcases binds.bound _ bound member with ⟨other, read, same⟩ | ⟨unregistered, _⟩
          · rw [same, Option.some.inj (read.symm.trans shared)]
          · cases unregistered.symm.trans shared
        · rw [lookup_enter_of_notMem listed] at found
          exact coherent.shared name descriptor registered found shared
      · intro other obj found name descriptor member
        change (loader.bpfObjects.insert path _).lookup other = some obj at found
        rw [lookup_insert_eq_ite] at found
        split at found
        · obtain rfl := Option.some.inj found
          exact ⟨descriptor, lookup_enter_of_mem distinct member, rfl⟩
        · obtain ⟨known, read, same⟩ := coherent.objects other obj found name descriptor member
          obtain ⟨later, readLater, sameLater⟩ := keeps.maps name known read
          exact ⟨later, readLater, sameLater.trans same⟩

/-! ## Whole histories -/

/-- A call of the loader, with what the files hold. -/
inductive LoaderOp where
  | loadBpfFile (path : String) (opened : Option BpfObject) (type : BpfProgType)
  | loadBpfFromBuffer (opened : Option BpfObject) (type : BpfProgType)
  | updateSharedMap (name : String) (descriptor : Descriptor)
  | setInnerMapPrototype (name : String) (fd : Int)

/-- A call of the loader. -/
def perform (env : LoadEnv) (loader : BpfLoader) : LoaderOp → Int × BpfLoader
  | .loadBpfFile path opened type => loader.loadBpfFile env opened path type
  | .loadBpfFromBuffer opened type => loader.loadBpfFromBuffer env opened type
  | .updateSharedMap name descriptor => loader.updateSharedMap name descriptor
  | .setInnerMapPrototype name fd => loader.setInnerMapPrototype name fd

/-- A call, of which anything may fail. -/
def Step (loader : BpfLoader) (op : LoaderOp) (after : BpfLoader) : Prop :=
  ∃ env, (loader.perform env op).2 = after

/-- A map is registered before its name is loaded, or is the one that was loaded. -/
def SharedEarly (loader : BpfLoader) : LoaderOp → Prop
  | .updateSharedMap name descriptor => ∀ known, loader.maps.lookup name = some known →
      known.kernelMap = descriptor.kernelMap
  | _ => True

/-- A call that is refused changes nothing. -/
theorem perform_refused {op : LoaderOp} (refused : (loader.perform env op).1 ≠ kSuccess) :
    (loader.perform env op).2 = loader := by
  have loads (obj : BpfObject) (path : String) (type : BpfProgType) :=
    (loadBpfObject_loads env loader obj path type).2
  cases op with
  | loadBpfFile path opened type =>
      cases opened with
      | none => rfl
      | some obj => exact loads obj path type refused
  | loadBpfFromBuffer opened type =>
      cases opened with
      | none => rfl
      | some obj => exact loads obj "buffer" type refused
  | updateSharedMap name descriptor =>
      simp only [perform, updateSharedMap] at refused ⊢
      split at refused
      next registered => rw [if_pos registered]
      next unregistered =>
        rw [if_neg unregistered]
        split at refused
        next long => rw [if_pos long]
        next => exact (refused rfl).elim
  | setInnerMapPrototype name fd =>
      simp only [perform, setInnerMapPrototype] at refused ⊢
      split at refused
      next known => rw [if_pos known]
      next => exact (refused rfl).elim

/-- Registering a map early keeps names and objects. -/
theorem Coherent.register (coherent : loader.Coherent) {descriptor : Descriptor}
    (early : loader.SharedEarly (.updateSharedMap name descriptor)) :
    Coherent { loader with sharedMaps := loader.sharedMaps.insert name descriptor } where
  shared := by
    intro other known registered found shared
    change (loader.sharedMaps.insert name descriptor).lookup other = some registered at shared
    rw [lookup_insert_eq_ite] at shared
    split at shared
    next same =>
      subst same
      obtain rfl := Option.some.inj shared
      exact early known found
    next => exact coherent.shared other known registered found shared
  objects := coherent.objects

/-- Every call keeps what names mean. -/
theorem Coherent.step {op : LoaderOp} (coherent : loader.Coherent) (early : loader.SharedEarly op)
    (taken : Step loader op after) : after.Coherent ∧ Keeps loader after := by
  obtain ⟨env, rfl⟩ := taken
  have unchanged : loader.Coherent ∧ Keeps loader loader := ⟨coherent, .refl loader⟩
  have loads (obj : BpfObject) (path : String) (type : BpfProgType) :
      (loader.loadBpfObject env obj path type).2.Coherent ∧
        Keeps loader (loader.loadBpfObject env obj path type).2 := by
    have loads := (loadBpfObject_loads env loader obj path type).1
    exact ⟨loads.coherent coherent, loads.keeps coherent⟩
  cases op with
  | loadBpfFile path opened type =>
      cases opened with
      | none => exact unchanged
      | some obj => exact loads obj path type
  | loadBpfFromBuffer opened type =>
      cases opened with
      | none => exact unchanged
      | some obj => exact loads obj "buffer" type
  | updateSharedMap name descriptor =>
      simp only [perform, updateSharedMap]
      split
      · exact unchanged
      · split
        · exact unchanged
        · exact ⟨coherent.register early, (Keeps.refl loader).progs, (Keeps.refl loader).maps,
            (Keeps.refl loader).objects⟩
  | setInnerMapPrototype name fd =>
      simp only [perform, setInnerMapPrototype]
      split
      · exact unchanged
      · exact ⟨⟨coherent.shared, coherent.objects⟩, (Keeps.refl loader).progs,
          (Keeps.refl loader).maps, (Keeps.refl loader).objects⟩

/-- **Names of programs and maps are stable.** In every history of an empty loader, whatever
libbpf answers and as long as no map is registered as shared under the name of a different
map that is already loaded, a program or map that could once be looked up is the same program
or the same map of the kernel ever after, every object that has been loaded works on the very
maps that the names of its maps mean, and a call that does not succeed changes nothing. -/
theorem loader_names_stable {ops more : List LoaderOp}
    (run : Run (fun before op after => Step before op after ∧ before.SharedEarly op) {} ops loader)
    (later : Run (fun before op after => Step before op after ∧ before.SharedEarly op) loader more
      after) :
    (∀ name fd, loader.getProgFdByName name = fd → name ∈ loader.progs →
      after.getProgFdByName name = fd) ∧
    (∀ name descriptor, loader.maps.lookup name = some descriptor →
      ∃ known, after.maps.lookup name = some known ∧ known.kernelMap = descriptor.kernelMap) ∧
    (∀ path obj, loader.bpfObjects.lookup path = some obj → ∀ name descriptor,
      (name, descriptor) ∈ obj.maps →
        ∃ known, after.maps.lookup name = some known ∧ known.kernelMap = descriptor.kernelMap) ∧
    ∀ env op, (after.perform env op).1 ≠ kSuccess → (after.perform env op).2 = after := by
  have coherent : loader.Coherent := by
    apply Run.invariant Coherent _ run
    · exact .empty
    · exact fun _ _ _ coherent taken => (coherent.step taken.2 taken.1).1
  obtain ⟨final, keeps⟩ : after.Coherent ∧ Keeps loader after := by
    apply Run.invariant (fun state => state.Coherent ∧ Keeps loader state) _ later
    · exact ⟨coherent, .refl loader⟩
    · rintro before op next ⟨coherent, keeps⟩ ⟨taken, early⟩
      obtain ⟨stays, same⟩ := coherent.step early taken
      exact ⟨stays, keeps.trans same⟩
  refine ⟨?_, keeps.maps, ?_, fun env op refused => perform_refused refused⟩
  · intro name fd looked member
    obtain ⟨known, found⟩ := exists_lookup_of_mem member
    unfold getProgFdByName at looked ⊢
    rw [found] at looked
    rw [keeps.progs name known found]
    exact looked
  · intro path obj found
    exact final.objects path obj (keeps.objects path obj found)

/-- libbpf does what it is asked for and numbers descriptors upwards. -/
def obliging (base : Nat) : LoadEnv where
  reuses := fun _ => true
  setsInner := fun _ => true
  loads := fun _ => true
  progFd := fun index => base + index
  mapFd := fun index => ⟨base + 10 + index, base + index⟩
  dupFd := fun index => base + 20 + index

/-- The root program with its array, and a program that registers itself there. -/
def xdpRootObject : BpfObject := ⟨["xdp-root"], ["root_array"], by decide⟩

/-- An object that polices packets before they get to the balancer. -/
def policerObject : BpfObject := ⟨["xdp-policer"], ["root_array", "policed"], by decide⟩

/-- The root program is loaded. -/
def rooted : BpfLoader :=
  (({} : BpfLoader).perform (obliging 100) (.loadBpfFile "xdp_root.o" (some xdpRootObject)
    .unspec)).2

/-- Some map is registered as the array, and the second program is loaded. -/
def policed (array : Descriptor) : BpfLoader :=
  ((rooted.perform (obliging 200) (.updateSharedMap "root_array" array)).2.perform (obliging 300)
    (.loadBpfFile "policer.o" (some policerObject) .unspec)).2

/-- The array of the root program is registered, and used by the second object. -/
theorem loader_names_stable_root :
    ∃ known, (policed ⟨7, 100⟩).maps.lookup "root_array" = some known ∧ known.kernelMap = 100 := by
  have loaded : rooted.maps.lookup "root_array" = some ⟨110, 100⟩ := by decide +kernel
  have run : Run (fun before op after => Step before op after ∧ before.SharedEarly op) {}
      [.loadBpfFile "xdp_root.o" (some xdpRootObject) .unspec] rooted :=
    .cons ⟨⟨obliging 100, rfl⟩, trivial⟩ (.nil rooted)
  have early : rooted.SharedEarly (.updateSharedMap "root_array" ⟨7, 100⟩) := by
    intro known found
    rw [loaded] at found
    obtain rfl := Option.some.inj found
    rfl
  have later : Run (fun before op after => Step before op after ∧ before.SharedEarly op) rooted
      [.updateSharedMap "root_array" ⟨7, 100⟩,
        .loadBpfFile "policer.o" (some policerObject) .unspec] (policed ⟨7, 100⟩) :=
    .cons ⟨⟨obliging 200, rfl⟩, early⟩ (.cons ⟨⟨obliging 300, rfl⟩, trivial⟩ (.nil _))
  exact (loader_names_stable run later).2.1 "root_array" ⟨110, 100⟩ loaded

/-- A different map that is registered afterwards takes over the name, but not the object. -/
example : ((policed ⟨7, 55⟩).maps.lookup "root_array").map Descriptor.kernelMap = some 55 ∧
    ((policed ⟨7, 55⟩).bpfObjects.lookup "xdp_root.o").map LoadedObject.maps =
      some [("root_array", ⟨110, 100⟩)] := by
  decide +kernel

end BpfLoader

end Katran
