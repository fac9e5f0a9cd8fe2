import Katran.Bpf.Bytes
import Katran.Bpf.Parsing

/-! # The connection id of a QUIC packet

`parse_quic` looks for a connection id behind a short or a long header. What it accepts is
a grammar of the UDP payload (`QuicGrammar`), which has one parameter: the four bytes of
the version whose headers have the length of the connection id in the upper half of a byte.
The constant for this version is compared with a word that has been read from the packet
without changing its byte order, so the parser accepts the grammar for the version's bytes
in reverse (`parseQuic_eq_some_iff`).
-/

namespace Katran

/-! ## The grammar -/

/-- The bytes of `QUIC_VERSION_MVFST_OLD` in the order of a packet. -/
def mvfstOldWire : List UInt8 := [0xfa, 0xce, 0xb0, 0x00]

/-- The length of the destination connection id, for the bytes of the old version. -/
def destConnIdLen (old version : List UInt8) (connIdLens : UInt8) : Nat :=
  if version = old then connIdLens.toNat / 16 else connIdLens.toNat

/-- A payload has a connection id, of which eight bytes are given. -/
inductive CarriesConnId (old : List UInt8) : List UInt8 → List UInt8 → Prop where
  | short {flags : UInt8} {connId rest : List UInt8} (form : flags &&& 0x80 = 0)
      (whole : connId.length = 8) : CarriesConnId old (flags :: (connId ++ rest)) connId
  | long {flags connIdLens : UInt8} {version connId rest : List UInt8} (form : flags &&& 0x80 ≠ 0)
      (type : flags &&& 0x30 = 0x20 ∨ flags &&& 0x30 = 0x30) (word : version.length = 4)
      (enough : 8 ≤ destConnIdLen old version connIdLens) (whole : connId.length = 8) :
      CarriesConnId old (flags :: (version ++ (connIdLens :: (connId ++ rest)))) connId

/-- The index in a connection id: its first two bits are 01, the next 16 are the index. -/
def ConnIdNames (connId : List UInt8) (index : Nat) : Prop :=
  ∃ first second third rest, connId = first :: second :: third :: rest ∧ first.toNat / 64 = 1 ∧
    index = (65536 * first.toNat + 256 * second.toNat + third.toNat) / 64 % 65536

/-- A payload that is routed by an index. -/
def QuicGrammar (old payload : List UInt8) (index : Nat) : Prop :=
  ∃ connId, CarriesConnId old payload connId ∧ ConnIdNames connId index

/-! ## Bits -/

/-- What holds of the numbers up to 255 holds of every byte. -/
theorem forall_byte {P : UInt8 → Prop} (every : ∀ n < 256, P (UInt8.ofNat n)) (byte : UInt8) :
    P byte := by
  have same := every byte.toNat byte.toNat_lt
  rw [UInt8.ofNat_toNat] at same
  exact same

private theorem longForm_iff (flags : UInt8) :
    flags &&& quicLongHeader = quicLongHeader ↔ flags &&& 0x80 ≠ 0 := by
  revert flags
  apply forall_byte
  decide +kernel

private theorem routedType_iff (flags : UInt8) :
    ¬ flags &&& quicPacketTypeMask < quicHandshake ↔
      flags &&& 0x30 = 0x20 ∨ flags &&& 0x30 = 0x30 := by
  revert flags
  apply forall_byte
  decide +kernel

/-- The 16 bits between the first two and the last six of three bytes. -/
theorem spliced_eq (first second third : UInt8) :
    ((first &&& 0x3f).toNat <<< 10) ||| (second.toNat <<< 2) ||| (third.toNat >>> 6) =
      (65536 * first.toNat + 256 * second.toNat + third.toNat) / 64 % 65536 := by
  have one : first.toNat < 2 ^ 8 := first.toNat_lt
  have two : second.toNat < 2 ^ 8 := second.toNat_lt
  have three : third.toNat < 2 ^ 8 := third.toNat_lt
  have low : (first &&& 0x3f).toNat = first.toNat % 2 ^ 6 := by
    rw [UInt8.toNat_and]
    exact Nat.and_two_pow_sub_one_eq_mod _ 6
  have upper : second.toNat <<< 2 < 2 ^ 10 := by
    rw [Nat.shiftLeft_eq]
    omega
  have last : third.toNat >>> 6 < 2 ^ 2 := by
    rw [Nat.shiftRight_eq_div_pow]
    omega
  rw [Nat.or_assoc, low, Nat.shiftLeft_eq, Nat.shiftLeft_eq, Nat.mul_comm second.toNat,
    ← Nat.two_pow_add_eq_or_of_lt last, Nat.mul_comm (_ % _),
    ← Nat.two_pow_add_eq_or_of_lt (by rw [Nat.shiftRight_eq_div_pow]; omega),
    Nat.shiftRight_eq_div_pow]
  omega

/-- The version word, as a little-endian host reads it. -/
theorem read32_eq_mvfstOld_iff (data : List UInt8) (off : Nat) :
    Bytes.read32 data off = quicVersionMvfstOld ↔
      [Bytes.read8 data off, Bytes.read8 data (off + 1), Bytes.read8 data (off + 2),
        Bytes.read8 data (off + 3)] = mvfstOldWire.reverse := by
  have first := (Bytes.read8 data off).toNat_lt
  have second := (Bytes.read8 data (off + 1)).toNat_lt
  have third := (Bytes.read8 data (off + 2)).toNat_lt
  have fourth := (Bytes.read8 data (off + 3)).toNat_lt
  rw [← UInt32.toNat_inj, Bytes.read32_toNat, Bytes.read16_toNat, Bytes.read16_toNat,
    Nat.add_assoc off 2 1]
  simp only [mvfstOldWire, List.reverse_cons, List.reverse_nil, List.nil_append, List.cons_append,
    List.cons.injEq, and_true, ← UInt8.toNat_inj]
  have word : quicVersionMvfstOld.toNat = 0xfaceb000 := rfl
  simp only [word, UInt8.reduceToNat]
  omega

/-! ## The grammar by offsets -/

section Offsets

variable {old bytes tail : List UInt8} {flags : UInt8} {index : Nat}

private theorem connIdNames_iff (long : 3 ≤ bytes.length) :
    ConnIdNames bytes index ↔ (Bytes.read8 bytes 0).toNat / 64 = 1 ∧
      index = (65536 * (Bytes.read8 bytes 0).toNat + 256 * (Bytes.read8 bytes 1).toNat +
        (Bytes.read8 bytes 2).toNat) / 64 % 65536 := by
  match bytes, long with
  | first :: second :: third :: rest, _ =>
      constructor
      · rintro ⟨_, _, _, _, same, named, value⟩
        cases same
        exact ⟨named, value⟩
      · rintro ⟨named, value⟩
        exact ⟨first, second, third, rest, rfl, named, value⟩

private theorem connIdNames_append {connId : List UInt8} (rest : List UInt8)
    (whole : connId.length = 8) :
    ConnIdNames (connId ++ rest) index ↔ ConnIdNames connId index := by
  rw [connIdNames_iff (by rw [List.length_append]; omega), connIdNames_iff (by omega),
    Bytes.read8_append_left rest (by omega), Bytes.read8_append_left rest (by omega),
    Bytes.read8_append_left rest (by omega)]

private theorem quicGrammar_short_iff (form : flags &&& 0x80 = 0) :
    QuicGrammar old (flags :: tail) index ↔ 8 ≤ tail.length ∧ ConnIdNames tail index := by
  constructor
  · rintro ⟨connId, carries, names⟩
    cases carries with
    | short _ whole =>
        refine ⟨by rw [List.length_append]; omega, ?_⟩
        exact (connIdNames_append _ whole).mpr names
    | long other => exact absurd form other
  · rintro ⟨enough, names⟩
    have whole : (tail.take 8).length = 8 := List.length_take_of_le enough
    have parts := List.take_append_drop 8 tail
    rw [← parts, connIdNames_append _ whole] at names
    have carries := @CarriesConnId.short old flags _ (tail.drop 8) form whole
    rw [parts] at carries
    exact ⟨_, carries, names⟩

/-- The fields of a long header behind its first byte. -/
theorem longHeader_parts (long : 5 ≤ tail.length) :
    tail.take 4 ++ (Bytes.read8 tail 4 :: tail.drop 5) = tail := by
  have inside : 4 < tail.length := by omega
  rw [Bytes.read8, List.getD_eq_getElem?_getD, List.getElem?_eq_getElem inside, Option.getD_some,
    ← List.drop_eq_getElem_cons inside, List.take_append_drop]

private theorem longHeader_fields {version connId : List UInt8} (connIdLens : UInt8)
    (word : version.length = 4) :
    (version ++ (connIdLens :: connId)).take 4 = version ∧
      Bytes.read8 (version ++ (connIdLens :: connId)) 4 = connIdLens ∧
      (version ++ (connIdLens :: connId)).drop 5 = connId := by
  refine ⟨List.take_left' word, ?_, ?_⟩
  · rw [Bytes.read8_append_right _ (by omega), word]
    rfl
  · rw [List.drop_append, List.drop_of_length_le (by omega), word]
    rfl

private theorem quicGrammar_long_iff (form : flags &&& 0x80 ≠ 0) :
    QuicGrammar old (flags :: tail) index ↔ 13 ≤ tail.length ∧
      (flags &&& 0x30 = 0x20 ∨ flags &&& 0x30 = 0x30) ∧
      8 ≤ destConnIdLen old (tail.take 4) (Bytes.read8 tail 4) ∧
        ConnIdNames (tail.drop 5) index := by
  constructor
  · rintro ⟨connId, carries, names⟩
    cases carries with
    | short other => exact absurd other form
    | @long _ lens version _ rest _ type word enough whole =>
        obtain ⟨start, lengths, behind⟩ := @longHeader_fields _ (connId ++ rest) lens word
        rw [lengths, start, behind, connIdNames_append _ whole]
        refine ⟨?_, type, enough, names⟩
        rw [List.length_append, List.length_cons, List.length_append]
        omega
  · rintro ⟨long, type, enough, names⟩
    have word : (tail.take 4).length = 4 := List.length_take_of_le (by omega)
    have whole : ((tail.drop 5).take 8).length = 8 := by
      rw [List.length_take, List.length_drop]
      omega
    have parts : tail.take 4 ++ (Bytes.read8 tail 4 ::
        ((tail.drop 5).take 8 ++ (tail.drop 5).drop 8)) = tail := by
      rw [List.take_append_drop, longHeader_parts (by omega)]
    have carries := @CarriesConnId.long old flags (Bytes.read8 tail 4) (tail.take 4) _
      ((tail.drop 5).drop 8) form type word enough whole
    rw [parts] at carries
    rw [← List.take_append_drop 8 (tail.drop 5), connIdNames_append _ whole] at names
    exact ⟨_, carries, names⟩

end Offsets

/-! ## The parser -/

/-- The constants of connection ids are those of `balancer_consts.h`. -/
structure QuicConstants (cfg : BpfConfig) : Prop where
  minConnidLen : cfg.quicMinConnidLen = 8
  connidVersion : cfg.quicConnidVersion = 1

/-- What a UDP header is followed by. -/
def quicPayload (data : List UInt8) (isIpv6 : Bool) (pckt : PacketDescription) : List UInt8 :=
  data.drop (calcOffset isIpv6 pckt.icmp + 8)

section Parse

variable {cfg : BpfConfig} {data : List UInt8} {isIpv6 : Bool} {pckt : PacketDescription}
  {index : Nat}

/-- The end of `parse_quic`, for the bytes at some offset. -/
theorem connIdIndex_iff (constants : QuicConstants cfg) {off : Nat} (long : off + 3 ≤ data.length) :
    (if Bytes.read8 data off >>> 6 = cfg.quicConnidVersion then
        some (((Bytes.read8 data off &&& 0x3f).toNat <<< 10) |||
          ((Bytes.read8 data (off + 1)).toNat <<< 2) ||| ((Bytes.read8 data (off + 2)).toNat >>> 6))
      else none) = some index ↔ ConnIdNames (data.drop off) index := by
  have version : Bytes.read8 data off >>> 6 = 1 ↔ (Bytes.read8 data off).toNat / 64 = 1 := by
    rw [← UInt8.toNat_inj, UInt8.toNat_shiftRight, Nat.shiftRight_eq_div_pow]
    rfl
  rw [connIdNames_iff (by rw [List.length_drop]; omega), Bytes.read8_drop, Bytes.read8_drop,
    Bytes.read8_drop, constants.connidVersion, spliced_eq, Option.ite_none_right_eq_some, version,
    Option.some.injEq, @eq_comm _ index]
  rfl

private theorem take_four {tail : List UInt8} (long : 4 ≤ tail.length) :
    tail.take 4 =
      [Bytes.read8 tail 0, Bytes.read8 tail 1, Bytes.read8 tail 2, Bytes.read8 tail 3] := by
  match tail, long with
  | _ :: _ :: _ :: _ :: _, _ => rfl

/-- What follows the first byte of a payload. -/
theorem drop_of_payload {quic : Nat} {flags : UInt8} {tail : List UInt8}
    (payload : data.drop quic = flags :: tail) : data.drop (quic + 1) = tail := by
  rw [← List.drop_drop, payload, List.drop_succ_cons, List.drop_zero]

private theorem read8_of_payload {quic : Nat} {flags : UInt8} {tail : List UInt8}
    (payload : data.drop quic = flags :: tail) : Bytes.read8 data quic = flags := by
  rw [← Nat.add_zero quic, ← Bytes.read8_drop, payload]
  rfl

/-- The length that a long header gives for its connection id. -/
theorem connIdLength_toNat {quic : Nat} {flags : UInt8} {tail : List UInt8}
    (payload : data.drop quic = flags :: tail) (long : 13 ≤ tail.length) :
    (if Bytes.read32 data (quic + 1) = quicVersionMvfstOld then Bytes.read8 data (quic + 5) >>> 4
      else Bytes.read8 data (quic + 5)).toNat =
      destConnIdLen mvfstOldWire.reverse (tail.take 4) (Bytes.read8 tail 4) := by
  have byte : ∀ more, Bytes.read8 data (quic + 1 + more) = Bytes.read8 tail more := by
    intro more
    rw [← Bytes.read8_drop, drop_of_payload payload]
  have version : Bytes.read32 data (quic + 1) = quicVersionMvfstOld ↔
      tail.take 4 = mvfstOldWire.reverse := by
    rw [read32_eq_mvfstOld_iff, take_four (by omega), ← byte, ← byte, ← byte, ← byte, Nat.add_zero]
  have lens : Bytes.read8 data (quic + 5) = Bytes.read8 tail 4 := byte 4
  unfold destConnIdLen
  rw [lens]
  split
  next old =>
    rw [if_pos (version.mp old), UInt8.toNat_shiftRight, Nat.shiftRight_eq_div_pow]
    rfl
  next other => rw [if_neg fun old => other (version.mpr old)]

/-- The offset of the connection id behind a long header. -/
theorem quicLongConnId_eq_some_iff (constants : QuicConstants cfg) {quic : Nat} {flags : UInt8}
    {tail : List UInt8} (payload : data.drop quic = flags :: tail) (off : Nat) :
    quicLongConnId cfg data quic = some off ↔ 13 ≤ tail.length ∧
      (flags &&& 0x30 = 0x20 ∨ flags &&& 0x30 = 0x30) ∧
      8 ≤ destConnIdLen mvfstOldWire.reverse (tail.take 4) (Bytes.read8 tail 4) ∧
        off = quic + 6 := by
  have length : (data.drop quic).length = data.length - quic := List.length_drop
  rw [payload, List.length_cons] at length
  have eight : cfg.quicMinConnidLen.toNat = 8 := by
    rw [constants.minConnidLen]
    rfl
  unfold quicLongConnId
  dsimp only
  rw [read8_of_payload payload, eight]
  split
  next short =>
    refine ⟨nofun, ?_⟩
    rintro ⟨whole, _⟩
    omega
  next whole =>
    have long : 13 ≤ tail.length := by omega
    split
    next type =>
      refine ⟨nofun, ?_⟩
      rintro ⟨_, routed, _⟩
      exact absurd type ((routedType_iff flags).mpr routed)
    next type =>
      have routed := (routedType_iff flags).mp type
      have value := connIdLength_toNat payload long
      generalize (if Bytes.read32 data (quic + 1) = quicVersionMvfstOld then
        Bytes.read8 data (quic + 5) >>> 4 else Bytes.read8 data (quic + 5)) = length at value ⊢
      split
      next few =>
        rw [UInt8.lt_iff_toNat_lt, value, eight] at few
        refine ⟨nofun, ?_⟩
        rintro ⟨_, _, enough, _⟩
        omega
      next enough =>
        rw [UInt8.lt_iff_toNat_lt, value, eight] at enough
        rw [Option.some.injEq, @eq_comm _ _ off]
        exact ⟨fun same => ⟨long, routed, Nat.le_of_not_lt enough, same⟩, fun accepted =>
          accepted.2.2.2⟩

/-- The parser accepts the grammar for the bytes of the old version in reverse. -/
theorem parseQuic_eq_some_iff (constants : QuicConstants cfg) :
    parseQuic cfg data isIpv6 pckt = some index ↔
      QuicGrammar mvfstOldWire.reverse (quicPayload data isIpv6 pckt) index := by
  unfold parseQuic quicPayload
  generalize calcOffset isIpv6 pckt.icmp + 8 = quic
  dsimp only
  have eight : cfg.quicMinConnidLen.toNat = 8 := by
    rw [constants.minConnidLen]
    rfl
  have length : (data.drop quic).length = data.length - quic := List.length_drop
  cases payload : data.drop quic with
  | nil =>
      rw [payload, List.length_nil] at length
      rw [if_pos (by omega)]
      refine ⟨nofun, ?_⟩
      rintro ⟨_, carries, _⟩
      cases carries
  | cons flags tail =>
      rw [payload, List.length_cons] at length
      have behind := drop_of_payload payload
      rw [if_neg (by omega), read8_of_payload payload]
      by_cases long : flags &&& quicLongHeader = quicLongHeader
      · have rest : data.drop (quic + 6) = tail.drop 5 := by rw [← behind, List.drop_drop]
        rw [if_pos long, quicGrammar_long_iff ((longForm_iff flags).mp long),
          Option.bind_eq_some_iff]
        constructor
        · rintro ⟨off, found, named⟩
          obtain ⟨whole, type, enough, rfl⟩ :=
            (quicLongConnId_eq_some_iff constants payload _).mp found
          rw [connIdIndex_iff constants (by omega), rest] at named
          exact ⟨whole, type, enough, named⟩
        · rintro ⟨whole, type, enough, named⟩
          rw [← rest, ← connIdIndex_iff constants (by omega)] at named
          exact ⟨_, (quicLongConnId_eq_some_iff constants payload _).mpr ⟨whole, type, enough, rfl⟩,
            named⟩
      · have short : flags &&& 0x80 = 0 := by
          by_contra other
          exact long ((longForm_iff flags).mpr other)
        rw [if_neg long, quicGrammar_short_iff short, eight]
        split
        next few =>
          refine ⟨nofun, ?_⟩
          rintro ⟨enough, _⟩
          omega
        next enough =>
          rw [Option.bind_some, connIdIndex_iff constants (by omega), behind]
          exact (and_iff_right (by omega)).symm

/-! ## The version -/

/-- A long header whose version is taken for the other kind: its bytes are those of the old
version in one order or the other, and the length byte says enough as a whole but not in its
upper half. -/
def VersionMisread (payload : List UInt8) : Prop :=
  ∃ flags version connIdLens connId,
    payload = flags :: (version ++ (connIdLens :: connId)) ∧ flags &&& 0x80 ≠ 0 ∧
    (flags &&& 0x30 = 0x20 ∨ flags &&& 0x30 = 0x30) ∧
    (version = mvfstOldWire ∨ version = mvfstOldWire.reverse) ∧
    8 ≤ connIdLens.toNat ∧ connIdLens.toNat < 128 ∧ 8 ≤ connId.length ∧
    (Bytes.read8 connId 0).toNat / 64 = 1

private theorem mvfstOldWire_ne_reverse : mvfstOldWire ≠ mvfstOldWire.reverse := by decide

/-- The two readings of a length differ for the old version in either order, and lengths
between 8 and 127. -/
theorem destConnIdLen_enough_iff (version : List UInt8) (connIdLens : UInt8) :
    (8 ≤ destConnIdLen mvfstOldWire version connIdLens ↔
      8 ≤ destConnIdLen mvfstOldWire.reverse version connIdLens) ↔
    ¬ ((version = mvfstOldWire ∨ version = mvfstOldWire.reverse) ∧ 8 ≤ connIdLens.toNat ∧
      connIdLens.toNat < 128) := by
  have different := mvfstOldWire_ne_reverse
  unfold destConnIdLen
  by_cases wire : version = mvfstOldWire
  · subst wire
    rw [if_pos rfl, if_neg different]
    simp only [true_or, true_and]
    omega
  · by_cases reversed : version = mvfstOldWire.reverse
    · subst reversed
      rw [if_neg different.symm, if_pos rfl]
      simp only [or_true, true_and]
      omega
    · rw [if_neg wire, if_neg reversed]
      simp only [wire, reversed, or_self, false_and, not_false_eq_true]

/-- **The parser accepts the grammar, unless the version is misread.** For every payload,
`parse_quic` finds the connection ids that the grammar of the headers gives it, exactly if its
version is not read in the wrong byte order. -/
theorem parseQuic_grammar_iff (constants : QuicConstants cfg) (data : List UInt8) (isIpv6 : Bool)
    (pckt : PacketDescription) :
    (∀ index, parseQuic cfg data isIpv6 pckt = some index ↔
        QuicGrammar mvfstOldWire (quicPayload data isIpv6 pckt) index) ↔
      ¬ VersionMisread (quicPayload data isIpv6 pckt) := by
  simp only [parseQuic_eq_some_iff constants]
  generalize quicPayload data isIpv6 pckt = payload
  constructor
  · rintro agree ⟨flags, version, lens, connId, rfl, form, type, old, enough, few, whole, named⟩
    have word : version.length = 4 := by
      rcases old with rfl | rfl
      · rfl
      · rfl
    obtain ⟨start, lengths, behind⟩ := @longHeader_fields _ connId lens word
    obtain ⟨index, names⟩ : ∃ index, ConnIdNames connId index :=
      ⟨_, (connIdNames_iff (by omega)).mpr ⟨named, rfl⟩⟩
    have long : 13 ≤ (version ++ (lens :: connId)).length := by
      rw [List.length_append, List.length_cons]
      omega
    have same := agree index
    rw [quicGrammar_long_iff form, quicGrammar_long_iff form, start, lengths, behind] at same
    simp only [long, type, names, true_and, and_true] at same
    exact (destConnIdLen_enough_iff version lens).mp same.symm ⟨old, enough, few⟩
  · intro read index
    cases payload with
    | nil =>
        constructor
        · rintro ⟨_, carries, _⟩
          cases carries
        · rintro ⟨_, carries, _⟩
          cases carries
    | cons flags tail =>
        by_cases form : flags &&& 0x80 = 0
        · rw [quicGrammar_short_iff form, quicGrammar_short_iff form]
        · rw [quicGrammar_long_iff form, quicGrammar_long_iff form]
          refine and_congr_right fun long => and_congr_right fun type =>
            and_congr_left fun names => ?_
          have whole : 8 ≤ (tail.drop 5).length := by
            rw [List.length_drop]
            omega
          refine ((destConnIdLen_enough_iff _ _).mpr ?_).symm
          rintro ⟨old, enough, few⟩
          refine read ⟨flags, tail.take 4, Bytes.read8 tail 4, tail.drop 5, ?_, form, type,
            old, enough, few, whole, ?_⟩
          · rw [longHeader_parts (by omega)]
          · exact ((connIdNames_iff (by omega)).mp names).1

/-- A packet with a short header, and the index 4. -/
def shortHeader : List UInt8 := List.replicate 42 0 ++ [0x40, 0x40, 1, 0, 0, 0, 0, 0, 0]

private theorem shortHeader_read : ¬ VersionMisread (quicPayload shortHeader false {}) := by
  rintro ⟨flags, _, _, _, same, form, _⟩
  obtain rfl : 0x40 = flags := (List.cons.inj same).1
  exact form (by decide)

/-- A Handshake packet of the old version, without a destination connection id by its
length byte. -/
def oldHandshake : List UInt8 :=
  List.replicate 42 0 ++ [0xa0, 0xfa, 0xce, 0xb0, 0x00, 0x08, 0x40, 1, 0, 0, 0, 0, 0, 0]

private theorem versionMisread_oldHandshake : VersionMisread (quicPayload oldHandshake false {}) :=
  ⟨0xa0, mvfstOldWire, 0x08, [0x40, 1, 0, 0, 0, 0, 0, 0], rfl, by decide, .inl (by decide),
    .inl rfl, by decide, by decide, by decide, by decide⟩

/-- The parser accepts a short header as the grammar does, and a Handshake packet of the old
version otherwise. -/
theorem parseQuic_grammar_iff_short :
    (∀ index, parseQuic {} shortHeader false {} = some index ↔
      QuicGrammar mvfstOldWire (quicPayload shortHeader false {}) index) ∧
    QuicGrammar mvfstOldWire (quicPayload shortHeader false {}) 4 ∧
    ¬ ∀ index, parseQuic {} oldHandshake false {} = some index ↔
      QuicGrammar mvfstOldWire (quicPayload oldHandshake false {}) index := by
  have constants : QuicConstants {} := ⟨rfl, rfl⟩
  have agree := (parseQuic_grammar_iff constants shortHeader false {}).mpr shortHeader_read
  refine ⟨agree, (agree 4).mp (by decide), ?_⟩
  intro same
  exact (parseQuic_grammar_iff constants oldHandshake false {}).mp same versionMisread_oldHandshake

/-- The packet is routed by an index that the grammar does not give it. -/
theorem oldHandshake_misread :
    parseQuic {} oldHandshake false {} = some 4 ∧
      ¬ QuicGrammar mvfstOldWire (quicPayload oldHandshake false {}) 4 := by
  refine ⟨by decide, ?_⟩
  intro accepted
  have enough :=
    ((quicGrammar_long_iff (by decide : (0xa0 : UInt8) &&& 0x80 ≠ 0)).mp accepted).2.2.1
  exact absurd enough (by decide)

end Parse

end Katran
