import Katran.Foundation.HexText
import Katran.Lb.RouterMac

/-! # Addresses as text

The server takes the address of the router as text and answers with it as text.
`convertMacToString` puts a colon behind every byte, also behind the last one, and a text with
something behind the address is not parsed. `convertMacToUint` returns zeros for a text that is
not parsed, so of all addresses only zeros come back (`mac_roundTrips_iff`), and handing the
server its own answer sets the address to zeros.
-/

namespace Katran

open Foundation

/-! ## The helpers -/

/-- `folly::MacAddress` -/
structure MacAddress where
  bytes : List UInt8
  size : bytes.length = kMacBytes
deriving DecidableEq, Repr

/-- `folly::MacAddress::parse`, where an exception is `none`. -/
abbrev ParseMac := String → Option MacAddress

/-- `convertMacToUint`: an address that cannot be parsed is that of zeros. -/
def convertMacToUint (parse : ParseMac) (macAddress : String) : List UInt8 :=
  match parse macAddress with
  | none => List.replicate 6 0
  | some defaultMac => defaultMac.bytes

/-- `folly::sformat` with the format `{0:02x}:` -/
def formatMacPart (macPart : UInt16) : String :=
  String.ofList (hexDigits 2 macPart.toNat) ++ ":"

/-- An address as it is printed. -/
def convertMacToString (mac : List UInt8) : String :=
  if mac.length ≠ 6 then "unknown"
  else mac.foldl (fun macString m => macString ++ formatMacPart m.toUInt16) ""

/-! ## The server -/

/-- The server, with a load balancer whose address has six bytes, as the array has in which it
is kept. -/
structure KatranSimpleServiceHandler where
  lb : RouterLb
  sized : lb.mac.length = kMacBytes

namespace KatranSimpleServiceHandler

/-- `changeMac` of the service. -/
def changeMac (parse : ParseMac) (env : Env) (handler : KatranSimpleServiceHandler)
    (newMac : String) : Bool × KatranSimpleServiceHandler :=
  let mac := convertMacToUint parse newMac
  let result := handler.lb.changeMac env mac
  (result.1, {
    lb := result.2
    sized := by
      rw [RouterLb.changeMac_mac]
      split
      next size => exact size
      next => exact handler.sized })

/-- `getMac` of the service. -/
def getMac (handler : KatranSimpleServiceHandler) : String :=
  convertMacToString handler.lb.getMac

end KatranSimpleServiceHandler

/-! ## What is parsed -/

/-- The characters between the bytes of an address. -/
def isMacSeparator (between : Char) : Prop := between = ':' ∨ between = '-'

instance : DecidablePred isMacSeparator :=
  fun between => inferInstanceAs (Decidable (between = ':' ∨ between = '-'))

/-- What the library is relied on for: it parses six bytes in two digits each, with colons or
dashes between them, and throws if anything is behind them. -/
structure ParsesMacs (parse : ParseMac) : Prop where
  accepts : ∀ (address : MacAddress) text, HexText isMacSeparator address.bytes text →
    parse (String.ofList text) = some address
  trailing : ∀ (address : MacAddress) text rest, HexText isMacSeparator address.bytes text →
    rest ≠ [] → parse (String.ofList (text ++ rest)) = none

section Texts

variable {parse : ParseMac} {mac : List UInt8}

/-- The parts are put one behind the other. -/
theorem foldl_formatMacPart (mac : List UInt8) (macString : String) :
    mac.foldl (fun macString m => macString ++ formatMacPart m.toUInt16) macString =
      macString ++ String.ofList (mac.flatMap fun m => hexDigits 2 m.toNat ++ [':']) := by
  induction mac generalizing macString with
  | nil => exact String.append_empty.symm
  | cons m mac ih =>
      have part : formatMacPart m.toUInt16 = String.ofList (hexDigits 2 m.toNat ++ [':']) := by
        rw [formatMacPart, UInt8.toNat_toUInt16, String.ofList_append]
      rw [List.foldl_cons, ih, part, List.flatMap_cons, String.append_assoc,
        ← String.ofList_append]

/-- The text of an address is its bytes with colons between them, and one more colon. -/
theorem convertMacToString_spec (six : mac.length = kMacBytes) :
    ∃ text, convertMacToString mac = String.ofList (text ++ [':']) ∧
      HexText isMacSeparator mac text := by
  have nonempty : mac ≠ [] := by
    rintro rfl
    cases six
  have colon : isMacSeparator ':' := .inl rfl
  obtain ⟨text, printed, written⟩ := hexText_of_marked colon nonempty
  refine ⟨text, ?_, written⟩
  have whole : ¬ mac.length ≠ 6 := not_not.mpr six
  rw [convertMacToString, if_neg whole, foldl_formatMacPart, printed]
  exact String.empty_append

/-- Without its last colon the text of an address would be read back. -/
theorem ParsesMacs.reads_back (parses : ParsesMacs parse) (address : MacAddress) :
    ∃ text, convertMacToString address.bytes = String.ofList (text ++ [':']) ∧
      convertMacToUint parse (String.ofList text) = address.bytes := by
  obtain ⟨text, printed, written⟩ := convertMacToString_spec address.size
  refine ⟨text, printed, ?_⟩
  rw [convertMacToUint, parses.accepts address text written]

/-- With it the text is not parsed. -/
theorem ParsesMacs.reads_zeros (parses : ParsesMacs parse) (six : mac.length = kMacBytes) :
    convertMacToUint parse (convertMacToString mac) = RouterLb.noMac := by
  obtain ⟨text, printed, written⟩ := convertMacToString_spec six
  rw [printed, convertMacToUint, parses.trailing ⟨mac, six⟩ text [':'] written
    (List.cons_ne_nil _ _)]
  rfl

end Texts

/-! ## Round trips -/

/-- An address comes back from its text, and a server with this address keeps it when it is
handed its own answer. -/
structure RoundTrips (parse : ParseMac) (mac : List UInt8) : Prop where
  text : convertMacToUint parse (convertMacToString mac) = mac
  service : ∀ env (handler : KatranSimpleServiceHandler), handler.lb.getMac = mac →
    (handler.changeMac parse env handler.getMac).2.lb.getMac = handler.lb.getMac

/-- A server that is handed its own answer then has no address. -/
theorem KatranSimpleServiceHandler.changeMac_getMac {parse : ParseMac} (parses : ParsesMacs parse)
    (env : Env) (handler : KatranSimpleServiceHandler) :
    (handler.changeMac parse env handler.getMac).2.lb.getMac = RouterLb.noMac := by
  have zeros : convertMacToUint parse handler.getMac = RouterLb.noMac :=
    parses.reads_zeros handler.sized
  have size : RouterLb.noMac.length = kMacBytes := rfl
  refine (RouterLb.changeMac_mac env handler.lb _).trans ?_
  rw [zeros, if_pos size]

/-- **The text of an address is read back as the address** exactly if the address is all
zeros. -/
theorem mac_roundTrips_iff {parse : ParseMac} (parses : ParsesMacs parse) {mac : List UInt8}
    (six : mac.length = kMacBytes) : RoundTrips parse mac ↔ mac = RouterLb.noMac := by
  have zeros := parses.reads_zeros six
  constructor
  · intro trips
    exact trips.text.symm.trans zeros
  · intro unset
    refine ⟨zeros.trans unset.symm, ?_⟩
    intro env handler configured
    rw [handler.changeMac_getMac parses env, configured, unset]

/-- A parser for six bytes in two digits each. -/
def readMac : ParseMac := fun text =>
  (readOctets isMacSeparator kMacBytes text.toList).bind fun bytes =>
    if size : bytes.length = kMacBytes then some ⟨bytes, size⟩ else none

private theorem readMac_parses : ParsesMacs readMac where
  accepts := by
    intro address text written
    have read := written.read
    rw [address.size] at read
    rw [readMac, String.toList_ofList, read, Option.bind_some, dif_pos address.size]
  trailing := by
    intro address text rest written behind
    have read := written.read_append behind
    rw [address.size] at read
    rw [readMac, String.toList_ofList, read, Option.bind_none]

/-- Zeros come back, and 52:54:00:12:35:02 does not. -/
theorem mac_roundTrips_iff_zeros :
    RoundTrips readMac RouterLb.noMac ∧ ¬ RoundTrips readMac [0x52, 0x54, 0, 0x12, 0x35, 2] := by
  constructor
  · exact (mac_roundTrips_iff readMac_parses rfl).mpr rfl
  · rw [mac_roundTrips_iff readMac_parses rfl]
    decide

/-- The address 52:54:00:12:35:02 is written with a colon at its end and read as zeros. A server
that is handed this answer says that it has changed the address, and has zeros then. -/
theorem answered_mac_resets :
    let mac : List UInt8 := [0x52, 0x54, 0, 0x12, 0x35, 2]
    let handler : KatranSimpleServiceHandler :=
      ⟨.loaded (.new {} {} (.fresh RouterLb.noMac fun _ => true)) mac [2, 0, 0, 0, 0, 9] false, rfl⟩
    let result := handler.changeMac readMac (.plain 0) handler.getMac
    handler.getMac = "52:54:00:12:35:02:" ∧
      convertMacToUint readMac (convertMacToString mac) = [0, 0, 0, 0, 0, 0] ∧
      result.1 = true ∧ result.2.lb.getMac = [0, 0, 0, 0, 0, 0] ∧
      result.2.lb.lb.kernel.ctlMac = [0, 0, 0, 0, 0, 0] ∧ ¬ RoundTrips readMac mac := by
  intro mac handler result
  have zeros : convertMacToUint readMac (convertMacToString mac) = [0, 0, 0, 0, 0, 0] := by
    decide +kernel
  refine ⟨by decide +kernel, zeros, by decide +kernel, by decide +kernel, by decide +kernel, ?_⟩
  intro trips
  exact absurd (zeros.symm.trans trips.text) (by decide)

end Katran
