/-
  Values that JSON lacks, written as tagged objects and read back.

  Every such value but bytes comes back from the object that was written for it, to the last bit:
  numbers from their decimal text, identifiers from their digits, decimals from their sixteen bytes.
  Only the options of a regular expression come back in order, and the scope of code comes back as
  the document that it is.  A date comes back also where the calendar does not reach it, because
  its milliseconds are written.

  One object with one tag is read as its payload says (`Json.reads_tagged`), so what is left to say
  for each kind is what its payload stands for.
-/
import DocStore.Proofs.Json.Reading
import DocStore.Proofs.Text.Decimal
import DocStore.Proofs.Text.Hexadecimal

namespace DocStore

/-! ## The bytes of a decimal -/

namespace Decimal

/-- The last bytes of a number, least significant first, are put together again. -/
theorem foldr_bytes (count n : Nat) :
    ((List.range count).map fun i => UInt8.ofNat (n / Nat.pow 256 i)).foldr
      (fun b rest => b.toNat + 256 * rest) 0 = n % Nat.pow 256 count := by
  induction count generalizing n with
  | zero => exact (Nat.mod_one n).symm
  | succ count ih =>
    have hfirst : (UInt8.ofNat (n / Nat.pow 256 0)).toNat = n % 256 := by
      rw [UInt8.toNat_ofNat']
      exact congrArg (· % 256) (Nat.div_one n)
    -- The bytes behind the first are those of the quotient.
    have hrest : ((fun i => UInt8.ofNat (n / Nat.pow 256 i)) ∘ Nat.succ) =
        fun i => UInt8.ofNat (n / 256 / Nat.pow 256 i) := by
      funext i
      show UInt8.ofNat (n / Nat.pow 256 (i + 1)) = _
      rw [show Nat.pow 256 (i + 1) = 256 * Nat.pow 256 i from Nat.pow_succ',
        Nat.div_div_eq_div_mul]
    rw [List.range_succ_eq_map, List.map_cons, List.map_map, List.foldr_cons, hfirst, hrest, ih,
      Text.mod_pow_succ]

/-- The bytes of a decimal are those of no other. -/
theorem ofBytes?_bytes (x : Decimal) : ofBytes? x.bytes = some x := by
  have hlength : x.bytes.length = 16 := by rw [bytes, List.length_map, List.length_range]
  have hlt : x.bits.toNat < Nat.pow 256 16 := Nat.lt_of_lt_of_eq x.bits.isLt (by decide)
  rw [ofBytes?, if_pos hlength, bytes, foldr_bytes, Nat.mod_eq_of_lt hlt, BitVec.ofNat_toNat,
    BitVec.setWidth_eq]

end Decimal

/-! ## Objects with one tag -/

namespace Json

open Value Extended

/-- An object with a tag and nothing else is read as what its payload stands for. -/
theorem reads_tagged {key : String} {tag : Tag} {payload : Json} {plain value : Value}
    (htag : Tag.ofKey? key = some tag) (hplain : ofPlain payload = .ok plain)
    (hvalue : payload? .refused tag plain = some value) : (tagged key payload).Reads value := by
  refine ⟨.document [(key, plain)], ?_, ?_⟩
  · rw [tagged, ofPlain, ofPlainMembers, hplain]
    rfl
  · have hfields : interpretFields .refused [(key, plain)] = .ok (.tagged value) := by
      unfold interpretFields
      rw [htag]
      -- Code and scope wait for each other only where something stands behind them.
      cases tag <;> simp only [hvalue] <;> rfl
    rw [interpret, hfields]
    rfl

/-- Two members in the wrong order change places. -/
theorem ofMembers_of_lt {first second : String} (h : second < first) (x y : Json) :
    Json.ofMembers [(first, x), (second, y)] = .object [(second, y), (first, x)] := by
  show object (Entries.place [(first, x)] second y) = _
  rw [Entries.place, if_pos h]

/-- In the right order they stay. -/
theorem ofMembers_in_order {first second : String} (h : first < second) (x y : Json) :
    Json.ofMembers [(first, x), (second, y)] = .object [(first, x), (second, y)] := by
  have hne : first ≠ second := fun heq => String.lt_irrefl second (heq ▸ h)
  show object (Entries.place [(first, x)] second y) = _
  rw [Entries.place, if_neg (String.lt_asymm h), if_neg hne, Entries.place]

/-- A date is written within the calendar or as its milliseconds, and is read from either. -/
theorem reads_dateTime (ms : Int64) : (Value.dateTime ms).toJson.Reads (.dateTime ms) := by
  have hlong : long? (toString ms.toInt) = some ms := by
    rw [long?, Text.signed?_toString ms.minValue_le_toInt ms.toInt_le, Option.map_some,
      Int64.ofInt_toInt]
  have hvalue : payload? .refused .date
      (.document [("$numberLong", .string (toString ms.toInt))]) = some (.dateTime ms) := by
    show (long? (toString ms.toInt)).map Value.dateTime = _
    rw [hlong, Option.map_some]
  exact reads_tagged rfl rfl hvalue

theorem reads_objectId (id : ObjectId) : (Value.objectId id).toJson.Reads (.objectId id) := by
  have hvalue : payload? .refused .oid (.string (Text.hex 24 id.toNat)) = some (.objectId id) := by
    rw [payload?, objectId?, objectIdOfHex?_hex, Option.map_some]
  exact reads_tagged rfl rfl hvalue

/-- A regular expression is read with its options in order. -/
theorem reads_regex (pattern options : Text.NulFree) :
    (Value.regex pattern options).toJson.Reads (.regex pattern options.sorted) := by
  have htext (t : Text.NulFree) : Text.NulFree.ofText? t.text = some t := dif_neg t.nul_not_mem
  have hvalue : payload? .refused .regularExpression
      (.document [("options", .string options.text), ("pattern", .string pattern.text)]) =
        some (.regex pattern options.sorted) := by
    show regex? pattern.text options.text = _
    rw [regex?, htext, htext]
    rfl
  rw [toJson, ofMembers_of_lt (by decide)]
  exact reads_tagged rfl rfl hvalue

theorem unsigned32?_narrowed (n : UInt32) : unsigned32? (narrowed n.toNat) = some n := by
  have hlt : n.toNat < UInt32.size := n.toNat_lt
  rw [unsigned32?, integer?_narrowed (fitsLong_natCast hlt), Option.bind_some, if_pos]
  · exact congrArg some UInt32.ofNat_toNat
  · exact ⟨Int.natCast_nonneg _, by exact_mod_cast hlt⟩

theorem reads_timestamp (time increment : UInt32) :
    (Value.timestamp time increment).toJson.Reads (.timestamp time increment) := by
  have hplain (n : UInt32) : ofPlain (.integer n.toNat) = .ok (narrowed n.toNat) :=
    ofInteger_of_le (fitsLong_natCast n.toNat_lt).2
  have hvalue : payload? .refused .timestamp
      (.document [("i", narrowed increment.toNat), ("t", narrowed time.toNat)]) =
        some (.timestamp time increment) := by
    show ((unsigned32? (narrowed time.toNat)).bind fun t =>
      (unsigned32? (narrowed increment.toNat)).bind fun i => some (Value.timestamp t i)) = _
    rw [unsigned32?_narrowed, unsigned32?_narrowed, Option.bind_some, Option.bind_some]
  rw [toJson, ofMembers_of_lt (by decide)]
  refine reads_tagged rfl ?_ hvalue
  rw [ofPlain, ofPlainMembers, ofPlainMembers, hplain, hplain]
  rfl

theorem reads_pointer (collection : String) (id : ObjectId) :
    (Value.pointer collection id).toJson.Reads (.pointer collection id) := by
  -- Of the digits only this is needed; they are not to be computed.
  have hid := objectIdOfHex?_hex id
  rw [toJson, ofMembers_of_lt (by decide)]
  generalize Text.hex 24 id.toNat = digits at hid ⊢
  have hvalue : payload? .refused .pointer
      (.document [("$id", .document [("$oid", .string digits)]), ("$ref", .string collection)]) =
        some (.pointer collection id) := by
    show ((objectIdOfHex? digits).bind fun id => some (Value.pointer collection id)) = _
    rw [hid, Option.bind_some]
  exact reads_tagged rfl rfl hvalue

/-- A byte is an integer that every document can hold. -/
theorem fitsLong_byte (b : UInt8) : FitsLong b.toNat :=
  fitsLong_natCast (Nat.lt_trans b.toNat_lt (by decide))

theorem byte?_narrowed (b : UInt8) : byte? (narrowed b.toNat) = some b := by
  have hlt : b.toNat < UInt8.size := b.toNat_lt
  rw [byte?, integer?_narrowed (fitsLong_byte b), Option.bind_some, if_pos]
  · exact congrArg some UInt8.ofNat_toNat
  · exact ⟨Int.natCast_nonneg _, by exact_mod_cast hlt⟩

/-- Bytes that are written as integers are read as the bytes. -/
theorem ofPlainItems_bytes : ∀ bytes : List UInt8, ∃ plains,
    ofPlainItems (bytes.map fun b => .integer b.toNat) = .ok plains ∧
      plains.mapM byte? = some bytes
  | [] => ⟨[], rfl, rfl⟩
  | b :: rest => by
    obtain ⟨plains, hplains, hbytes⟩ := ofPlainItems_bytes rest
    have hfirst : ofPlain (.integer b.toNat) = .ok (narrowed b.toNat) :=
      ofInteger_of_le (fitsLong_byte b).2
    refine ⟨narrowed b.toNat :: plains, ?_, ?_⟩
    · rw [List.map_cons, ofPlainItems, hfirst, hplains]
      rfl
    · rw [List.mapM_cons, byte?_narrowed, hbytes]
      rfl

/-- A decimal is read from its text, which spells no other. -/
theorem reads_decimal (x : Decimal) : (Value.decimal x).toJson.Reads (.decimal x) := by
  obtain ⟨plains, hplains, hbytes⟩ := ofPlainItems_bytes x.bytes
  have hvalue : payload? .refused .numberDecimalBytes (.array plains) = some (.decimal x) := by
    rw [payload?, bytes?, hbytes, Option.bind_some, Decimal.ofBytes?_bytes, Option.map_some]
  rw [toJson]
  refine reads_tagged rfl ?_ hvalue
  rw [ofPlain, hplains]
  rfl

/-- Code comes back with what its scope is read as, if that is a document. -/
theorem reads_codeWithScope (s : String) {scope read : List (String × Value)}
    (h : (object (toJsonFields scope)).Reads (.document read)) :
    (Value.codeWithScope s scope).toJson.Reads (.codeWithScope s read) := by
  obtain ⟨plain, hplain, hscope⟩ := h
  rw [toJson, ofMembers_in_order (by decide)]
  refine ⟨.document [("$code", .string s), ("$scope", plain)], ?_, ?_⟩
  · rw [ofPlain, ofPlainMembers, ofPlainMembers, hplain]
    rfl
  · have hfields : interpretFields .refused [("$code", .string s), ("$scope", plain)] =
        .ok (.tagged (.codeWithScope s read)) := by
      show (interpret .refused plain >>= _) = _
      rw [hscope]
      rfl
    rw [interpret, hfields]
    rfl

end Json

end DocStore
