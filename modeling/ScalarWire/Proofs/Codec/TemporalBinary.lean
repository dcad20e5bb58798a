import ScalarWire.Proofs.Calendar.Count
import ScalarWire.Proofs.Codec.Temporal
import ScalarWire.Proofs.Number.BigEndian
import ScalarWire.Zone.Excerpt

/-!
# Binary round trip of dates and times

The counts of dates and times never leave their words, so none of them is refused or confused with
an infinity, and every value without anything finer than a microsecond is read from its bytes.
-/

namespace ScalarWire

theorem wordOf_encode (type : WireType) {width : Nat} {z : Int} (hlow : -256 ^ width ≤ 2 * z)
    (hhigh : 2 * z < 256 ^ width) : wordOf width type (BigEndian.encode width z) = .ok z := by
  rw [wordOf, if_pos (BigEndian.length_encode width z), BigEndian.signed_encode hlow hhigh]
  rfl

theorem Date.ofBytes_toBytes (type : WireType) (d : Date) : ofBytes type d.toBytes = .ok d := by
  have hcount := d.isCount_count
  have hlow := hcount.low
  have hhigh := hcount.high
  refine (bind_eq_of_ok (wordOf_encode type (by omega) (by omega))).trans ?_
  rw [ofCount?_count]
  rfl

namespace TimeOfDay

theorem micros_lt (t : TimeOfDay) : t.micros < microsPerDay := by
  have := t.seconds_lt
  rw [micros, microsPerDay]
  omega

variable {t : TimeOfDay}

theorem ofWholeDay?_micros (h : t.IsWhole) : ofWholeDay? t.micros = some t := by
  have hlt := t.micros_lt
  rw [ofWholeDay?, if_pos (by omega), wrapMicros_micros h]

theorem ofBytes_toBytes (type : WireType) (h : t.IsWhole) : ofBytes type t.toBytes = .ok t := by
  have hlt := t.micros_lt
  rw [microsPerDay] at hlt
  refine (bind_eq_of_ok (wordOf_encode type (by omega) (by omega))).trans ?_
  rw [ofWholeDay?_micros h]
  rfl

/-- A time and a displacement that fit their words are read as the words of a zoned time. -/
theorem ofZonedBytes_encode (type : WireType) {micros west : Int}
    (hmicros : -256 ^ 8 ≤ 2 * micros ∧ 2 * micros < 256 ^ 8)
    (hwest : -256 ^ 4 ≤ 2 * west ∧ 2 * west < 256 ^ 4) :
    ofZonedBytes type (BigEndian.encode 8 micros ++ BigEndian.encode 4 west) =
      inRange type micros
        ((ofWholeDay? micros).map fun _ => wrapMicros (micros + west * 1000000)) := by
  have hlen := BigEndian.length_encode 8 micros
  have htime := BigEndian.signed_encode hmicros.1 hmicros.2
  have hshift := BigEndian.signed_encode hwest.1 hwest.2
  rw [ofZonedBytes, if_pos (by simp)]
  simp only [List.take_left' hlen, List.drop_left' hlen, htime, hshift]

theorem ofZonedBytes_toZonedBytes (type : WireType) (h : t.IsWhole) :
    ofZonedBytes type t.toZonedBytes = .ok t := by
  have hlt := t.micros_lt
  rw [microsPerDay] at hlt
  rw [toZonedBytes, ofZonedBytes_encode type (by omega) (by decide), ofWholeDay?_micros h,
    Option.map_some, Int.zero_mul, Int.add_zero, wrapMicros_micros h]
  rfl

end TimeOfDay

namespace Timestamp

/-- What the bytes of a timestamp are read as. -/
theorem ofBytes_toBytes_eq (type : WireType) (t : Timestamp) :
    ofBytes type t.toBytes = inRange type t.count (ofCount? t.count) := by
  have hcount := t.isCount_count
  have hlow := hcount.low
  have hhigh := hcount.high
  exact bind_eq_of_ok (wordOf_encode type (by omega) (by omega))

theorem ofBytes_toBytes (type : WireType) {t : Timestamp} (h : t.IsWhole) :
    ofBytes type t.toBytes = .ok t := by
  rw [ofBytes_toBytes_eq, ofCount?_count h]
  rfl

end Timestamp

/-- The count of a date or a time lies in its word, and the ends of the word are left to the
infinities. -/
def Value.CountFits : Value → Prop
  | .date d => IsCount (2 ^ 31) .first .last d d.count
  | .timestamp t | .timestampTz t => IsCount (2 ^ 63) .first .last t t.count
  | .time t | .timeTz t => t.micros < microsPerDay
  | _ => True

theorem Value.countFits (v : Value) : v.CountFits := by
  cases v with
  | date d => exact d.isCount_count
  | timestamp t | timestampTz t => exact t.isCount_count
  | time t | timeTz t => exact t.micros_lt
  | integer | numeric | float | boolean | text => trivial

theorem WireType.eq_timestamp_of_kind {type : WireType} (h : Kind.timestamp = type.kind) :
    type = .timestamp := by
  cases type <;> first | rfl | cases h

theorem WireType.eq_timestamptz_of_kind {type : WireType} (h : Kind.timestampTz = type.kind) :
    type = .timestamptz := by
  cases type <;> first | rfl | cases h

namespace Codec

theorem decode_ofBytes {type : WireType} {bytes : List UInt8} {v : Value}
    (h : ofBytes type.kind type bytes = .ok v) (ctx : Context) :
    decode type ctx (.ofBytes bytes) = .ok v :=
  lift_eq_ok_iff.mpr h

theorem decode_ofBytes_error {type : WireType} {bytes : List UInt8} {e : CodecError}
    (h : ofBytes type.kind type bytes = .error e) (ctx : Context) :
    decode type ctx (.ofBytes bytes) = .error (.rejected e) := by
  change (liftM (ofBytes type.kind type bytes) : Except Failure Value) = _
  rw [h]
  rfl

theorem encode_binary_of_toBytes {type : WireType} {v : Value} {bytes : List UInt8}
    (hv : v.belongsTo type) (h : toBytes type.kind type v = .ok bytes) :
    encode type v .binary = .ok (.ofBytes bytes) := by
  rw [encode, if_pos hv]
  exact bind_eq_of_ok h

theorem exists_ofBytes_toBytes {type : WireType} {v : Value} (hkind : v.kind = type.kind)
    (h : v.IsWhole) :
    ∃ bytes, toBytes type.kind type v = .ok bytes ∧ ofBytes type.kind type bytes = .ok v := by
  cases v with
  | date d =>
      rw [← hkind]
      exact ⟨d.toBytes, rfl, bind_eq_of_ok (d.ofBytes_toBytes type)⟩
  | time t =>
      rw [← hkind]
      exact ⟨t.toBytes, rfl, bind_eq_of_ok (TimeOfDay.ofBytes_toBytes type h)⟩
  | timeTz t =>
      rw [← hkind]
      exact ⟨t.toZonedBytes, rfl, bind_eq_of_ok (TimeOfDay.ofZonedBytes_toZonedBytes type h)⟩
  | timestamp t =>
      obtain rfl := WireType.eq_timestamp_of_kind hkind
      exact ⟨t.toBytes, rfl, bind_eq_of_ok (Timestamp.ofBytes_toBytes _ h)⟩
  | timestampTz t =>
      obtain rfl := WireType.eq_timestamptz_of_kind hkind
      exact ⟨t.toBytes, rfl, bind_eq_of_ok (Timestamp.ofBytes_toBytes _ h)⟩
  | integer | numeric | float | boolean | text => exact h.elim

/-- Every such date or time is written in binary, its count fits the word that it is written as,
and the bytes are read as the same value. -/
theorem decode_encode_binary (ctx : Context) {type : WireType} {v : Value}
    (hv : v.belongsTo type) (h : v.IsWhole) :
    v.CountFits ∧ ∃ p, encode type v .binary = .ok p ∧ decode type ctx p = .ok v := by
  have hkind : v.kind = type.kind := by simpa [Value.belongsTo] using hv
  obtain ⟨bytes, hbytes, hread⟩ := exists_ofBytes_toBytes hkind h
  exact ⟨v.countFits, .ofBytes bytes, encode_binary_of_toBytes hv hbytes, decode_ofBytes hread ctx⟩

/-- The last whole microsecond of the calendar, which is no infinity. -/
theorem decode_encode_binary_last_micros :
    let v := Value.timestampTz ⟨.last, ⟨86399, 999999000, by decide, by decide⟩⟩
    v.belongsTo .timestamptz ∧ v.IsWhole ∧ v.CountFits ∧
      ∃ p, encode .timestamptz v .binary = .ok p ∧
        decode .timestamptz (.standard .excerpt) p = .ok v := by
  intro v
  have hwhole : v.IsWhole := Or.inr (Or.inr (by decide))
  exact ⟨rfl, hwhole, decode_encode_binary (.standard .excerpt) rfl hwhole⟩

end Codec

end ScalarWire
