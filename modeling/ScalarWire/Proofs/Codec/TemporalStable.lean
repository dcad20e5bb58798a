import ScalarWire.Proofs.Codec.TemporalBinary
import ScalarWire.Proofs.Literal.Reading
import ScalarWire.Registry
import ScalarWire.Zone.Excerpt

/-!
# Decoded dates and times

Every way of reading a date or a time, from text or from bytes, ends in whole microseconds and in no
leap second, or in an infinity. These are the values that both formats hold, so what has been
decoded once can be written and read again without end.
-/

namespace ScalarWire

open Literal

namespace TimeOfDay

variable {t : TimeOfDay}

theorem isWhole_of_ofText {s : List Char} (h : ofText s = .ok t) : t.IsWhole := by
  obtain ⟨micros, rest, -, -, rfl⟩ := ofText_eq_ok_iff.mp h
  exact isWhole_wrapMicros _

theorem isWhole_of_ofZonedText {ctx : Context} {s : List Char} (h : ofZonedText ctx s = .ok t) :
    t.IsWhole := by
  obtain ⟨micros, rest, zone, -, -, rfl⟩ := ofZonedText_eq_ok_iff.mp h
  exact isWhole_wrapMicros _

end TimeOfDay

theorem inRange_eq_ok_iff {α : Type} {type : WireType} {count : Int} {found? : Option α} {a : α} :
    inRange type count found? = .ok a ↔ found? = some a := by
  rw [← elim_throw_eq_ok_iff]
  cases found? <;> rfl

namespace TimeOfDay

variable {t : TimeOfDay} {type : WireType} {bytes : List UInt8}

theorem isWhole_of_ofBytes (h : ofBytes type bytes = .ok t) : t.IsWhole := by
  obtain ⟨micros, -, hrange⟩ := bind_eq_ok_iff.mp h
  rw [inRange_eq_ok_iff, ofWholeDay?] at hrange
  split_ifs at hrange
  obtain rfl := Option.some.inj hrange
  exact isWhole_wrapMicros _

theorem isWhole_of_ofZonedBytes (h : ofZonedBytes type bytes = .ok t) : t.IsWhole := by
  unfold ofZonedBytes at h
  split_ifs at h
  obtain ⟨_, -, rfl⟩ := Option.map_eq_some_iff.mp (inRange_eq_ok_iff.mp h)
  exact isWhole_wrapMicros _

end TimeOfDay

namespace Timestamp

variable {t : Timestamp}

/-- A time of 24 hours or a fraction that rounds up moves the day on, and never leaves anything
finer than a microsecond. -/
theorem isWhole_of_readTimestamp {ctx : Context} {type : WireType} {input body rest : List Char}
    {bc : Bool} (h : readTimestamp ctx type input body bc = .ok (t, rest)) : t.time.IsWhole := by
  obtain ⟨fields, behind, date, micros, -, -, -, hmove⟩ := readTimestamp_eq_ok_iff.mp h
  exact isWhole_of_addMicros? hmove

theorem isWhole_infinity (sign : Infinity) : sign.timestamp.IsWhole := by
  cases sign with
  | before => exact Or.inl rfl
  | after => exact Or.inr (Or.inl rfl)

theorem isWhole_of_ofText {ctx : Context} {s : List Char} (h : ofText ctx s = .ok t) :
    t.IsWhole := by
  cases hs : infinity? s with
  | some sign =>
      rw [ofText_of_infinity? hs] at h
      exact Except.ok.inj h ▸ isWhole_infinity sign
  | none =>
      obtain ⟨rest, hread, -⟩ := (ofText_eq_ok_iff hs).mp h
      exact Or.inr (Or.inr (isWhole_of_readTimestamp hread))

theorem isWhole_of_ofZonedText {ctx : Context} {s : List Char} (h : ofZonedText ctx s = .ok t) :
    t.IsWhole := by
  cases hs : infinity? s with
  | some sign =>
      rw [ofZonedText_of_infinity? hs] at h
      exact Except.ok.inj h ▸ isWhole_infinity sign
  | none =>
      obtain ⟨wall, rest, zone, hread, -, hmove⟩ := (ofZonedText_eq_ok_iff hs).mp h
      exact Or.inr (Or.inr (isWhole_of_addSeconds? (isWhole_of_readTimestamp hread) hmove))

theorem isWhole_of_ofBytes {type : WireType} {bytes : List UInt8}
    (h : ofBytes type bytes = .ok t) : t.IsWhole := by
  obtain ⟨count, -, hrange⟩ := bind_eq_ok_iff.mp h
  rw [inRange_eq_ok_iff, ofCount?] at hrange
  split_ifs at hrange
  · exact Or.inr (Or.inl (Option.some.inj hrange).symm)
  · exact Or.inl (Option.some.inj hrange).symm
  · exact Or.inr (Or.inr (isWhole_of_ofNanoCount? hrange (by omega)))

end Timestamp

namespace Codec

variable {type : WireType} {v : Value}

/-- Reading gives a value of the kind of its type, whole if that is a date or a time. -/
theorem isWhole_of_ofText {ctx : Context} {s : List Char} (htype : type.isTemporal)
    (h : ofText type.kind type ctx s = .ok v) : v.belongsTo type ∧ v.IsWhole := by
  cases type with
  | date =>
      obtain ⟨d, -, rfl⟩ := bind_pure_eq_ok_iff.mp h
      exact ⟨rfl, trivial⟩
  | time =>
      obtain ⟨t, hread, rfl⟩ := bind_pure_eq_ok_iff.mp h
      exact ⟨rfl, TimeOfDay.isWhole_of_ofText hread⟩
  | timetz =>
      obtain ⟨t, hread, rfl⟩ := bind_pure_eq_ok_iff.mp h
      exact ⟨rfl, TimeOfDay.isWhole_of_ofZonedText hread⟩
  | timestamp =>
      obtain ⟨t, hread, rfl⟩ := bind_pure_eq_ok_iff.mp h
      exact ⟨rfl, Timestamp.isWhole_of_ofText hread⟩
  | timestamptz =>
      obtain ⟨t, hread, rfl⟩ := bind_pure_eq_ok_iff.mp h
      exact ⟨rfl, Timestamp.isWhole_of_ofZonedText hread⟩
  | int2 | int4 | int8 | numeric | float4 | float8 | bool | char | varchar => cases htype

theorem isWhole_of_ofBytes {bytes : List UInt8} (htype : type.isTemporal)
    (h : ofBytes type.kind type bytes = .ok v) : v.belongsTo type ∧ v.IsWhole := by
  cases type with
  | date =>
      obtain ⟨d, -, rfl⟩ := bind_pure_eq_ok_iff.mp h
      exact ⟨rfl, trivial⟩
  | time =>
      obtain ⟨t, hread, rfl⟩ := bind_pure_eq_ok_iff.mp h
      exact ⟨rfl, TimeOfDay.isWhole_of_ofBytes hread⟩
  | timetz =>
      obtain ⟨t, hread, rfl⟩ := bind_pure_eq_ok_iff.mp h
      exact ⟨rfl, TimeOfDay.isWhole_of_ofZonedBytes hread⟩
  | timestamp | timestamptz =>
      obtain ⟨t, hread, rfl⟩ := bind_pure_eq_ok_iff.mp h
      exact ⟨rfl, Timestamp.isWhole_of_ofBytes hread⟩
  | int2 | int4 | int8 | numeric | float4 | float8 | bool | char | varchar => cases htype

theorem isWhole_of_decode {ctx : Context} {p : Payload} (htype : type.isTemporal)
    (h : decode type ctx p = .ok v) : v.belongsTo type ∧ v.IsWhole := by
  obtain ⟨format, bytes⟩ := p
  cases format with
  | text =>
      obtain ⟨s, -, hread⟩ := bind_eq_ok_iff.mp h
      exact isWhole_of_ofText htype hread
  | binary => exact isWhole_of_ofBytes htype (lift_eq_ok_iff.mp h)

/-- Whole values are written in either format, and read under any context from what was written. -/
theorem exists_encode_decode (hv : v.belongsTo type) (h : v.IsWhole) (format : Format) :
    ∃ p, encode type v format = .ok p ∧ p.format = format ∧
      ∀ ctx, decode type ctx p = .ok v := by
  have hkind : v.kind = type.kind := by simpa [Value.belongsTo] using hv
  cases format with
  | text =>
      obtain ⟨s, hs, hread⟩ := exists_ofText_toText type h
      rw [hkind] at hs hread
      refine ⟨.ofText s, encode_text_of_toText hv hs, rfl, fun ctx => ?_⟩
      exact (decode_ofText type ctx s).trans (hread ctx)
  | binary =>
      obtain ⟨bytes, hbytes, hread⟩ := exists_ofBytes_toBytes hkind h
      exact ⟨.ofBytes bytes, encode_binary_of_toBytes hv hbytes, rfl, decode_ofBytes hread⟩

end Codec

namespace Registry

/-- A decoded date or time is whole. It is written in both formats, and whatever registry reads one
of these payloads gets it back. -/
theorem isWhole_and_decode_encode_of_decode (r : Registry) {type : WireType} {p : Payload}
    {v : Value} (htype : type.isTemporal) (h : r.decode type p = .ok v) :
    v.IsWhole ∧ ∀ format, ∃ q, r.encode type v format = .ok q ∧ q.format = format ∧
      ∀ other : Registry, other.decode type q = .ok v := by
  obtain ⟨hv, hwhole⟩ := Codec.isWhole_of_decode htype h
  refine ⟨hwhole, fun format => ?_⟩
  obtain ⟨q, hwrite, hformat, hread⟩ := Codec.exists_encode_decode hv hwhole format
  exact ⟨q, hwrite, hformat, fun other => hread other.context⟩

/-- A fraction that rounds up to the end of the year, on the clocks of a region. -/
theorem isWhole_and_decode_encode_of_decode_new_year :
    let p := Payload.ofText "Dec 31, 2008 11:59:59.9999996 PM us/pacific".toList
    let v := Value.timestampTz ⟨⟨2009, 1, 1, by decide⟩, ⟨28800, 0, by decide, by decide⟩⟩
    let r := standard .excerpt
    WireType.timestamptz.isTemporal ∧ r.decode .timestamptz p = .ok v ∧ v.IsWhole ∧
      ∀ format, ∃ q, r.encode .timestamptz v format = .ok q ∧ q.format = format ∧
        ∀ other : Registry, other.decode .timestamptz q = .ok v := by
  intro p v r
  have hread : r.decode .timestamptz p = .ok v :=
    toOption_eq_some_iff.mp (by decide +kernel)
  exact ⟨rfl, hread, r.isWhole_and_decode_encode_of_decode rfl hread⟩

end Registry

end ScalarWire
