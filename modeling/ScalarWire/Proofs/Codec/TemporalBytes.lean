import ScalarWire.Proofs.Calendar.Order
import ScalarWire.Proofs.Codec.TemporalStable
import ScalarWire.Proofs.Codec.Typing
import ScalarWire.Zone.Excerpt

/-!
# The bytes of decoded dates and timestamps

A day of the calendar has one count, and an infinity has an end of the word. The ends of the
calendar are the infinities, so they are read from either and written as infinities. Every other
payload that is read as a date or a timestamp is written again byte for byte.
-/

namespace ScalarWire

/-- What is read from the count in a word. -/
theorem bind_inRange_eq_ok_iff {α : Type} {width : Nat} {type : WireType} {bytes : List UInt8}
    {ofCount? : Int → Option α} {a : α} :
    (wordOf width type bytes >>= fun n => inRange type n (ofCount? n)) = .ok a ↔
      bytes.length = width ∧ ofCount? (BigEndian.signed bytes) = some a := by
  unfold wordOf
  split
  · next hlen => exact inRange_eq_ok_iff.trans (and_iff_right hlen).symm
  · next hlen => exact ⟨fun h => (nomatch h), fun h => absurd h.1 hlen⟩

namespace Date

/-- A count that gives a date is the count of that date, or the ordinary count of an end of the
calendar. -/
theorem count_of_ofCount? {n : Int} {d : Date} (h : ofCount? n = some d) :
    d.count = n ∨ (d = first ∨ d = last) ∧ n = d.dayNumber - 730119 := by
  unfold ofCount? at h
  split_ifs at h with hgreatest hleast
  · obtain rfl := Option.some.inj h
    exact Or.inl (count_last.trans hgreatest.symm)
  · obtain rfl := Option.some.inj h
    exact Or.inl (count_first.trans hleast.symm)
  · have hday := ofDayNumber?_eq_some_iff.mp h
    have hn : n = d.dayNumber - 730119 := by omega
    by_cases hfirst : d = first
    · exact Or.inr ⟨Or.inl hfirst, hn⟩
    by_cases hlast : d = last
    · exact Or.inr ⟨Or.inr hlast, hn⟩
    exact Or.inl ((count_of_finite hfirst hlast).trans hn.symm)

theorem toBytes_of_ofBytes {type : WireType} {bytes : List UInt8} {d : Date}
    (h : ofBytes type bytes = .ok d) :
    d.toBytes = bytes ∨
      (d = first ∨ d = last) ∧ BigEndian.signed bytes = d.dayNumber - 730119 := by
  obtain ⟨hlen, hread⟩ := bind_inRange_eq_ok_iff.mp h
  refine (count_of_ofCount? hread).imp_left fun hcount => ?_
  rw [toBytes, hcount, ← hlen, BigEndian.encode_signed]

end Date

namespace Timestamp

/-- The last nanosecond of the calendar has no ordinary count: the last one is that of a whole
microsecond before it. -/
theorem count_of_ofCount? {n : Int} {t : Timestamp} (h : ofCount? n = some t) :
    t.count = n ∨ t = first ∧ n = t.sinceEpoch / 1000 := by
  unfold ofCount? at h
  split_ifs at h with hgreatest hleast
  · obtain rfl := Option.some.inj h
    exact Or.inl (count_last.trans hgreatest.symm)
  · obtain rfl := Option.some.inj h
    exact Or.inl (count_first.trans hleast.symm)
  · have hnano := (ofNanoCount?_eq_some_iff.mp h).1
    have hsince : t.sinceEpoch = n * 1000 := by
      rw [sinceEpoch]
      omega
    have hlast : t ≠ last := by
      rintro rfl
      have hend : last.sinceEpoch = 8209320191999999999999 := by decide
      omega
    by_cases hfirst : t = first
    · exact Or.inr ⟨hfirst, by omega⟩
    · refine Or.inl ?_
      rw [count_of_finite hfirst hlast, hsince, Int.mul_tdiv_cancel _ (by decide)]

theorem toBytes_of_ofBytes {type : WireType} {bytes : List UInt8} {t : Timestamp}
    (h : ofBytes type bytes = .ok t) :
    t.toBytes = bytes ∨ t = first ∧ BigEndian.signed bytes = t.sinceEpoch / 1000 := by
  obtain ⟨hlen, hread⟩ := bind_inRange_eq_ok_iff.mp h
  refine (count_of_ofCount? hread).imp_left fun hcount => ?_
  rw [toBytes, hcount, ← hlen, BigEndian.encode_signed]

end Timestamp

namespace WireType

/-- The ordinary count of an end of the calendar, and the end of the word that stands for the
same value. -/
inductive EndCount : WireType → Int → Int → Prop where
  | firstDay : EndCount .date (Date.first.dayNumber - 730119) Date.first.count
  | lastDay : EndCount .date (Date.last.dayNumber - 730119) Date.last.count
  | start : EndCount .timestamp (Timestamp.first.sinceEpoch / 1000) Timestamp.first.count
  | startTz : EndCount .timestamptz (Timestamp.first.sinceEpoch / 1000) Timestamp.first.count

theorem EndCount.mem {type : WireType} {n m : Int} (h : EndCount type n m) :
    n ∈ [-96476249, 95015279, -8335547913600000000] := by
  cases h with
  | firstDay => decide
  | lastDay => decide
  | start | startTz => decide

/-- The bytes of the counts of a type. -/
def countWidth (type : WireType) : Nat :=
  if type = .date then 4 else 8

end WireType

namespace Codec

open WireType (EndCount)

variable {type : WireType} {bytes : List UInt8} {v : Value}

/-- A date or timestamp is written as the bytes that it was read from, unless these hold the
ordinary count of an end of the calendar. -/
theorem toBytes_of_ofBytes (htype : type = .date ∨ type = .timestamp ∨ type = .timestamptz)
    (h : ofBytes type.kind type bytes = .ok v)
    (hend : ¬∃ m, EndCount type (BigEndian.signed bytes) m) :
    toBytes type.kind type v = .ok bytes := by
  rcases htype with rfl | rfl | rfl
  · obtain ⟨d, hread, rfl⟩ := bind_pure_eq_ok_iff.mp h
    rcases Date.toBytes_of_ofBytes hread with hbytes | ⟨rfl | rfl, hn⟩
    · exact congrArg Except.ok hbytes
    · exact absurd ⟨_, hn ▸ EndCount.firstDay⟩ hend
    · exact absurd ⟨_, hn ▸ EndCount.lastDay⟩ hend
  · obtain ⟨t, hread, rfl⟩ := bind_pure_eq_ok_iff.mp h
    rcases Timestamp.toBytes_of_ofBytes hread with hbytes | ⟨rfl, hn⟩
    · exact congrArg Except.ok hbytes
    · exact absurd ⟨_, hn ▸ EndCount.start⟩ hend
  · obtain ⟨t, hread, rfl⟩ := bind_pure_eq_ok_iff.mp h
    rcases Timestamp.toBytes_of_ofBytes hread with hbytes | ⟨rfl, hn⟩
    · exact congrArg Except.ok hbytes
    · exact absurd ⟨_, hn ▸ EndCount.startTz⟩ hend

/-- An end of the calendar is read from its ordinary count and written as an infinity. -/
theorem exists_ofBytes_endCount {n m : Int} (h : EndCount type n m) :
    ∃ v, v.belongsTo type ∧
      ofBytes type.kind type (BigEndian.encode type.countWidth n) = .ok v ∧
      toBytes type.kind type v = .ok (BigEndian.encode type.countWidth m) := by
  cases h with
  | firstDay => exact ⟨.date .first, rfl, toOption_eq_some_iff.mp (by decide +kernel), rfl⟩
  | lastDay => exact ⟨.date .last, rfl, toOption_eq_some_iff.mp (by decide +kernel), rfl⟩
  | start => exact ⟨.timestamp .first, rfl, toOption_eq_some_iff.mp (by decide +kernel), rfl⟩
  | startTz => exact ⟨.timestampTz .first, rfl, toOption_eq_some_iff.mp (by decide +kernel), rfl⟩

end Codec

namespace Registry

/-- A date or timestamp that was read from bytes is written as the same bytes, unless their count is
the ordinary one of an end of the calendar. An end of the calendar is read from that count as well,
and written as an infinity. -/
theorem encode_binary_of_decode {type : WireType}
    (htype : type = .date ∨ type = .timestamp ∨ type = .timestamptz) (r : Registry) :
    (∀ bytes v, r.decode type (.ofBytes bytes) = .ok v →
        (¬∃ m, type.EndCount (BigEndian.signed bytes) m) →
        r.encode type v .binary = .ok (.ofBytes bytes)) ∧
      ∀ n m, type.EndCount n m →
        ∃ v, r.decode type (.ofBytes (BigEndian.encode type.countWidth n)) = .ok v ∧
          r.encode type v .binary = .ok (.ofBytes (BigEndian.encode type.countWidth m)) := by
  refine ⟨fun bytes v h hend => ?_, fun n m h => ?_⟩
  · have hread := lift_eq_ok_iff.mp h
    have hv : v.belongsTo type := beq_iff_eq.mpr (Codec.kind_of_ofBytes hread)
    exact Codec.encode_binary_of_toBytes hv (Codec.toBytes_of_ofBytes htype hread hend)
  · obtain ⟨v, hv, hread, hwrite⟩ := Codec.exists_ofBytes_endCount h
    exact ⟨v, Codec.decode_ofBytes hread r.context, Codec.encode_binary_of_toBytes hv hwrite⟩

/-- The second day from the end of the calendar and the last microsecond before 2000 keep their
bytes. The start of the calendar becomes an infinity. -/
theorem encode_binary_of_decode_second_last_day :
    let r := standard .excerpt
    let bytes : List UInt8 := [5, 169, 209, 110]
    let day := Value.date ⟨262142, 12, 30, by decide⟩
    let micros : List UInt8 := [255, 255, 255, 255, 255, 255, 255, 255]
    let time := Value.timestampTz
      ⟨⟨1999, 12, 31, by decide⟩, ⟨86399, 999999000, by decide, by decide⟩⟩
    r.decode .date (.ofBytes bytes) = .ok day ∧
      (¬∃ m, WireType.date.EndCount (BigEndian.signed bytes) m) ∧
      r.encode .date day .binary = .ok (.ofBytes bytes) ∧
      r.decode .timestamptz (.ofBytes micros) = .ok time ∧
      (¬∃ m, WireType.timestamptz.EndCount (BigEndian.signed micros) m) ∧
      r.encode .timestamptz time .binary = .ok (.ofBytes micros) ∧
      WireType.timestamp.EndCount (Timestamp.first.sinceEpoch / 1000) Timestamp.first.count ∧
      ∃ v, r.decode .timestamp
          (.ofBytes (BigEndian.encode 8 (Timestamp.first.sinceEpoch / 1000))) = .ok v ∧
        r.encode .timestamp v .binary =
          .ok (.ofBytes (BigEndian.encode 8 Timestamp.first.count)) := by
  intro r bytes day micros time
  have hread : r.decode .date (.ofBytes bytes) = .ok day :=
    toOption_eq_some_iff.mp (by decide +kernel)
  have hreadTz : r.decode .timestamptz (.ofBytes micros) = .ok time :=
    toOption_eq_some_iff.mp (by decide +kernel)
  have hend : ¬∃ m, WireType.date.EndCount (BigEndian.signed bytes) m := by
    rintro ⟨m, h⟩
    exact absurd h.mem (by decide)
  have hendTz : ¬∃ m, WireType.timestamptz.EndCount (BigEndian.signed micros) m := by
    rintro ⟨m, h⟩
    exact absurd h.mem (by decide)
  have hdate := (encode_binary_of_decode (.inl rfl) r).1 bytes day hread hend
  have htz := (encode_binary_of_decode (.inr (.inr rfl)) r).1 micros time hreadTz hendTz
  exact ⟨hread, hend, hdate, hreadTz, hendTz, htz, .start,
    (encode_binary_of_decode (.inr (.inl rfl)) r).2 _ _ .start⟩

/-- The last day of the calendar does not come back as the day that it was sent as, and neither
does the calendar's first microsecond. -/
theorem encode_binary_ends_of_calendar :
    let r := standard .excerpt
    let lastDay : List UInt8 := [5, 169, 209, 111]
    let start : List UInt8 := [140, 82, 47, 86, 17, 159, 160, 0]
    r.decode .date (.ofBytes lastDay) = .ok (.date .last) ∧
      r.encode .date (.date .last) .binary = .ok (.ofBytes [127, 255, 255, 255]) ∧
      r.decode .timestamp (.ofBytes start) = .ok (.timestamp .first) ∧
      r.encode .timestamp (.timestamp .first) .binary =
        .ok (.ofBytes [128, 0, 0, 0, 0, 0, 0, 0]) ∧
      ¬∀ type bytes v, type = .date ∨ type = .timestamp ∨ type = .timestamptz →
        r.decode type (.ofBytes bytes) = .ok v →
        r.encode type v .binary = .ok (.ofBytes bytes) := by
  intro r lastDay start
  have hread : r.decode .date (.ofBytes lastDay) = .ok (.date .last) :=
    toOption_eq_some_iff.mp (by decide +kernel)
  have hwrite : r.encode .date (.date .last) .binary =
      .ok (.ofBytes [127, 255, 255, 255]) := toOption_eq_some_iff.mp (by decide +kernel)
  refine ⟨hread, hwrite, toOption_eq_some_iff.mp (by decide +kernel),
    toOption_eq_some_iff.mp (by decide +kernel), fun h => ?_⟩
  have hsame := hwrite.symm.trans (h .date lastDay _ (.inl rfl) hread)
  exact absurd hsame (by decide)

end Registry

end ScalarWire
