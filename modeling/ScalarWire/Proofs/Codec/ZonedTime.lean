import ScalarWire.Registry
import ScalarWire.Proofs.Codec.TemporalBinary
import ScalarWire.Proofs.Literal.WrittenOffset
import ScalarWire.Zone.Excerpt

/-!
# Zoned times in both formats

In binary a zoned time is a time of the day with its displacement west of UTC, and as text it is the
time with its offset east of UTC behind it. Both are brought to UTC, and where text accepts the
offset they give the same value. Text has a limit for the offset, though, and bytes have none: they
are read with any displacement that fits its word.
-/

namespace ScalarWire

open Literal

/-- The bytes of a zoned time: its microseconds since midnight and its seconds west of UTC. -/
def zonedBytes (micros : Int64) (west : Int32) : List UInt8 :=
  BigEndian.encode 8 micros.toInt ++ BigEndian.encode 4 west.toInt

namespace TimeOfDay

theorem ofZonedBytes_zonedBytes (type : WireType) (micros : Int64) (west : Int32) :
    ofZonedBytes type (zonedBytes micros west) =
      inRange type micros.toInt ((ofWholeDay? micros.toInt).map fun _ =>
        wrapMicros (micros.toInt + west.toInt * 1000000)) := by
  have hmicros := micros.le_toInt
  have hmicros' := micros.toInt_lt
  have hwest := west.le_toInt
  have hwest' := west.toInt_lt
  exact ofZonedBytes_encode type (by omega) (by omega)

end TimeOfDay

namespace Codec

variable (ctx : Context) (micros : Int64) (west : Int32)

theorem decode_zonedBytes_of_day (h : 0 ≤ micros.toInt ∧ micros.toInt ≤ microsPerDay) :
    decode .timetz ctx (.ofBytes (zonedBytes micros west)) =
      .ok (.timeTz (.wrapMicros (micros.toInt + west.toInt * 1000000))) := by
  refine decode_ofBytes (bind_eq_of_ok ?_) ctx
  rw [TimeOfDay.ofZonedBytes_zonedBytes, TimeOfDay.ofWholeDay?, if_pos h]
  rfl

theorem decode_zonedBytes_of_not_day (h : ¬(0 ≤ micros.toInt ∧ micros.toInt ≤ microsPerDay)) :
    decode .timetz ctx (.ofBytes (zonedBytes micros west)) =
      .error (.rejected (.outOfRange .timetz (Numeral.ofInt micros.toInt))) := by
  refine decode_ofBytes_error (bind_eq_error_iff.mpr (Or.inl ?_)) ctx
  rw [TimeOfDay.ofZonedBytes_zonedBytes, TimeOfDay.ofWholeDay?, if_neg h]
  rfl

section dayText

variable {n : Nat} {form : Offset.Spelling} {negative : Bool} {fraction : List Char}
  (hday : 0 ≤ micros.toInt ∧ micros.toInt ≤ microsPerDay) (hform : form.Fits n)
  (hf : SpellsMicros (micros.toInt.toNat % 1000000) fraction)

include hday hform hf

/-- Text counts its offset east of UTC and bytes count theirs west. -/
theorem decode_dayText (heast : Numeral.negateIf negative n = -west.toInt)
    (hn : n ≤ Offset.maxDisplacement) :
    decode .timetz ctx (.ofText (dayText micros.toInt.toNat fraction ++ form.text negative n)) =
      decode .timetz ctx (.ofBytes (zonedBytes micros west)) := by
  have hread := TimeOfDay.ofZonedText_dayText ctx negative (Int.toNat_le.mpr hday.2) hform hf hn
  rw [heast, Int.toNat_of_nonneg hday.1, Int.neg_mul, Int.sub_neg] at hread
  rw [decode_ofText, decode_zonedBytes_of_day ctx micros west hday]
  exact bind_eq_of_ok hread

theorem decode_dayText_of_lt (hlarge : Offset.maxDisplacement < n) (hn : n < 360000) :
    decode .timetz ctx (.ofText (dayText micros.toInt.toNat fraction ++ form.text negative n)) =
      .error (.rejected (.outOfRange .timetz (String.ofList (form.text negative n)))) := by
  rw [decode_ofText]
  exact bind_pure_eq_error_iff.mpr (TimeOfDay.ofZonedText_dayText_of_lt ctx negative
    (Int.toNat_le.mpr hday.2) hform hf hlarge hn)

end dayText

end Codec

namespace Registry

/-- Bytes of a zoned time are read exactly if the time lies within the day, whatever their
displacement is, and else are out of range. The time as text with the same offset is read as the
same value, provided that the offset is one that the server accepts; a larger one is out of range.
An offset of a hundred hours or more has no spelling. -/
theorem decode_zonedBytes_and_decodeText (r : Registry) (micros : Int64) (west : Int32) :
    (∀ v, r.decode .timetz (.ofBytes (zonedBytes micros west)) = .ok v ↔
      (0 ≤ micros.toInt ∧ micros.toInt ≤ microsPerDay) ∧
        v = .timeTz (.wrapMicros (micros.toInt + west.toInt * 1000000))) ∧
    (¬(0 ≤ micros.toInt ∧ micros.toInt ≤ microsPerDay) →
      r.decode .timetz (.ofBytes (zonedBytes micros west)) =
        .error (.rejected (.outOfRange .timetz (Numeral.ofInt micros.toInt)))) ∧
    (0 ≤ micros.toInt ∧ micros.toInt ≤ microsPerDay →
      ∀ (form : Offset.Spelling) (negative : Bool) (n : Nat) (fraction : List Char),
        form.Fits n → Numeral.negateIf negative n = -west.toInt →
        SpellsMicros (micros.toInt.toNat % 1000000) fraction →
        (n ≤ Offset.maxDisplacement →
          r.decodeText .timetz (dayText micros.toInt.toNat fraction ++ form.text negative n) =
            r.decode .timetz (.ofBytes (zonedBytes micros west))) ∧
        (Offset.maxDisplacement < n → n < 360000 →
          r.decodeText .timetz (dayText micros.toInt.toNat fraction ++ form.text negative n) =
            .error (.rejected (.outOfRange .timetz (String.ofList (form.text negative n)))))) := by
  refine ⟨fun v => ?_, Codec.decode_zonedBytes_of_not_day r.context micros west, ?_⟩
  · by_cases hday : 0 ≤ micros.toInt ∧ micros.toInt ≤ microsPerDay
    · rw [decode, Codec.decode_zonedBytes_of_day r.context micros west hday]
      exact ⟨fun h => ⟨hday, (Except.ok.inj h).symm⟩, fun h => congrArg Except.ok h.2.symm⟩
    · rw [decode, Codec.decode_zonedBytes_of_not_day r.context micros west hday]
      exact ⟨fun h => (nomatch h), fun h => absurd h.1 hday⟩
  · intro hday form negative n fraction hform heast hf
    constructor
    · intro hn
      exact Codec.decode_dayText r.context micros west hday hform hf heast hn
    · intro hlarge hn
      exact Codec.decode_dayText_of_lt r.context micros hday hform hf hlarge hn

/-- Sixteen hours west of UTC are read in binary and out of range as text. -/
theorem decode_zonedBytes_sixteen_hours :
    let r := standard .excerpt
    r.decode .timetz (.ofBytes (zonedBytes 0 57600)) =
        .ok (.timeTz ⟨57600, 0, by decide, by decide⟩) ∧
      Offset.maxDisplacement < 57600 ∧
      r.decodeText .timetz "00:00:00-16:00".toList =
        .error (.rejected (.outOfRange .timetz "-16:00")) := by
  intro r
  refine ⟨?_, ?_, ?_⟩ <;> decide +kernel

end Registry

end ScalarWire
