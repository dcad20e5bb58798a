import ScalarWire.Proofs.Codec.TemporalBinary
import ScalarWire.Proofs.Literal.Refusal
import ScalarWire.Proofs.Number.BigEndian
import ScalarWire.Registry
import ScalarWire.Zone.Excerpt

/-!
# Values and errors of the right type

What a registry decodes for a column type belongs to that type, and what it refuses is refused as
that type. A value is refused for its kind exactly if it does not belong to the type, and otherwise
only because it is out of range.
-/

namespace ScalarWire

/-- Some column types hold integers, and these have bounds. -/
theorem WireType.exists_integerBounds {type : WireType} (h : type.kind = .integer) :
    ∃ least greatest, type.integerBounds? = some (least, greatest) := by
  cases type with
  | int2 | int4 | int8 => exact ⟨_, _, rfl⟩
  | numeric | float4 | float8 | bool | char | varchar => exact nomatch h
  | date | timestamp | timestamptz | time | timetz => exact nomatch h

/-- A number lies within the bounds of an integer type. -/
def WireType.Bounds (type : WireType) (n : Int64) : Prop :=
  ∃ least greatest, type.integerBounds? = some (least, greatest) ∧
    least ≤ n.toInt ∧ n.toInt ≤ greatest

namespace IntegerCodec

variable {type : WireType}

/-! ### Integers -/

theorem failsOnly_checkBounds {P : CodecError → Prop} (h : ∀ s, P (.outOfRange type s))
    (v : Int64) : FailsOnly P (checkBounds type v) := by
  unfold checkBounds
  split
  · split
    · exact failsOnly_throw (h _)
    · exact failsOnly_pure v
  · exact failsOnly_pure v

theorem failsOnly_ofText (s : List Char) : FailsOnly (·.IsAbout type) (ofText type s) := by
  unfold ofText
  dsimp only
  split
  · exact failsOnly_throw rfl
  · split
    · exact failsOnly_throw rfl
    · exact failsOnly_checkBounds (fun _ => rfl) _

theorem failsOnly_ofBytes (bytes : List UInt8) :
    FailsOnly (·.IsAbout type) (ofBytes type bytes) := by
  unfold ofBytes
  split
  · exact failsOnly_pure _
  · exact failsOnly_throw rfl

theorem bounds_of_checkBounds {v n : Int64} (htype : type.kind = .integer)
    (h : checkBounds type v = .ok n) : type.Bounds n := by
  obtain ⟨least, greatest, hbounds⟩ := type.exists_integerBounds htype
  refine ⟨least, greatest, hbounds, ?_⟩
  unfold checkBounds at h
  rw [hbounds] at h
  dsimp only at h
  split at h
  · exact nomatch h
  · next hlimits =>
      obtain rfl := pure_eq_ok_iff.mp h
      omega

theorem bounds_of_ofText {s : List Char} {n : Int64} (htype : type.kind = .integer)
    (h : ofText type s = .ok n) : type.Bounds n := by
  unfold ofText at h
  dsimp only at h
  split at h
  · exact nomatch h
  · split at h
    · exact nomatch h
    · exact bounds_of_checkBounds htype h

/-- A word is as wide as its type, so the type holds every number that the word can hold. -/
theorem bounds_of_ofBytes {bytes : List UInt8} {n : Int64} (h : ofBytes type bytes = .ok n) :
    type.Bounds n := by
  unfold ofBytes at h
  split at h
  · next hwidth =>
      have hlow := BigEndian.neg_le_two_mul_signed bytes
      have hhigh := BigEndian.two_mul_signed_lt bytes
      obtain rfl := pure_eq_ok_iff.mp h
      have htoInt : -2 ^ 63 ≤ BigEndian.signed bytes → BigEndian.signed bytes < 2 ^ 63 →
          (Int64.ofInt (BigEndian.signed bytes)).toInt = BigEndian.signed bytes :=
        fun h h' => Int64.toInt_ofInt_of_le h h'
      generalize BigEndian.signed bytes = z at *
      cases type with
      | int2 | int4 | int8 =>
          rw [← Option.some.inj hwidth] at hlow hhigh
          refine ⟨_, _, rfl, ?_⟩
          rw [htoInt (by omega) (by omega)]
          omega
      | numeric | float4 | float8 | bool | char | varchar => exact nomatch hwidth
      | date | timestamp | timestamptz | time | timetz => exact nomatch hwidth
  · exact nomatch h

end IntegerCodec

/-! ### Other scalars -/

theorem Decimal.failsOnly_ofText (s : List Char) :
    FailsOnly (Failure.IsAbout .numeric) (Decimal.ofText s) := by
  unfold Decimal.ofText
  dsimp only
  split
  · exact failsOnly_throw rfl
  · split
    · exact failsOnly_throw rfl
    · split
      · exact failsOnly_throw rfl
      · split
        · exact failsOnly_throw rfl
        · split
          · exact failsOnly_throw trivial
          · exact failsOnly_pure _

theorem Decimal.failsOnly_ofBytes (bytes : List UInt8) :
    FailsOnly (CodecError.IsAbout .numeric) (Decimal.ofBytes bytes) := by
  unfold Decimal.ofBytes
  dsimp only
  split
  · exact failsOnly_throw rfl
  · split
    · exact failsOnly_throw rfl
    · split
      · exact failsOnly_throw rfl
      · split
        · exact failsOnly_throw rfl
        · split
          · exact failsOnly_pure _
          · exact failsOnly_throw rfl

theorem Decimal.failsOnly_toBytes {P : CodecError → Prop} (h : ∀ s, P (.outOfRange .numeric s))
    (d : Decimal) : FailsOnly P d.toBytes := by
  unfold Decimal.toBytes
  dsimp only
  split
  · exact failsOnly_throw (h _)
  · split
    · exact failsOnly_throw (h _)
    · split
      · exact failsOnly_pure _
      · exact failsOnly_pure _

namespace FloatCodec

variable {type : WireType}

theorem failsOnly_ofText (s : List Char) : FailsOnly (·.IsAbout type) (ofText type s) := by
  unfold ofText
  dsimp only
  split
  · exact failsOnly_pure _
  · split
    · exact failsOnly_throw rfl
    · split
      · exact failsOnly_throw rfl
      · exact failsOnly_pure _

theorem failsOnly_ofBytes (bytes : List UInt8) :
    FailsOnly (·.IsAbout type) (ofBytes type bytes) := by
  unfold ofBytes
  split
  · exact failsOnly_pure _
  · exact failsOnly_pure _
  · exact failsOnly_throw rfl

theorem failsOnly_narrow {P : CodecError → Prop} (h : ∀ s, P (.outOfRange type s)) (x : Double) :
    FailsOnly P (narrow type x) := by
  unfold narrow
  split
  · split
    · exact failsOnly_throw (h _)
    · exact failsOnly_pure _
  · exact failsOnly_pure _

end FloatCodec

namespace BooleanCodec

variable {type : WireType}

theorem failsOnly_ofText (s : List Char) : FailsOnly (·.IsAbout type) (ofText type s) := by
  unfold ofText
  split
  all_goals first
    | exact failsOnly_pure _
    | exact failsOnly_throw rfl

theorem failsOnly_ofBytes (bytes : List UInt8) :
    FailsOnly (·.IsAbout type) (ofBytes type bytes) := by
  unfold ofBytes
  split
  · exact failsOnly_pure _
  · exact failsOnly_pure _
  · exact failsOnly_throw rfl

end BooleanCodec

/-! ### Dates and times in binary -/

section binary

variable (type : WireType) (bytes : List UInt8)

theorem failsOnly_wordOf (width : Nat) : FailsOnly (·.IsAbout type) (wordOf width type bytes) := by
  unfold wordOf
  split
  · exact failsOnly_pure _
  · exact failsOnly_throw rfl

theorem failsOnly_inRange {α : Type} (count : Int) (found? : Option α) :
    FailsOnly (·.IsAbout type) (inRange type count found?) := by
  unfold inRange
  split
  · exact failsOnly_pure _
  · exact failsOnly_throw rfl

theorem Date.failsOnly_ofBytes : FailsOnly (·.IsAbout type) (Date.ofBytes type bytes) :=
  (failsOnly_wordOf type bytes 4).bind fun count => failsOnly_inRange type count _

theorem TimeOfDay.failsOnly_ofBytes : FailsOnly (·.IsAbout type) (TimeOfDay.ofBytes type bytes) :=
  (failsOnly_wordOf type bytes 8).bind fun count => failsOnly_inRange type count _

theorem TimeOfDay.failsOnly_ofZonedBytes :
    FailsOnly (·.IsAbout type) (TimeOfDay.ofZonedBytes type bytes) := by
  unfold TimeOfDay.ofZonedBytes
  split
  · exact failsOnly_inRange type _ _
  · exact failsOnly_throw rfl

theorem Timestamp.failsOnly_ofBytes : FailsOnly (·.IsAbout type) (Timestamp.ofBytes type bytes) :=
  (failsOnly_wordOf type bytes 8).bind fun count => failsOnly_inRange type count _

end binary

namespace Codec

/-! ### Reading -/

section reading

variable {type : WireType} {v : Value}

/-- Text is read as a value of the kind that it is read for. -/
theorem kind_of_ofText {kind : Kind} {ctx : Context} {s : List Char}
    (h : ofText kind type ctx s = .ok v) : v.kind = kind := by
  cases kind with
  | text =>
      cases h
      rfl
  | integer | numeric | float | boolean | date | time | timeTz | timestamp | timestampTz =>
      obtain ⟨_, -, rfl⟩ := bind_pure_eq_ok_iff.mp h
      rfl

theorem kind_of_ofBytes {bytes : List UInt8} (h : ofBytes type.kind type bytes = .ok v) :
    v.kind = type.kind := by
  cases type
  all_goals
    obtain ⟨_, -, rfl⟩ := bind_pure_eq_ok_iff.mp h
    rfl

theorem failsOnly_ofText (type : WireType) (ctx : Context) (s : List Char) :
    FailsOnly (·.IsAbout type) (ofText type.kind type ctx s) := by
  have hpure : ∀ {α : Type} (g : α → Value) (a : α),
      FailsOnly (Failure.IsAbout type) (pure (g a)) := fun g a => failsOnly_pure (g a)
  cases type with
  | int2 | int4 | int8 => exact (IntegerCodec.failsOnly_ofText s).lift.bind (hpure _)
  | numeric => exact (Decimal.failsOnly_ofText s).bind (hpure _)
  | float4 | float8 => exact (FloatCodec.failsOnly_ofText s).lift.bind (hpure _)
  | bool => exact (BooleanCodec.failsOnly_ofText s).lift.bind (hpure _)
  | char | varchar => exact failsOnly_pure _
  | date => exact (Date.failsOnly_ofText ctx s).lift.bind (hpure _)
  | time => exact (TimeOfDay.failsOnly_ofText s).bind (hpure _)
  | timetz => exact (TimeOfDay.failsOnly_ofZonedText ctx s).bind (hpure _)
  | timestamp => exact (Timestamp.failsOnly_ofText ctx s).bind (hpure _)
  | timestamptz => exact (Timestamp.failsOnly_ofZonedText ctx s).bind (hpure _)

theorem failsOnly_textOfBytes (type : WireType) (bytes : List UInt8) :
    FailsOnly (·.IsAbout type) (textOfBytes type bytes) := by
  unfold textOfBytes
  split
  · exact failsOnly_pure _
  · exact failsOnly_throw rfl

theorem failsOnly_ofBytes (type : WireType) (bytes : List UInt8) :
    FailsOnly (·.IsAbout type) (ofBytes type.kind type bytes) := by
  have hpure : ∀ {α : Type} (g : α → Value) (a : α),
      FailsOnly (CodecError.IsAbout type) (pure (g a)) := fun g a => failsOnly_pure (g a)
  cases type with
  | int2 | int4 | int8 => exact (IntegerCodec.failsOnly_ofBytes bytes).bind (hpure _)
  | numeric => exact (Decimal.failsOnly_ofBytes bytes).bind (hpure _)
  | float4 | float8 => exact (FloatCodec.failsOnly_ofBytes bytes).bind (hpure _)
  | bool => exact (BooleanCodec.failsOnly_ofBytes bytes).bind (hpure _)
  | char | varchar => exact (failsOnly_textOfBytes _ bytes).bind (hpure _)
  | date => exact (Date.failsOnly_ofBytes _ bytes).bind (hpure _)
  | time => exact (TimeOfDay.failsOnly_ofBytes _ bytes).bind (hpure _)
  | timetz => exact (TimeOfDay.failsOnly_ofZonedBytes _ bytes).bind (hpure _)
  | timestamp | timestamptz => exact (Timestamp.failsOnly_ofBytes _ bytes).bind (hpure _)

theorem kind_of_decode {ctx : Context} {p : Payload} (h : decode type ctx p = .ok v) :
    v.kind = type.kind := by
  unfold decode at h
  split at h
  · obtain ⟨s, -, hread⟩ := bind_eq_ok_iff.mp h
    exact kind_of_ofText hread
  · exact kind_of_ofBytes (lift_eq_ok_iff.mp h)

theorem bounds_of_decode {ctx : Context} {p : Payload} {n : Int64}
    (h : decode type ctx p = .ok (.integer n)) : type.Bounds n := by
  have hkind : type.kind = .integer := (kind_of_decode h).symm
  unfold decode at h
  rw [hkind] at h
  split at h
  · obtain ⟨s, -, hread⟩ := bind_eq_ok_iff.mp h
    obtain ⟨m, hm, heq⟩ := bind_pure_eq_ok_iff.mp hread
    cases heq
    exact IntegerCodec.bounds_of_ofText hkind (lift_eq_ok_iff.mp hm)
  · obtain ⟨m, hm, heq⟩ := bind_pure_eq_ok_iff.mp (lift_eq_ok_iff.mp h)
    cases heq
    exact IntegerCodec.bounds_of_ofBytes hm

theorem failsOnly_decode (type : WireType) (ctx : Context) (p : Payload) :
    FailsOnly (·.IsAbout type) (decode type ctx p) := by
  unfold decode
  split
  · have hchars : FailsOnly (·.IsAbout type) (p.chars type) := by
      unfold Payload.chars
      split
      · exact failsOnly_pure _
      · exact failsOnly_throw rfl
    exact hchars.lift.bind fun s => failsOnly_ofText type ctx s
  · exact (failsOnly_ofBytes type p.bytes).lift

end reading

/-! ### Writing -/

section writing

variable {P : CodecError → Prop} {type : WireType} {v : Value}

/-- A value of the right kind can only be out of range. -/
theorem failsOnly_toText (h : ∀ s, P (.outOfRange type s)) (hv : v.kind = type.kind) :
    FailsOnly P (toText type.kind type v) := by
  rw [← hv]
  cases v with
  | integer n => exact (IntegerCodec.failsOnly_checkBounds h n).map _
  | float x => exact (FloatCodec.failsOnly_narrow h x).map _
  | numeric | boolean | text => exact failsOnly_pure _
  | date | time | timeTz | timestamp | timestampTz => exact failsOnly_pure _

theorem failsOnly_toBytes (h : ∀ s, P (.outOfRange type s)) (hv : v.kind = type.kind) :
    FailsOnly P (toBytes type.kind type v) := by
  rw [← hv]
  cases v with
  | integer n => exact (IntegerCodec.failsOnly_checkBounds h n).map _
  | float x =>
      have hnarrow := FloatCodec.failsOnly_narrow h x
      exact (hnarrow.bind fun bits => failsOnly_pure _).map _
  | numeric d =>
      obtain rfl : type = .numeric := by
        cases type <;> first | rfl | exact nomatch hv
      exact Decimal.failsOnly_toBytes h d
  | timestamp t =>
      rw [WireType.eq_timestamp_of_kind hv]
      exact failsOnly_pure _
  | timestampTz t =>
      rw [WireType.eq_timestamptz_of_kind hv]
      exact failsOnly_pure _
  | boolean | text | date | time | timeTz => exact failsOnly_pure _

/-- Writing is refused for the kind of the value, or because the value is out of range. -/
theorem encode_eq_error {format : Format} {e : CodecError} (h : encode type v format = .error e) :
    v.belongsTo type = false ∧ e = .mismatch type v.kind ∨
      v.belongsTo type = true ∧ ∃ s, e = .outOfRange type s := by
  unfold encode at h
  split at h
  · next hv =>
      have hkind : v.kind = type.kind := beq_iff_eq.mp hv
      refine Or.inr ⟨hv, ?_⟩
      cases format with
      | text =>
          have hfails : FailsOnly (∃ s, · = CodecError.outOfRange type s) _ :=
            failsOnly_toText (fun s => ⟨s, rfl⟩) hkind
          exact (hfails.bind fun s => failsOnly_pure _) e h
      | binary =>
          have hfails : FailsOnly (∃ s, · = CodecError.outOfRange type s) _ :=
            failsOnly_toBytes (fun s => ⟨s, rfl⟩) hkind
          exact (hfails.bind fun s => failsOnly_pure _) e h
  · next hv =>
      cases h
      exact Or.inl ⟨eq_false_of_ne_true hv, rfl⟩

theorem encode_eq_mismatch_iff {format : Format} :
    encode type v format = .error (.mismatch type v.kind) ↔ v.belongsTo type = false := by
  constructor
  · intro h
    rcases encode_eq_error h with ⟨hv, -⟩ | ⟨-, s, hs⟩
    · exact hv
    · exact nomatch hs
  · intro hv
    unfold encode
    rw [if_neg (Bool.eq_false_iff.mp hv)]
    rfl

end writing

end Codec

namespace Registry

variable (r : Registry) (type : WireType)

/-- What is decoded belongs to the type, within the bounds of an integer type; what is refused is
refused as that type, or for a zone where the type has zones. A value is refused for its kind
exactly if it does not belong to the type, and otherwise only because it is out of its range. -/
theorem decode_and_encode_typed :
    (∀ p v, r.decode type p = .ok v →
        v.belongsTo type ∧ ∀ n, v = .integer n → type.Bounds n) ∧
      (∀ p e, r.decode type p = .error (.rejected e) → e.IsAbout type) ∧
      ∀ v format,
        (r.encode type v format = .error (.mismatch type v.kind) ↔ v.belongsTo type = false) ∧
          ∀ e, r.encode type v format = .error e →
            e = .mismatch type v.kind ∨ ∃ s, e = .outOfRange type s := by
  refine ⟨?_, ?_, fun v format => ⟨Codec.encode_eq_mismatch_iff, ?_⟩⟩
  · intro p v h
    refine ⟨beq_iff_eq.mpr (Codec.kind_of_decode h), ?_⟩
    rintro n rfl
    exact Codec.bounds_of_decode h
  · intro p e h
    exact (Codec.failsOnly_decode type r.context p).isAbout h
  · intro e h
    rcases Codec.encode_eq_error h with ⟨-, he⟩ | ⟨-, he⟩
    · exact Or.inl he
    · exact Or.inr he

/-- A number that a 16-bit type holds, one that it does not hold, and a value of another kind. -/
theorem decode_and_encode_typed_int2 :
    let r := standard .excerpt
    WireType.Bounds .int2 (-7) ∧ (CodecError.outOfRange .int2 "40000").IsAbout .int2 ∧
      r.encode .int2 (.boolean true) .binary = .error (.mismatch .int2 .boolean) := by
  intro r
  obtain ⟨hvalue, herror, hencode⟩ := decode_and_encode_typed r .int2
  have hread : r.decode .int2 (.ofText ['-', '7']) = .ok (.integer (-7)) := by decide
  have hrange : r.decode .int2 (.ofText ['4', '0', '0', '0', '0']) =
      .error (.rejected (.outOfRange .int2 "40000")) := by decide
  exact ⟨(hvalue _ _ hread).2 _ rfl, herror _ _ hrange, (hencode _ _).1.mpr rfl⟩

end Registry

end ScalarWire
