import ScalarWire.Proofs.Text.Fold
import ScalarWire.Proofs.Zone.Token

/-!
# Zone tokens in any letter case

The signs, digits and colons of a numeric offset have no case, and abbreviations and regions are
looked up under a name that folds it. So a token stands for the same zone in any letter case, and
with any blanks around it.
-/

namespace ScalarWire

open Literal Text

namespace Offset

theorem toNat_lt_of_isOffsetChar {c : Char} (h : IsOffsetChar c) : c.toNat < 65 := by
  rcases h with hdigit | rfl | rfl | rfl
  · have hrange := (Numeral.isDigit_iff c).mp hdigit
    omega
  all_goals decide

theorem toNat_lt_of_readSeconds? {s : List Char} {east : Int} (h : readSeconds? s = some east) :
    ∀ c ∈ s, c.toNat < 65 := by
  obtain ⟨sign, rest, rfl, hsign, hrest⟩ := exists_sign_of_readSeconds? h
  refine List.forall_mem_cons.mpr ⟨toNat_lt_of_isOffsetChar (Or.inr (Or.inr hsign)), fun c hc => ?_⟩
  exact toNat_lt_of_isOffsetChar (hrest c hc)

/-- A numeric offset has no letters, and no other text has the lower case of one. -/
theorem readSeconds?_lower (s : List Char) : readSeconds? (lower s) = readSeconds? s := by
  apply Option.ext
  intro east
  constructor
  · intro h
    have hself : lower s = s := by
      apply lower_eq_self
      intro c hc
      have hlt := toNat_lt_of_readSeconds? h c.toLower (List.mem_map_of_mem hc)
      exact ((toLower_eq_iff hlt).mp rfl).symm
    rwa [hself] at h
  · intro h
    rwa [lower_eq_self fun c hc => toLower_of_lt (toNat_lt_of_readSeconds? h c hc)]

end Offset

theorem RegionDatabase.region?_lower (db : RegionDatabase) (name : List Char) :
    db.region? (lower name) = db.region? name := by
  simp only [region?, sameFold_lower]

namespace ZoneTable

theorem get?_lower (t : ZoneTable) (name : List Char) : t.get? (lower name) = t.get? name := by
  rw [get?, key, upper_lower, get?, key]

theorem isSigned_lower (token : List Char) : isSigned (lower token) = isSigned token := by
  cases token with
  | nil => rfl
  | cons c token =>
      change (c.toLower == '+' || c.toLower == '-') = (c == '+' || c == '-')
      rw [toLower_beq (by decide), toLower_beq (by decide)]

theorem zone?_lower (t : ZoneTable) (regions : RegionDatabase) (token : List Char) :
    t.zone? regions (lower token) = t.zone? regions token := by
  simp only [zone?, isSigned_lower, Offset.readSeconds?_lower, get?_lower,
    RegionDatabase.region?_lower]

/-- A token names the same zone in any letter case and with any blanks around it. -/
theorem ignoresCase_resolve (t : ZoneTable) (regions : RegionDatabase) (type : WireType) :
    IgnoresCase (t.resolve regions type) := by
  refine .of_sees (t.zone? regions) (t.zone?_lower regions) fun s s' hsees zone h => ?_
  rw [resolve_eq_ok_iff] at h ⊢
  rw [← hsees, h]

end ZoneTable

end ScalarWire
