import Mathlib.Data.Option.Basic
import StreamLinks.Json.Basic

/-!
# Members of objects

A member is looked up by its key, and of repeated keys the last one counts.  Members may
also stand further inside, in the values of an object or an array.
-/

namespace StreamLinks.Json

/-- Of the members with the key the last one has the value. -/
def HoldsLast (members : List (String × Json)) (key : String) (value : Json) : Prop :=
  ∃ front back, members = front ++ (key, value) :: back ∧ key ∉ back.map Prod.fst

variable {members : List (String × Json)} {key : String} {value found : Json}

theorem member?_object : (object members).member? key = some value ↔
    HoldsLast members key value := by
  unfold member?
  rw [Option.map_eq_some_iff]
  constructor
  · rintro ⟨⟨other, found⟩, hfind, rfl⟩
    obtain ⟨hkey, behind, before, hmembers, hbehind⟩ := List.find?_eq_some_iff_append.mp hfind
    rw [List.reverse_eq_iff] at hmembers
    have hother : other = key := by simpa using hkey
    refine ⟨before.reverse, behind.reverse, by simp [hmembers, hother], ?_⟩
    intro hmem
    obtain ⟨pair, hpair, hpairKey⟩ := List.mem_map.mp hmem
    have hne := hbehind pair (List.mem_reverse.mp hpair)
    simp [hpairKey] at hne
  · rintro ⟨front, back, rfl, hback⟩
    refine ⟨(key, value), ?_, rfl⟩
    rw [List.find?_eq_some_iff_append]
    refine ⟨by simp, back.reverse, front.reverse, by simp, ?_⟩
    intro pair hpair
    have hne : pair.1 ≠ key := by
      rintro rfl
      exact hback (List.mem_map_of_mem (List.mem_reverse.mp hpair))
    simpa using hne

theorem member?_eq_some :
    found.member? key = some value ↔ ∃ members, found = object members ∧
      HoldsLast members key value := by
  cases found with
  | object members => simp [member?_object]
  | _ => simp [member?]

theorem string?_eq_some {content : String} : found.string? = some content ↔
    found = string content := by
  cases found with
  | string other => simp [string?]
  | _ => simp [string?]

/-! ## Members at any depth -/

/-- The member is one of the value itself, or of a value inside it. -/
inductive HasMember (member : String × Json) : Json → Prop
  | own {members : List (String × Json)} (hmember : member ∈ members) :
      HasMember member (object members)
  | inMember {members : List (String × Json)} {other : String × Json} (hother : other ∈ members)
      (hmember : HasMember member other.2) : HasMember member (object members)
  | inItem {items : List Json} {item : Json} (hitem : item ∈ items)
      (hmember : HasMember member item) : HasMember member (array items)

end StreamLinks.Json
