import AdmissionControl.Json.Value
import Mathlib.Data.String.Basic

namespace AdmissionControl

-- With each name once, a value is found exactly where it stands.
theorem lookup_eq_some_iff_mem {α : Type} {name : String} {value : α} {members : List (String × α)}
    (h : (members.map Prod.fst).Nodup) :
    members.lookup name = some value ↔ (name, value) ∈ members := by
  induction members with
  | nil => simp
  | cons member members ih =>
      obtain ⟨other, held⟩ := member
      obtain ⟨hother, hmembers⟩ := List.nodup_cons.mp h
      rw [List.lookup_cons, List.mem_cons, Prod.mk.injEq]
      by_cases hname : name = other
      · subst hname
        have hnone : (name, value) ∉ members := by
          intro hmem
          exact hother (List.mem_map.mpr ⟨_, hmem, rfl⟩)
        simp [hnone, eq_comm]
      · simp [beq_false_of_ne hname, hname, ih hmembers]

namespace Json

-- The value under a name, if the whole is an object.
def member? (name : String) : Json → Option Json
  | .object members => Members.get? name members
  | _ => none

-- Every name stands once, in the order of the names.
def Ascending (members : Members) : Prop := members.Pairwise fun one other => one.1 < other.1

theorem Ascending.nodup {members : Members} (h : Ascending members) :
    (members.map Prod.fst).Nodup :=
  List.pairwise_map.mpr (h.imp fun hlt => hlt.ne)

mutual

-- A value that has a single text: its numbers are whole, and its objects keep their
-- members in order.
def Canonical : Json → Prop
  | .decimal _ => False
  | .array items => CanonicalItems items
  | .object members => Ascending members ∧ CanonicalMembers members
  | _ => True

def CanonicalItems : List Json → Prop
  | [] => True
  | item :: items => item.Canonical ∧ CanonicalItems items

def CanonicalMembers : List (String × Json) → Prop
  | [] => True
  | (_, value) :: members => value.Canonical ∧ CanonicalMembers members

end

theorem canonicalMembers_iff {members : Members} :
    CanonicalMembers members ↔ ∀ member ∈ members, member.2.Canonical := by
  induction members with
  | nil => simp [CanonicalMembers]
  | cons member members ih => simp [CanonicalMembers, ih]

section Put

variable {name : String} {value : Json} {held : Members}

@[simp] theorem get?_nil (asked : String) : Members.get? asked [] = none := rfl

theorem get?_cons (asked : String) :
    Members.get? asked ((name, value) :: held) =
      if asked = name then some value else Members.get? asked held := by
  simp only [Members.get?, List.lookup_cons]
  split <;> simp_all

theorem get?_append (asked : String) (front back : Members) :
    Members.get? asked (front ++ back) =
      (Members.get? asked front).or (Members.get? asked back) :=
  List.lookup_append

theorem get?_put (asked : String) :
    Members.get? asked (Members.put name value held) =
      if asked = name then some value else Members.get? asked held := by
  induction held with
  | nil => rw [Members.put, get?_cons]
  | cons member held ih =>
      obtain ⟨other, kept⟩ := member
      rw [Members.put]
      split
      · rw [get?_cons]
      · split
        · rename_i heq
          simp only [get?_cons, heq]
          split <;> rfl
        · rename_i hne
          simp only [get?_cons, ih]
          by_cases hasked : asked = name
          · simp [hasked, hne]
          · simp [hasked]

theorem mem_put {member : String × Json} (h : member ∈ Members.put name value held) :
    member = (name, value) ∨ member ∈ held := by
  induction held with
  | nil => simpa [Members.put] using h
  | cons other held ih =>
      rw [Members.put] at h
      split at h
      · simpa using h
      · split at h
        · exact (List.mem_cons.mp h).imp_right (List.mem_cons_of_mem _)
        · rcases List.mem_cons.mp h with rfl | h
          · exact Or.inr List.mem_cons_self
          · exact (ih h).imp_right (List.mem_cons_of_mem _)

theorem ascending_put (h : Ascending held) : Ascending (Members.put name value held) := by
  induction held with
  | nil => simp [Members.put, Ascending]
  | cons other held ih =>
      obtain ⟨hother, hheld⟩ := List.pairwise_cons.mp h
      rw [Members.put]
      split
      · rename_i hlt
        refine List.pairwise_cons.mpr ⟨fun member hm => ?_, h⟩
        rcases List.mem_cons.mp hm with rfl | hm
        · exact hlt
        · exact lt_trans hlt (hother member hm)
      · rename_i hnot
        split
        · rename_i heq
          exact List.pairwise_cons.mpr ⟨fun member hm => heq ▸ hother member hm, hheld⟩
        · rename_i hne
          refine List.pairwise_cons.mpr ⟨fun member hm => ?_, ih hheld⟩
          rcases mem_put hm with rfl | hm
          · exact lt_of_le_of_ne (not_lt.mp hnot) (Ne.symm hne)
          · exact hother member hm

theorem put_of_forall_lt (h : ∀ member ∈ held, member.1 < name) :
    Members.put name value held = held ++ [(name, value)] := by
  induction held with
  | nil => rfl
  | cons member held ih =>
      have hlt := h member List.mem_cons_self
      rw [Members.put, if_neg (lt_asymm hlt), if_neg hlt.ne',
        ih fun other ho => h other (List.mem_cons_of_mem _ ho), List.cons_append]

end Put

-- All the members, put in one after the other.
def Members.putAll (members held : Members) : Members :=
  members.foldl (fun held (name, value) => Members.put name value held) held

theorem ofMembers_eq (members : Members) :
    ofMembers members = .object (Members.putAll members []) := rfl

@[simp] theorem putAll_nil (held : Members) : Members.putAll [] held = held := rfl

@[simp] theorem putAll_cons (name : String) (value : Json) (members held : Members) :
    Members.putAll ((name, value) :: members) held =
      Members.putAll members (Members.put name value held) := rfl

theorem get?_putAll (asked : String) (members held : Members) :
    Members.get? asked (Members.putAll members held) =
      Members.get? asked (members.reverse ++ held) := by
  induction members generalizing held with
  | nil => rfl
  | cons member members ih =>
      obtain ⟨name, value⟩ := member
      rw [putAll_cons, ih, List.reverse_cons, List.append_assoc, List.singleton_append]
      simp only [get?_append, get?_put, get?_cons]

theorem ascending_putAll {members held : Members} (h : Ascending held) :
    Ascending (Members.putAll members held) := by
  induction members generalizing held with
  | nil => exact h
  | cons member members ih => exact ih (ascending_put h)

theorem mem_putAll_iff {members : Members} {name : String} {value : Json}
    (h : (members.map Prod.fst).Nodup) :
    (name, value) ∈ Members.putAll members [] ↔ (name, value) ∈ members := by
  have hreverse : (members.reverse.map Prod.fst).Nodup := by
    rw [List.map_reverse]
    exact List.pairwise_reverse.mpr (h.imp Ne.symm)
  have hget := get?_putAll name members []
  rw [List.append_nil] at hget
  calc (name, value) ∈ Members.putAll members []
      ↔ Members.get? name (Members.putAll members []) = some value :=
        (lookup_eq_some_iff_mem (ascending_putAll List.Pairwise.nil).nodup).symm
    _ ↔ (name, value) ∈ members.reverse := by
        rw [hget]
        exact lookup_eq_some_iff_mem hreverse
    _ ↔ (name, value) ∈ members := List.mem_reverse

-- Of several values under one name the last counts.
theorem member?_ofMembers (asked : String) (members : Members) :
    (ofMembers members).member? asked = Members.get? asked members.reverse := by
  rw [ofMembers_eq, member?, get?_putAll, List.append_nil]

theorem putAll_of_ascending {members held : Members} (h : Ascending (held ++ members)) :
    Members.putAll members held = held ++ members := by
  induction members generalizing held with
  | nil => simp
  | cons member members ih =>
      obtain ⟨name, value⟩ := member
      have hbelow : ∀ other ∈ held, other.1 < name := fun other ho =>
        (List.pairwise_append.mp h).2.2 other ho (name, value) List.mem_cons_self
      rw [putAll_cons, put_of_forall_lt hbelow, ih (by simpa using h)]
      simp

theorem ofMembers_of_ascending {members : Members} (h : Ascending members) :
    ofMembers members = .object members := by
  rw [ofMembers_eq, putAll_of_ascending (by simpa using h), List.nil_append]

theorem canonical_putAll {members held : Members} (hheld : Canonical (.object held))
    (h : ∀ member ∈ members, member.2.Canonical) :
    Canonical (.object (Members.putAll members held)) := by
  induction members generalizing held with
  | nil => exact hheld
  | cons member members ih =>
      refine ih ⟨ascending_put hheld.1, canonicalMembers_iff.mpr fun other ho => ?_⟩
        fun other ho => h other (List.mem_cons_of_mem _ ho)
      rcases mem_put ho with rfl | ho
      · exact h member List.mem_cons_self
      · exact canonicalMembers_iff.mp hheld.2 other ho

theorem canonical_ofMembers {members : Members} (h : ∀ member ∈ members, member.2.Canonical) :
    (ofMembers members).Canonical :=
  canonical_putAll ⟨List.Pairwise.nil, trivial⟩ h

end Json

end AdmissionControl
