import FreshToken.Json.Value
import Mathlib.Data.List.Nodup
import Mathlib.Data.String.Basic
/-!
# Members in order

Setting a member keeps the keys ascending and the other members as they are.  Members with keys of
their own are only rearranged by sorting, and there is one ascending arrangement of them.
-/

namespace FreshToken.Json

variable {α : Type} {key : String} {value : α} {ms ns : List (String × α)}

def Ascending (ms : List (String × α)) : Prop := ms.Pairwise fun m n => m.1 < n.1

def Distinct (ms : List (String × α)) : Prop := (ms.map Prod.fst).Nodup

theorem Ascending.distinct (h : Ascending ms) : Distinct ms :=
  List.pairwise_map.2 (h.imp fun hlt => ne_of_lt hlt)

theorem Ascending.eq_of_perm (hm : Ascending ms) (hn : Ascending ns) (h : ms.Perm ns) : ms = ns :=
  h.eq_of_pairwise (fun _ _ _ _ hlt hgt => absurd hgt (lt_asymm hlt)) hm hn

/-! ## One member -/

theorem mem_setMember {m : String × α} (h : m ∈ setMember key value ms) :
    m = (key, value) ∨ m ∈ ms := by
  induction ms with
  | nil => exact .inl (List.mem_singleton.1 h)
  | cons n ms ih =>
    obtain ⟨k, v⟩ := n
    unfold setMember at h
    split at h
    · exact List.mem_cons.1 h
    · split at h
      · exact (List.mem_cons.1 h).imp_right (List.mem_cons_of_mem _)
      · rcases List.mem_cons.1 h with rfl | h
        · exact .inr List.mem_cons_self
        · exact (ih h).imp_right (List.mem_cons_of_mem _)

theorem Ascending.setMember (h : Ascending ms) (key : String) (value : α) :
    Ascending (setMember key value ms) := by
  induction ms with
  | nil => exact List.pairwise_singleton _ _
  | cons m ms ih =>
    obtain ⟨k, v⟩ := m
    obtain ⟨hfirst, hrest⟩ := List.pairwise_cons.1 h
    unfold Json.setMember
    split
    · rename_i hlt
      refine List.pairwise_cons.2 ⟨fun n hn => ?_, h⟩
      rcases List.mem_cons.1 hn with rfl | hn
      · exact hlt
      · exact hlt.trans (hfirst n hn)
    · rename_i hnlt
      split
      · rename_i heq
        subst heq
        exact List.pairwise_cons.2 ⟨hfirst, hrest⟩
      · rename_i hne
        have hgt : k < key := lt_of_le_of_ne (not_lt.1 hnlt) (Ne.symm hne)
        refine List.pairwise_cons.2 ⟨fun n hn => ?_, ih hrest⟩
        rcases mem_setMember hn with rfl | hn
        · exact hgt
        · exact hfirst n hn

theorem lookup?_setMember_of_ne {k : String} (h : k ≠ key) (value : α)
    (ms : List (String × α)) : lookup? k (setMember key value ms) = lookup? k ms := by
  induction ms with
  | nil => simp [setMember, lookup?, Ne.symm h]
  | cons m ms ih =>
    obtain ⟨l, v⟩ := m
    unfold setMember
    split
    · simp [lookup?, Ne.symm h]
    · split
      · rename_i heq
        subst heq
        simp [lookup?, Ne.symm h]
      · simp [lookup?, ih]

theorem perm_setMember (h : key ∉ ms.map Prod.fst) (value : α) :
    (setMember key value ms).Perm ((key, value) :: ms) := by
  induction ms with
  | nil => exact .refl _
  | cons m ms ih =>
    obtain ⟨k, v⟩ := m
    rw [List.map_cons, List.mem_cons, not_or] at h
    unfold setMember
    split
    · exact .refl _
    · rw [if_neg h.1]
      exact ((ih h.2).cons _).trans (.swap _ _ _)

theorem map_setMember {β : Type} (f : α → β) (key : String) (value : α)
    (ms : List (String × α)) :
    (setMember key value ms).map (fun m => (m.1, f m.2)) =
      setMember key (f value) (ms.map fun m => (m.1, f m.2)) := by
  induction ms with
  | nil => rfl
  | cons m ms ih =>
    obtain ⟨k, v⟩ := m
    rw [setMember, List.map_cons, setMember]
    split_ifs
    · rfl
    · rfl
    · rw [List.map_cons, ih]

/-! ## Many members -/

def setMembers (ms base : List (String × α)) : List (String × α) :=
  ms.foldl (fun sorted m => setMember m.1 m.2 sorted) base

theorem setMembers_cons (m : String × α) (ms base : List (String × α)) :
    setMembers (m :: ms) base = setMembers ms (setMember m.1 m.2 base) := rfl

theorem Ascending.setMembers {base : List (String × α)} (h : Ascending base)
    (ms : List (String × α)) : Ascending (setMembers ms base) := by
  induction ms generalizing base with
  | nil => exact h
  | cons m ms ih => exact ih (h.setMember _ _)

theorem ascending_sortMembers (ms : List (String × α)) : Ascending (sortMembers ms) :=
  Ascending.setMembers List.Pairwise.nil ms

theorem perm_setMembers {base : List (String × α)} (h : Distinct (ms ++ base)) :
    (setMembers ms base).Perm (ms ++ base) := by
  induction ms generalizing base with
  | nil => exact .refl _
  | cons m ms ih =>
    rw [setMembers_cons]
    have hfirst : m.1 ∉ base.map Prod.fst := by
      intro hmem
      unfold Distinct at h
      rw [List.cons_append, List.map_cons, List.nodup_cons, List.map_append] at h
      exact h.1 (List.mem_append_right _ hmem)
    have hset : (setMember m.1 m.2 base).Perm (m :: base) := perm_setMember hfirst m.2
    have hmiddle : (ms ++ setMember m.1 m.2 base).Perm (m :: ms ++ base) :=
      (hset.append_left ms).trans List.perm_middle
    have hdistinct : Distinct (ms ++ setMember m.1 m.2 base) :=
      ((hmiddle.map Prod.fst).nodup_iff).2 h
    exact (ih hdistinct).trans hmiddle

/-- Sorting only rearranges members with keys of their own. -/
theorem perm_sortMembers (h : Distinct ms) : (sortMembers ms).Perm ms := by
  have hall := @perm_setMembers α ms [] (by rwa [List.append_nil])
  rwa [List.append_nil] at hall

theorem sortMembers_eq_of_perm (h : ms.Perm ns) (hn : Ascending ns) : sortMembers ms = ns := by
  have hdistinct : Distinct ms := ((h.map Prod.fst).nodup_iff).2 hn.distinct
  exact (ascending_sortMembers ms).eq_of_perm hn ((perm_sortMembers hdistinct).trans h)

theorem sortMembers_of_ascending (h : Ascending ms) : sortMembers ms = ms :=
  sortMembers_eq_of_perm (.refl ms) h

theorem map_setMembers {β : Type} (f : α → β) (ms base : List (String × α)) :
    (setMembers ms base).map (fun m => (m.1, f m.2)) =
      setMembers (ms.map fun m => (m.1, f m.2)) (base.map fun m => (m.1, f m.2)) := by
  induction ms generalizing base with
  | nil => rfl
  | cons m ms ih => rw [setMembers_cons, ih, map_setMember, List.map_cons, setMembers_cons]

theorem map_sortMembers {β : Type} (f : α → β) (ms : List (String × α)) :
    (sortMembers ms).map (fun m => (m.1, f m.2)) =
      sortMembers (ms.map fun m => (m.1, f m.2)) := map_setMembers f ms []

/-! ## Members by their keys -/

theorem lookup?_of_notMem (h : key ∉ ms.map Prod.fst) : lookup? key ms = none := by
  induction ms with
  | nil => rfl
  | cons m ms ih =>
    rw [List.map_cons, List.mem_cons, not_or] at h
    rw [lookup?, if_neg (Ne.symm h.1), ih h.2]

theorem lookup?_eq_some (h : Distinct ms) : lookup? key ms = some value ↔ (key, value) ∈ ms := by
  induction ms with
  | nil => simp [lookup?]
  | cons m ms ih =>
    obtain ⟨k, v⟩ := m
    obtain ⟨hfirst, hrest⟩ := List.nodup_cons.1 h
    by_cases heq : k = key
    · subst heq
      have hnot : (k, value) ∉ ms := fun hmem => hfirst (List.mem_map.2 ⟨_, hmem, rfl⟩)
      simp [lookup?, hnot, eq_comm]
    · rw [lookup?, if_neg heq, ih hrest, List.mem_cons]
      simp [Ne.symm heq]

/-- Ascending members are known by what stands under each key. -/
theorem Ascending.ext (hm : Ascending ms) (hn : Ascending ns)
    (h : ∀ key, lookup? key ms = lookup? key ns) : ms = ns := by
  have hmem (m : String × α) : m ∈ ms ↔ m ∈ ns := by
    rw [← lookup?_eq_some hm.distinct, h, lookup?_eq_some hn.distinct]
  have hms : ms.Nodup := List.Nodup.of_map Prod.fst hm.distinct
  have hns : ns.Nodup := List.Nodup.of_map Prod.fst hn.distinct
  exact hm.eq_of_perm hn ((List.perm_ext_iff_of_nodup hms hns).2 hmem)

theorem lookup?_setMembers_congr {base base' : List (String × α)}
    (h : ∀ key, key ∉ ms.map Prod.fst → lookup? key base = lookup? key base') :
    lookup? key (setMembers ms base) = lookup? key (setMembers ms base') := by
  induction ms generalizing base base' with
  | nil => exact h key (List.not_mem_nil)
  | cons m ms ih =>
    refine ih fun k hk => ?_
    by_cases heq : k = m.1
    · subst heq
      simp
    · rw [lookup?_setMember_of_ne heq, lookup?_setMember_of_ne heq]
      exact h k (by simpa [heq] using hk)

/-- Members that are all set again make no difference. -/
theorem setMembers_eq_sortMembers {blank : List (String × α)} (hblank : Ascending blank)
    (h : ∀ m ∈ blank, m.1 ∈ ms.map Prod.fst) : setMembers ms blank = sortMembers ms := by
  refine (hblank.setMembers ms).ext (ascending_sortMembers ms) fun key => ?_
  refine lookup?_setMembers_congr fun k hk => ?_
  refine lookup?_of_notMem fun hmem => hk ?_
  obtain ⟨m, hm, rfl⟩ := List.mem_map.1 hmem
  exact h m hm

end FreshToken.Json
