import Supersede.SortedMap

/-!
# Lookup in sorted maps

What a lookup sees after the operations on maps. Since the keys of a map ascend strictly, an entry
is in the list of entries exactly when a lookup of its key finds it (`mem_entries_iff`); the other
statements follow from that.
-/

namespace Supersede.SortedMap

open Std

variable {α β : Type} [Ord α]

@[simp] theorem get?_empty (k : α) : (∅ : SortedMap α β).get? k = none := rfl

theorem contains_eq_true_iff {m : SortedMap α β} {k : α} :
    m.contains k = true ↔ ∃ v, m.get? k = some v :=
  Option.isSome_iff_exists

@[simp] theorem filter_filter (m : SortedMap α β) (p q : α → β → Bool) :
    (m.filter p).filter q = m.filter fun k v => p k v && q k v := by
  simp only [filter, List.filter_filter, Bool.and_comm]

theorem find_cons (k : α) (e : α × β) (l : List (α × β)) :
    find k (e :: l) = if compare k e.1 = .eq then some e.2 else find k l := rfl

variable [LawfulEqOrd α]

theorem find_eq_some_iff {k : α} {v : β} {l : List (α × β)}
    (h : l.Pairwise fun a b => compare a.1 b.1 = .lt) : find k l = some v ↔ (k, v) ∈ l := by
  induction l with
  | nil => simp [find]
  | cons hd tl ih =>
    obtain ⟨k', v'⟩ := hd
    obtain ⟨hall, htl⟩ := List.pairwise_cons.1 h
    rw [find_cons]
    by_cases hk : compare k k' = .eq
    · obtain rfl := LawfulEqOrd.eq_of_compare hk
      -- The key of the head stands nowhere in the tail.
      have hnot : (k, v) ∉ tl := fun hm => by
        have hlt := hall _ hm
        rw [ReflOrd.compare_self] at hlt
        cases hlt
      rw [if_pos hk, List.mem_cons, or_iff_left hnot, Option.some.injEq, Prod.mk.injEq]
      exact ⟨fun hv => ⟨rfl, hv.symm⟩, fun hv => hv.2.symm⟩
    · have hne : k ≠ k' := fun he => hk (he ▸ ReflOrd.compare_self)
      rw [if_neg hk, ih htl, List.mem_cons, or_iff_right]
      rintro ⟨⟩
      exact hne rfl

/-- The entries of a map are what lookups find. -/
theorem mem_entries_iff {m : SortedMap α β} {k : α} {v : β} :
    (k, v) ∈ m.entries ↔ m.get? k = some v :=
  (find_eq_some_iff m.sorted).symm

theorem nodup_entries (m : SortedMap α β) : m.entries.Nodup := by
  refine m.sorted.imp ?_
  intro a b hlt heq
  rw [heq, ReflOrd.compare_self] at hlt
  cases hlt

/-! ## Part of a map -/

theorem get?_filter_eq_some_iff {m : SortedMap α β} {p : α → β → Bool} {k : α} {v : β} :
    (m.filter p).get? k = some v ↔ m.get? k = some v ∧ p k v = true := by
  rw [← mem_entries_iff, ← mem_entries_iff]
  exact List.mem_filter

theorem get?_filterMap {γ : Type} (m : SortedMap α β) (f : α → β → Option γ) (k : α) :
    (m.filterMap f).get? k = (m.get? k).bind (f k) := by
  apply Option.ext
  intro c
  simp only [← mem_entries_iff, filterMap, List.mem_filterMap, Option.map_eq_some_iff, Prod.mk.injEq,
    Option.bind_eq_some_iff]
  constructor
  · rintro ⟨⟨k', v⟩, hmem, c', hc, rfl, rfl⟩
    exact ⟨v, hmem, hc⟩
  · rintro ⟨v, hmem, hc⟩
    exact ⟨(k, v), hmem, c, hc, rfl, rfl⟩

theorem get?_erase_self (m : SortedMap α β) (k : α) : (m.erase k).get? k = none := by
  refine Option.eq_none_iff_forall_ne_some.2 fun v hv => ?_
  obtain ⟨-, hne⟩ := get?_filter_eq_some_iff.1 hv
  rw [ReflOrd.compare_self] at hne
  cases hne

theorem get?_erase_of_ne (m : SortedMap α β) {k k' : α} (h : k' ≠ k) :
    (m.erase k).get? k' = m.get? k' := by
  apply Option.ext
  intro v
  refine get?_filter_eq_some_iff.trans (and_iff_left ?_)
  exact bne_iff_ne.2 fun he => h (LawfulEqOrd.eq_of_compare he).symm

/-- Two filters that agree on the entries of a map give the same part of it. -/
theorem filter_congr {m : SortedMap α β} {p q : α → β → Bool}
    (h : ∀ k v, m.get? k = some v → p k v = q k v) : m.filter p = m.filter q := by
  have hl : m.entries.filter (fun e => p e.1 e.2) = m.entries.filter fun e => q e.1 e.2 :=
    List.filter_congr fun e he => h e.1 e.2 (mem_entries_iff.1 he)
  simp only [filter, hl]

theorem filter_eq_self {m : SortedMap α β} {p : α → β → Bool}
    (h : ∀ k v, m.get? k = some v → p k v = true) : m.filter p = m := by
  have hl : m.entries.filter (fun e => p e.1 e.2) = m.entries :=
    List.filter_eq_self.2 fun e he => h e.1 e.2 (mem_entries_iff.1 he)
  simp only [filter, hl]

theorem filter_eq_empty {m : SortedMap α β} {p : α → β → Bool}
    (h : ∀ k v, m.get? k = some v → p k v = false) : m.filter p = ∅ := by
  have hl : m.entries.filter (fun e => p e.1 e.2) = [] :=
    List.filter_eq_nil_iff.2 fun e he => by
      rw [h e.1 e.2 (mem_entries_iff.1 he)]
      exact Bool.false_ne_true
  simp only [filter, hl]
  rfl

theorem foldl_erase [DecidableEq α] (m : SortedMap α β) (l : List α) :
    l.foldl erase m = m.filter fun k _ => decide (k ∉ l) := by
  induction l generalizing m with
  | nil => exact (filter_eq_self fun _ _ _ => rfl).symm
  | cons k l ih =>
    rw [List.foldl_cons, ih, erase, filter_filter]
    refine filter_congr ?_
    intro k' v _
    by_cases hk : k' = k
    · simp [hk]
    · have hne : (compare k k' != .eq) = true :=
        bne_iff_ne.2 fun he => hk (LawfulEqOrd.eq_of_compare he).symm
      simp [hk, hne]

/-- Where only one key has a value, there is only that entry. -/
theorem entries_eq_singleton {m : SortedMap α β} {k : α} {v : β} (h : m.get? k = some v)
    (hone : ∀ k' v', m.get? k' = some v' → k' = k) : m.entries = [(k, v)] := by
  have hmem : ∀ e ∈ m.entries, e = (k, v) := fun e he => by
    have hget := mem_entries_iff.1 he
    have hk := hone _ _ hget
    rw [hk, h] at hget
    exact Prod.ext hk (Option.some.inj hget).symm
  have hsorted := m.sorted
  have hself := mem_entries_iff.2 h
  match hl : m.entries with
  | [] => simp [hl] at hself
  | [e] => rw [hmem e (by simp [hl])]
  | e :: e' :: rest =>
    rw [hl] at hsorted
    have hlt := (List.pairwise_cons.1 hsorted).1 e' List.mem_cons_self
    rw [hmem e (by simp [hl]), hmem e' (by simp [hl]), ReflOrd.compare_self] at hlt
    cases hlt

/-! ## Insertion and union -/

variable [TransOrd α]

/-- Maps in which every lookup finds the same are equal. -/
theorem ext_get? {m m' : SortedMap α β} (h : ∀ k, m.get? k = m'.get? k) : m = m' := by
  have hperm : m.entries.Perm m'.entries := by
    rw [List.perm_ext_iff_of_nodup m.nodup_entries m'.nodup_entries]
    intro e
    rw [mem_entries_iff, mem_entries_iff, h]
  have hentries : m.entries = m'.entries := by
    refine hperm.eq_of_pairwise ?_ m.sorted m'.sorted
    intro a b _ _ hab hba
    rw [OrientedCmp.gt_of_lt hab] at hba
    cases hba
  cases m
  cases m'
  cases hentries
  rfl

theorem get?_insert_self (m : SortedMap α β) (k : α) (v : β) : (m.insert k v).get? k = some v := by
  rw [get?_insert, if_pos ReflOrd.compare_self]

theorem get?_insert_of_ne (m : SortedMap α β) {k k' : α} (h : k' ≠ k) (v : β) :
    (m.insert k v).get? k' = m.get? k' := by
  rw [get?_insert, if_neg fun he => h (LawfulEqOrd.eq_of_compare he)]

/-- The later of two values for one key stays. -/
theorem insert_insert (m : SortedMap α β) (k : α) (v v' : β) :
    (m.insert k v).insert k v' = m.insert k v' := by
  apply ext_get?
  intro k'
  simp only [get?_insert]
  split <;> rfl

/-- Insertions at different keys can be exchanged. -/
theorem insert_comm (m : SortedMap α β) {k k' : α} (h : k ≠ k') (v v' : β) :
    (m.insert k v).insert k' v' = (m.insert k' v').insert k v := by
  apply ext_get?
  intro j
  by_cases hj : j = k
  · rw [hj, get?_insert_of_ne _ h, get?_insert_self, get?_insert_self]
  · by_cases hj' : j = k'
    · rw [hj', get?_insert_self, get?_insert_of_ne _ (Ne.symm h), get?_insert_self]
    · rw [get?_insert_of_ne _ hj', get?_insert_of_ne _ hj, get?_insert_of_ne _ hj,
        get?_insert_of_ne _ hj']

/-- An insertion takes no key away. -/
theorem contains_insert {m : SortedMap α β} {k k' : α} {v : β} (h : m.contains k' = true) :
    (m.insert k v).contains k' = true := by
  rw [contains, get?_insert]
  split
  · rfl
  · exact h

theorem get?_foldl_insert {l : List (α × β)} (h : l.Pairwise fun a b => compare a.1 b.1 = .lt)
    (m : SortedMap α β) (k : α) :
    (l.foldl (fun m e => m.insert e.1 e.2) m).get? k = (find k l).or (m.get? k) := by
  induction l generalizing m with
  | nil => rfl
  | cons hd tl ih =>
    obtain ⟨hall, htl⟩ := List.pairwise_cons.1 h
    rw [List.foldl_cons, ih htl, get?_insert, find_cons]
    by_cases hk : compare k hd.1 = .eq
    · -- A later entry cannot overwrite the head: its key differs.
      have hnone : find k tl = none := Option.eq_none_iff_forall_ne_some.2 fun v hv => by
        have hlt := hall _ ((find_eq_some_iff htl).1 hv)
        rw [LawfulEqOrd.eq_of_compare hk, ReflOrd.compare_self] at hlt
        cases hlt
      rw [if_pos hk, if_pos hk, hnone]
      rfl
    · rw [if_neg hk, if_neg hk]

theorem get?_foldl_insert_of_notMem {l : List (α × β)} {k : α} (h : k ∉ l.map (·.1))
    (m : SortedMap α β) : (l.foldl (fun m e => m.insert e.1 e.2) m).get? k = m.get? k := by
  induction l generalizing m with
  | nil => rfl
  | cons e l ih =>
    rw [List.map_cons, List.mem_cons, not_or] at h
    rw [List.foldl_cons, ih h.2, get?_insert_of_ne _ h.1]

/-- After insertions, of which some may overwrite others, a lookup finds one of them or the old
map. -/
theorem get?_foldl_insert_eq_some {l : List (α × β)} {m : SortedMap α β} {k : α} {v : β}
    (h : (l.foldl (fun m e => m.insert e.1 e.2) m).get? k = some v) :
    (k, v) ∈ l ∨ m.get? k = some v := by
  induction l generalizing m with
  | nil => exact .inr h
  | cons e l ih =>
    rcases ih h with hmem | hget
    · exact .inl (List.mem_cons_of_mem _ hmem)
    · by_cases hk : k = e.1
      · rw [hk, get?_insert_self] at hget
        exact .inl (by simp [hk, ← Option.some.inj hget])
      · rw [get?_insert_of_ne _ hk] at hget
        exact .inr hget

theorem get?_foldl_insert_const [DecidableEq α] (l : List α) (v : β) (m : SortedMap α β) (k : α) :
    (l.foldl (fun m k => m.insert k v) m).get? k = if k ∈ l then some v else m.get? k := by
  induction l generalizing m with
  | nil => rfl
  | cons k' l ih =>
    rw [List.foldl_cons, ih]
    by_cases hk : k = k'
    · simp [hk, get?_insert_self]
    · simp [hk, get?_insert_of_ne]

/-- A lookup in a union sees the second map first. -/
theorem get?_union (m m' : SortedMap α β) (k : α) :
    (m.union m').get? k = (m'.get? k).or (m.get? k) :=
  get?_foldl_insert m'.sorted m k

/-- A union has the keys of the first map. -/
theorem contains_union {m m' : SortedMap α β} {k : α} (h : m.contains k = true) :
    (m.union m').contains k = true := by
  rw [contains, get?_union, Option.isSome_or, Bool.or_eq_true]
  exact .inr h

end Supersede.SortedMap
