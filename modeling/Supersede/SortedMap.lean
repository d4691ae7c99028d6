/-!
# Maps with sorted keys

A finite map kept as a list of entries with strictly ascending keys. Iteration goes in key order,
and a set of entries has one representation only, so that equality of the structures that hold
maps is equality of their contents. The main statement is `get?_insert`: what a lookup sees after
an insertion.
-/

namespace Supersede

open Std

/-- Entries with strictly ascending keys. -/
structure SortedMap (α β : Type) [Ord α] where
  entries : List (α × β)
  sorted : entries.Pairwise fun a b => compare a.1 b.1 = .lt
deriving DecidableEq

namespace SortedMap

variable {α β : Type} [Ord α]

/-- The map without entries. -/
def empty : SortedMap α β := ⟨[], .nil⟩

instance : EmptyCollection (SortedMap α β) := ⟨empty⟩

/-! ## Lookup -/

/-- The value at a key in a list of entries. -/
def find (k : α) : List (α × β) → Option β
  | [] => none
  | (k', v) :: rest => if compare k k' = .eq then some v else find k rest

/-- The value at a key. -/
def get? (m : SortedMap α β) (k : α) : Option β := find k m.entries

/-- Whether there is an entry at a key. -/
def contains (m : SortedMap α β) (k : α) : Bool := (m.get? k).isSome

/-- The values in key order. -/
def values (m : SortedMap α β) : List β := m.entries.map (·.2)

/-- The keys in order. -/
def keys (m : SortedMap α β) : List α := m.entries.map (·.1)

/-! ## Change -/

/-- Adds or replaces the entry at a key in a list of entries. -/
def insertEntry (k : α) (v : β) : List (α × β) → List (α × β)
  | [] => [(k, v)]
  | (k', v') :: rest =>
    match compare k k' with
    | .lt => (k, v) :: (k', v') :: rest
    | .eq => (k, v) :: rest
    | .gt => (k', v') :: insertEntry k v rest

/-- An insertion adds no entry but the one given. -/
theorem mem_insertEntry {k : α} {v : β} {e : α × β} {l : List (α × β)}
    (h : e ∈ insertEntry k v l) : e = (k, v) ∨ e ∈ l := by
  induction l with
  | nil => simpa [insertEntry] using h
  | cons hd tl ih =>
    obtain ⟨k', v'⟩ := hd
    unfold insertEntry at h
    split at h
    · simpa using h
    · rcases List.mem_cons.1 h with h | h
      · exact .inl h
      · exact .inr (List.mem_cons_of_mem _ h)
    · rcases List.mem_cons.1 h with h | h
      · exact .inr (h ▸ List.mem_cons_self)
      · exact (ih h).imp_right (List.mem_cons_of_mem _)

/-- After an insertion the key has the new value, and every other key what it had. -/
theorem find_insertEntry [LawfulEqOrd α] (k k' : α) (v : β) (l : List (α × β)) :
    find k' (insertEntry k v l) = if compare k' k = .eq then some v else find k' l := by
  induction l with
  | nil => simp [insertEntry, find]
  | cons hd tl ih =>
    obtain ⟨k₁, v₁⟩ := hd
    unfold insertEntry
    split
    · simp [find]
    · rename_i heq
      have := LawfulEqOrd.eq_of_compare heq
      subst this
      simp only [find]
      split <;> rfl
    · rename_i hgt
      simp only [find, ih]
      by_cases h₁ : compare k' k₁ = .eq
      · have := LawfulEqOrd.eq_of_compare h₁
        subst this
        have hne : compare k' k ≠ .eq := by
          intro h
          have := LawfulEqOrd.eq_of_compare h
          subst this
          simp at hgt
        simp [hne]
      · simp [h₁]

/-! ## Part of a map -/

/-- The entries with a property. -/
def filter (m : SortedMap α β) (p : α → β → Bool) : SortedMap α β :=
  ⟨m.entries.filter fun e => p e.1 e.2, m.sorted.filter _⟩

/-- Removes the entry at a key. -/
def erase (m : SortedMap α β) (k : α) : SortedMap α β := m.filter fun k' _ => compare k k' != .eq

/-- Each value replaced by a value for its key, or dropped. -/
def filterMap {γ : Type} (m : SortedMap α β) (f : α → β → Option γ) : SortedMap α γ :=
  ⟨m.entries.filterMap fun e => (f e.1 e.2).map fun c => (e.1, c), by
    refine List.Pairwise.filterMap _ ?_ m.sorted
    intro a b hab c hc d hd
    simp only [Option.map_eq_some_iff] at hc hd
    obtain ⟨_, _, rfl⟩ := hc
    obtain ⟨_, _, rfl⟩ := hd
    exact hab⟩

/-! ## Insertion -/

variable [TransOrd α]

/-- An insertion keeps the keys in order. -/
theorem sorted_insertEntry (k : α) (v : β) {l : List (α × β)}
    (h : l.Pairwise fun a b => compare a.1 b.1 = .lt) :
    (insertEntry k v l).Pairwise fun a b => compare a.1 b.1 = .lt := by
  induction l with
  | nil => simp [insertEntry]
  | cons hd tl ih =>
    obtain ⟨k', v'⟩ := hd
    have hall := (List.pairwise_cons.1 h).1
    have htl := (List.pairwise_cons.1 h).2
    unfold insertEntry
    split
    · rename_i hlt
      refine List.pairwise_cons.2 ⟨fun e he => ?_, h⟩
      rcases List.mem_cons.1 he with rfl | he
      · exact hlt
      · exact TransCmp.lt_trans hlt (hall e he)
    · rename_i heq
      exact List.pairwise_cons.2
        ⟨fun e he => TransCmp.lt_of_eq_of_lt heq (hall e he), htl⟩
    · rename_i hgt
      refine List.pairwise_cons.2 ⟨fun e he => ?_, ih htl⟩
      rcases mem_insertEntry he with rfl | he
      · exact OrientedCmp.lt_of_gt hgt
      · exact hall e he

/-- Adds or replaces the entry at a key. -/
def insert (m : SortedMap α β) (k : α) (v : β) : SortedMap α β :=
  ⟨insertEntry k v m.entries, sorted_insertEntry k v m.sorted⟩

/-- Adds entries one after the other; of two with the same key the later one stays. -/
def ofList (l : List (α × β)) : SortedMap α β := l.foldl (fun m e => m.insert e.1 e.2) ∅

/-- Adds all entries of the second map, which wins where both have one. -/
def union (m m' : SortedMap α β) : SortedMap α β :=
  m'.entries.foldl (fun m e => m.insert e.1 e.2) m

/-- A lookup after an insertion sees the new value at its key and the old map elsewhere. -/
theorem get?_insert [LawfulEqOrd α] (m : SortedMap α β) (k k' : α) (v : β) :
    (m.insert k v).get? k' = if compare k' k = .eq then some v else m.get? k' :=
  find_insertEntry k k' v m.entries

end SortedMap

end Supersede
