/-!
# Finite maps in key order

A `SortedMap κ α` is a finite map whose entries are kept as a list with strictly ascending keys.
The list is the map's only representation, so two maps with the same look-ups are equal, and
walking a map visits its keys in order without sorting.

## Main definitions

- `SortedMap` — the entries, with the proof that their keys ascend strictly
- `SortedMap.get?`, `SortedMap.insert`, `SortedMap.erase` — look-up, replacement and removal
- `SortedMap.ofList` — the map in which the last pair of each key wins

## Main statements

- `SortedMap.get?_insert`, `SortedMap.get?_erase` — what each operation does to every look-up
- `SortedMap.get?_insertMany`, `SortedMap.get?_ofList` — the last pair of each key wins
- `SortedMap.ext_get?` — look-ups determine the map
- `SortedMap.mem_entries` — the entries are exactly the successful look-ups
-/

namespace EngineHost

universe u v

/-- A finite map from `κ` to `α`, held as its entries in strictly ascending key order. -/
structure SortedMap (κ : Type u) (α : Type v) [Ord κ] where
  /-- The entries, smallest key first. -/
  entries : List (κ × α)
  /-- Each key is smaller than all the keys after it. -/
  ascending : entries.Pairwise fun a b => compare a.1 b.1 = .lt

namespace SortedMap

variable {κ : Type u} {α : Type v} [Ord κ]

/-! ## Entry lists -/

/-- Puts `(k, x)` into an ascending entry list, replacing an entry with the same key. -/
def insertEntry (k : κ) (x : α) : List (κ × α) → List (κ × α)
  | [] => [(k, x)]
  | e :: rest =>
    match compare k e.1 with
    | .lt => (k, x) :: e :: rest
    | .eq => (k, x) :: rest
    | .gt => e :: insertEntry k x rest

/-- The value of the first entry with key `k`. -/
def findEntry (k : κ) : List (κ × α) → Option α
  | [] => none
  | e :: rest => if compare k e.1 = .eq then some e.2 else findEntry k rest

theorem mem_insertEntry {k : κ} {x : α} {l : List (κ × α)} {e : κ × α}
    (h : e ∈ insertEntry k x l) : e = (k, x) ∨ e ∈ l := by
  induction l with
  | nil => simpa [insertEntry] using h
  | cons d rest ih =>
    rw [insertEntry] at h
    split at h
    · simpa using h
    · rcases List.mem_cons.1 h with h | h
      · exact .inl h
      · exact .inr (List.mem_cons_of_mem _ h)
    · rcases List.mem_cons.1 h with h | h
      · exact .inr (h ▸ List.mem_cons_self)
      · exact (ih h).imp_right (List.mem_cons_of_mem _)

section Lawful

variable [Std.TransOrd κ] [Std.LawfulEqOrd κ]

theorem ascending_insertEntry (k : κ) (x : α) {l : List (κ × α)}
    (h : l.Pairwise fun a b => compare a.1 b.1 = .lt) :
    (insertEntry k x l).Pairwise fun a b => compare a.1 b.1 = .lt := by
  induction l with
  | nil => simp [insertEntry]
  | cons d rest ih =>
    obtain ⟨hd, hrest⟩ := List.pairwise_cons.1 h
    rw [insertEntry]
    split
    · next hlt =>
      refine List.pairwise_cons.2 ⟨fun e he => ?_, h⟩
      rcases List.mem_cons.1 he with rfl | he
      · exact hlt
      · exact Std.TransCmp.lt_trans hlt (hd e he)
    · next heq =>
      refine List.pairwise_cons.2 ⟨fun e he => ?_, hrest⟩
      rw [Std.LawfulEqOrd.eq_of_compare heq]
      exact hd e he
    · next hgt =>
      refine List.pairwise_cons.2 ⟨fun e he => ?_, ih hrest⟩
      rcases mem_insertEntry he with rfl | he
      · exact Std.OrientedCmp.lt_of_gt hgt
      · exact hd e he

theorem findEntry_insertEntry (k j : κ) (x : α) (l : List (κ × α)) :
    findEntry j (insertEntry k x l) = if compare j k = .eq then some x else findEntry j l := by
  induction l with
  | nil => simp [insertEntry, findEntry]
  | cons d rest ih =>
    rw [insertEntry]
    split
    · simp [findEntry]
    · next heq =>
      have : k = d.1 := Std.LawfulEqOrd.eq_of_compare heq
      subst this
      simp only [findEntry]
      split <;> simp_all
    · next hgt =>
      simp only [findEntry, ih]
      by_cases hj : compare j d.1 = .eq
      · have : j = d.1 := Std.LawfulEqOrd.eq_of_compare hj
        subst this
        have hlt : compare d.1 k = .lt := Std.OrientedCmp.lt_of_gt hgt
        simp [hlt]
      · simp [hj]

theorem findEntry_of_mem {l : List (κ × α)} {e : κ × α}
    (h : l.Pairwise fun a b => compare a.1 b.1 = .lt) (he : e ∈ l) :
    findEntry e.1 l = some e.2 := by
  induction l with
  | nil => cases he
  | cons d rest ih =>
    obtain ⟨hd, hrest⟩ := List.pairwise_cons.1 h
    rcases List.mem_cons.1 he with rfl | he
    · simp [findEntry]
    · have hlt := hd e he
      have hgt : compare e.1 d.1 = .gt := Std.OrientedCmp.gt_of_lt hlt
      simp [findEntry, hgt, ih hrest he]

omit [Std.TransOrd κ] in
theorem mem_of_findEntry {l : List (κ × α)} {k : κ} {x : α} (h : findEntry k l = some x) :
    (k, x) ∈ l := by
  induction l with
  | nil => simp [findEntry] at h
  | cons d rest ih =>
    rw [findEntry] at h
    split at h
    · next heq =>
      have hk : k = d.1 := Std.LawfulEqOrd.eq_of_compare heq
      cases h
      exact hk ▸ List.mem_cons_self
    · exact List.mem_cons_of_mem _ (ih h)

/-- Ascending entry lists with the same look-ups are the same list. -/
theorem entries_ext {l m : List (κ × α)}
    (hl : l.Pairwise fun a b => compare a.1 b.1 = .lt)
    (hm : m.Pairwise fun a b => compare a.1 b.1 = .lt)
    (h : ∀ k, findEntry k l = findEntry k m) : l = m := by
  have mem_iff {e : κ × α} : e ∈ l ↔ e ∈ m :=
    ⟨fun he => mem_of_findEntry (h e.1 ▸ findEntry_of_mem hl he),
      fun he => mem_of_findEntry ((h e.1).symm ▸ findEntry_of_mem hm he)⟩
  have nodup {r : List (κ × α)} (hr : r.Pairwise fun a b => compare a.1 b.1 = .lt) : r.Nodup :=
    hr.imp fun hlt hab => by subst hab; simp at hlt
  have antisymm : ∀ a b : κ × α, a ∈ l → b ∈ m →
      compare a.1 b.1 = .lt → compare b.1 a.1 = .lt → a = b := by
    intro a b _ _ hab hba
    have : compare a.1 b.1 = .gt := Std.OrientedCmp.gt_of_lt hba
    rw [hab] at this
    cases this
  exact List.Perm.eq_of_pairwise antisymm hl hm
    ((List.perm_ext_iff_of_nodup (nodup hl) (nodup hm)).2 fun _ => mem_iff)

end Lawful

/-! ## The map -/

def empty : SortedMap κ α := ⟨[], .nil⟩

instance : EmptyCollection (SortedMap κ α) := ⟨empty⟩

instance : Inhabited (SortedMap κ α) := ⟨empty⟩

instance [DecidableEq κ] [DecidableEq α] : DecidableEq (SortedMap κ α) := fun m n =>
  if h : m.entries = n.entries then isTrue (by cases m; cases n; cases h; rfl)
  else isFalse fun hmn => h (congrArg entries hmn)

def get? (m : SortedMap κ α) (k : κ) : Option α := findEntry k m.entries

def contains (m : SortedMap κ α) (k : κ) : Bool := (m.get? k).isSome

/-- The keys, in ascending order. -/
def keys (m : SortedMap κ α) : List κ := m.entries.map (·.1)

def size (m : SortedMap κ α) : Nat := m.entries.length

def isEmpty (m : SortedMap κ α) : Bool := m.entries.isEmpty

/-- Removes a key; a map without the key stays as it is. -/
def erase (m : SortedMap κ α) (k : κ) : SortedMap κ α where
  entries := m.entries.filter fun e => compare k e.1 != .eq
  ascending := m.ascending.filter _

section Lawful

variable [Std.TransOrd κ] [Std.LawfulEqOrd κ]

/-- Sets the value under a key, whether or not the key was present. -/
def insert (m : SortedMap κ α) (k : κ) (x : α) : SortedMap κ α where
  entries := insertEntry k x m.entries
  ascending := ascending_insertEntry k x m.ascending

/-- Sets the value under a key from the value that stood there. -/
def alter (m : SortedMap κ α) (k : κ) (f : Option α → α) : SortedMap κ α :=
  m.insert k (f (m.get? k))

/-- Adds pairs from left to right. -/
def insertMany (m : SortedMap κ α) (pairs : List (κ × α)) : SortedMap κ α :=
  pairs.foldl (fun m e => m.insert e.1 e.2) m

/-- The map of a list of pairs, in which the last pair of each key wins. -/
def ofList (pairs : List (κ × α)) : SortedMap κ α := insertMany empty pairs

omit [Std.TransOrd κ] [Std.LawfulEqOrd κ] in
@[simp] theorem get?_empty (k : κ) : (empty : SortedMap κ α).get? k = none := rfl

theorem get?_insert (m : SortedMap κ α) (k j : κ) (x : α) :
    (m.insert k x).get? j = if compare j k = .eq then some x else m.get? j :=
  findEntry_insertEntry k j x m.entries

@[simp] theorem get?_insert_self (m : SortedMap κ α) (k : κ) (x : α) :
    (m.insert k x).get? k = some x := by
  simp [get?_insert]

theorem get?_insert_of_ne (m : SortedMap κ α) {k j : κ} (x : α) (h : j ≠ k) :
    (m.insert k x).get? j = m.get? j := by
  simp [get?_insert, h]

/-- The entries are exactly the successful look-ups. -/
theorem mem_entries {m : SortedMap κ α} {k : κ} {x : α} :
    (k, x) ∈ m.entries ↔ m.get? k = some x :=
  ⟨fun h => findEntry_of_mem m.ascending h, mem_of_findEntry⟩

theorem get?_erase (m : SortedMap κ α) (k j : κ) :
    (m.erase k).get? j = if compare j k = .eq then none else m.get? j := by
  apply Option.ext
  intro x
  rw [← mem_entries]
  have : (j, x) ∈ (m.erase k).entries ↔ (j, x) ∈ m.entries ∧ compare k j ≠ .eq := by
    simp [erase]
  rw [this, mem_entries]
  by_cases h : j = k
  · simp [h]
  · simp [h, Ne.symm h]

@[simp] theorem get?_erase_self (m : SortedMap κ α) (k : κ) : (m.erase k).get? k = none := by
  simp [get?_erase]

theorem get?_erase_of_ne (m : SortedMap κ α) {k j : κ} (h : j ≠ k) :
    (m.erase k).get? j = m.get? j := by
  simp [get?_erase, h]

/-- Look-ups determine a map. -/
theorem ext_get? {m n : SortedMap κ α} (h : ∀ k, m.get? k = n.get? k) : m = n := by
  have : m.entries = n.entries := entries_ext m.ascending n.ascending h
  cases m
  cases n
  cases this
  rfl

/-- Of two values put under the same key the second one counts. -/
theorem insert_insert_self (m : SortedMap κ α) (k : κ) (x y : α) :
    (m.insert k x).insert k y = m.insert k y := by
  apply ext_get?
  intro j
  simp only [get?_insert]
  split <;> rfl

/-- Values can be put under two different keys in either order. -/
theorem insert_comm (m : SortedMap κ α) {k j : κ} (x y : α) (h : k ≠ j) :
    (m.insert k x).insert j y = (m.insert j y).insert k x := by
  apply ext_get?
  intro i
  by_cases hk : i = k
  · rw [hk, get?_insert_of_ne _ y h, get?_insert_self, get?_insert_self]
  · rw [get?_insert_of_ne _ x hk]
    by_cases hj : i = j
    · rw [hj, get?_insert_self, get?_insert_self]
    · rw [get?_insert_of_ne _ y hj, get?_insert_of_ne _ x hk, get?_insert_of_ne _ y hj]

theorem get?_alter (m : SortedMap κ α) (k j : κ) (f : Option α → α) :
    (m.alter k f).get? j = if compare j k = .eq then some (f (m.get? k)) else m.get? j :=
  get?_insert m k j (f (m.get? k))

/-- Of several pairs with the same key the last one counts, and a key that is in none of them
keeps its value. -/
theorem get?_insertMany [DecidableEq κ] (m : SortedMap κ α) (pairs : List (κ × α)) (k : κ) :
    (m.insertMany pairs).get? k =
      ((pairs.reverse.find? fun e => e.1 = k).map (·.2)).or (m.get? k) := by
  induction pairs generalizing m with
  | nil => simp [insertMany]
  | cons e rest ih =>
    have hstep : m.insertMany (e :: rest) = (m.insert e.1 e.2).insertMany rest := rfl
    rw [hstep, ih, List.reverse_cons, List.find?_append]
    cases rest.reverse.find? fun e => e.1 = k with
    | some d => simp
    | none =>
      by_cases hk : e.1 = k
      · simp [hk]
      · simp [hk, get?_insert_of_ne m e.2 (Ne.symm hk)]

/-- A map made of pairs holds the last pair of each key. -/
theorem get?_ofList [DecidableEq κ] (pairs : List (κ × α)) (k : κ) :
    (ofList pairs).get? k = (pairs.reverse.find? fun e => e.1 = k).map (·.2) := by
  simp [ofList, get?_insertMany]

/-- A map is made of its own entries. -/
theorem ofList_entries [DecidableEq κ] (m : SortedMap κ α) : ofList m.entries = m := by
  apply ext_get?
  intro k
  apply Option.ext
  intro x
  have hfind : (m.entries.reverse.find? fun e => e.1 = k).map (·.2) = some x ↔
      (k, x) ∈ m.entries := by
    rw [Option.map_eq_some_iff]
    constructor
    · rintro ⟨e, he, rfl⟩
      have hkey : e.1 = k := by simpa using List.find?_some he
      rw [← hkey]
      exact List.mem_reverse.1 (List.mem_of_find?_eq_some he)
    · intro h
      have hsome : (m.entries.reverse.find? fun e => e.1 = k).isSome := by
        rw [List.find?_isSome]
        exact ⟨(k, x), List.mem_reverse.2 h, by simp⟩
      obtain ⟨e, he⟩ := Option.isSome_iff_exists.1 hsome
      have hkey : e.1 = k := by simpa using List.find?_some he
      have hentry : m.get? k = some e.2 := by
        rw [← hkey]
        exact mem_entries.1 (List.mem_reverse.1 (List.mem_of_find?_eq_some he))
      rw [mem_entries.1 h] at hentry
      exact ⟨e, he, (Option.some.inj hentry).symm⟩
  rw [get?_ofList, hfind, mem_entries]

omit [Std.TransOrd κ] [Std.LawfulEqOrd κ] in
/-- Walking a map visits its keys in strictly ascending order. -/
theorem ascending_keys (m : SortedMap κ α) : m.keys.Pairwise fun a b => compare a b = .lt :=
  List.pairwise_map.2 m.ascending

theorem mem_keys {m : SortedMap κ α} {k : κ} : k ∈ m.keys ↔ m.contains k := by
  simp only [keys, List.mem_map, contains, Option.isSome_iff_exists]
  constructor
  · rintro ⟨⟨j, x⟩, h, rfl⟩
    exact ⟨x, mem_entries.1 h⟩
  · rintro ⟨x, h⟩
    exact ⟨(k, x), mem_entries.2 h, rfl⟩

end Lawful

end SortedMap

end EngineHost
