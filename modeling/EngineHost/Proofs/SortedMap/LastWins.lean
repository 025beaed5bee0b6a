import EngineHost.SortedMap
import Mathlib.Data.List.Basic

/-!
# The last one with a key

A map that is made of a list holds, under each key, what the last element with this key says. Here
the last element is found without a map: it stands in the list, and none behind it has its key.

## Main definitions

- `IsLast` — the last element of a list with a key

## Main statements

- `find?_reverse_eq_some_iff` — searching from the end finds the last one
- `SortedMap.get?_insertMany_eq_some_iff` — the pairs that were added against those that were there
-/

namespace EngineHost

universe u v

/-- An element of a list that has a key, with none behind it that has the same one. -/
def IsLast {α : Type u} {κ : Type v} (key : α → κ) (l : List α) (k : κ) (x : α) : Prop :=
  key x = k ∧ ∃ before after, l = before ++ x :: after ∧ ∀ y ∈ after, key y ≠ k

section

variable {α : Type u} {κ : Type v} {key : α → κ} {l : List α} {k : κ}

theorem find?_reverse_eq_some_iff [DecidableEq κ] {x : α} :
    l.reverse.find? (fun y => key y = k) = some x ↔ IsLast key l k x := by
  rw [List.find?_eq_some_iff_append, decide_eq_true_eq, IsLast]
  refine and_congr_right fun _ => ?_
  constructor
  · rintro ⟨after, before, hl, hafter⟩
    refine ⟨before.reverse, after.reverse, ?_, fun y hy => ?_⟩
    · rw [← l.reverse_reverse, hl, List.reverse_append, List.reverse_cons, List.append_assoc,
        List.singleton_append]
    · simpa using hafter y (List.mem_reverse.1 hy)
  · rintro ⟨before, after, rfl, hafter⟩
    refine ⟨after.reverse, before.reverse, ?_, fun y hy => ?_⟩
    · rw [List.reverse_append, List.reverse_cons, List.append_assoc, List.singleton_append]
    · simpa using hafter y (List.mem_reverse.1 hy)

theorem find?_reverse_eq_none_iff [DecidableEq κ] :
    l.reverse.find? (fun y => key y = k) = none ↔ ∀ y ∈ l, key y ≠ k := by
  simp [List.find?_eq_none]

end

namespace SortedMap

variable {κ : Type u} {α : Type v} [Ord κ] [Std.TransOrd κ] [Std.LawfulEqOrd κ] [DecidableEq κ]

/-- The last pair with a key counts; without one, the value that was there before. -/
theorem get?_insertMany_eq_some_iff {m : SortedMap κ α} {pairs : List (κ × α)} {k : κ} {x : α} :
    (m.insertMany pairs).get? k = some x ↔
      IsLast Prod.fst pairs k (k, x) ∨ (∀ e ∈ pairs, e.1 ≠ k) ∧ m.get? k = some x := by
  rw [get?_insertMany, ← find?_reverse_eq_some_iff, ← find?_reverse_eq_none_iff]
  cases hfind : pairs.reverse.find? fun e => e.1 = k with
  | none => simp
  | some e =>
    have hkey : e.1 = k := by simpa using List.find?_some hfind
    obtain ⟨j, y⟩ := e
    subst hkey
    simp

end SortedMap

end EngineHost
