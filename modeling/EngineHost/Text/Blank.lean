/-!
# White space

The white space of texts that people write: the Unicode property `White_Space`, and what is left
of a text when it is taken off both ends.

## Main definitions

- `isBlank` — the property, for one character
- `trimmed` — a text without leading and trailing white space

## Main statements

- `isBlank_of_isWhitespace` — the ASCII class of the core library is part of the property
- `trimmed_eq_self` — a text with no blank at either end is left alone
- `trimmed_surround` — blanks put around a text do not change what is left of it
- `exists_eq_append_trimmed` — nothing but blanks at the ends is lost
-/

namespace EngineHost.Text

/-- The twenty-five characters with the property `White_Space`. -/
def isBlank (c : Char) : Bool :=
  (0x09 ≤ c.toNat && c.toNat ≤ 0x0d) || c.toNat == 0x20 || c.toNat == 0x85 || c.toNat == 0xa0 ||
    c.toNat == 0x1680 || (0x2000 ≤ c.toNat && c.toNat ≤ 0x200a) || c.toNat == 0x2028 ||
    c.toNat == 0x2029 || c.toNat == 0x202f || c.toNat == 0x205f || c.toNat == 0x3000

/-- The characters of a text without the white space at its two ends. -/
def trimmed (cs : List Char) : List Char :=
  ((cs.dropWhile isBlank).reverse.dropWhile isBlank).reverse

theorem isBlank_of_isWhitespace {c : Char} (h : c.isWhitespace) : isBlank c := by
  simp only [Char.isWhitespace, Bool.or_eq_true, decide_eq_true_eq] at h
  rcases h with ((rfl | rfl) | rfl) | rfl <;> rfl

/-- Dropping blanks from the front of a text that starts with something else changes nothing. -/
theorem dropWhile_isBlank_eq_self {cs : List Char} (h : ∀ c ∈ cs.head?, isBlank c = false) :
    cs.dropWhile isBlank = cs := by
  cases cs with
  | nil => rfl
  | cons c rest => simp [h c rfl]

/-- A text that neither starts nor ends with white space is left alone. -/
theorem trimmed_eq_self {cs : List Char} (hfirst : ∀ c ∈ cs.head?, isBlank c = false)
    (hlast : ∀ c ∈ cs.getLast?, isBlank c = false) : trimmed cs = cs := by
  rw [trimmed, dropWhile_isBlank_eq_self hfirst, dropWhile_isBlank_eq_self, List.reverse_reverse]
  simpa [List.head?_reverse] using hlast

/-- Blanks around a text that neither starts nor ends with one are all that is taken off. -/
theorem trimmed_surround {before cs after : List Char} (hbefore : ∀ c ∈ before, isBlank c)
    (hafter : ∀ c ∈ after, isBlank c) (hne : cs ≠ [])
    (hfirst : ∀ c ∈ cs.head?, isBlank c = false) (hlast : ∀ c ∈ cs.getLast?, isBlank c = false) :
    trimmed (before ++ cs ++ after) = cs := by
  have drop {l r : List Char} (hl : ∀ c ∈ l, isBlank c) (hr : ∀ c ∈ r.head?, isBlank c = false) :
      (l ++ r).dropWhile isBlank = r := by
    rw [List.dropWhile_append_of_pos (by simpa using hl), dropWhile_isBlank_eq_self hr]
  have hhead : ∀ c ∈ (cs ++ after).head?, isBlank c = false := by
    cases cs with
    | nil => exact absurd rfl hne
    | cons c rest => simpa using hfirst
  rw [trimmed, List.append_assoc, drop hbefore hhead, List.reverse_append, drop,
    List.reverse_reverse]
  · simpa using hafter
  · simpa [List.head?_reverse] using hlast

/-- What is taken off a text is white space at its two ends. -/
theorem exists_eq_append_trimmed (cs : List Char) :
    ∃ before after, cs = before ++ trimmed cs ++ after ∧
      (∀ c ∈ before, isBlank c) ∧ ∀ c ∈ after, isBlank c := by
  have htake : ∀ l : List Char, ∀ c ∈ l.takeWhile isBlank, isBlank c :=
    fun l => List.all_eq_true.1 List.all_takeWhile
  let rest := cs.dropWhile isBlank
  have hrest : rest = trimmed cs ++ (rest.reverse.takeWhile isBlank).reverse := by
    rw [trimmed, ← List.reverse_append, List.takeWhile_append_dropWhile, List.reverse_reverse]
  refine ⟨cs.takeWhile isBlank, (rest.reverse.takeWhile isBlank).reverse, ?_, htake cs, ?_⟩
  · rw [List.append_assoc, ← hrest, List.takeWhile_append_dropWhile]
  · intro c hc
    exact htake rest.reverse c (List.mem_reverse.1 hc)

end EngineHost.Text
