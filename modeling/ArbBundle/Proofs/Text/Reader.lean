import ArbBundle.Text.Reader

/-!
# Reader — what readers come to on a text

A reader is followed through a text by what each of its parts comes to there, so that no proof about
a format opens a reader.

- `Reader.bind_apply`, `Reader.orElse_apply`: one reader after the other, one instead of the other
- `Reader.takeWhile_append`: a run of characters that ends where the rest begins
- `Reader.manyFrom_of_some`, `Reader.manyFrom_of_none`: values one after the other
-/

namespace ArbBundle
namespace Text
namespace Reader

variable {α β : Type} {s r : List Char} {c d : Char} {a : α} {item : Reader α}

/-! ## One reader and another -/

@[simp]
theorem pure_apply (a : α) : (pure a : Reader α) s = some (a, s) :=
  rfl

@[simp]
theorem refuse_apply : (refuse : Reader α) s = none :=
  rfl

@[simp]
theorem bind_apply (x : Reader α) (f : α → Reader β) :
    (x >>= f) s = (x s).bind fun p => f p.1 p.2 :=
  rfl

@[simp]
theorem map_apply (f : α → β) (x : Reader α) :
    (f <$> x) s = (x s).map fun p => (f p.1, p.2) := by
  show (x s).bind (fun p => some (f p.1, p.2)) = _
  cases x s <;> rfl

@[simp]
theorem orElse_apply (x y : Reader α) : (x <|> y) s = (x s).or (y s) := by
  show (x s <|> y s) = _
  cases x s <;> rfl

theorem possibly_of_some (h : item s = some (a, r)) : possibly item s = some (some a, r) := by
  simp only [possibly, h]

theorem possibly_of_none (h : item s = none) : possibly item s = some (none, s) := by
  simp only [possibly, h]

/-- A text has a value as a whole just where the reader leaves nothing of it. -/
theorem whole?_eq_some_iff : whole? item s = some a ↔ item s = some (a, []) := by
  unfold whole?
  split
  · rename_i hitem
    simp [hitem]
  · rename_i hitem
    simpa using hitem a

/-! ## Characters -/

@[simp]
theorem satisfy_cons (p : Char → Bool) :
    satisfy p (c :: s) = if p c then some (c, s) else none :=
  rfl

@[simp]
theorem char_cons : char c (d :: s) = if d = c then some ((), s) else none := by
  by_cases h : d = c <;> simp [char, h]

@[simp]
theorem exactly_cons (word : List Char) :
    exactly (c :: word) (d :: s) = if c = d then exactly word s else none := by
  by_cases h : c = d <;> simp [exactly, h]

theorem takeWhile_apply (p : Char → Bool) :
    takeWhile p s = some (s.takeWhile p, s.dropWhile p) :=
  rfl

/-- A run of characters that ends where the rest begins is taken as a whole. -/
theorem takeWhile_append {p : Char → Bool} (hs : ∀ c ∈ s, p c = true)
    (hr : ∀ c ∈ r.head?, p c = false) : takeWhile p (s ++ r) = some (s, r) := by
  have hrest : r.takeWhile p = [] ∧ r.dropWhile p = r := by
    cases r with
    | nil => exact ⟨rfl, rfl⟩
    | cons c r => simp [hr c rfl]
  rw [takeWhile_apply, List.takeWhile_append_of_pos hs, List.dropWhile_append_of_pos hs, hrest.1,
    hrest.2, List.append_nil]

theorem takeWhile1_apply (p : Char → Bool) :
    takeWhile1 p s = if s.takeWhile p = [] then none else some (s.takeWhile p, s.dropWhile p) := by
  unfold takeWhile1
  cases s.takeWhile p <;> rfl

/-- Characters of one kind are read up to the first of another. -/
theorem takeWhile1_append {p : Char → Bool} (hne : s ≠ []) (hs : ∀ c ∈ s, p c = true)
    (hr : ∀ c ∈ r.head?, p c = false) : takeWhile1 p (s ++ r) = some (s, r) := by
  obtain ⟨htake, hdrop⟩ := Prod.mk.inj (Option.some.inj (takeWhile_append hs hr))
  rw [takeWhile1_apply, htake, hdrop, if_neg hne]

/-! ## Values one after the other -/

theorem manyFrom_of_none (h : item s = none) : manyFrom item s = ([], s) := by
  rw [manyFrom, h]

theorem manyFrom_of_some (h : item s = some (a, r)) (hless : r.length < s.length) :
    manyFrom item s = (a :: (manyFrom item r).1, (manyFrom item r).2) := by
  rw [manyFrom, h]
  exact dif_pos hless

end Reader
end Text
end ArbBundle
