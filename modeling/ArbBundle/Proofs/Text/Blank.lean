import ArbBundle.Text.Blank
import Mathlib.Data.List.TakeWhile

/-!
# Blank — what trimming leaves

Blanks at the two ends of a text make no difference to what trimming leaves of it, and a text
without blanks is left as it is.
-/

namespace ArbBundle
namespace Text

variable {s before after : List Char}

theorem trimStart_append (h : ∀ c ∈ before, isBlank c = true) :
    trimStart (before ++ s) = trimStart s :=
  List.dropWhile_append_of_pos h

theorem trimEnd_append (h : ∀ c ∈ after, isBlank c = true) :
    trimEnd (s ++ after) = trimEnd s := by
  have hreverse : ∀ c ∈ after.reverse, isBlank c = true := by
    simpa using h
  rw [trimEnd, List.reverse_append, List.dropWhile_append_of_pos hreverse, trimEnd]

/-- Blanks around a text are trimmed away. -/
theorem trim_append_append (hbefore : ∀ c ∈ before, isBlank c = true)
    (hafter : ∀ c ∈ after, isBlank c = true) : trim (before ++ s ++ after) = trim s := by
  rw [trim, List.append_assoc, trimStart_append hbefore]
  -- The blanks behind a blank text are trimmed from its start already.
  by_cases hblank : ∀ c ∈ s, isBlank c = true
  · have hall : ∀ c ∈ s ++ after, isBlank c = true := List.forall_mem_append.2 ⟨hblank, hafter⟩
    rw [trim, trimStart, trimStart, List.dropWhile_eq_nil_iff.2 hall,
      List.dropWhile_eq_nil_iff.2 hblank]
  · have hne : s.dropWhile isBlank ≠ [] := mt List.dropWhile_eq_nil_iff.1 hblank
    have hstart : trimStart (s ++ after) = trimStart s ++ after := by
      simp [trimStart, List.dropWhile_append, hne]
    rw [hstart, trimEnd_append hafter, trim]

/-- What trimming takes away from a text is blank and stands at its two ends. -/
theorem exists_append_trim (s : List Char) :
    ∃ before after, s = before ++ trim s ++ after ∧ (∀ c ∈ before, isBlank c = true) ∧
      ∀ c ∈ after, isBlank c = true := by
  refine ⟨s.takeWhile isBlank, ((trimStart s).reverse.takeWhile isBlank).reverse, ?_,
    fun c hc => List.mem_takeWhile_imp hc,
    fun c hc => List.mem_takeWhile_imp (List.mem_reverse.1 hc)⟩
  have hstart : s.takeWhile isBlank ++ trimStart s = s := List.takeWhile_append_dropWhile
  have hend : trim s ++ ((trimStart s).reverse.takeWhile isBlank).reverse = trimStart s := by
    rw [trim, trimEnd, ← List.reverse_append, List.takeWhile_append_dropWhile, List.reverse_reverse]
  rw [List.append_assoc, hend, hstart]

/-- A text without blanks is left as it is. -/
theorem trim_of_solid (h : ∀ c ∈ s, isBlank c = false) : trim s = s := by
  have hkeep (t : List Char) (ht : ∀ c ∈ t, isBlank c = false) : t.dropWhile isBlank = t :=
    List.dropWhile_eq_self_iff.2 fun hlength => by simp [ht _ (List.getElem_mem hlength)]
  rw [trim, trimStart, hkeep s h, trimEnd, hkeep s.reverse (by simpa using h), List.reverse_reverse]

end Text
end ArbBundle
