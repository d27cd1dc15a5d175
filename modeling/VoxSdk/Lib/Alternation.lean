import Mathlib.Data.List.Chain

/-!
# Events that take turns

Two kinds of event, one that begins something (`false`) and one that ends it (`true`). They alternate when
the first one begins and no two in a row are of one kind. Whoever posts an event just when a condition
changes, and knows what the condition was, posts events that alternate, and what has begun is the condition.
-/

namespace Reactive

/-- The first event begins, and each is followed by one of the other kind. -/
def Alternates (es : List Bool) : Prop := es.head? ≠ some true ∧ es.IsChain (· ≠ ·)

/-- Something has begun and not ended. -/
def begun (es : List Bool) : Bool := decide (es.getLast? = some false)

theorem alternates_nil : Alternates [] := ⟨by simp, .nil⟩

@[simp]
theorem begun_nil : begun [] = false := rfl

@[simp]
theorem begun_append_singleton (es : List Bool) (e : Bool) : begun (es ++ [e]) = !e := by
  cases e <;> simp [begun]

/-- The next event has to be of the kind that is due. -/
theorem Alternates.append_singleton {es : List Bool} (h : Alternates es) :
    Alternates (es ++ [begun es]) := by
  cases hlast : es.getLast? with
  | none =>
      rw [List.getLast?_eq_none_iff.mp hlast]
      exact ⟨by simp, .singleton _⟩
  | some e =>
      have hne : es ≠ [] := by
        rintro rfl
        cases hlast
      constructor
      · rw [List.head?_append_of_ne_nil _ hne]
        exact h.1
      · refine List.isChain_append.mpr ⟨h.2, .singleton _, ?_⟩
        rintro x hx y hy
        obtain rfl := Option.some.inj (hlast.symm.trans hx)
        obtain rfl : begun es = y := by simpa using hy
        cases e <;> simp [begun, hlast]

/-- An event for each change of a condition: it begins when the condition begins to hold, and ends when it
ceases to. -/
theorem Alternates.append_change {es : List Bool} (h : Alternates es) {was : Bool} (hwas : begun es = was)
    (is : Bool) :
    Alternates (es ++ if is ≠ was then [was] else []) ∧
      begun (es ++ if is ≠ was then [was] else []) = is := by
  by_cases hchange : is = was
  · rw [if_neg (not_not.mpr hchange), List.append_nil]
    exact ⟨h, hwas.trans hchange.symm⟩
  · rw [if_pos hchange]
    refine ⟨hwas ▸ h.append_singleton, ?_⟩
    rw [begun_append_singleton]
    cases is <;> cases was <;> simp_all

end Reactive
