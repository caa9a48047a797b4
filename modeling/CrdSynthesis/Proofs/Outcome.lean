/-!
# Outcomes in sequence

A computation that may fail ends well exactly if each of its steps does, and otherwise with
the error of the first step that fails.

## Main results

* `Outcome.ok_bind`, `Outcome.map_ok`: a step that succeeds
* `Outcome.bind_eq_ok_iff`, `Outcome.bind_eq_error_iff`: two steps
* `Outcome.mapM_append_eq_ok_iff`, `Outcome.mapM_append_eq_error_iff`: a step for every
  element of two lists
* `Outcome.exists_of_mapM_eq_ok`: where the results of all elements come from
* `Outcome.mapM_eq_ok_singleton_iff`: a step for every element, with one result
-/

namespace CrdSynthesis.Outcome

variable {ε α β : Type}

@[simp]
theorem ok_bind (a : α) (f : α → Except ε β) : (Except.ok a >>= f) = f a := rfl

@[simp]
theorem map_ok (f : α → β) (a : α) : Except.map f (.ok a : Except ε α) = .ok (f a) := rfl

@[simp]
theorem fmap_ok (f : α → β) (a : α) : f <$> (.ok a : Except ε α) = .ok (f a) := rfl

/-- Two steps succeed if the first one does and then the second. -/
theorem bind_eq_ok_iff {x : Except ε α} {f : α → Except ε β} {b : β} :
    x.bind f = .ok b ↔ ∃ a, x = .ok a ∧ f a = .ok b := by
  cases x <;> simp [Except.bind]

theorem toOption_eq_some_iff {x : Except ε α} {a : α} : x.toOption = some a ↔ x = .ok a := by
  cases x <;> simp [Except.toOption]

theorem toOption_eq_none_iff {x : Except ε α} : x.toOption = none ↔ ∃ error, x = .error error := by
  cases x <;> simp [Except.toOption]

theorem pure_eq_ok (a : α) : (pure a : Except ε α) = .ok a := rfl

theorem step_eq_ok_iff {x : Except ε α} {f : α → Except ε β} {b : β} :
    (x >>= f) = .ok b ↔ ∃ a, x = .ok a ∧ f a = .ok b :=
  bind_eq_ok_iff

/-- A result that is mapped comes from a result. -/
theorem map_eq_ok_iff {f : α → β} {x : Except ε α} {b : β} :
    Except.map f x = .ok b ↔ ∃ a, x = .ok a ∧ f a = b := by
  cases x <;> simp [Except.map]

theorem fmap_eq_ok_iff {f : α → β} {x : Except ε α} {b : β} :
    f <$> x = .ok b ↔ ∃ a, x = .ok a ∧ f a = b :=
  map_eq_ok_iff

/-- Two steps fail in the first, or in the second after the first has succeeded. -/
theorem bind_eq_error_iff {x : Except ε α} {f : α → Except ε β} {error : ε} :
    x.bind f = .error error ↔ x = .error error ∨ ∃ a, x = .ok a ∧ f a = .error error := by
  cases x <;> simp [Except.bind]

/-- The elements of two lists are treated one list after the other. -/
theorem mapM_append_eq_bind (f : α → Except ε β) (as bs : List α) :
    (as ++ bs).mapM f =
      (as.mapM f).bind fun xs => (bs.mapM f).bind fun ys => .ok (xs ++ ys) :=
  List.mapM_append

/-- The results of two lists are those of the first and then those of the second. -/
theorem mapM_append_eq_ok_iff {f : α → Except ε β} {as bs : List α} {zs : List β} :
    (as ++ bs).mapM f = .ok zs ↔
      ∃ xs ys, as.mapM f = .ok xs ∧ bs.mapM f = .ok ys ∧ zs = xs ++ ys := by
  simp only [mapM_append_eq_bind, bind_eq_ok_iff, Except.ok.injEq]
  constructor
  · rintro ⟨xs, hx, ys, hy, rfl⟩
    exact ⟨xs, ys, hx, hy, rfl⟩
  · rintro ⟨xs, ys, hx, hy, rfl⟩
    exact ⟨xs, hx, ys, hy, rfl⟩

/-- Two lists fail at the first, or at the second after the first has succeeded. -/
theorem mapM_append_eq_error_iff {f : α → Except ε β} {as bs : List α} {error : ε} :
    (as ++ bs).mapM f = .error error ↔
      as.mapM f = .error error ∨ ∃ xs, as.mapM f = .ok xs ∧ bs.mapM f = .error error := by
  simp only [mapM_append_eq_bind, bind_eq_error_iff, reduceCtorEq, and_false, exists_false,
    or_false]

/-- Only an empty list has no results. -/
theorem mapM_eq_ok_nil_iff {f : α → Except ε β} {as : List α} :
    as.mapM f = .ok [] ↔ as = [] := by
  cases as with
  | nil => exact iff_of_true rfl rfl
  | cons a as =>
    refine iff_of_false ?_ (List.cons_ne_nil a as)
    rw [List.mapM_cons]
    intro h
    obtain ⟨b, -, h⟩ := bind_eq_ok_iff.mp h
    obtain ⟨bs, -, h⟩ := bind_eq_ok_iff.mp h
    cases h

/-- Every result is the result of one of the elements. -/
theorem exists_of_mapM_eq_ok {f : α → Except ε β} {as : List α} {bs : List β}
    (h : as.mapM f = .ok bs) : ∀ b ∈ bs, ∃ a ∈ as, f a = .ok b := by
  induction as generalizing bs with
  | nil =>
    cases h
    simp
  | cons a as ih =>
    rw [List.mapM_cons] at h
    obtain ⟨b, hb, h⟩ := bind_eq_ok_iff.mp h
    obtain ⟨others, ho, h⟩ := bind_eq_ok_iff.mp h
    cases h
    rw [List.forall_mem_cons]
    refine ⟨⟨a, List.mem_cons_self .., hb⟩, fun c hc => ?_⟩
    obtain ⟨d, hd, hf⟩ := ih ho c hc
    exact ⟨d, List.mem_cons_of_mem a hd, hf⟩

/-- One result comes from a list of one element. -/
theorem mapM_eq_ok_singleton_iff {f : α → Except ε β} {as : List α} {b : β} :
    as.mapM f = .ok [b] ↔ ∃ a, as = [a] ∧ f a = .ok b := by
  constructor
  · intro h
    cases as with
    | nil => cases h
    | cons a as =>
      rw [List.mapM_cons] at h
      obtain ⟨c, hc, h⟩ := bind_eq_ok_iff.mp h
      obtain ⟨bs, hbs, h⟩ := bind_eq_ok_iff.mp h
      cases h
      exact ⟨a, by rw [mapM_eq_ok_nil_iff.mp hbs], hc⟩
  · rintro ⟨a, rfl, h⟩
    rw [List.mapM_cons, h]
    rfl

end CrdSynthesis.Outcome
