import CrdSynthesis.Crd
import CrdSynthesis.Proofs.CompositeAndClaim

/-!
# What decides establishment

Of the conditions of a resource, those of one type say whether it is served, and the first of
them decides. Conditions of other types may stand anywhere among them, and the order matters only
where several conditions are of the deciding type. A resource that was only just generated has no
conditions, so nothing says that it is served.

## Main definitions

* `Crd.governing`: the conditions that say whether a resource is served

## Main results

* `Crd.conditionsEstablished_eq_any`: the first governing condition decides
* `Crd.conditionsEstablished_append`, `Crd.conditionsEstablished_eq_true_iff`: where it stands
* `Crd.conditionsEstablished_congr`, `Crd.conditionsEstablished_perm`: what makes no difference
* `Crd.isEstablished_iff`: a resource is established if the conditions of its status say so
* `Crd.isEstablished_of_generate`: a generated resource is not established
* `Crd.established_by_first`: all of these together
-/

namespace CrdSynthesis

namespace Crd

variable {xs ys : List Condition}

/-! ## The governing conditions -/

/-- The conditions that say whether a resource is served, in their order. -/
def governing (conditions : List Condition) : List Condition :=
  conditions.filter (·.type == established)

/-- The conditions that govern two lists are those of the first and then those of the second. -/
@[simp]
theorem governing_append (xs ys : List Condition) :
    governing (xs ++ ys) = governing xs ++ governing ys :=
  List.filter_append ..

/-- Nothing governs where no condition has the type. -/
theorem governing_eq_nil_iff : governing xs = [] ↔ ∀ c ∈ xs, c.type ≠ established := by
  simp only [governing, List.filter_eq_nil_iff, beq_iff_eq, ne_eq]

/-- Only the first governing condition is looked at. -/
theorem conditionsEstablished_eq_any (conditions : List Condition) :
    conditionsEstablished conditions = (governing conditions).head?.any (·.status == "True") := by
  rw [governing, List.head?_filter, conditionsEstablished]
  cases conditions.find? (·.type == established) <;> rfl

/-- Conditions of other types make no difference, wherever they stand. -/
theorem conditionsEstablished_congr (h : governing xs = governing ys) :
    conditionsEstablished xs = conditionsEstablished ys := by
  rw [conditionsEstablished_eq_any, conditionsEstablished_eq_any, h]

/-! ## Where the deciding condition stands -/

/-- A list is decided by its first part, if that has any condition that governs; whatever governs
in the second part stands behind it. -/
theorem conditionsEstablished_append (xs ys : List Condition) :
    conditionsEstablished (xs ++ ys) =
      if ∃ c ∈ xs, c.type = established then conditionsEstablished xs
      else conditionsEstablished ys := by
  by_cases h : ∃ c ∈ xs, c.type = established
  · have hne : governing xs ≠ [] := by
      rw [ne_eq, governing_eq_nil_iff]
      simpa using h
    obtain ⟨first, rest, hxs⟩ := List.exists_cons_of_ne_nil hne
    rw [if_pos h, conditionsEstablished_eq_any, conditionsEstablished_eq_any, governing_append, hxs]
    rfl
  · have hnil : governing xs = [] := by
      rw [governing_eq_nil_iff]
      simpa using h
    rw [if_neg h]
    apply conditionsEstablished_congr
    rw [governing_append, hnil, List.nil_append]

/-- Of two conditions that govern, the one in front decides. -/
example :
    conditionsEstablished [{ type := "Established", status := "False" },
      { type := "Established", status := "True" }] = false := by
  decide

/-- The first condition of the type says `True`. -/
theorem conditionsEstablished_eq_true_iff :
    conditionsEstablished xs = true ↔
      ∃ before c after, xs = before ++ [c] ++ after ∧ c.type = established ∧ c.status = "True" ∧
        ∀ other ∈ before, other.type ≠ established := by
  constructor
  · intro h
    rw [conditionsEstablished] at h
    split at h
    next c hc =>
      obtain ⟨htype, before, after, rfl, hbefore⟩ := List.find?_eq_some_iff_append.mp hc
      refine ⟨before, c, after, by simp, by simpa using htype, by simpa using h, ?_⟩
      intro other ho
      simpa using hbefore other ho
    next => cases h
  · rintro ⟨before, c, after, rfl, htype, hstatus, hbefore⟩
    have hnil : governing before = [] := governing_eq_nil_iff.mpr hbefore
    have hc : governing [c] = [c] := by simp [governing, htype]
    rw [conditionsEstablished_eq_any, governing_append, governing_append, hnil, hc]
    simpa using hstatus

/-! ## What makes no difference -/

/-- At most one governing condition is the same in every order. -/
theorem governing_perm (h : xs.Perm ys) (hone : (governing xs).length ≤ 1) :
    governing xs = governing ys := by
  have hperm : (governing xs).Perm (governing ys) := h.filter _
  cases hxs : governing xs with
  | nil =>
    rw [hxs] at hperm
    exact hperm.nil_eq
  | cons first rest =>
    rw [hxs, List.length_cons, Nat.succ_le_succ_iff, Nat.le_zero, List.length_eq_zero_iff] at hone
    rw [hxs, hone, List.singleton_perm] at hperm
    rw [hone, hperm]

theorem conditionsEstablished_perm (h : xs.Perm ys) (hone : (governing xs).length ≤ 1) :
    conditionsEstablished xs = conditionsEstablished ys :=
  conditionsEstablished_congr (governing_perm h hone)

/-- Conditions of other types may be inserted or deleted at any place. -/
theorem conditionsEstablished_insert {others : List Condition} (before after : List Condition)
    (h : ∀ c ∈ others, c.type ≠ established) :
    conditionsEstablished (before ++ others ++ after) =
      conditionsEstablished (before ++ after) := by
  apply conditionsEstablished_congr
  rw [governing_append, governing_append, governing_append, governing_eq_nil_iff.mpr h,
    List.append_nil]

/-! ## A status and a resource -/

/-- Absent conditions establish nothing. -/
theorem Status.isEstablished_iff {status : Status} :
    status.isEstablished = true ↔
      ∃ conditions, status.conditions = some conditions ∧
        conditionsEstablished conditions = true := by
  rw [Status.isEstablished]
  cases status.conditions with
  | none => simp [conditionsEstablished]
  | some conditions => simp

/-- An absent status establishes nothing. -/
theorem isEstablished_iff {c : Crd} :
    c.isEstablished = true ↔ ∃ status, c.status = some status ∧ status.isEstablished = true := by
  rw [isEstablished]
  cases c.status <;> simp

/-- A generated resource has no status yet. -/
theorem isEstablished_of_generate {generator : Generator} {d : Definition} {mode : Mode} {c : Crd}
    (h : (generator.generate d mode).outcome = .ok c) : c.isEstablished = false := by
  obtain ⟨names, owner, template, -, -, -, -, rfl⟩ := Generator.generate_eq_ok_iff.mp h
  rfl

/-- The first condition of the deciding type says whether a resource is established, and
nothing else does: no condition of another type, no order among the others, and no status that
is not there. -/
theorem established_by_first :
    (∀ xs ys, conditionsEstablished (xs ++ ys) =
      if ∃ c ∈ xs, c.type = established then conditionsEstablished xs
      else conditionsEstablished ys) ∧
    (∀ xs, conditionsEstablished xs = true ↔
      ∃ before c after, xs = before ++ [c] ++ after ∧ c.type = established ∧ c.status = "True" ∧
        ∀ other ∈ before, other.type ≠ established) ∧
    (∀ before others after, (∀ c ∈ others, c.type ≠ established) →
      conditionsEstablished (before ++ others ++ after) =
        conditionsEstablished (before ++ after)) ∧
    (∀ xs ys, governing xs = governing ys →
      conditionsEstablished xs = conditionsEstablished ys) ∧
    (∀ xs ys, xs.Perm ys → (governing xs).length ≤ 1 →
      conditionsEstablished xs = conditionsEstablished ys) ∧
    (∀ status : Status, status.isEstablished = true ↔
      ∃ conditions, status.conditions = some conditions ∧
        conditionsEstablished conditions = true) ∧
    (∀ c : Crd, c.isEstablished = true ↔
      ∃ status, c.status = some status ∧ status.isEstablished = true) ∧
    ∀ (generator : Generator) d mode c, (generator.generate d mode).outcome = .ok c →
      c.isEstablished = false := by
  refine ⟨conditionsEstablished_append, fun _ => conditionsEstablished_eq_true_iff, ?_,
    fun _ _ => conditionsEstablished_congr, fun _ _ => conditionsEstablished_perm,
    fun _ => Status.isEstablished_iff, fun _ => isEstablished_iff, ?_⟩
  · intro before others after h
    exact conditionsEstablished_insert before after h
  · intro generator d mode c h
    exact isEstablished_of_generate h

/-- The names of a resource were not accepted. -/
def namesRefused : Condition := { type := "NamesAccepted", status := "False" }

/-- A resource is served. -/
def served : Condition := { type := "Established", status := "True" }

/-- A condition of another type in front of the deciding one may change places with it or be
left out. -/
theorem established_by_first_served :
    conditionsEstablished [namesRefused, served] = true ∧
      conditionsEstablished [served, namesRefused] = conditionsEstablished [namesRefused, served] ∧
      conditionsEstablished [served] = conditionsEstablished [namesRefused, served] ∧
      ∃ c, (({} : Generator).generate Generator.storageDefinition .claim).outcome = .ok c ∧
        c.isEstablished = false := by
  obtain ⟨-, hiff, hinsert, -, hperm, -, -, hgenerate⟩ := established_by_first
  refine ⟨?_, ?_, ?_, _, rfl, hgenerate {} Generator.storageDefinition .claim _ rfl⟩
  · exact (hiff _).mpr ⟨[namesRefused], served, [], rfl, rfl, rfl, by decide⟩
  · exact hperm _ _ (List.Perm.swap ..) (by decide)
  · exact (hinsert [] [namesRefused] [served] (by decide)).symm

end Crd

end CrdSynthesis
