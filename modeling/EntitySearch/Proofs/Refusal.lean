import Mathlib.Data.List.Forall2
import Mathlib.Logic.Unique

/-! Results that may be a refusal, and loops that stop at the first item that is refused. -/
namespace EntitySearch

variable {ε δ α β : Type}

/-- Inversion of a successful bind. Proofs about the model take its `do` blocks apart by this and
the lemmas after it. -/
theorem bind_eq_ok_iff {x : Except ε α} {f : α → Except ε β} {b : β} :
    (x >>= f) = .ok b ↔ ∃ a, x = .ok a ∧ f a = .ok b := by
  cases x <;> simp [bind, Except.bind]

theorem bind_of_eq_ok {x : Except ε α} {a : α} (h : x = .ok a) (f : α → Except ε β) :
    (x >>= f) = f a := by
  rw [h]
  rfl

/-- The error of a bind is that of its first part, or of the second after the first succeeded. -/
theorem bind_eq_error_iff {x : Except ε α} {f : α → Except ε β} {e : ε} :
    (x >>= f) = .error e ↔ x = .error e ∨ ∃ a, x = .ok a ∧ f a = .error e := by
  cases x <;> simp [bind, Except.bind]

theorem check_bind_eq_ok_iff {check : Except ε Unit} {f : Unit → Except ε β} {b : β} :
    (check >>= f) = .ok b ↔ check = .ok () ∧ f () = .ok b := by
  rw [bind_eq_ok_iff]
  exact Unique.exists_iff

/-- A check that fails hides whatever comes behind it. -/
theorem check_bind_eq_error_iff {check : Except ε Unit} {f : Unit → Except ε β} {e : ε} :
    (check >>= f) = .error e ↔ check = .error e ∨ check = .ok () ∧ f () = .error e := by
  rw [bind_eq_error_iff]
  exact or_congr_right Unique.exists_iff

theorem pure_eq_ok_iff {a b : α} : (pure a : Except ε α) = .ok b ↔ a = b := by
  simp [pure, Except.pure]

theorem pure_ne_error {a : α} {e : ε} : (pure a : Except ε α) ≠ .error e := by
  simp [pure, Except.pure]

theorem bind_pure_eq_ok_iff {x : Except ε α} {f : α → β} {b : β} :
    (x >>= fun a => pure (f a)) = .ok b ↔ ∃ a, x = .ok a ∧ f a = b := by
  simp only [bind_eq_ok_iff, pure_eq_ok_iff]

theorem bind_pure_eq_error_iff {x : Except ε α} {f : α → β} {e : ε} :
    (x >>= fun a => pure (f a)) = .error e ↔ x = .error e := by
  simp only [bind_eq_error_iff, pure_ne_error, and_false, exists_false, or_false]

theorem mapError_eq_ok_iff {x : Except ε α} {f : ε → δ} {a : α} :
    x.mapError f = .ok a ↔ x = .ok a := by
  cases x <;> simp [Except.mapError]

theorem mapError_eq_error_iff {x : Except ε α} {f : ε → δ} {d : δ} :
    x.mapError f = .error d ↔ ∃ e, x = .error e ∧ f e = d := by
  cases x <;> simp [Except.mapError]

/-- First refused item of a list with its error. All items before it are accepted. -/
def FirstRefusal (accepted : α → Prop) (refused : α → ε → Prop) (items : List α) (e : ε) : Prop :=
  ∃ before item after, items = before ++ item :: after ∧
    (∀ x ∈ before, accepted x) ∧ refused item e

section FirstRefusal

variable {accepted : α → Prop} {refused : α → ε → Prop}

theorem not_firstRefusal_nil {e : ε} : ¬ FirstRefusal accepted refused [] e := by
  rintro ⟨before, item, after, h, _⟩
  simp at h

/-- Unfolds the first refusal: it is at the head, or the head is accepted and it is in the tail. -/
theorem firstRefusal_cons_iff {item : α} {rest : List α} {e : ε} :
    FirstRefusal accepted refused (item :: rest) e ↔
      refused item e ∨ accepted item ∧ FirstRefusal accepted refused rest e := by
  constructor
  · rintro ⟨before, x, after, hItems, hBefore, hRefused⟩
    cases before with
    | nil =>
        obtain ⟨rfl, rfl⟩ := List.cons.inj hItems
        exact .inl hRefused
    | cons y before =>
        obtain ⟨rfl, rfl⟩ := List.cons.inj hItems
        refine .inr ⟨hBefore _ (List.mem_cons_self ..), before, x, after, rfl, ?_, hRefused⟩
        exact fun z hz => hBefore z (List.mem_cons_of_mem _ hz)
  · rintro (hRefused | ⟨hAccepted, before, x, after, rfl, hBefore, hRefused⟩)
    · exact ⟨[], item, rest, rfl, by simp, hRefused⟩
    · refine ⟨item :: before, x, after, rfl, ?_, hRefused⟩
      simpa using ⟨hAccepted, hBefore⟩

end FirstRefusal

/-- Least index at which an item is refused, with its error. Refusal may depend on the items before
it. -/
def RefusedAt (refused : List α → α → ε → Prop) (items : List α) (i : Nat) (e : ε) : Prop :=
  (∃ item, items[i]? = some item ∧ refused (items.take i) item e) ∧
    ∀ j < i, ∀ item, items[j]? = some item → ∀ e, ¬ refused (items.take j) item e

section RefusedAt

variable {refused : List α → α → ε → Prop} {i : Nat} {e : ε}

theorem not_refusedAt_nil : ¬ RefusedAt refused [] i e := by
  rintro ⟨⟨item, h, _⟩, _⟩
  simp at h

/-- At the head nothing comes before that could be a reason. -/
theorem refusedAt_zero_iff {item : α} {rest : List α} :
    RefusedAt refused (item :: rest) 0 e ↔ refused [] item e := by
  simp [RefusedAt]

/-- Behind an item that is not refused, that item joins those before. -/
theorem refusedAt_succ_iff {item : α} {rest : List α} :
    RefusedAt refused (item :: rest) (i + 1) e ↔
      (∀ e, ¬ refused [] item e) ∧ RefusedAt (fun before => refused (item :: before)) rest i e := by
  constructor
  · rintro ⟨hAt, hBefore⟩
    have hFirst := hBefore 0 (Nat.zero_lt_succ i) item rfl
    exact ⟨hFirst, hAt, fun j hj => hBefore (j + 1) (Nat.succ_lt_succ hj)⟩
  · rintro ⟨hFirst, hAt, hBefore⟩
    refine ⟨hAt, fun j hj other hOther => ?_⟩
    cases j with
    | zero =>
        obtain rfl := Option.some.inj hOther
        exact hFirst
    | succ j => exact hBefore j (Nat.lt_of_succ_lt_succ hj) other hOther

/-- Unfolds the least refused place in the same way, with the list of earlier items growing. -/
theorem exists_refusedAt_cons_iff {item : α} {rest : List α} :
    (∃ i, RefusedAt refused (item :: rest) i e) ↔
      refused [] item e ∨ (∀ e, ¬ refused [] item e) ∧
        ∃ i, RefusedAt (fun before => refused (item :: before)) rest i e := by
  rw [← exists_and_left]
  constructor
  · rintro ⟨_ | i, h⟩
    · exact .inl (refusedAt_zero_iff.mp h)
    · exact .inr ⟨i, refusedAt_succ_iff.mp h⟩
  · rintro (h | ⟨i, h⟩)
    · exact ⟨0, refusedAt_zero_iff.mpr h⟩
    · exact ⟨i + 1, refusedAt_succ_iff.mpr h⟩

/-- Refusal at a place depends on the items up to it only. -/
theorem RefusedAt.take_append {items : List α} (h : RefusedAt refused items i e) (rest : List α) :
    RefusedAt refused (items.take (i + 1) ++ rest) i e := by
  induction items generalizing refused i with
  | nil => exact absurd h not_refusedAt_nil
  | cons item items ih =>
      cases i with
      | zero => exact refusedAt_zero_iff.mpr (refusedAt_zero_iff.mp h)
      | succ i =>
          obtain ⟨hFirst, hRest⟩ := refusedAt_succ_iff.mp h
          exact refusedAt_succ_iff.mpr ⟨hFirst, ih hRest⟩

end RefusedAt

/-- A loop succeeds with results that are related to its items in pairs. -/
theorem mapM_eq_ok_iff {f : α → Except ε β} {items : List α} {results : List β} :
    items.mapM f = .ok results ↔ List.Forall₂ (fun x y => f x = .ok y) items results := by
  induction items generalizing results with
  | nil =>
      rw [List.mapM_nil, pure_eq_ok_iff, List.forall₂_nil_left_iff]
      exact eq_comm
  | cons item rest ih =>
      simp only [List.mapM_cons, bind_eq_ok_iff, pure_eq_ok_iff, ih,
        List.forall₂_cons_left_iff]
      constructor
      · rintro ⟨y, hItem, ys, hRest, rfl⟩
        exact ⟨y, ys, hItem, hRest, rfl⟩
      · rintro ⟨y, ys, hItem, hRest, rfl⟩
        exact ⟨y, hItem, ys, hRest, rfl⟩

/-- A loop fails exactly with the error of its first refused item. -/
theorem mapM_eq_error_iff {f : α → Except ε β} {items : List α} {e : ε} :
    items.mapM f = .error e ↔
      FirstRefusal (fun x => ∃ y, f x = .ok y) (fun x e => f x = .error e) items e := by
  induction items with
  | nil => simp [pure_ne_error, not_firstRefusal_nil]
  | cons item rest ih =>
      simp only [List.mapM_cons, bind_eq_error_iff, pure_ne_error, and_false, exists_false,
        or_false, ih, firstRefusal_cons_iff]
      rw [exists_and_right]

/-- Related lists have equal images under functions that agree on related items. -/
theorem map_eq_map_of_forall₂ {γ : Type} {related : α → β → Prop} {f : α → γ} {g : β → γ}
    {items : List α} {results : List β} (h : List.Forall₂ related items results)
    (hAgree : ∀ x y, related x y → f x = g y) : items.map f = results.map g := by
  rw [← List.forall₂_eq_eq_eq, List.forall₂_map_left_iff, List.forall₂_map_right_iff]
  exact h.imp hAgree

/-- Every item of a related list has a partner in the other. -/
theorem exists_of_forall₂_of_mem {related : α → β → Prop} {items : List α} {results : List β}
    (h : List.Forall₂ related items results) {x : α} (hx : x ∈ items) :
    ∃ y ∈ results, related x y := by
  induction h with
  | nil => cases hx
  | cons hRelated _ ih =>
      rcases List.mem_cons.mp hx with rfl | hx
      · exact ⟨_, List.mem_cons_self, hRelated⟩
      · obtain ⟨y, hy, hxy⟩ := ih hx
        exact ⟨y, List.mem_cons_of_mem _ hy, hxy⟩

theorem exists_forall₂ {related : α → β → Prop} {items : List α}
    (h : ∀ x ∈ items, ∃ y, related x y) : ∃ results, List.Forall₂ related items results := by
  induction items with
  | nil => exact ⟨[], .nil⟩
  | cons x items ih =>
      obtain ⟨⟨y, hxy⟩, hItems⟩ := List.forall_mem_cons.mp h
      obtain ⟨results, hResults⟩ := ih hItems
      exact ⟨y :: results, .cons hxy hResults⟩

/-- A partial function that is defined on all items omits none. -/
theorem forall₂_filterMap {f : α → Option β} {items : List α}
    (h : ∀ x ∈ items, ∃ y, f x = some y) :
    List.Forall₂ (fun x y => f x = some y) items (items.filterMap f) := by
  induction items with
  | nil => exact .nil
  | cons x items ih =>
      obtain ⟨⟨y, hFirst⟩, hRest⟩ := List.forall_mem_cons.mp h
      rw [List.filterMap_cons_some hFirst]
      exact .cons hFirst (ih hRest)

/-- Properties that agree on related items hold of all of one list exactly when they hold of all of
the other. -/
theorem forall_mem_iff_of_forall₂ {related : α → β → Prop} {items : List α} {results : List β}
    (h : List.Forall₂ related items results) {p : α → Prop} {q : β → Prop}
    (hAgree : ∀ x y, related x y → (p x ↔ q y)) : (∀ x ∈ items, p x) ↔ ∀ y ∈ results, q y := by
  induction h with
  | nil => simp
  | cons hRelated _ ih => rw [List.forall_mem_cons, List.forall_mem_cons, hAgree _ _ hRelated, ih]

/-- Related lists are refused at the same places with the same errors, if related items are refused
alike behind related lists. -/
theorem refusedAt_iff_of_forall₂ {related : α → β → Prop} {items : List α} {results : List β}
    (h : List.Forall₂ related items results) {refused : List α → α → ε → Prop}
    {alsoRefused : List β → β → ε → Prop} {i : Nat} {e : ε}
    (hAgree : ∀ xs ys x y e, List.Forall₂ related xs ys → related x y →
      (refused xs x e ↔ alsoRefused ys y e)) :
    RefusedAt refused items i e ↔ RefusedAt alsoRefused results i e := by
  induction h generalizing refused alsoRefused i with
  | nil => simp only [not_refusedAt_nil]
  | cons hRelated _ ih =>
      have hFirst := fun e => hAgree [] [] _ _ e .nil hRelated
      cases i with
      | zero => rw [refusedAt_zero_iff, refusedAt_zero_iff, hFirst]
      | succ i =>
          have hRest := ih (i := i) fun xs ys x y e hPairs hPair =>
            hAgree (_ :: xs) (_ :: ys) x y e (.cons hRelated hPairs) hPair
          simp only [refusedAt_succ_iff, hFirst, hRest]

/-- Equal errors, or related results. -/
inductive SameOutcome (related : α → β → Prop) : Except ε α → Except ε β → Prop where
  | refused (e : ε) : SameOutcome related (.error e) (.error e)
  | ok {a : α} {b : β} (h : related a b) : SameOutcome related (.ok a) (.ok b)

/-- Outcomes stay related through a bind whose first part is shared. -/
theorem SameOutcome.bind {γ : Type} {related : α → β → Prop} {x : Except ε γ}
    {f : γ → Except ε α} {g : γ → Except ε β}
    (h : ∀ c, x = .ok c → SameOutcome related (f c) (g c)) :
    SameOutcome related (x >>= f) (x >>= g) := by
  cases x with
  | error e => exact .refused e
  | ok c => exact h c rfl

end EntitySearch
