import Mathlib.Data.List.Induction
import Mathlib.Data.List.Perm.Basic

/-!
# Computations that may be at fault

A computation in `Except` is taken apart where it succeeds: `bind_ok_iff` for one step after
another, `mapM_ok_iff` for a list of results, `foldlM_induction` for a loop with an invariant, and
`foldlM_ok_iff` for when a loop succeeds. `OkIff` says of a computation when it succeeds and with which
result; it is put together from the steps.

`Alike` compares two computations: both are at fault in the same way, or both succeed with related
results. It is kept by steps one after the other, so two runs are compared step by step.
-/

namespace WiringQuote.Fallible

variable {ε α β γ δ : Type}

/-! ## Paired lists -/

theorem map_eq_map_of_pairs {f : α → γ} {g : β → γ} {xs : List α} {ys : List β}
    (pairs : List.Forall₂ (fun x y => f x = g y) xs ys) : xs.map f = ys.map g := by
  induction pairs with
  | nil => rfl
  | cons pair _ ih => rw [List.map_cons, List.map_cons, pair, ih]

theorem exists_mem_of_pairs {related : α → β → Prop} {xs : List α} {ys : List β}
    (pairs : List.Forall₂ related xs ys) {y : β} (present : y ∈ ys) : ∃ x ∈ xs, related x y := by
  induction pairs with
  | nil => exact absurd present List.not_mem_nil
  | cons pair _ ih =>
    rcases List.mem_cons.1 present with rfl | later
    · exact ⟨_, List.mem_cons_self, pair⟩
    · obtain ⟨x, inRest, paired⟩ := ih later
      exact ⟨x, List.mem_cons_of_mem _ inRest, paired⟩

/-! ## Success -/

theorem bind_ok_iff {x : Except ε α} {f : α → Except ε β} {b : β} :
    x >>= f = .ok b ↔ ∃ a, x = .ok a ∧ f a = .ok b := by
  cases x <;> simp [bind, Except.bind]

theorem bind_total {x : Except ε α} {f : α → Except ε β} (first : ∃ a, x = .ok a)
    (next : ∀ a, x = .ok a → ∃ b, f a = .ok b) : ∃ b, x >>= f = .ok b := by
  obtain ⟨a, done⟩ := first
  obtain ⟨b, after⟩ := next a done
  exact ⟨b, bind_ok_iff.2 ⟨a, done, after⟩⟩

theorem bind_error_iff {x : Except ε α} {f : α → Except ε β} {fault : ε} :
    x >>= f = .error fault ↔ x = .error fault ∨ ∃ a, x = .ok a ∧ f a = .error fault := by
  cases x <;> simp [bind, Except.bind]

/-- What follows a step need only do the same for its result. -/
theorem bind_congr_ok {x : Except ε α} {f g : α → Except ε β}
    (same : ∀ a, x = .ok a → f a = g a) : x >>= f = x >>= g := by
  cases done : x with
  | ok a => exact same a done
  | error fault => rfl

theorem error_of_bind_pure {x : Except ε α} {g : α → β} {fault : ε}
    (fails : (x >>= fun a => pure (g a)) = .error fault) : x = .error fault := by
  rcases bind_error_iff.1 fails with first | ⟨_, _, same⟩
  · exact first
  · cases same

theorem isOk_iff {x : Except ε α} : x.isOk = true ↔ ∃ a, x = .ok a := by
  cases x <;> simp [Except.isOk, Except.toBool]

theorem toOption_eq_some_iff {x : Except ε α} {a : α} : x.toOption = some a ↔ x = .ok a := by
  cases x <;> simp [Except.toOption]

theorem toOption_map_eq_some_iff {f : α → β} {x : Except ε α} {b : β} :
    x.toOption.map f = some b ↔ ∃ a, x = .ok a ∧ f a = b := by
  cases x <;> simp [Except.toOption]

theorem pure_ok_iff {a b : α} : (pure a : Except ε α) = .ok b ↔ a = b := by
  simp [pure, Except.pure]

theorem exists_bind_pure_iff {x : Except ε α} {g : α → β} :
    (∃ b, (x >>= fun a => pure (g a)) = .ok b) ↔ ∃ a, x = .ok a := by
  cases x <;> simp [bind, Except.bind, pure, Except.pure]

theorem mapError_ok_iff {f : ε → δ} {x : Except ε α} {a : α} :
    x.mapError f = .ok a ↔ x = .ok a := by
  cases x <;> simp [Except.mapError]

theorem map_ok_iff {f : α → β} {x : Except ε α} {b : β} :
    x.map f = .ok b ↔ ∃ a, x = .ok a ∧ f a = b := by
  cases x <;> simp [Except.map]

theorem map_error_iff {f : α → β} {x : Except ε α} {fault : ε} :
    x.map f = .error fault ↔ x = .error fault := by
  cases x <;> simp [Except.map]

theorem mapM_ok_iff {f : α → Except ε β} {xs : List α} {ys : List β} :
    xs.mapM f = .ok ys ↔ List.Forall₂ (fun x y => f x = .ok y) xs ys := by
  induction xs generalizing ys with
  | nil => cases ys <;> simp [pure_ok_iff]
  | cons x rest ih =>
    simp only [List.mapM_cons, bind_ok_iff, pure_ok_iff]
    constructor
    · rintro ⟨y, first, others, after, rfl⟩
      exact .cons first (ih.1 after)
    · intro all
      cases all with
      | cons first after => exact ⟨_, first, _, ih.2 after, rfl⟩

/-- Whether there are results, and which, does not depend on the order. -/
theorem mapM_perm {f : α → Except ε β} {xs ys : List α} (same : xs.Perm ys) {as : List β}
    (run : xs.mapM f = .ok as) : ∃ bs, ys.mapM f = .ok bs ∧ as.Perm bs := by
  obtain ⟨bs, pairs, results⟩ := List.perm_comp_forall₂ same.symm (mapM_ok_iff.1 run)
  exact ⟨bs, mapM_ok_iff.2 pairs, results.symm⟩

theorem mapM_total {f : α → Except ε β} {xs : List α} (each : ∀ x ∈ xs, ∃ y, f x = .ok y) :
    ∃ ys, xs.mapM f = .ok ys := by
  induction xs with
  | nil => exact ⟨[], rfl⟩
  | cons x rest ih =>
    obtain ⟨y, first⟩ := each x List.mem_cons_self
    obtain ⟨ys, others⟩ := ih fun z inRest => each z (List.mem_cons_of_mem _ inRest)
    exact ⟨y :: ys, mapM_ok_iff.2 (.cons first (mapM_ok_iff.1 others))⟩

/-- What holds of the elements that are done so far, and each step keeps for one more, the loop makes
hold of all elements. -/
theorem foldlM_prefix {f : β → α → Except ε β} {p : List α → β → Prop} {xs : List α}
    {init final : β} (run : xs.foldlM f init = .ok final) (start : p [] init)
    (step : ∀ done x b next, done ++ [x] <+: xs → p done b → f b x = .ok next →
      p (done ++ [x]) next) : p xs final := by
  -- By induction on the elements that are left, whatever is done before them.
  have general : ∀ rest done b, done ++ rest = xs → p done b → rest.foldlM f b = .ok final →
      p xs final := by
    intro rest
    induction rest with
    | nil =>
      intro done b whole held run
      cases run
      rwa [← whole, List.append_nil]
    | cons x rest ih =>
      intro done b whole held run
      rw [List.append_cons] at whole
      rw [List.foldlM_cons, bind_ok_iff] at run
      obtain ⟨next, first, others⟩ := run
      exact ih _ next whole (step done x b next ⟨rest, whole⟩ held first) others
  exact general xs [] init rfl start run

/-- Two loops over the same elements, both of which succeed, keep what each pair of their steps keeps. -/
theorem foldlM_related {f : β → α → Except ε β} {g : γ → α → Except ε γ} {p : List α → β → γ → Prop}
    {xs : List α} {b final : β} {c other : γ} (run : xs.foldlM f b = .ok final)
    (second : xs.foldlM g c = .ok other) (start : p [] b c)
    (step : ∀ done x b c next after, done ++ [x] <+: xs → p done b c → f b x = .ok next →
      g c x = .ok after → p (done ++ [x]) next after) : p xs final other := by
  -- By induction on the elements that are left, as for one loop.
  have general : ∀ rest done b c, done ++ rest = xs → p done b c → rest.foldlM f b = .ok final →
      rest.foldlM g c = .ok other → p xs final other := by
    intro rest
    induction rest with
    | nil =>
      intro done b c whole held run second
      cases run
      cases second
      rwa [← whole, List.append_nil]
    | cons x rest ih =>
      intro done b c whole held run second
      rw [List.append_cons] at whole
      rw [List.foldlM_cons, bind_ok_iff] at run second
      obtain ⟨next, first, others⟩ := run
      obtain ⟨after, firstAfter, othersAfter⟩ := second
      exact ih _ next after whole (step done x b c next after ⟨rest, whole⟩ held first firstAfter)
        others othersAfter
  exact general xs [] b c rfl start run second

/-- A loop succeeds exactly if each of its steps does, where the success of a step can be told from the
elements before it. -/
theorem foldlM_ok_iff {f : β → α → Except ε β} {p : List α → β → Prop} {good : List α → α → Prop}
    {xs : List α} {init : β} (start : p [] init)
    (step : ∀ done x b next, done ++ [x] <+: xs → p done b → f b x = .ok next →
      p (done ++ [x]) next)
    (one : ∀ done x b, done ++ [x] <+: xs → p done b → ((∃ next, f b x = .ok next) ↔ good done x)) :
    (∃ final, xs.foldlM f init = .ok final) ↔ ∀ done x, done ++ [x] <+: xs → good done x := by
  -- By induction on the last element: that those before it succeed is told from them alone.
  induction xs using List.reverseRecOn with
  | nil => exact iff_of_true ⟨init, rfl⟩ fun done x begins => by simp at begins
  | append_singleton rest last ih =>
    have earlier : rest <+: rest ++ [last] := List.prefix_append _ _
    have before := ih (fun done x b next begins => step done x b next (begins.trans earlier))
      fun done x b begins => one done x b (begins.trans earlier)
    have held : ∀ b, rest.foldlM f init = .ok b → p rest b := fun b run =>
      foldlM_prefix run start fun done x b next begins => step done x b next (begins.trans earlier)
    have split : (rest ++ [last]).foldlM f init = (do f (← rest.foldlM f init) last) := by
      simp [List.foldlM_append]
    rw [split]
    simp only [bind_ok_iff]
    constructor
    · rintro ⟨final, b, run, stepped⟩ done x begins
      rcases List.prefix_concat_iff.1 begins with whole | inside
      · obtain ⟨rfl, same⟩ := List.append_inj' whole rfl
        cases same
        exact (one _ _ b (List.prefix_refl _) (held b run)).1 ⟨final, stepped⟩
      · exact before.1 ⟨b, run⟩ done x inside
    · intro each
      obtain ⟨b, run⟩ := before.2 fun done x begins => each done x (begins.trans earlier)
      obtain ⟨final, stepped⟩ := (one rest last b (List.prefix_refl _) (held b run)).2
        (each rest last (List.prefix_refl _))
      exact ⟨final, b, run, stepped⟩

/-- What every step of a loop keeps, the loop keeps. -/
theorem foldlM_induction {f : β → α → Except ε β} {holds : β → Prop} {xs : List α} {init final : β}
    (run : xs.foldlM f init = .ok final) (start : holds init)
    (step : ∀ x ∈ xs, ∀ b next, holds b → f b x = .ok next → holds next) : holds final := by
  refine foldlM_prefix (p := fun _ => holds) run start fun done x b next begins held stepped => ?_
  exact step x (begins.subset (by simp)) b next held stepped

/-- Where a loop succeeds, each of its steps does. -/
theorem foldlM_step_ok {f : β → α → Except ε β} {xs : List α} {init final : β}
    (run : xs.foldlM f init = .ok final) {x : α} (listed : x ∈ xs) :
    ∃ b next, f b x = .ok next := by
  induction xs generalizing init with
  | nil => cases listed
  | cons y rest ih =>
    rw [List.foldlM_cons, bind_ok_iff] at run
    obtain ⟨next, first, others⟩ := run
    rcases List.mem_cons.1 listed with rfl | later
    · exact ⟨init, next, first⟩
    · exact ih others later

/-- Where a loop is at fault, one of its steps is. -/
theorem foldlM_error {f : β → α → Except ε β} {xs : List α} {init : β} {fault : ε}
    (fails : xs.foldlM f init = .error fault) : ∃ x ∈ xs, ∃ b, f b x = .error fault := by
  induction xs generalizing init with
  | nil => cases fails
  | cons x rest ih =>
    rw [List.foldlM_cons] at fails
    rcases bind_error_iff.1 fails with first | ⟨next, _, others⟩
    · exact ⟨x, List.mem_cons_self, init, first⟩
    · obtain ⟨y, inRest, step⟩ := ih others
      exact ⟨y, List.mem_cons_of_mem _ inRest, step⟩

/-- A loop whose steps all succeed from what they keep succeeds. -/
theorem foldlM_total {f : β → α → Except ε β} {p : β → Prop} {xs : List α} {init : β}
    (start : p init) (step : ∀ x ∈ xs, ∀ b, p b → ∃ next, f b x = .ok next ∧ p next) :
    ∃ final, xs.foldlM f init = .ok final ∧ p final := by
  induction xs generalizing init with
  | nil => exact ⟨init, rfl, start⟩
  | cons x rest ih =>
    obtain ⟨next, first, kept⟩ := step x List.mem_cons_self init start
    rw [List.foldlM_cons, first]
    exact ih kept fun y inRest => step y (List.mem_cons_of_mem _ inRest)

/-- A loop none of whose steps is at fault is a fold. -/
theorem foldlM_ok {f : β → α → Except ε β} {g : β → α → β} {xs : List α}
    (step : ∀ x ∈ xs, ∀ b, f b x = .ok (g b x)) (init : β) :
    xs.foldlM f init = .ok (xs.foldl g init) := by
  induction xs generalizing init with
  | nil => rfl
  | cons x rest ih =>
    rw [List.foldlM_cons, step x List.mem_cons_self, List.foldl_cons]
    exact ih (fun y inRest => step y (List.mem_cons_of_mem _ inRest)) (g init x)

/-- Loops whose steps do the same are the same. -/
theorem foldlM_congr {f g : β → α → Except ε β} {xs : List α}
    (same : ∀ x ∈ xs, ∀ b, f b x = g b x) (init : β) : xs.foldlM f init = xs.foldlM g init := by
  induction xs generalizing init with
  | nil => rfl
  | cons x rest ih =>
    rw [List.foldlM_cons, List.foldlM_cons, same x List.mem_cons_self]
    exact congrArg _ (funext fun b => ih (fun y inRest => same y (List.mem_cons_of_mem _ inRest)) b)

/-! ## One possible result -/

/-- One result where the condition holds, a fault where it does not. -/
structure OkIff (condition : Prop) (x : Except ε α) (a : α) : Prop where
  ok : condition → x = .ok a
  error : ¬ condition → ∃ fault, x = .error fault

namespace OkIff

variable {p q : Prop} {x : Except ε α} {a : α} {b : β}

theorem pure (a : α) : OkIff True (pure a : Except ε α) a :=
  ⟨fun _ => rfl, fun never => absurd trivial never⟩

theorem of_ok (holds : p) (succeeds : x = .ok a) : OkIff p x a :=
  ⟨fun _ => succeeds, fun fails => absurd holds fails⟩

theorem of_error {fault : ε} (fails : ¬ p) (failed : x = .error fault) : OkIff p x a :=
  ⟨fun holds => absurd holds fails, fun _ => ⟨fault, failed⟩⟩

/-- There is no other result. -/
theorem eq (only : OkIff p x a) {other : α} (done : x = .ok other) : other = a := by
  by_cases holds : p
  · exact Except.ok.inj (done.symm.trans (only.ok holds))
  · obtain ⟨fault, failed⟩ := only.error holds
    cases done.symm.trans failed

theorem congr (same : p ↔ q) (first : OkIff p x a) : OkIff q x a :=
  ⟨fun holds => first.ok (same.2 holds), fun fails => first.error fun holds => fails (same.1 holds)⟩

theorem bind {f : α → Except ε β} (first : OkIff p x a) (next : OkIff q (f a) b) :
    OkIff (p ∧ q) (x >>= f) b := by
  constructor
  · rintro ⟨holds, after⟩
    exact bind_ok_iff.2 ⟨a, first.ok holds, next.ok after⟩
  · intro fails
    by_cases holds : p
    · obtain ⟨fault, failed⟩ := next.error fun after => fails ⟨holds, after⟩
      exact ⟨fault, bind_error_iff.2 (.inr ⟨a, first.ok holds, failed⟩)⟩
    · obtain ⟨fault, failed⟩ := first.error holds
      exact ⟨fault, bind_error_iff.2 (.inl failed)⟩

theorem map {g : α → β} (first : OkIff p x a) : OkIff p (x >>= fun a => Pure.pure (g a)) (g a) :=
  (first.bind (.pure (g a))).congr (and_iff_left trivial)

theorem mapError {f : ε → δ} (first : OkIff p x a) : OkIff p (x.mapError f) a := by
  refine ⟨fun holds => ?_, fun fails => ?_⟩
  · rw [first.ok holds]
    rfl
  · obtain ⟨fault, failed⟩ := first.error fails
    exact ⟨f fault, by rw [failed]; rfl⟩

theorem mapM {holds : α → Prop} {f : α → Except ε β} {g : α → β} {xs : List α}
    (each : ∀ x, OkIff (holds x) (f x) (g x)) : OkIff (∀ x ∈ xs, holds x) (xs.mapM f) (xs.map g) := by
  induction xs with
  | nil => exact (pure []).congr (by simp)
  | cons x rest ih =>
    rw [List.mapM_cons, List.map_cons]
    exact ((each x).bind ih.map).congr List.forall_mem_cons.symm

end OkIff

/-! ## Documented answers -/

/-- A result that is fit, or a fault that is foreseen. -/
inductive Answers (fit : α → Prop) (foreseen : ε → Prop) : Except ε α → Prop
  | ok {a : α} : fit a → Answers fit foreseen (.ok a)
  | error {fault : ε} : foreseen fault → Answers fit foreseen (.error fault)

theorem answers_iff {fit : α → Prop} {foreseen : ε → Prop} {x : Except ε α} :
    Answers fit foreseen x ↔
      (∀ a, x = .ok a → fit a) ∧ ∀ fault, x = .error fault → foreseen fault := by
  constructor
  · intro answers
    cases answers with
    | ok suits =>
      refine ⟨fun a same => ?_, fun fault same => by cases same⟩
      cases same
      exact suits
    | error known =>
      refine ⟨fun a same => (by cases same), fun fault same => ?_⟩
      cases same
      exact known
  · rintro ⟨suits, known⟩
    cases x with
    | ok a => exact .ok (suits a rfl)
    | error fault => exact .error (known fault rfl)

/-! ## Two runs -/

/-- The same fault, or results that are related. -/
inductive Alike (related : α → β → Prop) : Except ε α → Except ε β → Prop
  | ok {a : α} {b : β} : related a b → Alike related (.ok a) (.ok b)
  | error (fault : ε) : Alike related (.error fault) (.error fault)

theorem Alike.of_eq {x y : Except ε α} (same : x = y) : Alike Eq x y := by
  subst same
  cases x with
  | ok a => exact .ok rfl
  | error fault => exact .error fault

theorem Alike.eq {x y : Except ε α} (alike : Alike Eq x y) : x = y := by
  cases alike with
  | ok same => rw [same]
  | error fault => rfl

theorem Alike.bind {related : α → β → Prop} {next : γ → δ → Prop} {x : Except ε α}
    {y : Except ε β} {f : α → Except ε γ} {g : β → Except ε δ} (alike : Alike related x y)
    (step : ∀ a b, related a b → Alike next (f a) (g b)) : Alike next (x >>= f) (y >>= g) := by
  cases alike with
  | ok pair => exact step _ _ pair
  | error fault => exact .error fault

theorem Alike.mapM {related : α → β → Prop} {result : γ → δ → Prop} {xs : List α} {ys : List β}
    {f : α → Except ε γ} {g : β → Except ε δ} (pairs : List.Forall₂ related xs ys)
    (each : ∀ a b, related a b → Alike result (f a) (g b)) :
    Alike (List.Forall₂ result) (xs.mapM f) (ys.mapM g) := by
  induction pairs with
  | nil => exact .ok .nil
  | cons pair _ ih =>
    simp only [List.mapM_cons]
    exact (each _ _ pair).bind fun c d first => ih.bind fun cs ds others => .ok (.cons first others)

theorem Alike.foldlM {related : α → β → Prop} {state : γ → δ → Prop} {xs : List α} {ys : List β}
    {f : γ → α → Except ε γ} {g : δ → β → Except ε δ} (pairs : List.Forall₂ related xs ys)
    (each : ∀ a b, related a b → ∀ c d, state c d → Alike state (f c a) (g d b))
    {c : γ} {d : δ} (start : state c d) : Alike state (xs.foldlM f c) (ys.foldlM g d) := by
  induction pairs generalizing c d with
  | nil => exact .ok start
  | cons pair _ ih =>
    simp only [List.foldlM_cons]
    exact (each _ _ pair c d start).bind fun _ _ moved => ih moved

end WiringQuote.Fallible
