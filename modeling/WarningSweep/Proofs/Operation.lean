/-!
# Steps that can fail

An operation takes a state to a state and gives a value or a fault.  Each way to build one is
described by what it does to a state, so that proofs never open the transformers.
-/

namespace WarningSweep.Operation

variable {ε σ α β : Type}

@[simp]
theorem bind_apply (x : ExceptT ε (StateM σ) α) (f : α → ExceptT ε (StateM σ) β) (state : σ) :
    (x >>= f) state =
      match x state with
      | (.ok a, after) => f a after
      | (.error fault, after) => (.error fault, after) := by
  change (match x state with
    | (result, after) => (ExceptT.bindCont f result : StateM σ _) after) = _
  rcases x state with ⟨_ | _, _⟩ <;> rfl

@[simp]
theorem tryCatch_apply (x : ExceptT ε (StateM σ) α) (handler : ε → ExceptT ε (StateM σ) α)
    (state : σ) :
    (tryCatch x handler : ExceptT ε (StateM σ) α) state =
      match x state with
      | (.ok a, after) => (.ok a, after)
      | (.error fault, after) => handler fault after := by
  change (match x state with
    | (result, after) => (match result with
      | .ok a => (pure (Except.ok a) : StateM σ (Except ε α))
      | .error fault => handler fault) after) = _
  rcases x state with ⟨_ | _, _⟩ <;> rfl

@[simp]
theorem pure_apply (a : α) (state : σ) :
    (pure a : ExceptT ε (StateM σ) α) state = (.ok a, state) := rfl

@[simp]
theorem throw_apply (fault : ε) (state : σ) :
    (throw fault : ExceptT ε (StateM σ) α) state = (.error fault, state) := rfl

@[simp]
theorem get_apply (state : σ) : (get : ExceptT ε (StateM σ) σ) state = (.ok state, state) := rfl

@[simp]
theorem modify_apply (f : σ → σ) (state : σ) :
    (modify f : ExceptT ε (StateM σ) PUnit) state = (.ok (), f state) := rfl

@[simp]
theorem liftM_apply (x : Except ε α) (state : σ) :
    (liftM x : ExceptT ε (StateM σ) α) state = (x, state) := rfl

/-- A step after which a view of the state shows what it showed before. -/
def Keeps {τ : Type} (view : σ → τ) (step : ExceptT ε (StateM σ) α) : Prop :=
  ∀ state, view (step state).2 = view state

section

variable {τ : Type} {view : σ → τ} {step : ExceptT ε (StateM σ) α}
  {next : α → ExceptT ε (StateM σ) β}

theorem Keeps.bind (first : Keeps view step) (second : ∀ a, Keeps view (next a)) :
    Keeps view (step >>= next) := by
  intro state
  have kept := first state
  rw [bind_apply]
  generalize step state = ended at kept
  obtain ⟨fault | a, after⟩ := ended
  · exact kept
  · exact (second a after).trans kept

theorem keeps_pure (a : α) : Keeps view (pure a : ExceptT ε (StateM σ) α) := fun _ => rfl

theorem keeps_throw (fault : ε) : Keeps view (throw fault : ExceptT ε (StateM σ) α) := fun _ => rfl

theorem keeps_get : Keeps view (get : ExceptT ε (StateM σ) σ) := fun _ => rfl

end

theorem bind_eq_ok_iff {x : Except ε α} {f : α → Except ε β} {b : β} :
    (x >>= f) = .ok b ↔ ∃ a, x = .ok a ∧ f a = .ok b := by
  cases x with
  | error fault => simp [bind, Except.bind]
  | ok a => simp [bind, Except.bind]

theorem forall_of_mapM_eq_ok {f : α → Except ε β} {xs : List α} {ys : List β}
    (mapped : xs.mapM f = .ok ys) : ∀ x ∈ xs, ∃ y, f x = .ok y := by
  induction xs generalizing ys with
  | nil => exact nofun
  | cons x rest inductionHypothesis =>
      rw [List.mapM_cons] at mapped
      obtain ⟨y, here, mapped⟩ := bind_eq_ok_iff.mp mapped
      obtain ⟨later, mapped, -⟩ := bind_eq_ok_iff.mp mapped
      exact List.forall_mem_cons.mpr ⟨⟨y, here⟩, inductionHypothesis mapped⟩

theorem map_eq_ok_iff {f : α → β} {x : Except ε α} {b : β} :
    x.map f = .ok b ↔ ∃ a, x = .ok a ∧ f a = b := by
  cases x <;> simp [Except.map]

theorem mapError_eq_ok_iff {f : ε → σ} {x : Except ε α} {a : α} :
    x.mapError f = .ok a ↔ x = .ok a := by
  cases x with
  | error fault => constructor <;> intro same <;> cases same
  | ok value => constructor <;> intro same <;> cases same <;> rfl

theorem map_mapError (f : ε → σ) (g : α → β) (x : Except ε α) :
    (x.mapError f).map g = (x.map g).mapError f := by
  cases x <;> rfl

end WarningSweep.Operation
