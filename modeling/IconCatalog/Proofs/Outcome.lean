set_option autoImplicit false

namespace IconCatalog

variable {ε σ α β : Type}

def stateAfter : EStateM.Result ε σ α → σ
  | .ok _ state => state
  | .error _ state => state

def succeeds : EStateM.Result ε σ α → Prop
  | .ok _ _ => True
  | .error _ _ => False

instance (result : EStateM.Result ε σ α) : Decidable (succeeds result) :=
  match result with
  | .ok _ _ => .isTrue trivial
  | .error _ _ => .isFalse id

instance decidableEqResult [DecidableEq ε] [DecidableEq σ] [DecidableEq α] :
    DecidableEq (EStateM.Result ε σ α)
  | .ok _ _, .ok _ _ => decidable_of_decidable_of_iff (EStateM.Result.ok.injEq ..).to_iff.symm
  | .error _ _, .error _ _ =>
    decidable_of_decidable_of_iff (EStateM.Result.error.injEq ..).to_iff.symm
  | .ok _ _, .error _ _ => .isFalse nofun
  | .error _ _, .ok _ _ => .isFalse nofun

theorem exists_of_succeeds {result : EStateM.Result ε σ α} (done : succeeds result) :
    ∃ value state, result = .ok value state := by
  cases result with
  | ok value state => exact ⟨value, state, rfl⟩
  | error fault state => exact absurd done id

theorem eq_ok_of_succeeds {result : EStateM.Result ε σ Unit} (done : succeeds result) :
    result = .ok () (stateAfter result) := by
  obtain ⟨_, state, rfl⟩ := exists_of_succeeds done
  rfl

theorem bind_apply (act : EStateM ε σ α) (next : α → EStateM ε σ β) (state : σ) :
    (act >>= next) state =
      match act state with
      | .ok value after => next value after
      | .error fault after => .error fault after := by
  change EStateM.bind act next state = _
  rw [EStateM.bind.eq_def]
  rfl

/-- Goes on from the state that is left, but only after a success. -/
def andThen (first : EStateM.Result ε σ α) (next : σ → EStateM.Result ε σ β) :
    EStateM.Result ε σ β :=
  match first with
  | .ok _ state => next state
  | .error fault state => .error fault state

/-- The same outcome with a change of the state. -/
def mapState (change : σ → σ) : EStateM.Result ε σ α → EStateM.Result ε σ α
  | .ok value state => .ok value (change state)
  | .error fault state => .error fault (change state)

/-- A step does the same whether the state is changed before it or behind it. -/
def Commutes (change : σ → σ) (act : EStateM ε σ α) : Prop :=
  ∀ state, act (change state) = mapState change (act state)

theorem Commutes.bind {change : σ → σ} {act : EStateM ε σ α} {next : α → EStateM ε σ β}
    (first : Commutes change act) (later : ∀ value, Commutes change (next value)) :
    Commutes change (act >>= next) := by
  intro state
  rw [bind_apply, bind_apply, first state]
  cases act state with
  | ok value after => exact later value after
  | error fault after => rfl

end IconCatalog
