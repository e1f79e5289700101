import ScopedBinding.Program

/-!
# Runs of actions

What a run of an action is, from the runs of its parts. The first part of a sequence decides how the
sequence goes on (`Act.bind_of_done` and the lemmas after it), and the end of a whole tells the ends of
its parts (`Act.done_of_bind`, `Act.done_of_onUnwind`).

Cleanups that surround each other run one after another (`Act.onUnwind_onUnwind`), and a cleanup around
a sequence is a cleanup around each of its parts (`Act.onUnwind_bind`).
-/

set_option autoImplicit false

namespace ScopedBinding

/-- The end of an action, with another value. -/
def Outcome.map {α β : Type} (f : α → β) : Outcome α → Outcome β
  | .done a => .done (f a)
  | .panicked message => .panicked message
  | .halted => .halted

/-- An end with a value stays one when the value is changed. -/
theorem Outcome.done_of_map {α β : Type} {f : α → β} {o : Outcome α} {b : β}
    (h : o.map f = .done b) : ∃ a, o = .done a := by
  cases o with
  | done a => exact ⟨a, rfl⟩
  | panicked message => cases h
  | halted => cases h

/-- The value is changed by one function after the other. -/
theorem Outcome.map_map {α β γ : Type} (g : β → γ) (f : α → β) (o : Outcome α) :
    (o.map f).map g = o.map fun a => g (f a) := by
  cases o <;> rfl

namespace Act

variable {η ε α β : Type}

/-! ## Parts of a run -/

/-- A sequence whose first part ends with a value goes on from there. -/
theorem bind_of_done {m : Act η ε α} {next : α → Act η ε β} {ctx : Context} {w w' : World η ε}
    {a : α} (h : m ctx w = (.done a, w')) : (m >>= next) ctx w = next a ctx w' := by
  show Act.bind m next ctx w = next a ctx w'
  unfold Act.bind
  rw [h]

/-- A sequence whose first part panics ends there. -/
theorem bind_of_panicked {m : Act η ε α} {next : α → Act η ε β} {ctx : Context} {w w' : World η ε}
    {message : String} (h : m ctx w = (.panicked message, w')) :
    (m >>= next) ctx w = (.panicked message, w') := by
  show Act.bind m next ctx w = _
  unfold Act.bind
  rw [h]

/-- A sequence whose first part is cut off ends there. -/
theorem bind_of_halted {m : Act η ε α} {next : α → Act η ε β} {ctx : Context} {w w' : World η ε}
    (h : m ctx w = (.halted, w')) : (m >>= next) ctx w = (.halted, w') := by
  show Act.bind m next ctx w = _
  unfold Act.bind
  rw [h]

/-- Actions that come to the same go on in the same way. -/
theorem bind_congr {m m' : Act η ε α} {ctx : Context} {w w' : World η ε} (h : m ctx w = m' ctx w')
    (next : α → Act η ε β) : (m >>= next) ctx w = (m' >>= next) ctx w' := by
  show Act.bind m next ctx w = Act.bind m' next ctx w'
  unfold Act.bind
  rw [h]

/-- A sequence goes on from where its first part ended, or ends there. -/
theorem bind_cases (m : Act η ε α) (next : α → Act η ε β) (ctx : Context) (w : World η ε) :
    (∃ a, (m >>= next) ctx w = next a ctx (m ctx w).2) ∨
      ((m >>= next) ctx w).2 = (m ctx w).2 := by
  show (∃ a, Act.bind m next ctx w = _) ∨ (Act.bind m next ctx w).2 = _
  unfold Act.bind
  generalize m ctx w = result
  obtain ⟨a | message | _, w'⟩ := result
  · exact .inl ⟨a, rfl⟩
  · exact .inr rfl
  · exact .inr rfl

/-- A cleanup does not run if the action ends with a value. -/
theorem onUnwind_of_done {m : Act η ε α} {cleanup : Act η ε Unit} {ctx : Context}
    {w w' : World η ε} {a : α} (h : m ctx w = (.done a, w')) :
    Act.onUnwind m cleanup ctx w = (.done a, w') := by
  unfold onUnwind
  rw [h]

/-- A panic goes on from where the cleanup on its way has ended. -/
theorem onUnwind_of_panicked {m : Act η ε α} {cleanup : Act η ε Unit} {ctx : Context}
    {w w' w'' : World η ε} {message : String} (h : m ctx w = (.panicked message, w'))
    (hc : cleanup { ctx with unwinding := true } w' = (.done (), w'')) :
    Act.onUnwind m cleanup ctx w = (.panicked message, w'') := by
  unfold onUnwind
  rw [h]
  dsimp only
  rw [hc]

/-- A cleanup does not run if the action is cut off. -/
theorem onUnwind_of_halted {m : Act η ε α} {cleanup : Act η ε Unit} {ctx : Context}
    {w w' : World η ε} (h : m ctx w = (.halted, w')) :
    Act.onUnwind m cleanup ctx w = (.halted, w') := by
  unfold onUnwind
  rw [h]

/-- A sequence that ends with a value has come through its first part. -/
theorem done_of_bind {m : Act η ε α} {next : α → Act η ε β} {ctx : Context} {w w' : World η ε}
    {b : β} (h : (m >>= next) ctx w = (.done b, w')) :
    ∃ a v, m ctx w = (.done a, v) ∧ next a ctx v = (.done b, w') := by
  change Act.bind m next ctx w = (.done b, w') at h
  unfold Act.bind at h
  generalize m ctx w = result at h
  obtain ⟨a | message | _, v⟩ := result
  · exact ⟨a, v, rfl, h⟩
  · cases h
  · cases h

/-- The cleanup of an action that ends with a value does not run. -/
theorem done_of_onUnwind {m : Act η ε α} {cleanup : Act η ε Unit} {ctx : Context}
    {w w' : World η ε} {a : α} (h : Act.onUnwind m cleanup ctx w = (.done a, w')) :
    m ctx w = (.done a, w') := by
  unfold onUnwind at h
  generalize m ctx w = result at h ⊢
  obtain ⟨b | message | _, v⟩ := result
  · exact h
  · dsimp only at h
    generalize cleanup { ctx with unwinding := true } v = result at h
    obtain ⟨_ | _ | _, _⟩ := result <;> cases h
  · cases h

/-- Changing the value of an action changes nothing else. -/
theorem map_run (f : α → β) (m : Act η ε α) (ctx : Context) (w : World η ε) :
    (do return f (← m) : Act η ε β) ctx w = ((m ctx w).1.map f, (m ctx w).2) := by
  show Act.bind m _ ctx w = _
  unfold Act.bind
  generalize m ctx w = result
  obtain ⟨a | message | _, w'⟩ := result <;> rfl

/-- An action that ends with a value ends with one that has a property. -/
def Yields (P : α → Prop) (m : Act η ε α) : Prop :=
  ∀ ctx w a, (m ctx w).1 = .done a → P a

namespace Yields

variable {P : α → Prop} {Q : β → Prop}

/-- A value that has the property. -/
theorem pure {a : α} (h : P a) : Yields P (pure a : Act η ε α) := by
  intro ctx w b hb
  cases hb
  exact h

/-- The value of a sequence is that of its last part. -/
theorem bind {m : Act η ε α} {next : α → Act η ε β} (hnext : ∀ a, Yields Q (next a)) :
    Yields Q (m >>= next) := by
  intro ctx w b hb
  obtain ⟨a, v, -, hgo⟩ := done_of_bind (Prod.ext hb rfl)
  exact hnext a ctx v b (congrArg Prod.fst hgo)

/-- The value of an action with a cleanup is that of the action. -/
theorem onUnwind {m : Act η ε α} {cleanup : Act η ε Unit} (hm : Yields P m) :
    Yields P (Act.onUnwind m cleanup) := by
  intro ctx w a ha
  exact hm ctx w a (congrArg Prod.fst (done_of_onUnwind (Prod.ext ha rfl)))

end Yields

/-! ## Cleanups -/

/-- A cleanup does not look at the value of the action. -/
theorem onUnwind_map (f : α → β) (m : Act η ε α) (cleanup : Act η ε Unit) :
    Act.onUnwind (do return f (← m)) cleanup = (do return f (← Act.onUnwind m cleanup)) := by
  funext ctx w
  rw [map_run]
  unfold Act.onUnwind
  rw [map_run]
  generalize m ctx w = result
  obtain ⟨a | message | _, w'⟩ := result
  · rfl
  · dsimp only [Outcome.map]
    generalize cleanup { ctx with unwinding := true } w' = result
    obtain ⟨_ | _ | _, w''⟩ := result <;> rfl
  · rfl

/-- A cleanup that does nothing makes no difference. -/
theorem onUnwind_nothing (m : Act η ε α) : Act.onUnwind m (pure ()) = m := by
  funext ctx w
  unfold Act.onUnwind
  generalize m ctx w = result
  obtain ⟨a | message | _, w'⟩ := result <;> rfl

/-- A cleanup around a sequence is a cleanup around each of its parts. -/
theorem onUnwind_bind (m : Act η ε α) (next : α → Act η ε β) (cleanup : Act η ε Unit) :
    Act.onUnwind (m >>= next) cleanup =
      Act.onUnwind m cleanup >>= fun a => Act.onUnwind (next a) cleanup := by
  funext ctx w
  cases hm : m ctx w with
  | mk o v =>
  cases o with
  | done a =>
    rw [bind_of_done (onUnwind_of_done hm)]
    unfold Act.onUnwind
    rw [bind_of_done hm]
  | halted => rw [onUnwind_of_halted (bind_of_halted hm), bind_of_halted (onUnwind_of_halted hm)]
  | panicked message =>
    show _ = Act.bind (Act.onUnwind m cleanup) _ ctx w
    unfold Act.bind Act.onUnwind
    rw [bind_of_panicked hm, hm]
    dsimp only
    generalize cleanup { ctx with unwinding := true } v = result
    obtain ⟨_ | _ | _, _⟩ := result <;> rfl

/-- Of two cleanups around each other the inner one runs first. -/
theorem onUnwind_onUnwind (m : Act η ε α) (inner outer : Act η ε Unit) :
    Act.onUnwind (Act.onUnwind m inner) outer = Act.onUnwind m (do inner; outer) := by
  funext ctx w
  cases hm : m ctx w with
  | mk o v =>
  cases o with
  | done a => rw [onUnwind_of_done (onUnwind_of_done hm), onUnwind_of_done hm]
  | halted => rw [onUnwind_of_halted (onUnwind_of_halted hm), onUnwind_of_halted hm]
  | panicked message =>
    unfold Act.onUnwind
    rw [hm]
    dsimp only
    cases hi : inner { ctx with unwinding := true } v with
    | mk o v' =>
    cases o with
    | done a => rw [bind_of_done hi]
    | panicked message' => rw [bind_of_panicked hi]
    | halted => rw [bind_of_halted hi]

end Act

/-- A rejected release panics under the panic policy, unless the thread is unwinding already. -/
theorem Guard.failRelease_run {η ε : Type} (policy : ReleasePolicy) (fault : Fault) (ctx : Context)
    (w : World η ε) : failRelease policy fault ctx w =
      (if policy = .panic ∧ ctx.unwinding = false then .panicked fault.message else .done (), w) := by
  unfold failRelease
  simp only [bind, Act.bind, Act.isUnwinding]
  cases ctx.unwinding with
  | true => simp [pure, Act.pure]
  | false => cases policy <;> rfl

end ScopedBinding
