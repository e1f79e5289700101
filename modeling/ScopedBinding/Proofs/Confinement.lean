import ScopedBinding.Proofs.DynamicScopes
import ScopedBinding.Proofs.LeakingBody

/-!
# What scopes on dynamic variables touch

While overrides of dynamic variables are put in place and taken away, nothing is touched but the bindings
of the thread (`Overrides.around_within`), whatever the body does, whichever releases are rejected and
wherever a watch panics or the run is cut off. The result of the body may go away on the way out, with
guards of dynamic variables (`Guard.drop_within`). The watches leave the store as it is.

If putting the overrides in place does not come to its end, it makes no difference what is inside them
(`Overrides.around_cut`).
-/

set_option autoImplicit false

namespace ScopedBinding

open Store (Confined)
open Act (Runs)

/-- While some variables are dynamic a run touches the bindings of its thread only. -/
def Within {η ε : Type} (K : CellId → Prop) (ctx : Context) (w : World η ε) (_ : Ending)
    (w' : World η ε) : Prop :=
  (∀ c, K c → w.store.kind c = .dynamic) → Confined ctx.thread w.store w'.store

section Within

variable {η ε α : Type} {deliver : Delivery η ε} {K : CellId → Prop} {ctx : Context}

namespace Within

variable {w w' w'' : World η ε} {e e' : Ending}

/-- Runs within the bindings of a thread go on within them. -/
theorem trans (h : Within K ctx w e w') (h' : Within K ctx w' e' w'') : Within K ctx w e' w'' := by
  intro hk
  have hfirst := h hk
  exact hfirst.trans (h' fun c hc => (hfirst.kind c).trans (hk c hc))

/-- A run that does nothing. -/
theorem refl (w : World η ε) : Within K ctx w e w :=
  fun _ => .refl ctx.thread w.store

end Within

/-- A result that owns no guard goes away without a step. -/
theorem Act.skip_within (a : α) : Runs (Within K) (Act.skip a : Act η ε Unit) :=
  fun _ w => .refl w

namespace Guard

/-- A guard of a dynamic variable is dropped. -/
theorem drop_within (hd : deliver.Still) {g : Guard} (hg : K g.cell) :
    Runs (Within K) (g.drop deliver) := by
  intro ctx w hk
  by_cases hstate : g.state = .acquired
  · rw [drop_store hd hstate]
    exact Store.confined_close (hk g.cell hg) ctx.thread g.frame
  · rw [drop_of_not_acquired hstate]
    exact .refl ctx.thread w.store

end Guard

namespace Overrides

/-- An override of a dynamic variable is ended. -/
theorem finish_within (hd : deliver.Still) {g : Guard} (hg : g.state = .acquired)
    (hcell : K g.cell) : Runs (Within K) (finish deliver g) := by
  intro ctx w hk
  have hcloses : Store.Closes ctx.thread g.cell g.frame w.store
      (finish deliver g ctx w).2.store := finish_store hd hg ctx w
  exact hcloses.confined (hk g.cell hcell)

/-- On the way out of a scope of a dynamic variable nothing is touched but bindings of the thread, from
where what was inside ended. -/
theorem leave_within (hd : deliver.Still) {discard : α → Act η ε Unit}
    {m : Act η ε (α × Option Fault)} {w : World η ε}
    (hgone : ∀ a fault, (m ctx w).1 = .done (a, fault) → Runs (Within K) (discard a))
    {g : Guard} (hg : g.state = .acquired) (hcell : K g.cell)
    (hk : ∀ c, K c → (m ctx w).2.store.kind c = .dynamic) :
    Confined ctx.thread (m ctx w).2.store
      ((Act.onUnwind m (g.drop deliver) >>= fun ends => do
        return (ends.1, ends.2.or (← Act.onUnwind (finish deliver g) (discard ends.1)))) ctx
          w).2.store := by
  generalize hs : (m ctx w).2.store = s at hk ⊢
  -- The way out is followed from where `m` has ended, so where a run starts does not matter.
  let Q : Context → World η ε → Ending → World η ε → Prop := fun ctx _ _ w' =>
    Confined ctx.thread s w'.store
  have happend : ∀ {ctx' : Context} {w' w'' : World η ε} {e : Ending},
      Confined ctx'.thread s w'.store → Within K ctx' w' e w'' → Confined ctx'.thread s w''.store :=
    fun h h' => h.trans (h' fun c hc => (h.kind c).trans (hk c hc))
  have hfirst : Q ctx w (Act.onUnwind m (g.drop deliver) ctx w).1.ending
      (Act.onUnwind m (g.drop deliver) ctx w).2 := by
    refine Runs.onUnwind_at (Q := Q) (D := Within K) (fun {_ _ _ e _} h h' => happend (e := e) h h') ?_
      (Guard.drop_within hd hcell)
    show Confined ctx.thread s (m ctx w).2.store
    rw [hs]
    exact .refl ctx.thread s
  refine Runs.bind_at (Q := Q) (D := Within K) happend hfirst fun ends hends => ?_
  have hinside : (m ctx w).1 = .done ends :=
    congrArg Prod.fst (Act.done_of_onUnwind (Prod.ext hends rfl))
  refine .bind .trans (.onUnwind (D := Within K) .trans (finish_within hd hg hcell)
    (hgone ends.1 ends.2 hinside)) fun _ => ?_
  exact fun _ w => .refl w

end Overrides

end Within

/-! ## Scopes inside scopes -/

section Scopes

variable {υ ε α : Type} {deliver : Delivery (Hands υ) ε} {K : CellId → Prop} {ctx : Context}

namespace Overrides

/-- The scopes do not all come to be open if the first one does not, or the others do not. -/
theorem openAll_cons_not_done {c : CellId} {x : Value} {rest : Overrides}
    {w v : World (Hands υ) ε} {o : Outcome Unit}
    (hwrite : c.write deliver x ctx (w.acquired ctx.thread c) = (o, v))
    (h : o = .done () → (openAll deliver rest ctx v).1.ending ≠ .done) :
    (openAll deliver ((c, x) :: rest) ctx w).1.ending ≠ .done := by
  intro hdone
  obtain ⟨gs, hopen⟩ := Outcome.done_of_ending hdone
  unfold openAll at hopen
  rw [Act.bind_of_done (Guard.acquire_run c ctx w)] at hopen
  obtain ⟨⟨⟩, v₁, hfirst, hrest⟩ := Act.done_of_bind hopen
  obtain ⟨inner, v₂, hinner, -⟩ := Act.done_of_bind hrest
  obtain ⟨rfl, rfl⟩ := Prod.mk.inj (hwrite.symm.trans hfirst)
  rw [hinner] at h
  exact h rfl rfl

/-- What overrides of dynamic variables touch, where the watches leave the store as it is. Putting them in
place touches bindings of the thread only, and so does taking them away after a body. If it does not come
to the body, they touch nothing else at all. -/
theorem around_within (hd : deliver.Still) (discard : α → Act (Hands υ) ε Unit) {set : Overrides}
    (hset : ∀ c ∈ set.map Prod.fst, K c) {body : Act (Hands υ) ε α}
    (hbody : ∀ v c, (body ctx v).2.store.kind c = v.store.kind c) {w : World (Hands υ) ε}
    (hk : ∀ c, K c → w.store.kind c = .dynamic) :
    (∃ gs v, openAll deliver set ctx w = (.done gs, v) ∧
      Confined ctx.thread w.store v.store ∧
      ((∀ a, (body ctx v).1 = .done a → Runs (Within K) (discard a)) →
        Confined ctx.thread (body ctx v).2.store (around deliver discard set body ctx w).2.store)) ∨
    (openAll deliver set ctx w).1.ending ≠ .done ∧
      Confined ctx.thread w.store (around deliver discard set body ctx w).2.store := by
  induction set generalizing w with
  | nil =>
    have hrun : around deliver discard [] body ctx w =
        ((body ctx w).1.map (·, none), (body ctx w).2) := Act.map_run _ body ctx w
    rw [hrun]
    exact .inl ⟨[], w, rfl, .refl _ _, fun _ => .refl _ _⟩
  | cons pair rest ih =>
    obtain ⟨c, x⟩ := pair
    obtain ⟨hc, hrest⟩ := List.forall_mem_cons.1 hset
    have hwritten := c.write_store hd x ctx (w.acquired ctx.thread c)
    have hopened : Confined ctx.thread w.store
        (c.write deliver x ctx (w.acquired ctx.thread c)).2.store := by
      rw [hwritten]
      exact (override_dynamic (hk c hc) ctx.thread x).1
    let inside : Act (Hands υ) ε (α × Option Fault) := do
      c.write deliver x
      around deliver discard rest body
    -- The guard of the outermost scope is left after what is inside it, with the result of the body.
    have hleave : (∀ a fault, (inside ctx (w.acquired ctx.thread c)).1 = .done (a, fault) →
          Runs (Within K) (discard a)) →
        (∀ d, K d → (inside ctx (w.acquired ctx.thread c)).2.store.kind d = .dynamic) →
        Confined ctx.thread (inside ctx (w.acquired ctx.thread c)).2.store
          (around deliver discard ((c, x) :: rest) body ctx w).2.store := by
      intro hgone
      rw [around_cons]
      exact leave_within hd hgone rfl hc
    cases hwrite : c.write deliver x ctx (w.acquired ctx.thread c) with
    | mk o v₁ =>
    rw [hwrite] at hopened
    have hk₁ : ∀ d, K d → v₁.store.kind d = .dynamic := fun d hd =>
      (hopened.kind d).trans (hk d hd)
    cases o with
    | done =>
      have hinside : inside ctx (w.acquired ctx.thread c) = around deliver discard rest body ctx v₁ :=
        Act.bind_of_done hwrite
      rw [hinside] at hleave
      rcases ih hrest hk₁ with ⟨gs, v, hopen, hfound, hinner⟩ | ⟨hnot, hinner⟩
      · refine .inl ⟨_, v, openAll_cons_of_done hwrite hopen, hopened.trans hfound, fun hgone => ?_⟩
        have hleft := hinner hgone
        refine hleft.trans (hleave (fun a fault hends => ?_) fun d hd => ?_)
        · obtain ⟨gs', v', v'', hopen', hresult⟩ := done_of_around (Prod.ext hends rfl)
          obtain ⟨-, rfl⟩ := Prod.mk.inj (hopen.symm.trans hopen')
          exact hgone a (congrArg Prod.fst hresult)
        · rw [hleft.kind, hbody, hfound.kind]
          exact hk₁ d hd
      · refine .inr ⟨openAll_cons_not_done hwrite fun _ => hnot, ?_⟩
        refine (hopened.trans hinner).trans (hleave (fun a fault hends => ?_) fun d hd => ?_)
        · obtain ⟨gs, v, -, hopen, -⟩ := done_of_around (Prod.ext hends rfl)
          rw [hopen] at hnot
          exact absurd rfl hnot
        · rw [hinner.kind]
          exact hk₁ d hd
    | panicked message =>
      have hinside : inside ctx (w.acquired ctx.thread c) = (.panicked message, v₁) :=
        Act.bind_of_panicked hwrite
      rw [hinside] at hleave
      exact .inr ⟨openAll_cons_not_done hwrite nofun, hopened.trans (hleave nofun hk₁)⟩
    | halted =>
      have hinside : inside ctx (w.acquired ctx.thread c) = (.halted, v₁) := Act.bind_of_halted hwrite
      rw [hinside] at hleave
      exact .inr ⟨openAll_cons_not_done hwrite nofun, hopened.trans (hleave nofun hk₁)⟩

/-- A panic from inside a scope goes on after the cleanup, or the cleanup cuts the run off. -/
theorem leave_cut (ctx : Context) (cleanup : Act (Hands υ) ε Unit) (w v : World (Hands υ) ε)
    (message : String) :
    ∃ v', (∀ {β γ : Type} {m : Act (Hands υ) ε β} (next : β → Act (Hands υ) ε γ),
        m ctx w = (.panicked message, v) →
          (Act.onUnwind m cleanup >>= next) ctx w = (.halted, v')) ∨
      ∀ {β γ : Type} {m : Act (Hands υ) ε β} (next : β → Act (Hands υ) ε γ),
        m ctx w = (.panicked message, v) →
          (Act.onUnwind m cleanup >>= next) ctx w = (.panicked message, v') := by
  cases hcleanup : cleanup { ctx with unwinding := true } v with
  | mk o v' =>
  refine ⟨v', ?_⟩
  cases o with
  | done =>
    right
    intro β γ m next hm
    exact Act.bind_of_panicked (Act.onUnwind_of_panicked hm hcleanup)
  | panicked | halted =>
    left
    intro β γ m next hm
    apply Act.bind_of_halted
    unfold Act.onUnwind
    rw [hm]
    dsimp only
    rw [hcleanup]

/-- A run of overrides that does not come to what is inside them ends in the same way whatever that is. -/
def CutShort (deliver : Delivery (Hands υ) ε) (ctx : Context) (set : Overrides)
    (w v : World (Hands υ) ε) : Prop :=
  (∀ {γ : Type} (discard : γ → Act (Hands υ) ε Unit) (body : Act (Hands υ) ε γ),
      around deliver discard set body ctx w = (.halted, v)) ∨
    ∃ message, (openAll deliver set ctx w).1 = .panicked message ∧
      ∀ {γ : Type} (discard : γ → Act (Hands υ) ε Unit) (body : Act (Hands υ) ε γ),
        around deliver discard set body ctx w = (.panicked message, v)

/-- If putting overrides in place does not come to its end, it makes no difference what is inside them. -/
theorem around_cut {set : Overrides} {w : World (Hands υ) ε}
    (h : (openAll deliver set ctx w).1.ending ≠ .done) : ∃ v, CutShort deliver ctx set w v := by
  induction set generalizing w with
  | nil => exact absurd rfl h
  | cons pair rest ih =>
    obtain ⟨c, x⟩ := pair
    let w₁ := w.acquired ctx.thread c
    let cleanup : Act (Hands υ) ε Unit := (Guard.next w.store ctx.thread c).drop deliver
    have hopen : openAll deliver ((c, x) :: rest) ctx w = (do
        c.write deliver x
        return Guard.next w.store ctx.thread c :: (← openAll deliver rest)) ctx w₁ := rfl
    -- Where what is inside the first scope panics, the scope is left in the same way each time.
    have hleave : ∀ v message, (openAll deliver ((c, x) :: rest) ctx w).1 = .panicked message →
        (∀ {γ : Type} (discard : γ → Act (Hands υ) ε Unit) (body : Act (Hands υ) ε γ),
          (do c.write deliver x; around deliver discard rest body) ctx w₁ =
            (.panicked message, v)) →
        ∃ v, CutShort deliver ctx ((c, x) :: rest) w v := by
      intro v message hpanic hinside
      obtain ⟨v', hcut | hcut⟩ := leave_cut ctx cleanup w₁ v message
      · refine ⟨v', .inl fun discard body => ?_⟩
        rw [around_cons]
        exact hcut _ (hinside discard body)
      · refine ⟨v', .inr ⟨message, hpanic, fun discard body => ?_⟩⟩
        rw [around_cons]
        exact hcut _ (hinside discard body)
    cases hwrite : c.write deliver x ctx w₁ with
    | mk o v₁ =>
    cases o with
    | done =>
      rw [Act.bind_of_done hwrite] at hopen
      have hrest : (openAll deliver rest ctx v₁).1.ending ≠ .done := by
        intro hdone
        obtain ⟨inner, hinner⟩ := Outcome.done_of_ending hdone
        rw [openAll_cons_of_done hwrite hinner] at h
        exact h rfl
      obtain ⟨v, hhalted | ⟨message, hpanic, hinner⟩⟩ := ih hrest
      · refine ⟨v, .inl fun discard body => ?_⟩
        rw [around_cons]
        apply Act.bind_of_halted (Act.onUnwind_of_halted _)
        exact (Act.bind_of_done hwrite).trans (hhalted discard body)
      · refine hleave v message ?_ fun discard body =>
          (Act.bind_of_done hwrite).trans (hinner discard body)
        rw [hopen]
        exact congrArg Prod.fst (Act.bind_of_panicked (Prod.ext hpanic rfl))
    | panicked message =>
      refine hleave v₁ message ?_ fun discard body => Act.bind_of_panicked hwrite
      rw [hopen]
      exact congrArg Prod.fst (Act.bind_of_panicked hwrite)
    | halted =>
      refine ⟨v₁, .inl fun discard body => ?_⟩
      rw [around_cons]
      exact Act.bind_of_halted (Act.onUnwind_of_halted (Act.bind_of_halted hwrite))

end Overrides

end Scopes

end ScopedBinding
