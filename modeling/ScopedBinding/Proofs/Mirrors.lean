import ScopedBinding.Proofs.GuardStates
import ScopedBinding.Proofs.Routine

/-!
# Two runs side by side

`Mirrors` compares an action that a thread runs alone with one that it runs amid others. From
worlds that match for the thread they end in the same way, in worlds that match again, under a
renaming that has all the numbers of the one before and those of the frames opened since. The
second run must not use up the frame numbers.

There is one rule for each way to put actions together, and for a turn of the other threads.
-/

set_option autoImplicit false

namespace ScopedBinding

open Act (Leads)

/-! ## Matching worlds -/

/-- Guards of frames that stand for each other. -/
structure Guard.Matches (V : CellId → Prop) (ρ : Renaming) (g g' : Guard) : Prop where
  known : V g.cell
  cell : g'.cell = g.cell
  frame : ρ g.frame g'.frame
  state : g'.state = g.state

/-- Guards that match do so under every later renaming. -/
theorem Guard.Matches.mono {V : CellId → Prop} {ρ ρ' : Renaming} {g g' : Guard}
    (h : g.Matches V ρ g') (hρ : ρ ≤ ρ') : g.Matches V ρ' g' :=
  ⟨h.known, h.cell, hρ _ _ h.frame, h.state⟩

/-- Guards in hand that match if they belong to the thread. -/
structure HeldGuard.Matches (t : ThreadId) (V : CellId → Prop) (ρ : Renaming) (h h' : HeldGuard) :
    Prop where
  thread : h'.thread = h.thread
  guard : h.thread = t → h.guard.Matches V ρ h'.guard

/-- Guards in hand that match do so under every later renaming. -/
theorem HeldGuard.Matches.mono {t : ThreadId} {V : CellId → Prop} {ρ ρ' : Renaming}
    {h h' : HeldGuard} (hm : h.Matches t V ρ h') (hρ : ρ ≤ ρ') : h.Matches t V ρ' h' :=
  ⟨hm.thread, fun ht => (hm.guard ht).mono hρ⟩

/-- Results that match, and faults that match. -/
inductive Except.Matches {ε ε' α β : Type} (E : ε → ε' → Prop) (R : α → β → Prop) :
    Except ε α → Except ε' β → Prop where
  | ok {a : α} {b : β} (h : R a b) : Matches E R (.ok a) (.ok b)
  | error {e : ε} {e' : ε'} (h : E e e') : Matches E R (.error e) (.error e')

/-- Runs that end in the same way. -/
inductive Outcome.Matches {α β : Type} (ρ : Renaming) (R : α → β → Prop) :
    Outcome α → Outcome β → Prop where
  | done {a : α} {b : β} (h : R a b) : Matches ρ R (.done a) (.done b)
  | panicked {x y : String} (h : MessageMatches ρ x y) : Matches ρ R (.panicked x) (.panicked y)
  | halted : Matches ρ R .halted .halted

/-- Runs that end in the same way, with a weaker relation between their values. -/
theorem Outcome.Matches.imp {α β : Type} {ρ : Renaming} {R S : α → β → Prop}
    (h : ∀ a b, R a b → S a b) {o : Outcome α} {o' : Outcome β} (ho : o.Matches ρ R o') :
    o.Matches ρ S o' := by
  cases ho with
  | done hab => exact .done (h _ _ hab)
  | panicked hxy => exact .panicked hxy
  | halted => exact .halted

section Worlds

variable {σ ε : Type}

/-- Worlds in which a thread sees the same and has the same in its hands. The policy is decided. -/
structure World.Matches (t : ThreadId) (V : CellId → Prop) (ρ : Renaming)
    (w w' : World (Hands (Known σ)) ε) : Prop where
  store : w.store.Matches t V ρ w'.store
  settings : w'.settings = w.settings
  active : ∃ policy, w.settings.active = some policy
  frames : List.Forall₂ ρ w.host.own.frames w'.host.own.frames
  issued : w'.host.issued = w.host.issued
  guards : ∀ n, Option.Rel (HeldGuard.Matches t V ρ) (w.host.guards.get? n)
    (w'.host.guards.get? n)

/-- Other threads, which change no root of the variables and nothing of what the thread has. -/
structure Intrudes (t : ThreadId) (V : CellId → Prop)
    (others : World (Hands (Known σ)) ε → World (Hands (Known σ)) ε) : Prop where
  store : ∀ w, Relation.ReflTransGen (Store.Foreign t V) w.store (others w).store
  settings : ∀ w, (others w).settings = w.settings
  frames : ∀ w, (others w).host.own.frames = w.host.own.frames
  issued : ∀ w, (others w).host.issued = w.host.issued
  guards : ∀ w, (others w).host.guards = w.host.guards

variable {t : ThreadId} {V : CellId → Prop} {ρ ρ' : Renaming} {w w' : World (Hands (Known σ)) ε}
  {others : World (Hands (Known σ)) ε → World (Hands (Known σ)) ε}

/-- Other threads let the store evolve. -/
theorem Intrudes.evolves (h : Intrudes t V others) (w : World (Hands (Known σ)) ε) :
    EvolvesStore w (others w) := by
  have hsteps := h.store w
  unfold EvolvesStore
  generalize (others w).store = s at hsteps ⊢
  induction hsteps with
  | refl => exact .refl w.store
  | tail _ hstep ih =>
    obtain ⟨u, -, hby, -⟩ := hstep
    exact ih.trans hby.evolves

namespace World.Matches

/-- Changes of the store that match, and any notes. -/
theorem with_store (h : World.Matches t V ρ w w') (hρ : ρ ≤ ρ') {s s' : Store}
    (hs : s.Matches t V ρ' s') (J J' : List (Note ε)) :
    World.Matches t V ρ' { w with store := s, journal := J }
      { w' with store := s', journal := J' } where
  store := hs
  settings := h.settings
  active := h.active
  frames := h.frames.imp hρ
  issued := h.issued
  guards n := Option.Rel.imp (fun _ _ hg => hg.mono hρ) (h.guards n)

/-- Notes make no difference. -/
theorem with_journal (h : World.Matches t V ρ w w') (J J' : List (Note ε)) :
    World.Matches t V ρ { w with journal := J } { w' with journal := J' } :=
  h.with_store le_rfl h.store J J'

/-- A turn of the other threads makes no difference. -/
theorem turn (h : World.Matches t V ρ w w') (ho : Intrudes t V others) :
    World.Matches t V ρ w (others w') where
  store := h.store.foreign_many (ho.store w')
  settings := (ho.settings w').trans h.settings
  active := h.active
  frames := by
    rw [ho.frames]
    exact h.frames
  issued := (ho.issued w').trans h.issued
  guards n := by
    rw [ho.guards]
    exact h.guards n

end World.Matches

/-! ## Actions side by side -/

variable {α β α' β' : Type}

/-- An action run alone and one run amid others, whose values are related. -/
def Mirrors (t : ThreadId) (V : CellId → Prop) (ρ : Renaming) (R : Renaming → α → β → Prop)
    (m : Act (Hands (Known σ)) ε α) (m' : Act (Hands (Known σ)) ε β) : Prop :=
  ∀ (unwinding : Bool) (ρ₁ : Renaming) (w w' : World (Hands (Known σ)) ε), ρ ≤ ρ₁ →
    World.Matches t V ρ₁ w w' → (m' ⟨t, unwinding⟩ w').2.store.framesIssued < 2 ^ 64 →
    ∃ ρ₂, ρ₁ ≤ ρ₂ ∧
      (m ⟨t, unwinding⟩ w).1.Matches ρ₂ (R ρ₂) (m' ⟨t, unwinding⟩ w').1 ∧
      World.Matches t V ρ₂ (m ⟨t, unwinding⟩ w).2 (m' ⟨t, unwinding⟩ w').2

namespace Mirrors

variable {R : Renaming → α → β → Prop} {S : Renaming → α' → β' → Prop}
  {m : Act (Hands (Known σ)) ε α} {m' : Act (Hands (Known σ)) ε β}

/-- An action mirrors another under every later renaming. -/
theorem mono (h : Mirrors t V ρ R m m') (hρ : ρ ≤ ρ') : Mirrors t V ρ' R m m' :=
  fun unwinding ρ₁ w w' hρ₁ => h unwinding ρ₁ w w' (hρ.trans hρ₁)

/-- An action mirrors another with a weaker relation between their values. -/
theorem weaken {R' : Renaming → α → β → Prop} (h : Mirrors t V ρ R m m')
    (hR : ∀ ρ₁ a b, R ρ₁ a b → R' ρ₁ a b) : Mirrors t V ρ R' m m' := by
  intro unwinding ρ₁ w w' hρ hw hn
  obtain ⟨ρ₂, hρ₂, hout, hw₂⟩ := h unwinding ρ₁ w w' hρ hw hn
  exact ⟨ρ₂, hρ₂, hout.imp (hR ρ₂), hw₂⟩

/-- Actions that end with values, as their runs tell. -/
theorem of_done (h : ∀ unwinding ρ₁ w w', ρ ≤ ρ₁ → World.Matches t V ρ₁ w w' →
      (m' ⟨t, unwinding⟩ w').2.store.framesIssued < 2 ^ 64 →
      ∃ ρ₂ a b v v', ρ₁ ≤ ρ₂ ∧ m ⟨t, unwinding⟩ w = (.done a, v) ∧
        m' ⟨t, unwinding⟩ w' = (.done b, v') ∧ R ρ₂ a b ∧ World.Matches t V ρ₂ v v') :
    Mirrors t V ρ R m m' := by
  intro unwinding ρ₁ w w' hρ hw hn
  obtain ⟨ρ₂, a, b, v, v', hρ₂, hm, hm', hab, hv⟩ := h unwinding ρ₁ w w' hρ hw hn
  rw [hm, hm']
  exact ⟨ρ₂, hρ₂, .done hab, hv⟩

/-- Values that are related. -/
theorem pure {a : α} {b : β} (h : ∀ ρ₁, ρ ≤ ρ₁ → R ρ₁ a b) :
    Mirrors t V ρ R (pure a : Act (Hands (Known σ)) ε α) (pure b) :=
  of_done fun _ ρ₁ w w' hρ hw _ => ⟨ρ₁, a, b, w, w', le_rfl, rfl, rfl, h ρ₁ hρ, hw⟩

/-- Panics with messages that match. -/
theorem panic {x y : String} (h : MessageMatches ρ x y) :
    Mirrors t V ρ R (Act.panic x : Act (Hands (Known σ)) ε α) (Act.panic y) :=
  fun _ ρ₁ _ _ hρ hw _ => ⟨ρ₁, le_rfl, .panicked (h.mono hρ), hw⟩

/-- Messages may be different. -/
theorem log (x y : LogMessage) :
    Mirrors t V ρ (fun _ _ _ => True) (Act.log x : Act (Hands (Known σ)) ε Unit) (Act.log y) :=
  of_done fun _ ρ₁ _ _ _ hw _ =>
    ⟨ρ₁, (), (), _, _, le_rfl, rfl, rfl, trivial, hw.with_journal _ _⟩

/-- One action after another. What follows in the second run gives no frame numbers back. -/
theorem bind {k : α → Act (Hands (Known σ)) ε α'} {k' : β → Act (Hands (Known σ)) ε β'}
    (hm : Mirrors t V ρ R m m') (hgrows : ∀ b, Leads EvolvesStore (k' b))
    (hk : ∀ ρ₁, ρ ≤ ρ₁ → ∀ a b, R ρ₁ a b → Mirrors t V ρ₁ S (k a) (k' b)) :
    Mirrors t V ρ S (m >>= k) (m' >>= k') := by
  intro unwinding ρ₁ w w' hρ hw hn
  have hgrown := Leads.bind_right EvolvesStore.revising.toPlain.calm m' hgrows ⟨t, unwinding⟩ w'
  have hfirst : (m' ⟨t, unwinding⟩ w').2.store.framesIssued < 2 ^ 64 :=
    Nat.lt_of_le_of_lt hgrown.framesIssued_le hn
  obtain ⟨ρ₂, hρ₂, hout, hw₂⟩ := hm unwinding ρ₁ w w' hρ hw hfirst
  cases hrun : m ⟨t, unwinding⟩ w with
  | mk o v =>
  cases hrun' : m' ⟨t, unwinding⟩ w' with
  | mk o' v' =>
  rw [hrun, hrun'] at hout hw₂
  cases hout with
  | done hab =>
    rw [Act.bind_of_done hrun'] at hn
    rw [Act.bind_of_done hrun, Act.bind_of_done hrun']
    obtain ⟨ρ₃, hρ₃, hend⟩ := hk ρ₂ (hρ.trans hρ₂) _ _ hab unwinding ρ₂ v v' le_rfl hw₂ hn
    exact ⟨ρ₃, hρ₂.trans hρ₃, hend⟩
  | panicked hxy =>
    rw [Act.bind_of_panicked hrun, Act.bind_of_panicked hrun']
    exact ⟨ρ₂, hρ₂, .panicked hxy, hw₂⟩
  | halted =>
    rw [Act.bind_of_halted hrun, Act.bind_of_halted hrun']
    exact ⟨ρ₂, hρ₂, .halted, hw₂⟩

/-- An action with its cleanup. -/
theorem onUnwind {cleanup cleanup' : Act (Hands (Known σ)) ε Unit} (hm : Mirrors t V ρ R m m')
    (hgrows : Leads EvolvesStore cleanup')
    (hc : Mirrors t V ρ (fun _ _ _ => True) cleanup cleanup') :
    Mirrors t V ρ R (Act.onUnwind m cleanup) (Act.onUnwind m' cleanup') := by
  intro unwinding ρ₁ w w' hρ hw hn
  have hfirst : (m' ⟨t, unwinding⟩ w').2.store.framesIssued < 2 ^ 64 := by
    refine Nat.lt_of_le_of_lt ?_ hn
    unfold Act.onUnwind
    generalize m' ⟨t, unwinding⟩ w' = run
    obtain ⟨b | x | _, v'⟩ := run
    · exact Nat.le_refl _
    · have hcleanup := (hgrows ⟨t, true⟩ v').framesIssued_le
      dsimp only
      generalize cleanup' ⟨t, true⟩ v' = run at hcleanup ⊢
      obtain ⟨_ | _ | _, v''⟩ := run <;> exact hcleanup
    · exact Nat.le_refl _
  obtain ⟨ρ₂, hρ₂, hout, hw₂⟩ := hm unwinding ρ₁ w w' hρ hw hfirst
  cases hrun : m ⟨t, unwinding⟩ w with
  | mk o v =>
  cases hrun' : m' ⟨t, unwinding⟩ w' with
  | mk o' v' =>
  rw [hrun, hrun'] at hout hw₂
  cases hout with
  | done hab =>
    rw [Act.onUnwind_of_done hrun, Act.onUnwind_of_done hrun']
    exact ⟨ρ₂, hρ₂, .done hab, hw₂⟩
  | halted =>
    rw [Act.onUnwind_of_halted hrun, Act.onUnwind_of_halted hrun']
    exact ⟨ρ₂, hρ₂, .halted, hw₂⟩
  | panicked hxy =>
    -- Both cleanups run, on a thread that is unwinding.
    unfold Act.onUnwind at hn ⊢
    rw [hrun'] at hn
    rw [hrun, hrun']
    dsimp only at hn ⊢
    have hlast : (cleanup' ⟨t, true⟩ v').2.store.framesIssued < 2 ^ 64 := by
      refine Nat.lt_of_le_of_lt (Nat.le_of_eq ?_) hn
      generalize cleanup' ⟨t, true⟩ v' = run
      obtain ⟨_ | _ | _, v''⟩ := run <;> rfl
    obtain ⟨ρ₃, hρ₃, hend, hw₃⟩ := hc true ρ₂ v v' (hρ.trans hρ₂) hw₂ hlast
    refine ⟨ρ₃, hρ₂.trans hρ₃, ?_⟩
    generalize cleanup ⟨t, true⟩ v = run at hend hw₃ ⊢
    generalize cleanup' ⟨t, true⟩ v' = run' at hend hw₃ ⊢
    obtain ⟨e, x⟩ := run
    obtain ⟨e', x'⟩ := run'
    dsimp only at hend hw₃
    cases hend with
    | done _ => exact ⟨.panicked (hxy.mono hρ₃), hw₃⟩
    | panicked _ => exact ⟨.halted, hw₃⟩
    | halted => exact ⟨.halted, hw₃⟩

/-- Whether an action panics, and its value if it does not. -/
theorem attempt (hm : Mirrors t V ρ R m m') :
    Mirrors t V ρ (fun ρ₁ => Option.Rel (R ρ₁)) (do return (← Act.attempt m).toOption)
      (do return (← Act.attempt m').toOption) := by
  have hworld {γ : Type} (n : Act (Hands (Known σ)) ε γ) (ctx : Context)
      (w : World (Hands (Known σ)) ε) : (Act.attempt n ctx w).2 = (n ctx w).2 := by
    unfold Act.attempt
    generalize n ctx w = run
    obtain ⟨_ | _ | _, _⟩ := run <;> rfl
  intro unwinding ρ₁ w w' hρ hw hn
  rw [Act.map_run, hworld] at hn
  rw [Act.map_run, Act.map_run, hworld, hworld]
  obtain ⟨ρ₂, hρ₂, hout, hw₂⟩ := hm unwinding ρ₁ w w' hρ hw hn
  refine ⟨ρ₂, hρ₂, ?_, hw₂⟩
  unfold Act.attempt
  generalize m ⟨t, unwinding⟩ w = run at hout ⊢
  generalize m' ⟨t, unwinding⟩ w' = run' at hout ⊢
  obtain ⟨o, v⟩ := run
  obtain ⟨o', v'⟩ := run'
  dsimp only at hout ⊢
  cases hout with
  | done hab => exact .done (.some hab)
  | panicked _ => exact .done .none
  | halted => exact .halted

/-- A turn of the other threads makes no difference. -/
theorem after (ho : Intrudes t V others) (hm : Mirrors t V ρ R m m') :
    Mirrors t V ρ R (Act.after id m) (Act.after others m') :=
  fun unwinding ρ₁ w w' hρ hw hn => hm unwinding ρ₁ w (others w') hρ (hw.turn ho) hn

end Mirrors

end Worlds

end ScopedBinding
