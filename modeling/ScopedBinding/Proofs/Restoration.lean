import ScopedBinding.Proofs.Survival

/-!
# Scopes restore what they override

A program that opens frames only by scopes leaves every stack of every thread as it found it,
whichever way it ends and wherever a watch panics (`scoped_programs_restore`).

What an override does to the store is told by `Overridden`: a frame is opened, the value is set, the
inner overrides and the body have their effect, and the frame is closed. Inside, the stacks are kept,
so the frame is innermost again when it is closed, and a second try to close it finds an older frame.
That older frame has another number as long as the numbers do not repeat. If the end of a scope panics,
the result of the body goes away next, and what this does to the store follows.

A program ends in one of these ways if no alteration waits for a lock that the program has itself
(`Program.Apart`).
-/

set_option autoImplicit false

namespace ScopedBinding

namespace Store

variable {s s' s'' : Store} {t : ThreadId} {c d : CellId} {f : FrameId}

/-- A frame that can be closed is closed. -/
theorem close_of_ok {r : Replaced} (h : s.pop t c f = .ok (r, s')) : s.close t c f = s' := by
  unfold close
  rw [h]

/-- A frame that cannot be closed leaves the store as it is. -/
theorem close_of_error {fault : Fault} (h : s.pop t c f = .error fault) : s.close t c f = s := by
  unfold close
  rw [h]

/-- Closing a frame takes no number. -/
theorem framesIssued_close (s : Store) (t : ThreadId) (c : CellId) (f : FrameId) :
    (s.close t c f).framesIssued = s.framesIssued := by
  cases h : s.pop t c f with
  | error fault => rw [close_of_error h]
  | ok result => rw [close_of_ok h, framesIssued_pop h]

/-- Closing a frame keeps all frames in order. -/
theorem WellFormed.close (hs : s.WellFormed) (t : ThreadId) (c : CellId) (f : FrameId) :
    (s.close t c f).WellFormed := by
  cases h : s.pop t c f with
  | error fault =>
    rw [close_of_error h]
    exact hs
  | ok result =>
    rw [close_of_ok h]
    exact hs.pop h

/-- Closing a frame of another variable. -/
theorem sameAt_close (s : Store) (t : ThreadId) (f : FrameId) (h : d ≠ c) :
    SameAt d s (s.close t c f) := by
  cases hp : s.pop t c f with
  | error fault =>
    rw [close_of_error hp]
    exact .refl d s
  | ok result =>
    rw [close_of_ok hp]
    exact sameAt_pop h hp

/-- A frame is closed, or that is tried twice. -/
def Closes (t : ThreadId) (c : CellId) (f : FrameId) (s s' : Store) : Prop :=
  s' = s.close t c f ∨ s' = (s.close t c f).close t c f

namespace Closes

/-- Closing takes no number, however often it is tried. -/
theorem framesIssued (h : Closes t c f s s') : s'.framesIssued = s.framesIssued := by
  rcases h with rfl | rfl
  · exact framesIssued_close s t c f
  · rw [framesIssued_close, framesIssued_close]

/-- Closing keeps all frames in order, however often it is tried. -/
theorem wellFormed (h : Closes t c f s s') (hs : s.WellFormed) : s'.WellFormed := by
  rcases h with rfl | rfl
  · exact hs.close t c f
  · exact (hs.close t c f).close t c f

/-- Closing a frame of another variable, however often it is tried. -/
theorem sameAt (h : Closes t c f s s') (hd : d ≠ c) : SameAt d s s' := by
  rcases h with rfl | rfl
  · exact s.sameAt_close t f hd
  · exact (s.sameAt_close t f hd).trans (sameAt_close _ t f hd)

end Closes

/-- What a program does to the store if it opens frames only by scopes. The stacks are kept if the
frame numbers do not repeat. -/
structure Restored (s s' : Store) : Prop where
  framesIssued_le : s.framesIssued ≤ s'.framesIssued
  wellFormed : s.WellFormed → s'.WellFormed
  keepsStacks : s.WellFormed → s'.framesIssued ≤ 2 ^ 64 → KeepsStacks s s'

namespace Restored

/-- A program that does nothing keeps the stacks. -/
theorem refl (s : Store) : Restored s s :=
  ⟨Nat.le_refl _, id, fun _ _ => .refl s⟩

/-- Stacks that are kept by one part and by the next are kept. -/
theorem trans (h : Restored s s') (h' : Restored s' s'') : Restored s s'' := by
  refine ⟨Nat.le_trans h.framesIssued_le h'.framesIssued_le, fun hs => ?_, fun hs hn => ?_⟩
  · exact h'.wellFormed (h.wellFormed hs)
  · have hkeep := h.keepsStacks hs (Nat.le_trans h'.framesIssued_le hn)
    exact hkeep.trans (h'.keepsStacks (h.wellFormed hs) hn)

/-- A change that opens and closes no frame keeps the stacks. -/
theorem of_revises (h : s.Revises s') : Restored s s' :=
  ⟨h.framesIssued_le, h.wellFormed, fun _ _ => h.keepsStacks⟩

end Restored

/-- A second try to close the frame of a scope meets an older frame, with another number, and is
rejected. -/
theorem WellFormed.pop_again (hs : s.WellFormed) (hn : s.framesIssued < 2 ^ 64)
    (hstack : s'.stack t c = s.stack t c) :
    ∃ fault, s'.pop t c (s.push t c).1.id = .error fault := by
  refine ⟨_, pop_of_not_top ?_⟩
  rw [hstack]
  intro heq
  obtain ⟨old, hold, hid⟩ := Option.map_eq_some_iff.1 heq
  have hissued := (hs c).issued t old (List.mem_of_mem_head? hold)
  exact FrameId.ne_afterIssued hissued hn (hid.trans (push_fst_id s t c))

/-- A second try to close the frame of a scope changes nothing. -/
theorem WellFormed.close_again (hs : s.WellFormed) (hn : s.framesIssued < 2 ^ 64)
    (hstack : s'.stack t c = s.stack t c) : s'.close t c (s.push t c).1.id = s' := by
  obtain ⟨fault, hpop⟩ := hs.pop_again hn hstack
  exact close_of_error hpop

/-- The end of a scope. Its frame is innermost, closing it gives every stack back, and it cannot be
closed twice. -/
theorem Restored.pop_scope (hs : s.WellFormed) (hbody : Restored (s.push t c).2 s')
    (hn : s'.framesIssued ≤ 2 ^ 64) :
    ∃ r s'', s'.pop t c (s.push t c).1.id = .ok (r, s'') ∧ KeepsStacks s s'' ∧
      ∀ s₃, Closes t c (s.push t c).1.id s' s₃ → s₃ = s'' := by
  have hpushed := hs.push t c
  have hinside := hbody.keepsStacks hpushed hn
  have htop : s'.stack t c = (s.stack t c).push (s.push t c).1 := by
    rw [hinside.stack, stack_push, if_pos ⟨rfl, .inr rfl⟩]
  obtain ⟨r, s'', hpop⟩ := pop_of_top htop
  obtain ⟨frame, rest, -, hstack, hrest⟩ := stack_pop hpop
  have hsame : rest = s.stack t c := (FrameStack.push_inj (hstack.symm.trans htop)).1
  have hkind : ∀ d, s'.kind d = s.kind d := fun d => (hinside.kind d).trans (kind_push s t c d)
  have hkeep : KeepsStacks s s'' := by
    refine ⟨fun u d => ?_, fun d => (kind_pop hpop d).trans (hkind d)⟩
    rw [hrest, hsame, hinside.stack, stack_push]
    have hiff : s'.SameStack c t u ↔ s.SameStack c t u := by
      unfold SameStack
      rw [hkind]
    simp only [hiff]
    split
    · next hd =>
      obtain ⟨rfl, hu⟩ := hd
      exact hu.stack_eq.symm
    · rfl
  have hclose := close_of_ok hpop
  refine ⟨r, s'', hpop, hkeep, ?_⟩
  have hagain : s''.close t c (s.push t c).1.id = s'' := by
    have hle := hbody.framesIssued_le
    rw [framesIssued_push] at hle
    exact hs.close_again (by omega) (hkeep.stack t c)
  rintro s₃ (rfl | rfl)
  · exact hclose
  · rw [hclose, hagain]

/-- A scope around what keeps the stacks keeps them. -/
theorem Restored.scope (hbody : Restored (s.push t c).2 s')
    (hclose : Closes t c (s.push t c).1.id s' s'') : Restored s s'' := by
  have hle := hbody.framesIssued_le
  rw [framesIssued_push] at hle
  refine ⟨?_, fun hs => ?_, fun hs hn => ?_⟩
  · rw [hclose.framesIssued]
    omega
  · exact hclose.wellFormed (hbody.wellFormed (hs.push t c))
  · rw [hclose.framesIssued] at hn
    obtain ⟨r, s₃, -, hkeep, hunique⟩ := hbody.pop_scope hs hn
    rw [hunique s'' hclose]
    exact hkeep

/-- After a scope a thread sees what it saw before, unless the variable is dynamic and it had not
bound it. -/
theorem Restored.read_scope (hs : s.WellFormed) (hbody : Restored (s.push t c).2 s')
    (hclose : Closes t c (s.push t c).1.id s' s'') (hn : s''.framesIssued ≤ 2 ^ 64)
    (hvis : s.kind c = .root ∨ s.isBound t c = true) : s''.read t c = s.read t c := by
  rw [hclose.framesIssued] at hn
  obtain ⟨r, s₃, hpop, -, hunique⟩ := hbody.pop_scope hs hn
  obtain rfl := hunique s'' hclose
  have hinside := hbody.keepsStacks (hs.push t c) hn
  have htop : s'.stack t c = (s.stack t c).push (s.push t c).1 := by
    rw [hinside.stack, stack_push, if_pos ⟨rfl, .inr rfl⟩]
  have hkind : s'.kind c = s.kind c := (hinside.kind c).trans (kind_push s t c c)
  rw [← (hs c).saved_push t]
  refine ((hbody.wellFormed (hs.push t c) c).read_pop htop hpop).1 ?_
  rw [hkind]
  exact hs.has_frame hvis

/-- What a thread sees of a variable is what it saw before, and so is whether it has bound it. A
dynamic variable that it had not bound is not bound, and the thread sees its root. -/
structure GivenBack (t : ThreadId) (c : CellId) (s s' : Store) : Prop where
  root : s.kind c = .root → s'.root c = s.root c
  bound : s.kind c = .dynamic → s.isBound t c = true →
    s'.isBound t c = true ∧ s'.read t c = s.read t c
  unbound : s.kind c = .dynamic → s.isBound t c = false →
    s'.isBound t c = false ∧ s'.read t c = s'.root c

/-- A variable is given back if its stack is and what was bound is seen again. -/
theorem GivenBack.of_stack (hs : s.WellFormed) (hs' : s'.WellFormed) (hkind : s'.kind c = s.kind c)
    (hstack : s'.stack t c = s.stack t c)
    (hread : s.kind c = .root ∨ s.isBound t c = true → s'.read t c = s.read t c) :
    GivenBack t c s s' := by
  have hbound : s.kind c = .dynamic → (s'.isBound t c = true ↔ s.isBound t c = true) := by
    intro hk
    rw [hs.isBound_iff hk, hs'.isBound_iff (hkind.trans hk), hstack]
  refine ⟨fun hk => ?_, fun hk hb => ⟨(hbound hk).2 hb, hread (.inr hb)⟩, fun hk hb => ?_⟩
  · have hsame := hread (.inl hk)
    rw [(hs _).read_of_root hk, (hs' _).read_of_root (hkind.trans hk)] at hsame
    exact hsame
  · have hunbound : s'.isBound t c = false := by
      rw [Bool.eq_false_iff]
      intro hb'
      rw [(hbound hk).1 hb'] at hb
      cases hb
    exact ⟨hunbound, read_of_not_bound hunbound⟩

end Store

open Store (Restored Closes GivenBack)

/-- What overriding variables around a body does to the store. A watch may panic when a value is set;
then the body does not come to run. What may happen after a frame was closed is that the result of the
body goes away. -/
inductive Overridden (gone : Store → Store → Prop) (t : ThreadId) : Overrides → Store → Store → Prop where
  | body {s s' : Store} (h : Restored s s') : Overridden gone t [] s s'
  | scope {c : CellId} {v : Value} {rest : Overrides} {s s' s'' s₃ : Store}
      (h : Overridden gone t rest ((s.push t c).2.write t c v).2 s')
      (hclose : Closes t c (s.push t c).1.id s' s'') (hgone : s₃ = s'' ∨ gone s'' s₃) :
      Overridden gone t ((c, v) :: rest) s s₃
  | cut {c : CellId} {v : Value} {rest : Overrides} {s s' s'' : Store}
      (hclose : Closes t c (s.push t c).1.id ((s.push t c).2.write t c v).2 s')
      (hgone : s'' = s' ∨ gone s' s'') : Overridden gone t ((c, v) :: rest) s s''

namespace Overridden

variable {gone : Store → Store → Prop} {t : ThreadId} {set : Overrides} {s s' : Store}

/-- Overriding variables keeps the stacks if a result that goes away does. -/
theorem restored (hgone : ∀ s s', gone s s' → Restored s s') (h : Overridden gone t set s s') :
    Restored s s' := by
  have hafter : ∀ {s₁ s₂ s₃ : Store}, Restored s₁ s₂ → s₃ = s₂ ∨ gone s₂ s₃ → Restored s₁ s₃ := by
    rintro s₁ s₂ s₃ hscope (rfl | h)
    · exact hscope
    · exact hscope.trans (hgone _ _ h)
  induction h with
  | body h => exact h
  | scope h hclose hlast ih =>
    exact hafter (.scope ((Restored.of_revises (.write _ _ _)).trans ih) hclose) hlast
  | cut hclose hlast => exact hafter (.scope (.of_revises (.write _ _ _)) hclose) hlast

/-- If the result owns no guard, the thread sees what it saw before of each variable that is shared or
that it had bound. -/
theorem read (h : Overridden Eq t set s s') (hs : s.WellFormed) (hn : s'.framesIssued ≤ 2 ^ 64)
    {c : CellId} (hc : c ∈ set.map Prod.fst) (hvis : s.kind c = .root ∨ s.isBound t c = true) :
    s'.read t c = s.read t c := by
  induction h with
  | body h => cases hc
  | @scope d v rest s s₂ s₃ s₄ h hclose hafter ih =>
    obtain rfl : s₄ = s₃ := by rcases hafter with h | h <;> rw [h]
    have hbody := (Restored.of_revises (.write t d v)).trans
      (h.restored fun s s' (heq : s = s') => heq ▸ .refl s)
    by_cases hd : c = d
    · subst hd
      exact hbody.read_scope hs hclose hn hvis
    · have hwritten : Store.SameAt c s ((s.push t d).2.write t d v).2 :=
        (s.sameAt_push t hd).trans (Store.sameAt_write _ t hd v)
      rw [(hclose.sameAt hd).read, ← hwritten.read]
      rw [hclose.framesIssued] at hn
      refine ih ((hs.push t d).write t d v) hn ?_ ?_
      · simpa [hd] using hc
      · rw [hwritten.kind]
        unfold Store.isBound at hvis ⊢
        rw [hwritten.binding]
        exact hvis
  | @cut d v rest s s₃ s₄ hclose hafter =>
    obtain rfl : s₄ = s₃ := by rcases hafter with h | h <;> rw [h]
    by_cases hd : c = d
    · subst hd
      exact (Restored.of_revises (.write t c v)).read_scope hs hclose hn hvis
    · rw [(hclose.sameAt hd).read, (Store.sameAt_write _ t hd v).read, (s.sameAt_push t hd).read]

end Overridden

/-! ## Running scopes -/

open Act (Leads Ends)

/-- What a program does to the store of its world if it opens frames only by scopes. -/
def RestoredStore {η ε : Type} (w w' : World η ε) : Prop :=
  Restored w.store w'.store

/-- What opens and closes no frame keeps the stacks. -/
theorem RestoredStore.revising {η ε : Type} : Revising (@RestoredStore η ε) where
  refl w := .refl w.store
  trans h h' := Restored.trans h h'
  settings w _ := .refl w.store
  note w _ _ := .refl w.store
  store _ _ hs := .of_revises hs

/-- A run that is not cut off keeps the stacks. -/
def Act.Restores {η ε α : Type} (m : Act η ε α) : Prop :=
  ∀ ctx w, (m ctx w).1.ending ≠ .halted → Restored w.store (m ctx w).2.store

namespace Act.Restores

variable {η ε α : Type}

/-- An action that keeps the stacks wherever it stops. -/
theorem of_leads {m : Act η ε α} (h : Leads RestoredStore m) : Restores m :=
  fun ctx w _ => h ctx w

/-- Whether the stacks are kept follows from the parts of an action. -/
theorem composes : Composes (Same fun {α} (m : Act η ε α) => Restores m)
    (Same fun {α} (m : Act η ε α) => Restores m) := by
  let Q (_ : Context) (w : World η ε) (e : Ending) (w' : World η ε) : Prop :=
    e ≠ .halted → Restored w.store w'.store
  have hstill : ∀ ctx w, Q ctx w .done w := fun _ w _ => .refl w.store
  refine (Runs.sequences (Q := Q) hstill (fun _ w _ _ => .refl w.store)
    fun h h' he => (h nofun).trans (h' he)).composes (D := Q) hstill (fun _ w _ _ => .refl w.store) ?_
  intro ctx w w' e w'' h h' he
  cases e with
  | done => exact (h nofun).trans (h' nofun)
  | panicked => exact absurd rfl he
  | halted => exact absurd rfl he

/-- An action whose panic is stopped. -/
theorem attempt {m : Act η ε α} (hm : Restores m) : Restores (Act.attempt m) := by
  intro ctx w hend
  have hfirst := hm ctx w
  unfold Act.attempt at hend ⊢
  generalize m ctx w = result at hend hfirst ⊢
  obtain ⟨a | message | _, w'⟩ := result
  · exact hfirst nofun
  · exact hfirst nofun
  · exact absurd rfl hend

/-- Work on another thread. -/
theorem onThread {m : Act η ε α} (t : ThreadId) (hm : Restores m) : Restores (Act.onThread t m) :=
  fun _ w hend => hm ⟨t, false⟩ w hend

end Act.Restores

section Scopes

variable {η ε α β : Type} {deliver : Delivery η ε}

/-- Watches that only observe restore the store trivially. -/
theorem Delivery.Observes.restored (hd : deliver.Observes) (w : WatchId) (e : Event) :
    Leads RestoredStore (deliver w e) := by
  intro ctx v
  unfold RestoredStore
  rw [hd.store]
  exact .refl v.store

/-- A scope that is not cut off comes to its end. -/
theorem scope_ends {m : Act η ε α} {cleanup : Act η ε Unit} {leave : α → Act η ε β} {ctx : Context}
    {w : World η ε} (h : ((Act.onUnwind m cleanup >>= leave) ctx w).1.ending ≠ .halted) :
    (m ctx w).1.ending ≠ .halted := by
  cases hm : m ctx w with
  | mk o v =>
  cases o with
  | done a => exact nofun
  | panicked message => exact nofun
  | halted =>
    rw [Act.bind_of_halted (Act.onUnwind_of_halted hm)] at h
    exact absurd rfl h

/-- The frame of a scope is closed on every way out, if the scope does so after a normal end. -/
theorem scope_closes (hd : deliver.Still) {m : Act η ε α} {g : Guard} (hg : g.state = .acquired)
    {leave : α → Act η ε β} {G : Store → Store → Prop}
    (hleave : ∀ a (ctx : Context) (w : World η ε), (leave a ctx w).1.ending ≠ .halted →
      ∃ s, Closes ctx.thread g.cell g.frame w.store s ∧
        ((leave a ctx w).2.store = s ∨ G s (leave a ctx w).2.store))
    {ctx : Context} {w : World η ε}
    (hend : ((Act.onUnwind m (g.drop deliver) >>= leave) ctx w).1.ending ≠ .halted) :
    ∃ s, Closes ctx.thread g.cell g.frame (m ctx w).2.store s ∧
      (((Act.onUnwind m (g.drop deliver) >>= leave) ctx w).2.store = s ∨
        G s ((Act.onUnwind m (g.drop deliver) >>= leave) ctx w).2.store) := by
  change (Act.bind (Act.onUnwind m (g.drop deliver)) leave ctx w).1.ending ≠ _ at hend
  show ∃ s, _ ∧ ((Act.bind (Act.onUnwind m (g.drop deliver)) leave ctx w).2.store = s ∨
    G s (Act.bind (Act.onUnwind m (g.drop deliver)) leave ctx w).2.store)
  unfold Act.bind Act.onUnwind at hend ⊢
  generalize m ctx w = result at hend ⊢
  obtain ⟨a | message | _, w'⟩ := result
  · exact hleave a ctx w' hend
  · have hdrop := Guard.drop_store hd hg { ctx with unwinding := true } w'
    dsimp only at hend ⊢
    generalize g.drop deliver { ctx with unwinding := true } w' = result at hdrop hend ⊢
    obtain ⟨_ | _ | _, w''⟩ := result <;> exact ⟨_, .inl hdrop, .inl rfl⟩
  · exact absurd rfl hend

/-- Holding a guard keeps the stacks if the body does. -/
theorem Guard.hold_restores (hd : deliver.Still) (c : CellId) {body : Act η ε α}
    (hbody : body.Restores) : (hold deliver c body).Restores := by
  intro ctx w hend
  have hrun : hold deliver c body ctx w =
      (do let a ← Act.onUnwind body ((Guard.next w.store ctx.thread c).drop deliver)
          (Guard.next w.store ctx.thread c).drop deliver
          pure a : Act η ε α) ctx (w.acquired ctx.thread c) :=
    Act.bind_of_done (Guard.acquire_run c ctx w)
  rw [hrun] at hend ⊢
  have hleave : ∀ (a : α) (ctx' : Context) (w' : World η ε),
      ((do (Guard.next w.store ctx.thread c).drop deliver; pure a : Act η ε α) ctx' w').2.store =
        w'.store.close ctx'.thread c (w.store.push ctx.thread c).1.id := fun a ctx' w' =>
    (Leads.bind_right SameStore.plain.calm _ (fun _ => .pure SameStore.plain.calm a) ctx' w').trans
      (Guard.drop_store hd rfl ctx' w')
  obtain ⟨s, hclose, hlast⟩ := scope_closes hd (g := .next w.store ctx.thread c) (G := Eq) rfl
    (fun a ctx' w' _ => ⟨_, .inl rfl, .inl (hleave a ctx' w')⟩) hend
  have hinside := hbody ctx (w.acquired ctx.thread c) (scope_ends hend)
  have hscope : Restored w.store s := Restored.scope hinside hclose
  rcases hlast with heq | heq
  · rw [heq]
    exact hscope
  · rw [← heq]
    exact hscope

variable {discard : α → Act η ε Unit} {G : Store → Store → Prop}

/-- Ending an override closes its frame, and then the result of the body may go away. -/
theorem Overrides.finish_closes (hd : deliver.Still) {g : Guard} (hg : g.state = .acquired)
    (hgone : ∀ a ctx w, (discard a ctx w).1.ending ≠ .halted →
      G w.store (discard a ctx w).2.store) (ends : α × Option Fault) (ctx : Context) (w : World η ε) :
    let leave : Act η ε (α × Option Fault) := do
      return (ends.1, ends.2.or (← Act.onUnwind (finish deliver g) (discard ends.1)))
    (leave ctx w).1.ending ≠ .halted → ∃ s, Closes ctx.thread g.cell g.frame w.store s ∧
      ((leave ctx w).2.store = s ∨ G s (leave ctx w).2.store) := by
  intro leave hend
  have hstore := finish_store hd hg ctx w
  have hleave : leave ctx w =
      (do return (ends.1, ends.2.or (← Act.onUnwind (finish deliver g) (discard ends.1))) :
        Act η ε (α × Option Fault)) ctx w := rfl
  rw [Act.map_run (fun fault => (ends.1, ends.2.or fault))] at hleave
  rw [hleave] at hend ⊢
  refine ⟨(finish deliver g ctx w).2.store, hstore, ?_⟩
  unfold Act.onUnwind at hend ⊢
  generalize finish deliver g ctx w = result at hend ⊢
  obtain ⟨fault | message | _, w'⟩ := result
  · exact .inl rfl
  · have hdiscard := hgone ends.1 { ctx with unwinding := true } w'
    dsimp only at hend ⊢
    generalize discard ends.1 { ctx with unwinding := true } w' = result at hdiscard hend ⊢
    obtain ⟨_ | _ | _, w''⟩ := result
    · exact .inr (hdiscard nofun)
    · exact absurd rfl hend
    · exact absurd rfl hend
  · exact .inl rfl

/-- The frame of the outermost override is closed on every way out of what is inside. -/
theorem Overrides.around_cons_closes (hd : deliver.Still)
    (hgone : ∀ a ctx w, (discard a ctx w).1.ending ≠ .halted →
      G w.store (discard a ctx w).2.store) (c : CellId) (v : Value) (rest : Overrides)
    (body : Act η ε α) (ctx : Context) (w : World η ε)
    (hend : (around deliver discard ((c, v) :: rest) body ctx w).1.ending ≠ .halted) :
    ∃ s, Closes ctx.thread c (w.store.push ctx.thread c).1.id
        ((do c.write deliver v; around deliver discard rest body) ctx
          (w.acquired ctx.thread c)).2.store s ∧
      ((around deliver discard ((c, v) :: rest) body ctx w).2.store = s ∨
        G s (around deliver discard ((c, v) :: rest) body ctx w).2.store) := by
  rw [around_cons] at hend ⊢
  exact scope_closes hd (g := .next w.store ctx.thread c) (G := G) rfl
    (finish_closes hd (g := .next w.store ctx.thread c) rfl hgone) hend

/-- What scopes inside scopes do to the store if they are not cut off. -/
theorem Overrides.around_overridden (hd : deliver.Still)
    (hgone : ∀ a ctx w, (discard a ctx w).1.ending ≠ .halted →
      G w.store (discard a ctx w).2.store) (set : Overrides) {body : Act η ε α}
    (hbody : body.Restores) (ctx : Context) (w : World η ε)
    (hend : (around deliver discard set body ctx w).1.ending ≠ .halted) :
    Overridden G ctx.thread set w.store (around deliver discard set body ctx w).2.store := by
  induction set generalizing w with
  | nil => exact .body ((Act.Restores.composes.bind (.of hbody) fun _ =>
      Act.Restores.composes.pure _).2 ctx w hend)
  | cons pair rest ih =>
    obtain ⟨c, v⟩ := pair
    obtain ⟨s, hclose, hlast⟩ := around_cons_closes hd hgone c v rest body ctx w hend
    have hinside : ((do c.write deliver v; around deliver discard rest body) ctx
        (w.acquired ctx.thread c)).1.ending ≠ .halted := by
      rw [around_cons] at hend
      exact scope_ends hend
    have hwrite := c.write_store hd v ctx (w.acquired ctx.thread c)
    -- A watch may cut the write short, and then the scope goes around nothing but the write.
    cases hw : c.write deliver v ctx (w.acquired ctx.thread c) with
    | mk o u =>
    rw [hw] at hwrite
    cases o with
    | done a =>
      rw [Act.bind_of_done hw] at hinside hclose
      have hrest := ih u hinside
      rw [hwrite] at hrest
      exact .scope hrest hclose hlast
    | panicked message =>
      rw [Act.bind_of_panicked hw, hwrite] at hclose
      exact .cut hclose hlast
    | halted =>
      rw [Act.bind_of_halted hw] at hinside
      exact absurd rfl hinside

/-- The entering of a body keeps the stacks if the body and its result that goes away do. -/
theorem Overrides.enter_restores (hd : deliver.Still) (hdiscard : ∀ a, (discard a).Restores)
    (set : Overrides) {body : Act η ε α} (hbody : body.Restores) :
    (enter deliver discard set body).Restores := by
  intro ctx w hend
  rw [enter_eq] at hend ⊢
  have hlogged : Act.Restores (do logEntering set.length; body) :=
    (Act.Restores.composes.bind (Act.Restores.composes.log (by simp [source, Guard.source]))
      fun _ => .of hbody).2
  exact (around_overridden hd hdiscard set hlogged ctx w hend).restored fun _ _ h => h

/-- What programs are put together by keeps the stacks. -/
theorem Overrides.congruent_restores (hd : deliver.Observes) :
    Act.Congruent (Act.Same fun {α} (m : Act η ε α) => m.Restores) deliver deliver where
  toComposes := Act.Restores.composes
  current := .of (.of_leads (Settings.current_leads RestoredStore.revising.toPlain.calm))
  attempt := by
    rintro _ _ _ ⟨rfl, hm⟩
    exact .of hm.attempt
  onThread := by
    rintro _ _ _ t ⟨rfl, hm⟩
    exact .of (hm.onThread t)
  alterRoot := by
    intro c f f' hf
    have hA : Altering deliver (@RestoredStore η ε) := RestoredStore.revising.altering hd.restored
    have hlock : Leads RestoredStore (c.lock : Act η ε Unit) :=
      ((Leads.composes hA.toCalm).lock c (.of (.still hA.toCalm fun _ _ => rfl))
        (.of fun _ w => hA.rearranged w _ (.lock c))).2
    have hunlock : Leads RestoredStore (c.unlock : Act η ε Unit) :=
      fun _ w => hA.rearranged w _ (.unlock c)
    exact Act.Restores.composes.alterRoot (.of (.of_leads hlock)) (.of (.of_leads hunlock))
      (.of (.of_leads hunlock)) (fun v => .of (.of_leads (hA.setRoot c v))) hf
  hold := by
    rintro c _ _ _ ⟨rfl, hbody⟩
    exact .of (Guard.hold_restores hd.store c hbody)
  enter := by
    rintro _ discard discard' hdiscard _ _ ⟨rfl, hbody⟩ set
    obtain rfl : discard' = discard := funext fun a => (hdiscard a).1
    exact .of (enter_restores hd.store (fun a => (hdiscard a).2) set hbody)

end Scopes

/-! ## Scoped programs -/

section Programs

variable {υ ε : Type} {deliver : Delivery (Hands υ) ε}

/-- The calls of scoped programs keep the stacks. -/
theorem Call.scoped_restored (hd : deliver.Observes) {α : Type} {op : Call υ ε α}
    (h : op.Scoped) : Leads RestoredStore (op.act deliver) := by
  cases op with
  | own change => exact fun _ w => Restored.refl w.store
  | look | panic | write | setRoot | issueFrame | watch | unwatch | capture | policy
  | policyFromVariable | install | setVariable =>
    exact leads_of_isPlain (RestoredStore.revising.altering hd.restored) trivial
  | halt | push | pop | acquire | release | drop | forget => exact h.elim

/-- A scoped program that is not cut off keeps the stacks. -/
theorem Program.scoped_restores (hd : deliver.Observes) {α : Type} (p : Program υ ε α)
    (hp : p.Scoped) : (p.act deliver).Restores :=
  (p.related (Overrides.congruent_restores hd)
    (fun _ hop => .of (.of_leads (Call.scoped_restored hd hop))) hp).2

/-- What overriding variables around a scoped program does to the store, if the result of the program
owns no guard. -/
theorem Program.override_overridden (hd : deliver.Observes) (set : Overrides) {α : Type}
    (q : Program υ ε α) (hq : q.Scoped) (ctx : Context) (w : World (Hands υ) ε)
    (hend : ((Program.override .skip set q).act deliver ctx w).1 ≠ .halted) :
    Overridden Eq ctx.thread set w.store
      ((Program.override .skip set q).act deliver ctx w).2.store := by
  have hlogged : Act.Restores (do Overrides.logEntering set.length; q.act deliver) :=
    (Act.Restores.composes.bind (Act.Restores.composes.log (by simp [Overrides.source, Guard.source]))
      fun _ => .of (q.scoped_restores hd hq)).2
  have hrun : (Program.override .skip set q).act deliver ctx w =
      ((Overrides.enter deliver Act.skip set (q.act deliver) ctx w).1.map Overrides.result,
        (Overrides.enter deliver Act.skip set (q.act deliver) ctx w).2) := by
    rw [← Act.map_run, ← Overrides.run_skip]
    rfl
  rw [hrun, Overrides.enter_eq] at hend ⊢
  refine Overrides.around_overridden hd.store (fun a ctx w _ => rfl) set hlogged ctx w fun hhalted => ?_
  exact hend (Outcome.ending_eq_halted.1 ((Outcome.ending_map _ _).trans hhalted))

end Programs

/-- Scoped programs restore. The watches only observe and may panic on a thread that is not unwinding;
the program may start with anything bound on any thread, and may end with a value, with a failure or
with a panic. Every stack that any thread sees is then what it was. After overriding variables around a
scoped program each of them is given back to the thread.

It does end in one of these ways if no lock that it needs is taken for ever: it alters no variable inside
an alteration of the same one.

Frame numbers never repeat within a process, so no more of them are given out than there are. -/
theorem scoped_programs_restore {υ ε : Type} {deliver : Delivery (Hands υ) ε}
    (hd : deliver.Observes) (ctx : Context) (w : World (Hands υ) ε) (hw : w.store.WellFormed) :
    (∀ {α : Type} (p : Program υ ε α), p.Scoped →
      (∀ held, w.store.TakenAmong held → p.Apart held → (p.act deliver ctx w).1 ≠ .halted) ∧
        ((p.act deliver ctx w).1 ≠ .halted → (p.act deliver ctx w).2.store.framesIssued ≤ 2 ^ 64 →
          ∀ t c, (p.act deliver ctx w).2.store.stack t c = w.store.stack t c)) ∧
    ∀ {α : Type} (set : Overrides) (q : Program υ ε α), q.Scoped →
      ((Program.override .skip set q).act deliver ctx w).1 ≠ .halted →
      ((Program.override .skip set q).act deliver ctx w).2.store.framesIssued ≤ 2 ^ 64 →
      ∀ c ∈ set.map Prod.fst, GivenBack ctx.thread c w.store
        ((Program.override .skip set q).act deliver ctx w).2.store := by
  refine ⟨fun p hp => ⟨fun held hheld hapart => ?_, fun hend hn t c => ?_⟩,
    fun set q hq hend hn c hc => ?_⟩
  · exact fun hhalted =>
      (p.passes hd hp hapart ctx w hheld).1 (Outcome.ending_eq_halted.2 hhalted)
  · have hrestored := p.scoped_restores hd hp ctx w fun h => hend (Outcome.ending_eq_halted.1 h)
    exact (hrestored.keepsStacks hw hn).stack t c
  · have hover := Program.override_overridden hd set q hq ctx w hend
    have hrestored := hover.restored fun s s' (heq : s = s') => heq ▸ .refl s
    have hkeep := hrestored.keepsStacks hw hn
    refine .of_stack hw (hrestored.wellFormed hw) (hkeep.kind c) (hkeep.stack _ c) ?_
    exact hover.read hw hn hc

/-- Watches that panic whenever they may. -/
def Delivery.startled : Delivery (Hands Unit) Unit := fun _ _ ctx w =>
  if ctx.unwinding then (.done (), w) else (.panicked "refused", w)

/-- Watches that panic whenever they may only observe. -/
theorem Delivery.startled_observes : startled.Observes := by
  refine ⟨fun w e ctx v => ?_, fun w e ctx v => ?_⟩
  · unfold startled
    split <;> rfl
  · unfold startled
    cases hu : ctx.unwinding with
    | true => exact .inl rfl
    | false => exact .inr ⟨rfl, hu⟩

/-- A world in which both variables are overridden already, and the shared one is watched. -/
def World.nested : World (Hands Unit) Unit :=
  .start (((Store.sample.push ⟨0⟩ ⟨0⟩).2.push ⟨0⟩ ⟨1⟩).2.watch ⟨1⟩ "w" ⟨0⟩) ()

/-- The frames of this world are in order. -/
theorem World.nested_wellFormed : nested.store.WellFormed := by
  have hopened := (Store.sample_fresh.wellFormed.push ⟨0⟩ ⟨0⟩).push ⟨0⟩ ⟨1⟩
  exact Store.Revises.wellFormed (.watch ⟨1⟩ "w" ⟨0⟩) hopened

/-- Both variables with other values. -/
def Overrides.both : Overrides :=
  [(⟨0⟩, .int 3), (⟨1⟩, .int 4)]

/-- A program that sets the dynamic variable. -/
def Program.setFirst : Program Unit Unit Unit :=
  .call (.write ⟨0⟩ (.int 5))

/-- The watch panics when the second variable is overridden, and the stacks and the values are what
they were. -/
theorem override_both_restores :
    ((Program.override .skip .both .setFirst).act Delivery.startled ⟨⟨0⟩, false⟩
        World.nested).1 ≠ .halted ∧
      (∀ t c, ((Program.override .skip .both .setFirst).act Delivery.startled ⟨⟨0⟩, false⟩
        World.nested).2.store.stack t c = World.nested.store.stack t c) ∧
      ∀ c ∈ Overrides.both.map Prod.fst, GivenBack ⟨0⟩ c World.nested.store
        ((Program.override .skip .both .setFirst).act Delivery.startled ⟨⟨0⟩, false⟩
          World.nested).2.store := by
  obtain ⟨hprograms, hoverrides⟩ := scoped_programs_restore Delivery.startled_observes
    ⟨⟨0⟩, false⟩ World.nested World.nested_wellFormed
  have hn : ((Program.override .skip .both .setFirst).act Delivery.startled ⟨⟨0⟩, false⟩
      World.nested).2.store.framesIssued ≤ 2 ^ 64 := by
    decide +kernel
  have hfree : World.nested.store.TakenAmong [] := .of_free (Store.altering_of_all rfl)
  obtain ⟨hends, hstacks⟩ := hprograms (.override .skip .both .setFirst) ⟨fun _ => trivial, trivial⟩
  have hend := hends [] hfree ⟨rfl, trivial⟩
  exact ⟨hend, hstacks hend hn, hoverrides .both .setFirst trivial hend hn⟩

end ScopedBinding
