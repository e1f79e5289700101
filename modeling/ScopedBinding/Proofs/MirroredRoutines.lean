import ScopedBinding.Proofs.MirroredOperations

/-!
# Routines side by side

Every step of a routine mirrors itself, with the frames and the guards that the routine has in its
hands, and so a routine that runs amid other threads mirrors the same routine run alone
(`Routine.amid_mirrors`). What it is told is the same in both runs; of frames it is told their
places in the order in which it got them, and of faults their kinds.
-/

set_option autoImplicit false

namespace ScopedBinding

open Act (Leads)

section Hands

variable {σ ε : Type} {t : ThreadId} {V : CellId → Prop} {ρ ρ' : Renaming}
  {w w' : World (Hands (Known σ)) ε} {deliver : Delivery (Hands (Known σ)) ε}

/-- A routine gets to know one more frame. -/
def World.withFrame (w : World (Hands (Known σ)) ε) (f : FrameId) : World (Hands (Known σ)) ε :=
  { w with host := { w.host with own := { w.host.own with frames := w.host.own.frames ++ [f] } } }

/-- Lists that are related place by place. -/
theorem forall₂_getElem? {α β : Type} {R : α → β → Prop} {l : List α} {l' : List β}
    (h : List.Forall₂ R l l') (n : Nat) : Option.Rel R l[n]? l'[n]? := by
  induction h generalizing n with
  | nil => exact .none
  | cons hab hrest ih =>
    cases n with
    | zero => exact .some hab
    | succ n => simpa using ih n

/-- Frames are in the same order in both runs. -/
theorem precedes_eq {n m : Nat} (hρ : ρ.Fits n m) {frames frames' : List FrameId}
    (h : List.Forall₂ ρ frames frames') (i j : Nat) :
    FrameId.precedes? frames' i j = FrameId.precedes? frames i j := by
  have hi := forall₂_getElem? h i
  have hj := forall₂_getElem? h j
  unfold FrameId.precedes?
  generalize frames[i]? = f at hi ⊢
  generalize frames'[i]? = f' at hi ⊢
  generalize frames[j]? = g at hj ⊢
  generalize frames'[j]? = g' at hj ⊢
  cases hi with
  | none => rfl
  | some hf =>
    cases hj with
    | none => rfl
    | some hg =>
      have horder := hρ.order hf hg
      simp [horder]

namespace World.Matches

/-- Both runs get to know one more frame. -/
theorem withFrame (h : World.Matches t V ρ w w') {f g : FrameId} (hf : ρ f g) :
    World.Matches t V ρ (w.withFrame f) (w'.withFrame g) where
  store := h.store
  settings := h.settings
  active := h.active
  frames := List.rel_append h.frames (.cons hf .nil)
  issued := h.issued
  guards := h.guards

/-- A guard is put into the hands of both runs. -/
theorem withGuard (h : World.Matches t V ρ w w') (n : Nat) {k k' : HeldGuard}
    (hk : k.Matches t V ρ k') : World.Matches t V ρ (w.withGuard n k) (w'.withGuard n k') where
  store := h.store
  settings := h.settings
  active := h.active
  frames := h.frames
  issued := h.issued
  guards m := by
    show Option.Rel _ ((w.host.guards.insert n k).get? m) ((w'.host.guards.insert n k').get? m)
    rw [Table.get?_insert, Table.get?_insert]
    split
    · exact .some hk
    · exact h.guards m

/-- A guard is taken out of the hands of both runs. -/
theorem without (h : World.Matches t V ρ w w') (n : Nat) :
    World.Matches t V ρ (w.without n) (w'.without n) where
  store := h.store
  settings := h.settings
  active := h.active
  frames := h.frames
  issued := h.issued
  guards m := by
    show Option.Rel _ ((w.host.guards.erase n).get? m) ((w'.host.guards.erase n).get? m)
    rw [Table.get?_erase, Table.get?_erase]
    split
    · exact .none
    · exact h.guards m

/-- The next number of a guard is used up. -/
theorem issue (h : World.Matches t V ρ w w') (n : Nat) :
    World.Matches t V ρ { w with host := { w.host with issued := n } }
      { w' with host := { w'.host with issued := n } } where
  store := h.store
  settings := h.settings
  active := h.active
  frames := h.frames
  issued := rfl
  guards := h.guards

/-- The thread has the guard of a number in its hands in both runs or in none. -/
theorem find (h : World.Matches t V ρ w w') (n : Nat) (unwinding : Bool) :
    (Hands.find n ⟨t, unwinding⟩ w = (.done none, w) ∧
      Hands.find n ⟨t, unwinding⟩ w' = (.done none, w')) ∨
    ∃ k k' : HeldGuard, w.host.guards.get? n = some k ∧ w'.host.guards.get? n = some k' ∧
      k.thread = t ∧ k'.thread = t ∧ k.Matches t V ρ k' ∧ k.guard.Matches V ρ k'.guard := by
  have hguard := h.guards n
  rw [Hands.find_run, Hands.find_run]
  generalize w.host.guards.get? n = k at hguard ⊢
  generalize w'.host.guards.get? n = k' at hguard ⊢
  cases hguard with
  | none => exact .inl ⟨rfl, rfl⟩
  | @some k k' hk =>
    by_cases hthread : k.thread = t
    · exact .inr ⟨k, k', rfl, rfl, hthread, hk.thread.trans hthread, hk, hk.guard hthread⟩
    · left
      have hthread' : k'.thread ≠ t := by
        rw [hk.thread]
        exact hthread
      simp [hthread, hthread']

end World.Matches

namespace Hands

/-- Acquiring a guard into the hands of a routine. -/
theorem acquire_mirrors {c : CellId} (hc : V c) : Mirrors t V ρ (fun _ a b => b = a)
    (acquire c : Act (Hands (Known σ)) ε Nat) (acquire c) := by
  intro unwinding ρ₁ w w' hρ hw hn
  have hacquire := Guard.acquire_mirrors (t := t) (ρ := ρ) hc unwinding ρ₁ w w' hρ hw hn
  obtain ⟨ρ₂, hρ₂, hguard, hw₂⟩ := hacquire
  cases hguard with
  | done hg =>
  have hk : HeldGuard.Matches t V ρ₂ ⟨t, .next w.store t c, false⟩ ⟨t, .next w'.store t c, false⟩ :=
    ⟨rfl, fun _ => hg⟩
  have hend := (hw₂.withGuard w.host.issued hk).issue (w.host.issued + 1)
  refine ⟨ρ₂, hρ₂, .done hw.issued, ?_⟩
  have hissued : (acquire c ⟨t, unwinding⟩ w' : Outcome Nat × World (Hands (Known σ)) ε).2 =
      { (w'.acquired t c).withGuard w'.host.issued ⟨t, .next w'.store t c, false⟩ with
        host := { ((w'.acquired t c).withGuard w'.host.issued
          ⟨t, .next w'.store t c, false⟩).host with issued := w'.host.issued + 1 } } := rfl
  rw [hissued, hw.issued]
  exact hend

/-- Releasing a guard in hand. -/
theorem release_mirrors (n : Nat) :
    Mirrors t V ρ (fun ρ₁ => Option.Rel (Except.Matches (Fault.Matches ρ₁) fun _ _ => True))
      (release deliver n) (release deliver n) := by
  apply Mirrors.of_done
  intro unwinding ρ₁ w w' hρ hw hn
  rcases hw.find n unwinding with ⟨hfind, hfind'⟩ | ⟨k, k', hget, hget', hthread, hthread', hk, hg⟩
  · refine ⟨ρ₁, none, none, w, w', le_rfl, ?_, ?_, .none, hw⟩
    · unfold release
      rw [Act.bind_of_done hfind]
      rfl
    · unfold release
      rw [Act.bind_of_done hfind']
      rfl
  · have hruns : ∃ x y v v', k.guard.release deliver ⟨t, unwinding⟩ (w.without n) = (.done x, v) ∧
        k'.guard.release deliver ⟨t, unwinding⟩ (w'.without n) = (.done y, v') ∧
        Except.Matches (Fault.Matches ρ₁) (Guard.Matches V ρ₁) x y ∧
        World.Matches t V ρ₁ v v' := Guard.release_runs hg (hw.without n) unwinding
    obtain ⟨x, y, v, v', hrun, hrun', hxy, hv⟩ := hruns
    cases hxy with
    | error hfault =>
      exact ⟨ρ₁, _, _, _, _, le_rfl, release_of_refused hget hthread hrun,
        release_of_refused hget' hthread' hrun', .some (.error hfault), hv.withGuard n hk⟩
    | ok hguard =>
      exact ⟨ρ₁, _, _, _, _, le_rfl, release_of_returned hget hthread hrun,
        release_of_returned hget' hthread' hrun', .some (.ok trivial),
        hv.withGuard n ⟨hk.thread, fun _ => hguard⟩⟩

/-- Letting a guard in hand go out of scope. -/
theorem drop_mirrors (hd : ∀ k e, Leads EvolvesStore (deliver k e)) (n : Nat) :
    Mirrors t V ρ (fun _ _ _ => True) (drop deliver n) (drop deliver n) := by
  intro unwinding ρ₁ w w' hρ hw hn
  rcases hw.find n unwinding with ⟨hfind, hfind'⟩ | ⟨k, k', hget, hget', hthread, hthread', -, hg⟩
  · unfold drop
    rw [Act.bind_of_done hfind, Act.bind_of_done hfind']
    exact ⟨ρ₁, le_rfl, .done trivial, hw⟩
  · rw [drop_held hget' hthread'] at hn
    rw [drop_held hget hthread, drop_held hget' hthread']
    exact Guard.drop_mirrors hd hg unwinding ρ₁ _ _ le_rfl (hw.without n) hn

/-- Forgetting a guard in hand. -/
theorem forget_mirrors (n : Nat) : Mirrors t V ρ (fun _ _ _ => True)
    (forget n : Act (Hands (Known σ)) ε Unit) (forget n) := by
  apply Mirrors.of_done
  intro unwinding ρ₁ w w' hρ hw hn
  unfold forget
  rcases hw.find n unwinding with ⟨hfind, hfind'⟩ | ⟨k, k', hget, hget', hthread, hthread', -, -⟩
  · rw [Act.bind_of_done hfind, Act.bind_of_done hfind']
    exact ⟨ρ₁, (), (), w, w', le_rfl, rfl, rfl, trivial, hw⟩
  · rw [Act.bind_of_done (find_held hget hthread), Act.bind_of_done (find_held hget' hthread')]
    exact ⟨ρ₁, (), (), _, _, le_rfl, rfl, rfl, trivial, hw.without n⟩

end Hands

end Hands

/-! ## Steps and routines -/

section Routines

variable {σ ε α : Type} {t : ThreadId} {V : CellId → Prop} {ρ : Renaming}
  {deliver : Delivery (Hands (Known σ)) ε}

/-- The kinds of results and faults that match are the same. -/
theorem Except.Matches.mapError {x y : Except Fault Unit}
    (h : Except.Matches (Fault.Matches ρ) (fun _ _ => True) x y) :
    y.mapError Fault.kindName = x.mapError Fault.kindName := by
  cases h with
  | ok _ => rfl
  | error hfault => exact congrArg Except.error hfault.kindName

/-- What a thread sees of a variable is the same in both runs. -/
theorem Question.answer_eq {s s' : Store} (h : s.Matches t V ρ s') {c : CellId} (hc : V c)
    (question : Question α) : question.answer s' t c = question.answer s t c := by
  cases question with
  | value => exact h.read hc
  | root => exact h.root hc
  | depth => exact h.depth hc
  | isBound => exact h.isBound hc

namespace Step

/-- A step that takes a frame number, in runs where the numbers stand for each other. -/
theorem numbered_mirrors {take : Program (Known σ) ε FrameId}
    (h : Mirrors t V ρ (fun ρ₁ => ρ₁) (take.act deliver) (take.act deliver))
    (hgrows : Leads EvolvesStore (take.act deliver)) :
    Mirrors t V ρ (fun _ a b => b = a) ((numbered take).act deliver)
      ((numbered take).act deliver) := by
  have hC := EvolvesStore.calm (η := Hands (Known σ)) (ε := ε)
  have hlength : Mirrors t V ρ (fun _ a b => b = a)
      ((fun _ w => (.done w.host.own.frames.length, w)) : Act (Hands (Known σ)) ε Nat)
      (fun _ w => (.done w.host.own.frames.length, w)) := by
    apply Mirrors.of_done
    intro unwinding ρ₁ w w' hρ hw hn
    exact ⟨ρ₁, _, _, w, w', le_rfl, rfl, rfl, hw.frames.length_eq.symm, hw⟩
  have hkept : ∀ n f, Leads EvolvesStore
      ((fun _ w => (.done n, w.withFrame f)) : Act (Hands (Known σ)) ε Nat) :=
    fun n f ctx w => .refl w.store
  apply Mirrors.bind hlength
  · intro n
    exact .bind hC hgrows (hkept n)
  · intro ρ₁ hρ₁ n n' hn
    subst hn
    apply Mirrors.bind (h.mono hρ₁) (hkept n')
    intro ρ₂ hρ₂ f f' hf
    apply Mirrors.of_done
    intro unwinding ρ₃ w w' hρ₃ hw hn
    exact ⟨ρ₃, n', n', _, _, le_rfl, rfl, rfl, rfl, hw.withFrame (hρ₃ _ _ hf)⟩

/-- Taking a frame number. -/
theorem issueFrame_mirrors : Mirrors t V ρ (fun ρ₁ => ρ₁)
    (FrameId.issue : Act (Hands (Known σ)) ε FrameId) FrameId.issue := by
  apply Mirrors.of_done
  intro unwinding ρ₁ w w' hρ hw hn
  have hs := hw.store.issueFrame hn
  exact ⟨_, _, _, _, _, ρ₁.le_insert _ _, rfl, rfl, ρ₁.insert_self _ _,
    hw.with_store (ρ₁.le_insert _ _) hs _ _⟩

/-- Opening a frame. -/
theorem push_mirrors {c : CellId} (hc : V c) : Mirrors t V ρ (fun ρ₁ => ρ₁)
    (c.push : Act (Hands (Known σ)) ε FrameId) c.push := by
  apply Mirrors.of_done
  intro unwinding ρ₁ w w' hρ hw hn
  have hissued : w'.store.framesIssued + 1 < 2 ^ 64 := by
    have hpush := w'.store.framesIssued_push t c
    have hlast : (w'.store.push t c).2.framesIssued < 2 ^ 64 := hn
    omega
  have hs := hw.store.push hc hissued
  exact ⟨_, _, _, _, _, ρ₁.le_insert _ _, rfl, rfl, ρ₁.insert_self _ _,
    hw.with_store (ρ₁.le_insert _ _) hs _ _⟩

/-- Every step of a routine mirrors itself. -/
theorem mirrors (hd : ∀ k e, Leads EvolvesStore (deliver k e)) (op : Step α)
    (hop : ∀ c ∈ op.cell?, V c) :
    Mirrors t V ρ (fun _ a b => b = a) (op.program.act deliver) (op.program.act deliver) := by
  have h := EvolvesStore.stepwise hd
  have hC := h.toCalm
  cases op with
  | ask question c =>
    apply Mirrors.of_done
    intro unwinding ρ₁ w w' hρ hw hn
    have hsame := question.answer_eq hw.store (hop c rfl)
    exact ⟨ρ₁, _, _, w, w', le_rfl, rfl, rfl, hsame, hw⟩
  | precedes n m =>
    apply Mirrors.of_done
    intro unwinding ρ₁ w w' hρ hw hn
    have hsame := precedes_eq hw.store.fits hw.frames n m
    exact ⟨ρ₁, _, _, w, w', le_rfl, rfl, rfl, hsame, hw⟩
  | write c v => exact (c.write_mirrors (hop c rfl) v).weaken fun _ _ _ _ => rfl
  | setRoot c v => exact (c.setRoot_mirrors (hop c rfl) v).weaken fun _ _ _ _ => rfl
  | issueFrame =>
    exact numbered_mirrors issueFrame_mirrors fun _ w => h.rearranged w _ .issueFrame
  | push c => exact numbered_mirrors (push_mirrors (hop c rfl)) fun ctx w => h.opened w ctx.thread c
  | acquire c => exact Hands.acquire_mirrors (hop c rfl)
  | drop n => exact (Hands.drop_mirrors hd n).weaken fun _ _ _ _ => rfl
  | forget n => exact (Hands.forget_mirrors n).weaken fun _ _ _ _ => rfl
  | release n =>
    apply Mirrors.bind (Hands.release_mirrors n)
    · intro _
      exact .pure hC _
    · intro ρ₁ hρ₁ x y hxy
      refine .pure fun _ _ => ?_
      cases hxy with
      | none => rfl
      | some hresult => exact congrArg some hresult.mapError
  | pop c n =>
    have hknown : Mirrors t V ρ (fun ρ₁ => Option.Rel ρ₁)
        ((fun _ w => (.done w.host.own.frames[n]?, w)) :
          Act (Hands (Known σ)) ε (Option FrameId))
        (fun _ w => (.done w.host.own.frames[n]?, w)) := by
      apply Mirrors.of_done
      intro unwinding ρ₁ w w' hρ hw hn
      exact ⟨ρ₁, _, _, w, w', le_rfl, rfl, rfl, forall₂_getElem? hw.frames n, hw⟩
    have hclose : ∀ f, Leads EvolvesStore (do
        return some ((← c.pop deliver f).mapError Fault.kindName) :
          Act (Hands (Known σ)) ε (Option (Except String Unit))) :=
      fun f => .bind hC (h.pop c f) fun _ => .pure hC _
    apply Mirrors.bind hknown
    · intro x
      cases x with
      | none => exact .pure hC _
      | some f => exact hclose f
    · intro ρ₁ hρ₁ x y hxy
      cases hxy with
      | none => exact .pure fun _ _ => rfl
      | some hf =>
        apply Mirrors.bind (CellId.pop_mirrors (hop c rfl) hf)
        · intro _
          exact .pure hC _
        · intro ρ₂ hρ₂ x y hresult
          exact .pure fun _ _ => congrArg some hresult.mapError

end Step

/-- A routine that runs amid other threads mirrors the same routine run alone. -/
theorem Routine.amid_mirrors (hd : ∀ k e, Leads EvolvesStore (deliver k e))
    {others : World (Hands (Known σ)) ε → World (Hands (Known σ)) ε} (ho : Intrudes t V others)
    (r : Routine α) {post : α → Prop} (hr : r.Over V post) :
    Mirrors t V ρ (Same post) (r.amid deliver id) (r.amid deliver others) := by
  have hgrows {β : Type} (r : Routine β) : Leads EvolvesStore (r.amid deliver others) :=
    r.amid_evolves ho.evolves hd
  -- One case for each way to put routines together, with what holds of the values in between.
  induction r generalizing ρ with
  | done a => exact .pure fun _ _ => ⟨rfl, hr⟩
  | panic message => exact .panic (.inl rfl)
  | step op =>
    have hstep := (op.mirrors hd hr.1 : Mirrors t V ρ _ _ (op.program.act deliver))
    exact (Mirrors.after ho hstep).weaken fun _ _ b hab => ⟨hab, hab ▸ hr.2 b⟩
  | bind first next ihFirst ihNext =>
    apply Mirrors.bind (ihFirst hr)
    · intro a
      exact hgrows (next a)
    · intro ρ₁ hρ₁ a b hab
      obtain ⟨rfl, hnext⟩ := hab
      exact ihNext b hnext
  | attempt body ih =>
    refine (Mirrors.attempt (ih hr.2)).weaken fun ρ₁ x y hxy => ?_
    cases hxy with
    | none => exact ⟨rfl, hr.1⟩
    | some hab => exact ⟨congrArg some hab.1, hab.2⟩
  | onUnwind body cleanup ihBody ihCleanup =>
    refine .onUnwind (ihBody hr.1) (hgrows cleanup) ?_
    exact (ihCleanup hr.2).weaken fun _ _ _ _ => trivial
  | alterRoot c f ih =>
    exact c.alterRootAmid_mirrors ho hd hr.1 (fun v => hgrows (f v)) fun v => ih v (hr.2 v)
  | hold c body ih => exact Guard.holdAmid_mirrors ho hd hr.1 (hgrows body) (ih hr.2)
  | override discard set body ihDiscard ihBody =>
    exact Overrides.runAmid_mirrors ho hd (fun a => hgrows (discard a)) set hr.1 (hgrows body) hr.2.1
      (fun _ ha => ha.1) (fun a ha => (ihDiscard a ha.2).weaken fun _ _ _ _ => trivial)
      (ihBody hr.2.2)
  | tryOverride discard ofKind set body ihDiscard ihBody =>
    exact Overrides.tryRunAmid_mirrors ho hd (fun a => hgrows (discard a)) ofKind set hr.1
      (hgrows body) hr.2.1 (fun _ ha => ha.1)
      (fun a ha => (ihDiscard a ha.2).weaken fun _ _ _ _ => trivial) (ihBody hr.2.2)
  | capture cells =>
    refine (Snapshot.captureAmid_mirrors ho cells hr.1).weaken fun _ _ b hab => ?_
    exact ⟨hab.1, hr.2 _ hab.2⟩
  | convey discard snapshot body ihDiscard ihBody =>
    exact Overrides.runAmid_mirrors ho hd (fun a => hgrows (discard a)) snapshot.bindings hr.1
      (hgrows body) hr.2.1 (fun _ ha => ha.1)
      (fun a ha => (ihDiscard a ha.2).weaken fun _ _ _ _ => trivial) (ihBody hr.2.2)

end Routines

end ScopedBinding
