import ScopedBinding.Proofs.Journal

/-!
# Frames out of reach

A program that closes frames only through guards closes none but the frames of the guards in its
hands and the frames it opens itself. Frames that have been given out before and are not in its hands
are out of its reach (`OutOfReach`): whatever the program and its watches do, each stack keeps what it
has from its innermost such frame outward (`Store.outward`). The frames of the scopes around a program
are of this kind.
-/

set_option autoImplicit false

namespace ScopedBinding

/-- The stack from its innermost frame among some frames outward. -/
def Store.outward (s : Store) (X : List FrameId) (t : ThreadId) (c : CellId) : List Frame :=
  (s.stack t c).frames.dropWhile fun frame => decide (frame.id ∉ X)

namespace Store

variable {s s' : Store} {X : List FrameId}

/-- What lies outward depends on the stack alone. -/
theorem outward_of_stack {t : ThreadId} {c : CellId} (h : s'.stack t c = s.stack t c) :
    s'.outward X t c = s.outward X t c := by
  unfold outward
  rw [h]

/-- A frame on top of a stack does not matter to the other frames of it. -/
theorem outward_of_pushed {t : ThreadId} {c : CellId} {frame : Frame}
    (h : s'.stack t c = (s.stack t c).push frame) (hX : frame.id ∉ X) :
    s'.outward X t c = s.outward X t c := by
  unfold outward
  rw [h]
  unfold FrameStack.push
  rw [List.dropWhile_cons_of_pos (by simpa using hX)]

/-- Keeping all stacks keeps what lies outward. -/
theorem outward_of_keepsStacks (h : KeepsStacks s s') (t : ThreadId) (c : CellId) :
    s'.outward X t c = s.outward X t c :=
  outward_of_stack (h.stack t c)

/-- Opening a frame that is not among some keeps what lies outward from them. -/
theorem outward_push (t u : ThreadId) (c d : CellId) (h : (s.push t c).1.id ∉ X) :
    (s.push t c).2.outward X u d = s.outward X u d := by
  by_cases hd : d = c ∧ s.SameStack c t u
  · exact outward_of_pushed (by rw [stack_push, if_pos hd]) h
  · exact outward_of_stack (by rw [stack_push, if_neg hd])

/-- Closing a frame that is not among some keeps what lies outward from them. -/
theorem outward_pop {t : ThreadId} {c : CellId} {f : FrameId} {r : Replaced} (h : f ∉ X)
    (hpop : s.pop t c f = .ok (r, s')) (u : ThreadId) (d : CellId) :
    s'.outward X u d = s.outward X u d := by
  obtain ⟨frame, rest, rfl, htop, hstack⟩ := stack_pop hpop
  by_cases hd : d = c ∧ s.SameStack c t u
  · obtain ⟨rfl, hu⟩ := hd
    have hpushed : s.stack u d = (s'.stack u d).push frame := by
      rw [hu.stack_eq, htop, hstack, if_pos ⟨rfl, hu⟩]
    exact (outward_of_pushed hpushed h).symm
  · exact outward_of_stack (by rw [hstack, if_neg hd])

end Store

section Worlds

variable {υ ε : Type}

/-- Some frames are out of a program's reach: they have been given out, and no guard in the program's
hands has one of them. -/
structure OutOfReach (X : List FrameId) (w : World (Hands υ) ε) : Prop where
  issued : ∀ f ∈ X, f.Issued w.store.framesIssued
  unheld : ∀ n h, w.host.guards.get? n = some h → h.guard.frame ∉ X

namespace OutOfReach

variable {X : List FrameId} {w : World (Hands υ) ε}

/-- The next frame is not among those out of reach, as long as the numbers do not repeat. -/
theorem next_notMem (h : OutOfReach X w) (hn : w.store.framesIssued + 1 ≤ 2 ^ 64) (t : ThreadId)
    (c : CellId) : (w.store.push t c).1.id ∉ X := by
  intro hmem
  refine FrameId.ne_afterIssued (h.issued _ hmem) (by omega) ?_
  exact Store.push_fst_id w.store t c

/-- Frames that are out of reach stay so if no guard comes into the program's hands. -/
theorem mono (h : OutOfReach X w) {w' : World (Hands υ) ε}
    (hn : w.store.framesIssued ≤ w'.store.framesIssued)
    (hg : ∀ n h, w'.host.guards.get? n = some h → w.host.guards.get? n = some h) :
    OutOfReach X w' :=
  ⟨fun f hf => (h.issued f hf).mono hn, fun n held hheld => h.unheld n held (hg n held hheld)⟩

end OutOfReach

/-- What happens between two worlds is recorded and spares some frames that are out of reach. -/
structure Spares (X : List FrameId) (w w' : World (Hands υ) ε) : Prop where
  recorded : Recorded w w'
  spared : OutOfReach X w → w'.store.framesIssued ≤ 2 ^ 64 →
    OutOfReach X w' ∧ ∀ t c, w'.store.outward X t c = w.store.outward X t c

/-- What happens between two worlds spares all frames that are out of reach. -/
def SparesAll (w w' : World (Hands υ) ε) : Prop :=
  ∀ X, Spares X w w'

/-- The same while a guard is held that the program does not have in its hands. -/
def SparesOthers (g : Guard) (w w' : World (Hands υ) ε) : Prop :=
  ∀ X, g.frame ∉ X → Spares X w w'

namespace Spares

variable {X : List FrameId} {w w' w'' : World (Hands υ) ε}

/-- What is spared twice is spared. -/
theorem trans (h : Spares X w w') (h' : Spares X w' w'') : Spares X w w'' := by
  refine ⟨h.recorded.trans h'.recorded, fun hX hn => ?_⟩
  obtain ⟨J, -, hfollows⟩ := h'.recorded
  obtain ⟨hX', hout⟩ := h.spared hX (Nat.le_trans hfollows.framesIssued_le hn)
  obtain ⟨hX'', hout'⟩ := h'.spared hX' hn
  exact ⟨hX'', fun t c => (hout' t c).trans (hout t c)⟩

/-- A step that keeps the stacks and gives the program no guard. -/
theorem of_keepsStacks (h : Recorded w w') (hs : Store.KeepsStacks w.store w'.store)
    (hn : w.store.framesIssued ≤ w'.store.framesIssued)
    (hg : ∀ n h, w'.host.guards.get? n = some h → w.host.guards.get? n = some h) :
    Spares X w w' :=
  ⟨h, fun hX _ => ⟨hX.mono hn hg, fun t c => Store.outward_of_keepsStacks hs t c⟩⟩

/-- Whatever opens and closes no frame spares those out of reach. -/
theorem revising (X : List FrameId) : Revising (@Spares υ ε X) where
  refl w := of_keepsStacks (.refl w) (.refl _) (Nat.le_refl _) fun _ _ h => h
  trans := trans
  settings w s :=
    of_keepsStacks (Recorded.revising.settings w s) (.refl _) (Nat.le_refl _) fun _ _ h => h
  note w n hn :=
    of_keepsStacks (Recorded.revising.note w n hn) (.refl _) (Nat.le_refl _) fun _ _ h => h
  store w s hs :=
    of_keepsStacks (Recorded.revising.store w s hs) hs.keepsStacks hs.framesIssued_le
      fun _ _ h => h

/-- Opening a frame spares those out of reach. -/
theorem opened (w : World (Hands υ) ε) (t : ThreadId) (c : CellId) :
    Spares X w (w.opened t c) := by
  refine ⟨.opened w t c, fun hX hn => ?_⟩
  have hissued : (w.opened t c).store.framesIssued = w.store.framesIssued + 1 :=
    Store.framesIssued_push w.store t c
  rw [hissued] at hn
  refine ⟨hX.mono (by omega) fun _ _ h => h, fun u d => ?_⟩
  exact Store.outward_push t u c d (hX.next_notMem hn t c)

/-- Closing another frame spares those out of reach. -/
theorem closed {t : ThreadId} {c : CellId} {f : FrameId} {r : Replaced} {s : Store} (hf : f ∉ X)
    (h : w.store.pop t c f = .ok (r, s)) : Spares X w (w.closed t c f s) := by
  refine ⟨.closed w t c f r s h, fun hX _ => ?_⟩
  refine ⟨hX.mono (Nat.le_of_eq (Store.framesIssued_pop h).symm) fun _ _ h => h, fun u d => ?_⟩
  exact Store.outward_pop hf h u d

end Spares

/-- Whatever opens and closes no frame spares all frames. -/
theorem SparesAll.revising : Revising (@SparesAll υ ε) where
  refl w X := (Spares.revising X).refl w
  trans h h' X := (h X).trans (h' X)
  settings w s X := (Spares.revising X).settings w s
  note w n hn X := (Spares.revising X).note w n hn
  store w s hs X := (Spares.revising X).store w s hs

/-- A scope opens a frame that is not out of reach yet, and spares all frames that are. -/
theorem SparesAll.scoping : Scoping (@SparesAll υ ε) SparesOthers where
  toRevising := revising
  revising_held g :=
    { refl := fun w X _ => (Spares.revising X).refl w
      trans := fun h h' X hg => (h X hg).trans (h' X hg)
      settings := fun w s X _ => (Spares.revising X).settings w s
      note := fun w n hn X _ => (Spares.revising X).note w n hn
      store := fun w s hs X _ => (Spares.revising X).store w s hs }
  weaken _ _ _ h X _ := h X
  opened w t c w' h X := by
    have hrecorded := (h [] (by simp)).recorded
    refine ⟨(Recorded.opened w t c).trans hrecorded, fun hX hn => ?_⟩
    obtain ⟨J, -, hfollows⟩ := hrecorded
    have hle := hfollows.framesIssued_le
    rw [show (w.opened t c).store.framesIssued = w.store.framesIssued + 1 from
      Store.framesIssued_push w.store t c] at hle
    -- The frame of the scope is new, so whoever closes it closes none of those out of reach.
    have hf := hX.next_notMem (Nat.le_trans hle hn) t c
    exact ((Spares.opened w t c).trans (h X hf)).spared hX hn
  closed g w t r s h X hg := .closed hg h

end Worlds

open Act (Leads)

namespace Hands

variable {υ ε : Type} {X : List FrameId} {deliver : Delivery (Hands υ) ε}

/-- Looking for a guard finds it on its own thread. -/
theorem find_run (n : Nat) (ctx : Context) (w : World (Hands υ) ε) :
    find n ctx w = (.done ((w.host.guards.get? n).filter fun h => h.thread = ctx.thread), w) :=
  rfl

/-- What follows the search for a guard, if that spares the frames when the guard found has none of
them. -/
theorem find_spares (n : Nat) {α : Type} {next : Option HeldGuard → Act (Hands υ) ε α}
    (hrecorded : Leads Recorded (find n >>= next))
    (hnext : ∀ found, (∀ h, found = some h → h.guard.frame ∉ X) → Leads (Spares X) (next found)) :
    Leads (Spares X) (find n >>= next) := by
  intro ctx w
  refine ⟨hrecorded ctx w, fun hX hn => ?_⟩
  rw [Act.bind_of_done (find_run n ctx w)] at hn ⊢
  refine (hnext _ (fun h hfound => ?_) ctx w).spared hX hn
  obtain ⟨hget, -⟩ := Option.filter_eq_some_iff.1 hfound
  exact hX.unheld n h hget

/-- Taking a guard out of hand spares all frames. -/
theorem take_spares (n : Nat) : Leads (Spares X) (take n : Act (Hands υ) ε Unit) := by
  intro ctx w
  refine .of_keepsStacks (.host w _) (.refl _) (Nat.le_refl _) fun m h hget => ?_
  change (w.host.guards.erase n).get? m = some h at hget
  rw [Table.get?_erase] at hget
  split at hget
  · cases hget
  · exact hget

/-- A guard of another frame may come into hand. -/
theorem put_spares (n : Nat) {h : HeldGuard} (hf : h.guard.frame ∉ X) :
    Leads (Spares X) (put n h : Act (Hands υ) ε Unit) := by
  intro ctx w
  refine ⟨.host w _, fun hX _ => ⟨⟨hX.issued, fun m k hget => ?_⟩, fun _ _ => rfl⟩⟩
  change (w.host.guards.insert n h).get? m = some k at hget
  rw [Table.get?_insert] at hget
  split at hget
  · cases hget
    exact hf
  · exact hX.unheld m k hget

/-- The program's own state is no matter of its guards. -/
theorem modifyHost_spares {change : Hands υ → Hands υ}
    (h : ∀ hands, (change hands).guards = hands.guards) :
    Leads (Spares X) (Act.modifyHost change : Act (Hands υ) ε Unit) := by
  intro ctx w
  refine .of_keepsStacks (.host w _) (.refl _) (Nat.le_refl _) fun m held hget => ?_
  change (change w.host).guards.get? m = some held at hget
  rw [h] at hget
  exact hget

/-- Closing a frame spares the others that are out of reach. -/
theorem pop_spares (hd : ∀ w e, Leads (Spares X) (deliver w e)) {c : CellId} {f : FrameId}
    (hf : f ∉ X) : Leads (Spares X) (c.pop deliver f) := by
  have hR : Plain (@Spares υ ε X) := (Spares.revising X).toPlain
  exact c.pop_leads hR hd f fun w t r s hp => hR.changed (.closed hf hp)

/-- Acquiring a guard opens a frame that was not out of reach. -/
theorem acquire_spares (c : CellId) : Leads (Spares X) (acquire c : Act (Hands υ) ε Nat) := by
  have hR : Plain (@Spares υ ε X) := (Spares.revising X).toPlain
  intro ctx w
  refine ⟨acquire_leads Recorded.revising.toPlain.calm Recorded.host Recorded.opened c ctx w,
    fun hX hn => ?_⟩
  have hissued : (acquire c ctx w).2.store.framesIssued = w.store.framesIssued + 1 :=
    Store.framesIssued_push w.store ctx.thread c
  have hf : (Guard.next w.store ctx.thread c).frame ∉ X :=
    hX.next_notMem (by omega) ctx.thread c
  have hopened : Spares X w (w.acquired ctx.thread c) :=
    (Spares.opened w ctx.thread c).trans (hR.note _ _ rfl)
  refine (hopened.trans ?_).spared hX hn
  unfold acquire
  rw [Act.bind_of_done (Guard.acquire_run c ctx w)]
  refine Leads.bind hR (.still hR fun _ _ => rfl) (fun t => ?_) ctx _
  refine .bind hR (.still hR fun _ _ => rfl) fun hands => ?_
  refine .bind hR (put_spares _ hf) fun _ => ?_
  exact .bind hR (modifyHost_spares fun _ => rfl) fun _ => .pure hR _

/-- Releasing a guard in hand closes its own frame at most. -/
theorem release_spares (hd : ∀ w e, Leads (Spares X) (deliver w e)) (n : Nat) :
    Leads (Spares X) (release deliver n) := by
  have hR : Plain (@Spares υ ε X) := (Spares.revising X).toPlain
  have hrecorded := ((handles (Recorded.stepwise fun w e =>
    (hd w e).weaken fun _ _ h => h.recorded)).releaseHeld n).2
  unfold release at hrecorded ⊢
  refine find_spares n hrecorded fun found hfound => ?_
  cases found with
  | none => exact .pure hR _
  | some h =>
    have hf : h.guard.frame ∉ X := hfound h rfl
    have hrelease := h.guard.release_leads hR (pop_spares hd hf)
    refine .bind hR (take_spares n) fun _ => ?_
    refine .bind_of hR (.onUnwind hR hrelease (put_spares n hf)) (.onUnwind h.guard.release_yields)
      fun result hresult => ?_
    cases result with
    | ok guard =>
      rw [hresult guard rfl]
      exact .bind hR (put_spares n hf) fun _ => .pure hR _
    | error fault => exact .bind hR (put_spares n hf) fun _ => .pure hR _

/-- Dropping a guard in hand closes its own frame at most. -/
theorem drop_spares (hd : ∀ w e, Leads (Spares X) (deliver w e)) (n : Nat) :
    Leads (Spares X) (drop deliver n) := by
  have hR : Plain (@Spares υ ε X) := (Spares.revising X).toPlain
  have hrecorded := ((handles (Recorded.stepwise fun w e =>
    (hd w e).weaken fun _ _ h => h.recorded)).dropHeld n).2
  unfold drop at hrecorded ⊢
  refine find_spares n hrecorded fun found hfound => ?_
  cases found with
  | none => exact .pure hR _
  | some h =>
    have hf : h.guard.frame ∉ X := hfound h rfl
    refine .bind hR (take_spares n) fun _ => ?_
    exact h.guard.drop_leads hR (pop_spares hd hf)

/-- Forgetting a guard closes no frame. -/
theorem forget_spares (n : Nat) : Leads (Spares X) (forget n : Act (Hands υ) ε Unit) := by
  have hR : Plain (@Spares υ ε X) := (Spares.revising X).toPlain
  have hrecorded : Leads Recorded (forget n : Act (Hands υ) ε Unit) :=
    forget_leads Recorded.revising.toPlain.calm Recorded.host n
  unfold forget at hrecorded ⊢
  refine find_spares n hrecorded fun found _ => ?_
  cases found with
  | none => exact .pure hR _
  | some h => exact take_spares n

end Hands

/-- Calls that close frames only through guards. -/
def Call.Guarded {υ ε α : Type} : Call υ ε α → Prop
  | .pop _ _ => False
  | _ => True

/-- Programs that close frames only through guards. They may open frames and forget guards as they
like. -/
def Program.Guarded {υ ε α : Type} (p : Program υ ε α) : Prop :=
  p.Uses Call.Guarded True

section Programs

variable {υ ε : Type} {deliver : Delivery (Hands υ) ε}

end Programs

end ScopedBinding
