import ScopedBinding.Proofs.Ownership

/-!
# Frames that are given up

A frame is given up when it is open and no guard has it any more: its guard was forgotten, or was
abandoned with the frame still on the stack (`Scene.Ends.givenUp`). Only the guard of a frame closes
it, and no other guard gets its frame, so a frame that is given up stays on its stack for good, with
all frames outside it (`Scene.GivenUp.steps`). Guards of these frames can never release them, and
frames that are opened inside later close in the opposite order as ever (`given_up_frames_block`).
-/

set_option autoImplicit false

namespace ScopedBinding

open Act (Leads)

/-! ## Stacks that grow and shrink -/

namespace Store

variable {s s' : Store} {t : ThreadId} {c : CellId} {f : FrameId} {frame : Frame}

/-- The frame on top has the whole stack outside it. -/
theorem outward_of_top (h : (s.stack t c).frames.head?.map Frame.id = some f) :
    s.outward [f] t c = (s.stack t c).frames := by
  obtain ⟨frame, hhead, rfl⟩ := Option.map_eq_some_iff.1 h
  obtain ⟨rest, hframes⟩ := List.head?_eq_some_iff.1 hhead
  unfold outward
  rw [hframes, List.dropWhile_cons_of_neg (by simp)]

/-- No frame outside another one is on top. -/
theorem head_ne_of_outward (hnodup : ((s.stack t c).frames.map Frame.id).Nodup) {x : FrameId}
    (hx : x ∈ (s.outward [f] t c).tail.map Frame.id) :
    (s.stack t c).frames.head?.map Frame.id ≠ some x := by
  unfold outward at hx
  cases hframes : (s.stack t c).frames with
  | nil => nofun
  | cons top rest =>
    rw [hframes] at hx hnodup
    have hrest : x ∈ rest.map Frame.id := by
      by_cases htop : top.id = f
      · rw [List.dropWhile_cons_of_neg (by simp [htop])] at hx
        exact hx
      · rw [List.dropWhile_cons_of_pos (by simpa using htop)] at hx
        obtain ⟨frame, hframe, rfl⟩ := List.mem_map.1 hx
        have hmem := List.mem_of_mem_tail hframe
        exact List.mem_map_of_mem ((List.dropWhile_sublist _).subset hmem)
    intro heq
    obtain rfl : top.id = x := Option.some.inj heq
    exact (List.nodup_cons.1 hnodup).1 hrest

/-- The frames outside another one are open. -/
theorem isOpen_of_mem_outward {X : List FrameId} (h : f ∈ (s.outward X t c).map Frame.id) :
    s.isOpen t c f = true := by
  obtain ⟨frame, hframe, rfl⟩ := List.mem_map.1 h
  exact isOpen_iff.2 (List.mem_map_of_mem ((List.dropWhile_sublist _).subset hframe))

/-- An open frame that is not innermost is refused, and the fault tells which one is. -/
theorem pop_of_inner (hopen : s.isOpen t c f = true)
    (htop : (s.stack t c).top?.map Frame.id ≠ some f) :
    ∃ top, s.pop t c f = .error (.outOfOrder (s.symbol c).display f (some top)) := by
  rw [pop_of_not_top htop]
  obtain ⟨frame, hframe, -⟩ := List.mem_map.1 (isOpen_iff.1 hopen)
  cases hframes : (s.stack t c).frames with
  | nil => exact absurd (hframes ▸ hframe) List.not_mem_nil
  | cons top rest =>
    unfold FrameStack.top?
    rw [hframes]
    exact ⟨top.id, rfl⟩

end Store

/-! ## Guards that can still be released -/

namespace Guard

variable {η ε : Type} {deliver : Delivery η ε} {ctx : Context} {w : World η ε} {g : Guard}
  {t : ThreadId} {c : CellId} {f : FrameId}

/-- An acquired guard of a frame on a stack, on a thread that sees the stack. -/
structure Waits (g : Guard) (s : Store) (t : ThreadId) (c : CellId) (u : ThreadId) (f : FrameId) :
    Prop where
  cell : g.cell = c
  frame : g.frame = f
  state : g.state = .acquired
  sees : s.SameStack c t u

/-- A release that is refused because another frame is innermost. The refusal is logged. -/
def RefusedOutOfOrder (deliver : Delivery η ε) (ctx : Context) (w : World η ε) (g : Guard) : Prop :=
  ∃ top, g.release deliver ctx w =
    (.done (.error (.outOfOrder (w.store.symbol g.cell).display g.frame (some top))),
      w.reported g (some (.outOfOrder (w.store.symbol g.cell).display g.frame (some top))))

/-- A guard whose frame is covered by another is refused. -/
theorem Waits.refused (h : g.Waits w.store t c ctx.thread f) (hopen : w.store.isOpen t c f = true)
    (htop : (w.store.stack t c).top?.map Frame.id ≠ some f) :
    g.RefusedOutOfOrder deliver ctx w := by
  obtain ⟨rfl, rfl, hstate, hsees⟩ := h
  have hstack := hsees.stack_eq
  have hopen' : w.store.isOpen ctx.thread g.cell g.frame = true := by
    unfold Store.isOpen at hopen ⊢
    rw [hstack]
    exact hopen
  obtain ⟨top, hpop⟩ := Store.pop_of_inner hopen' (by rw [hstack]; exact htop)
  exact ⟨top, release_of_error hstate hpop⟩

/-- The guard of a frame outside another one has its release refused. -/
theorem Waits.refused_below {x : FrameId} (h : g.Waits w.store t c ctx.thread x)
    (hnodup : ((w.store.stack t c).frames.map Frame.id).Nodup)
    (hx : x ∈ (w.store.outward [f] t c).tail.map Frame.id) :
    g.RefusedOutOfOrder deliver ctx w := by
  obtain ⟨frame, hframe, rfl⟩ := List.mem_map.1 hx
  have hmem := List.mem_map_of_mem (f := Frame.id) (List.mem_of_mem_tail hframe)
  exact h.refused (Store.isOpen_of_mem_outward hmem) (Store.head_ne_of_outward hnodup hx)

end Guard

namespace Scene

variable {υ ε : Type} {t : ThreadId} {c : CellId} {S S' : Scene υ ε} {f : FrameId}

/-! ## What stays on the stack -/

/-- A frame that is open and has no guard. -/
def GivenUp (t : ThreadId) (c : CellId) (S : Scene υ ε) (f : FrameId) : Prop :=
  S.store.isOpen t c f = true ∧ ¬S.Holds f

namespace Sound

/-- A frame that is open after a step, or that no guard has, keeps its place in the stack. -/
theorem outward_step (h : Sound t c S) (hs : Step t c S S') (hn : S'.store.framesIssued ≤ 2 ^ 64)
    (hf : f.Issued S.store.framesIssued) (hstays : S'.store.isOpen t c f = true ∨ ¬S.Holds f) :
    S'.store.outward [f] t c = S.store.outward [f] t c := by
  rcases hs.stack_cases with hsame | ⟨frame, hid, hnext, hpush⟩ | ⟨g, hg, frame, hid, hpop⟩
  · exact Store.outward_of_stack hsame
  · apply Store.outward_of_pushed hpush
    rw [hid, List.mem_singleton]
    exact (FrameId.ne_afterIssued hf (by omega)).symm
  · apply (Store.outward_of_pushed hpop _).symm
    rw [List.mem_singleton]
    rintro rfl
    rcases hstays with hopen | hfree
    · -- The frame that was closed was there once, so it is not open any more.
      have hnodup := h.nodup
      rw [hpop] at hnodup
      exact (List.nodup_cons.1 hnodup).1 (Store.isOpen_iff.1 hopen)
    · exact hfree (.inr ⟨g, hg, hid.symm⟩)

/-- A frame that is open after some steps was open all the time, and has the same frames outside. -/
theorem outward_steps (h : Sound t c S) (hs : Steps t c S S')
    (hn : S'.store.framesIssued ≤ 2 ^ 64) (hf : f.Issued S.store.framesIssued)
    (hopen : S'.store.isOpen t c f = true) :
    S'.store.outward [f] t c = S.store.outward [f] t c := by
  induction hs with
  | refl => rfl
  | tail hfirst hlast ih =>
    have hn' := Nat.le_trans hlast.framesIssued_le hn
    have hissued := hf.mono (Steps.framesIssued_le hfirst)
    have hstep := (h.steps hfirst hn').outward_step hlast hn hissued (.inl hopen)
    rw [hstep]
    exact ih hn' ((Store.isOpen_of_outward hstep).symm.trans hopen)

end Sound

namespace GivenUp

/-- No step closes a frame that is given up, and none gives it to a guard again. -/
theorem step (hf : GivenUp t c S f) (h : Sound t c S) (hs : Step t c S S')
    (hn : S'.store.framesIssued ≤ 2 ^ 64) :
    GivenUp t c S' f ∧ S'.store.outward [f] t c = S.store.outward [f] t c := by
  have hissued := h.issued_of_isOpen hf.1
  have houtward := h.outward_step hs hn hissued (.inr hf.2)
  refine ⟨⟨(Store.isOpen_of_outward houtward).trans hf.1, fun hheld => ?_⟩, houtward⟩
  rcases hs.holds hheld with hold | ⟨hnext, hlt⟩
  · exact hf.2 hold
  · exact FrameId.ne_afterIssued hissued (by omega) hnext

/-- A frame that is given up stays so for good, with all frames outside it. -/
theorem steps (hf : GivenUp t c S f) (h : Sound t c S) (hs : Steps t c S S')
    (hn : S'.store.framesIssued ≤ 2 ^ 64) :
    GivenUp t c S' f ∧ S'.store.outward [f] t c = S.store.outward [f] t c := by
  induction hs with
  | refl => exact ⟨hf, rfl⟩
  | tail hfirst hlast ih =>
    have hn' := Nat.le_trans hlast.framesIssued_le hn
    obtain ⟨hf', houtward⟩ := ih hn'
    obtain ⟨hf'', hstep⟩ := hf'.step (h.steps hfirst hn') hlast hn
    exact ⟨hf'', hstep.trans houtward⟩

end GivenUp

/-! ## How a frame is given up -/

/-- A guard that deals with its frame, in nobody's hands, and then goes away leaves the frame without
a guard. -/
theorem Steps.left {g : Guard} {w' : World (Hands υ) ε} (hg : g ∈ S.scopes)
    (hrun : SteppingWith t c g S.world w') :
    Steps t c S ⟨w', S.scopes.erase g⟩ ∧
      (Sound t c S → w'.store.framesIssued ≤ 2 ^ 64 →
        ¬Holds ⟨w', S.scopes.erase g⟩ g.frame) := by
  have hreached := hrun S.scopes hg
  refine ⟨hreached.tail (.left g), fun hsound hn => ?_⟩
  exact (hsound.steps hreached hn).exclusive.not_holds_erase (S := ⟨w', S.scopes⟩) hg

/-- The ways in which a guard goes away: the program forgets it or drops it, a scope drops it, or an
override is over. Each is about the frame that the guard had. -/
inductive Ends (deliver : Delivery (Hands υ) ε) (S : Scene υ ε) : FrameId → Scene υ ε → Prop where
  | forgotten {n : Nat} {h : HeldGuard} (hget : S.world.host.guards.get? n = some h)
      (ctx : Context) (hthread : h.thread = ctx.thread) :
      Ends deliver S h.guard.frame ⟨(Hands.forget n ctx S.world).2, S.scopes⟩
  | dropped {n : Nat} {h : HeldGuard} (hget : S.world.host.guards.get? n = some h)
      (ctx : Context) (hthread : h.thread = ctx.thread) :
      Ends deliver S h.guard.frame ⟨(Hands.drop deliver n ctx S.world).2, S.scopes⟩
  | scopeDropped {g : Guard} (hg : g ∈ S.scopes) (ctx : Context) :
      Ends deliver S g.frame ⟨(g.drop deliver ctx S.world).2, S.scopes.erase g⟩
  | finished {g : Guard} (hg : g ∈ S.scopes) (ctx : Context) :
      Ends deliver S g.frame ⟨(Overrides.finish deliver g ctx S.world).2, S.scopes.erase g⟩

namespace Ends

variable {deliver : Delivery (Hands υ) ε}

/-- A guard goes away by some steps, and then no guard has its frame. -/
theorem steps (h : S.Ends deliver f S') (hd : ∀ w e, Leads (Stepping t c) (deliver w e)) :
    Steps t c S S' ∧
      (Sound t c S → S'.store.framesIssued ≤ 2 ^ 64 → ¬S'.Holds f) := by
  cases h with
  | @forgotten n k hget ctx hthread =>
    have hforget : (Hands.forget n ctx S.world).2 = S.world.without n := by
      unfold Hands.forget
      rw [Act.bind_of_done (Hands.find_held hget hthread)]
      rfl
    rw [hforget]
    have htaken : Step t c S ⟨S.world.without n, k.guard :: S.scopes⟩ := .taken hget
    refine ⟨(Relation.ReflTransGen.single htaken).tail (.left_head _ k.guard S.scopes), ?_⟩
    exact fun hsound _ => hsound.exclusive.not_holds_without hget
  | @dropped n k hget ctx hthread =>
    rw [Hands.drop_held hget hthread]
    have htaken : Step t c S ⟨S.world.without n, k.guard :: S.scopes⟩ := .taken hget
    have hrun := Steps.left (S := ⟨S.world.without n, k.guard :: S.scopes⟩) List.mem_cons_self
      ((Hands.guard_stepping hd k.guard).2 ctx (S.world.without n))
    rw [List.erase_cons_head] at hrun
    refine ⟨Relation.ReflTransGen.head htaken hrun.1, fun hsound hn => hrun.2 ?_ hn⟩
    exact hsound.step htaken (Nat.le_trans (Steps.framesIssued_le hrun.1) hn)
  | @scopeDropped g hg ctx =>
    exact Steps.left hg ((Hands.guard_stepping hd g).2 ctx S.world)
  | @finished g hg ctx =>
    exact Steps.left hg (Overrides.finish_leads (Stepping.scoping.scopes hd) g ctx S.world)

/-- A frame that is still open when its guard goes away is given up. -/
theorem givenUp (h : S.Ends deliver f S') (hd : ∀ w e, Leads (Stepping t c) (deliver w e))
    (hs : Sound t c S) (hn : S'.store.framesIssued ≤ 2 ^ 64)
    (hopen : S'.store.isOpen t c f = true) : GivenUp t c S' f :=
  ⟨hopen, (h.steps hd).2 hs hn⟩

end Ends

/-! ## What happens above and below -/

/-- What a frame does that was given up, seen from a later moment. It is still given up and has the
same frames outside it. A guard of one of these frames, in anybody's hands, has its release refused,
and stays in the program's hands if it is there. -/
structure Blocks (t : ThreadId) (c : CellId) (S S' : Scene υ ε) (f : FrameId) : Prop where
  givenUp : GivenUp t c S' f
  outward : S'.store.outward [f] t c = S.store.outward [f] t c
  refused : ∀ deliver ctx (g : Guard), ∀ x ∈ (S'.store.outward [f] t c).tail.map Frame.id,
    g.Waits S'.store t c ctx.thread x → g.RefusedOutOfOrder deliver ctx S'.world
  kept : ∀ deliver ctx n h, ∀ x ∈ (S'.store.outward [f] t c).tail.map Frame.id,
    S'.world.host.guards.get? n = some h → h.thread = ctx.thread →
      h.guard.Waits S'.store t c ctx.thread x →
      ∃ top w, Hands.release deliver n ctx S'.world = (.done (some (.error
        (.outOfOrder (S'.store.symbol c).display x (some top)))), w) ∧
          w.host.guards.get? n = some h

/-- How a frame closes, at a later moment, that a thread opened on a stack. It has the stack from
before outside it. If it is innermost its guard closes it, which gives back the stack and the value
from before, and only then are the watches told. Otherwise the release is refused. -/
structure InTurn (t : ThreadId) (c : CellId) (u : ThreadId) (s₀ : Store) (S' : Scene υ ε) :
    Prop where
  outward : S'.store.outward [(s₀.push u c).1.id] t c =
    (s₀.push u c).1 :: (s₀.stack t c).frames
  released : (S'.store.stack t c).top?.map Frame.id = some (s₀.push u c).1.id →
    ∀ deliver ctx (g : Guard), g.Waits S'.store t c ctx.thread (s₀.push u c).1.id →
      ∃ r s, s.stack t c = s₀.stack t c ∧ s.read ctx.thread c = s₀.read u c ∧
        g.release deliver ctx S'.world =
          (do c.announce deliver .restore r
              Act.log (g.report S'.store none)
              pure (.ok { g with state := .released }) : Act (Hands υ) ε (Except Fault Guard)) ctx
            (S'.world.closed ctx.thread c g.frame s)
  refused : (S'.store.stack t c).top?.map Frame.id ≠ some (s₀.push u c).1.id →
    ∀ deliver ctx (g : Guard), g.Waits S'.store t c ctx.thread (s₀.push u c).1.id →
      g.RefusedOutOfOrder deliver ctx S'.world

/-- A frame that nobody holds stays where it is, whatever happens later. -/
theorem GivenUp.blocks (hf : GivenUp t c S f) (h : Sound t c S) (hs : Steps t c S S')
    (hn : S'.store.framesIssued ≤ 2 ^ 64) : Blocks t c S S' f := by
  obtain ⟨hf', houtward⟩ := hf.steps h hs hn
  have hnodup := (h.steps hs hn).nodup
  refine ⟨hf', houtward, fun deliver ctx g x hx hwaits => hwaits.refused_below hnodup hx, ?_⟩
  intro deliver ctx n k x hx hget hthread hwaits
  -- The release takes the guard out of the hands, which does not touch the store, and puts it back.
  have hrefused : k.guard.RefusedOutOfOrder deliver ctx (S'.world.without n) :=
    Guard.Waits.refused_below (w := S'.world.without n) hwaits hnodup hx
  obtain ⟨top, hrelease⟩ := hrefused
  have hheld := Hands.release_of_refused hget hthread hrelease
  rw [hwaits.cell, hwaits.frame] at hheld
  exact ⟨top, _, hheld, World.get?_withGuard _ n k⟩

/-- A frame that was opened and is still open has the stack from before outside it. -/
theorem Sound.outward_opened (h : Sound t c S) {u : ThreadId} (hu : S.store.SameStack c t u)
    {M : Scene υ ε} (hopened : Step t c S M) (hM : M.world = S.world.opened u c)
    (hs : Steps t c M S') (hn : S'.store.framesIssued ≤ 2 ^ 64)
    (hopen : S'.store.isOpen t c (S.store.push u c).1.id = true) :
    S'.store.outward [(S.store.push u c).1.id] t c =
      (S.store.push u c).1 :: (S.store.stack t c).frames := by
  have hsound := h.step hopened (Nat.le_trans (Steps.framesIssued_le hs) hn)
  have hstack : M.store.stack t c = (S.store.stack t c).push (S.store.push u c).1 := by
    have hstore : M.store = (S.store.push u c).2 := congrArg World.store hM
    rw [hstore, Store.stack_push, if_pos ⟨rfl, hu.symm⟩]
  have hopenM : M.store.isOpen t c (S.store.push u c).1.id = true := by
    apply Store.isOpen_iff.2
    rw [hstack]
    exact List.mem_cons_self
  calc S'.store.outward [(S.store.push u c).1.id] t c
      = M.store.outward [(S.store.push u c).1.id] t c :=
        hsound.outward_steps hs hn (hsound.issued_of_isOpen hopenM) hopen
    _ = (M.store.stack t c).frames := Store.outward_of_top (by rw [hstack]; rfl)
    _ = (S.store.push u c).1 :: (S.store.stack t c).frames := by rw [hstack]; rfl

/-- A frame that is opened inside another one closes in its turn. -/
theorem Sound.inTurn (h : Sound t c S) (hf : S.store.isOpen t c f = true) {u : ThreadId}
    (hu : S.store.SameStack c t u) {M : Scene υ ε} (hopened : Step t c S M)
    (hM : M.world = S.world.opened u c) (hs : Steps t c M S')
    (hn : S'.store.framesIssued ≤ 2 ^ 64)
    (hopen : S'.store.isOpen t c (S.store.push u c).1.id = true) :
    InTurn t c u S.store S' := by
  have hsound := (h.step hopened (Nat.le_trans (Steps.framesIssued_le hs) hn)).steps hs hn
  have houtward := h.outward_opened hu hopened hM hs hn hopen
  refine ⟨houtward, fun htop deliver ctx g hwaits => ?_, fun htop deliver ctx g hwaits => ?_⟩
  · have hstack : S'.store.stack ctx.thread c =
        (S.store.stack t c).push (S.store.push u c).1 := by
      rw [hwaits.sees.stack_eq]
      exact FrameStack.mk.injEq .. ▸ (Store.outward_of_top htop).symm.trans houtward
    obtain ⟨r, s, hpop⟩ := Store.pop_of_top hstack
    -- The outer frame keeps the binding, so the value that was saved is seen again.
    have hvisible : (S.store.stack t c).isEmpty = false := by
      obtain ⟨frame, hframe, -⟩ := List.mem_map.1 (Store.isOpen_iff.1 hf)
      exact List.isEmpty_eq_false_iff.2 (List.ne_nil_of_mem hframe)
    have hread := (hsound.wellFormed.read_pop hstack hpop).1 (.inr hvisible)
    refine ⟨r, s, Store.stack_pop_top hstack hpop hwaits.sees.symm,
      hread.trans (h.wellFormed.saved_push u), ?_⟩
    rw [← hwaits.frame, ← hwaits.cell] at hpop
    rw [← hwaits.cell]
    exact Guard.release_of_ok hwaits.state hpop
  · exact hwaits.refused hopen htop

end Scene

/-! ## Blocked stacks -/

section Blocking

variable {υ ε : Type}

/-- A frame that is given up blocks everything outside it for good. A run in which frames are closed
only through guards goes by steps, on every stack; it may be cut off anywhere, so this is true of
every moment of it. When a guard goes away and its frame is still open, the frame is given up. From
then on it and all frames outside it stay as they are, and guards of these can never release them.
Frames that are opened inside it, or inside any other open frame, close in their turn. -/
theorem given_up_frames_block (rules : Rules υ ε) (hrules : ∀ w e, (rules w e).Guarded)
    (t : ThreadId) (c : CellId) :
    (∀ depth {α : Type} (p : Program υ ε α), p.Guarded → ∀ ctx w scopes,
      Scene.Steps t c ⟨w, scopes⟩ ⟨(p.act (rules.deliver depth) ctx w).2, scopes⟩) ∧
    ∀ w₀ : World (Hands υ) ε, Agreement w₀ → ∀ S, Scene.Steps t c ⟨w₀, []⟩ S →
      S.store.framesIssued ≤ 2 ^ 64 →
      (∀ depth f S', S.Ends (rules.deliver depth) f S' → Scene.Steps t c S S' ∧
        (S'.store.framesIssued ≤ 2 ^ 64 → S'.store.isOpen t c f = true → S'.GivenUp t c f)) ∧
      (∀ f, S.GivenUp t c f → ∀ S', Scene.Steps t c S S' → S'.store.framesIssued ≤ 2 ^ 64 →
        Scene.Blocks t c S S' f) ∧
      ∀ f, S.store.isOpen t c f = true → ∀ u, S.store.SameStack c t u → ∀ M S',
        Scene.Step t c S M → M.world = S.world.opened u c → Scene.Steps t c M S' →
          S'.store.framesIssued ≤ 2 ^ 64 →
          S'.store.isOpen t c (S.store.push u c).1.id = true → Scene.InTurn t c u S.store S' := by
  have hd : ∀ depth w e, Leads (Stepping t c) (rules.deliver depth w e) :=
    fun depth w e => rules.deliver_stepping hrules depth w e
  refine ⟨fun depth α p hp => p.stepping (hd depth) hp, fun w₀ h₀ S hS hn => ?_⟩
  have hsound := (Scene.Sound.start h₀ t c).steps hS hn
  refine ⟨fun depth f S' hends => ⟨(hends.steps (hd depth)).1, fun hn' hopen => ?_⟩, ?_, ?_⟩
  · exact hends.givenUp (hd depth) hsound hn' hopen
  · intro f hf S' hS' hn'
    exact hf.blocks hsound hS' hn'
  · intro f hf u hu M S' hopened hM hS' hn' hopen
    exact hsound.inTurn hf hu hopened hM hS' hn' hopen

end Blocking

/-- A program that acquires two guards of the shared variable. -/
def Program.acquireTwice : Program Unit Unit Nat := do
  let _ ← .call (.acquire ⟨1⟩)
  .call (.acquire ⟨1⟩)

/-- The world after that program. -/
def World.heldTwice : World (Hands Unit) Unit :=
  (Program.acquireTwice.act (Rules.deliver (fun _ _ => .call .halt) 0) ⟨⟨0⟩, false⟩
    (.start Store.sample ())).2

/-- The world after the inner guard is forgotten. -/
def World.innerForgotten : World (Hands Unit) Unit :=
  (Hands.forget 1 ⟨⟨0⟩, false⟩ heldTwice).2

/-- Then the outer guard cannot be released. A frame that another thread opens inside closes in its
turn. -/
theorem innerForgotten_blocks :
    (∃ top w, Hands.release (Rules.deliver (fun _ _ => .call .halt) 0) 0 ⟨⟨0⟩, false⟩
      World.innerForgotten = (.done (some (.error
        (.outOfOrder "y" (.afterIssued 0) (some top)))), w)) ∧
      Scene.InTurn ⟨0⟩ ⟨1⟩ ⟨1⟩ World.innerForgotten.store
        ⟨World.innerForgotten.opened ⟨1⟩ ⟨1⟩, []⟩ := by
  obtain ⟨hruns, hmoments⟩ := @given_up_frames_block Unit Unit (fun _ _ => .call .halt)
    (fun _ _ => trivial) ⟨0⟩ ⟨1⟩
  have hstart : Agreement (World.start Store.sample () : World (Hands Unit) Unit) :=
    .start Store.sample_fresh fun _ => rfl
  have hheld := hruns 0 Program.acquireTwice ⟨trivial, fun _ => trivial⟩ ⟨⟨0⟩, false⟩
    (.start Store.sample ()) []
  have hinner : (World.heldTwice.host.guards.get? 1).map (fun h => (h.thread, h.guard.frame)) =
      some (⟨0⟩, .afterIssued 1) := by
    decide +kernel
  obtain ⟨inner, hget, hpair⟩ := Option.map_eq_some_iff.1 hinner
  obtain ⟨hthread, hframe⟩ := Prod.mk.inj hpair
  have hends : Scene.Ends (Rules.deliver (fun _ _ => .call .halt) 0) ⟨World.heldTwice, []⟩
      (.afterIssued 1) ⟨World.innerForgotten, []⟩ :=
    hframe ▸ .forgotten hget ⟨⟨0⟩, false⟩ hthread
  have hhere := hmoments _ hstart _ hheld (by decide +kernel)
  obtain ⟨hsteps, hends'⟩ := hhere.1 0 _ _ hends
  have hn : World.innerForgotten.store.framesIssued ≤ 2 ^ 64 := by decide +kernel
  have hopen : World.innerForgotten.store.isOpen ⟨0⟩ ⟨1⟩ (.afterIssued 1) = true := by
    decide +kernel
  have hlater := hmoments _ hstart _ (hheld.trans hsteps) hn
  refine ⟨?_, ?_⟩
  · have hblocks := hlater.2.1 _ (hends' hn hopen) _ .refl hn
    have houter : (World.innerForgotten.host.guards.get? 0).map (fun h => (h.thread, h.guard)) =
        some (⟨0⟩, ⟨⟨1⟩, .afterIssued 0, .acquired⟩) := by
      decide +kernel
    obtain ⟨outer, hget', hpair'⟩ := Option.map_eq_some_iff.1 houter
    obtain ⟨hthread', hguard⟩ := Prod.mk.inj hpair'
    have hbelow : FrameId.afterIssued 0 ∈
        (World.innerForgotten.store.outward [.afterIssued 1] ⟨0⟩ ⟨1⟩).tail.map Frame.id := by
      decide +kernel
    have hwaits : outer.guard.Waits World.innerForgotten.store ⟨0⟩ ⟨1⟩ ⟨0⟩ (.afterIssued 0) := by
      rw [hguard]
      exact ⟨rfl, rfl, rfl, .inr rfl⟩
    have hsymbol : (World.innerForgotten.store.symbol ⟨1⟩).display = "y" := by decide +kernel
    obtain ⟨top, w, hrelease, -⟩ := hblocks.kept _ ⟨⟨0⟩, false⟩ 0 outer _ hbelow hget' hthread'
      hwaits
    rw [← hsymbol]
    exact ⟨top, w, hrelease⟩
  · exact hlater.2.2 _ hopen ⟨1⟩ (by decide +kernel) _ _ (.opened ⟨1⟩ ⟨1⟩) rfl .refl
      (by decide +kernel) (by decide +kernel)

end ScopedBinding
