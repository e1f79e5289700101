import ScopedBinding.Proofs.GuardStates
import ScopedBinding.Proofs.Reachable

/-!
# Runs step by step

A run in which frames are closed only through guards is a sequence of steps, in which the threads
take turns as they like (`Program.stepping`). Between two steps there is a scene: the world, and the
guards that the program does not have in its hands, because a scope has them or because they are
being released or dropped.

The steps are seen from one stack, of a variable on a thread, and while both live: other variables
are destroyed and other threads end. A step leaves this stack as it is, opens the next frame on it,
or closes the frame of a guard that is not in the program's hands (`Scene.Step.stack_cases`).
-/

set_option autoImplicit false

namespace ScopedBinding

open Act (Leads)

/-- A moment of a run: the world, with the guards in the program's hands, and all other guards. -/
structure Scene (υ ε : Type) where
  world : World (Hands υ) ε
  scopes : List Guard

namespace Scene

variable {υ ε : Type}

/-- The store at a moment. -/
def store (S : Scene υ ε) : Store :=
  S.world.store

/-- A single step of some thread, while a variable and a thread live. -/
inductive Step (t : ThreadId) (c : CellId) (S : Scene υ ε) : Scene υ ε → Prop where
  | revised {s : Store} (hs : S.store.Revises s) :
      Step t c S { S with world := { S.world with store := s } }
  | noted (n : Note ε) (hn : n.movesFrame = false) :
      Step t c S { S with world := { S.world with journal := n :: S.world.journal } }
  | configured (settings : Settings) :
      Step t c S { S with world := { S.world with settings } }
  | minded {hands : Hands υ} (h : hands.guards = S.world.host.guards) :
      Step t c S { S with world := { S.world with host := hands } }
  | opened (u : ThreadId) (d : CellId) : Step t c S { S with world := S.world.opened u d }
  | entered (u : ThreadId) (d : CellId) :
      Step t c S ⟨S.world.opened u d, .next S.store u d :: S.scopes⟩
  | closed {g : Guard} (hg : g ∈ S.scopes) {u : ThreadId} {r : Replaced} {s : Store}
      (hpop : S.store.pop u g.cell g.frame = .ok (r, s)) :
      Step t c S { S with world := S.world.closed u g.cell g.frame s }
  | left (g : Guard) : Step t c S { S with scopes := S.scopes.erase g }
  | taken {n : Nat} {h : HeldGuard} (hget : S.world.host.guards.get? n = some h) :
      Step t c S ⟨S.world.without n, h.guard :: S.scopes⟩
  | returned {g : Guard} (hg : g ∈ S.scopes) (n : Nat) {h : HeldGuard}
      (hf : h.guard.frame = g.frame) :
      Step t c S ⟨S.world.withGuard n h, S.scopes.erase g⟩
  | created (symbol : Symbol) (kind : CellKind) (init : Value) (hc : c ≠ ⟨S.store.cellsIssued⟩) :
      Step t c S
        { S with world := { S.world with store := (S.store.create symbol kind init).2 } }
  | destroyed (u : ThreadId) {d : CellId} (hd : c ≠ d) :
      Step t c S { S with world := { S.world with store := S.store.destroy u d } }
  | ended {u : ThreadId} (hu : S.store.kind c = .root ∨ u ≠ t) :
      Step t c S { S with world := { S.world with store := S.store.endThread u } }

/-- Some steps, one after another. -/
def Steps (t : ThreadId) (c : CellId) : Scene υ ε → Scene υ ε → Prop :=
  Relation.ReflTransGen (Step t c)

end Scene

/-! ## What a step does -/

namespace Store

variable {s : Store} {t u : ThreadId} {c d : CellId}

/-- A variable that is gone leaves the others as they are. -/
theorem sameAt_destroy (s : Store) (u : ThreadId) (h : c ≠ d) : SameAt c s (s.destroy u d) := by
  constructor
  · rw [cell?_destroy, if_neg h]
  · intro v
    rw [binding?_destroy, if_neg fun heq => h (Prod.mk.inj heq).2]

/-- A new variable leaves the others as they are. -/
theorem sameAt_create (s : Store) (symbol : Symbol) (kind : CellKind) (init : Value)
    (h : c ≠ ⟨s.cellsIssued⟩) : SameAt c s (s.create symbol kind init).2 :=
  Numbered.sameAt_create symbol kind init h

/-- Ending a thread leaves the stacks that other threads see, and the shared ones. -/
theorem stack_endThread (s : Store) (h : s.kind c = .root ∨ u ≠ t) :
    (s.endThread u).stack t c = s.stack t c := by
  have hkind : (s.endThread u).kind c = s.kind c := rfl
  cases hk : s.kind c with
  | root =>
    have hstorage := storage_of_root hk t
    unfold stack at hstorage ⊢
    rw [show (s.endThread u).cell? c = s.cell? c from rfl, hstorage]
  | dynamic =>
    have hu : t ≠ u := by
      rintro rfl
      rw [hk] at h
      simp at h
    rw [stack_of_dynamic (hkind.trans hk), stack_of_dynamic hk, binding?_endThread, if_neg hu]

/-- A variable stays well formed when a thread ends. -/
theorem WellFormedAt.endThread (h : s.WellFormedAt c) (u : ThreadId) :
    (s.endThread u).WellFormedAt c := by
  have hbound : ∀ v b, (s.endThread u).binding? v c = some b → s.binding? v c = some b := by
    intro v b hb
    rw [binding?_endThread] at hb
    split at hb
    · cases hb
    · exact hb
  refine ⟨fun v hk => ?_, fun v b hb => h.bound v b (hbound v b hb), fun v frame hframe => ?_⟩
  · cases hb : (s.endThread u).binding? v c with
    | none => rfl
    | some b => exact absurd ((h.unbound v hk).symm.trans (hbound v b hb)) nofun
  · by_cases hv : s.kind c = .root ∨ u ≠ v
    · rw [s.stack_endThread hv] at hframe
      exact h.issued v frame hframe
    · -- The thread that ended has no frames of a dynamic variable.
      obtain ⟨hk, hu⟩ := not_or.1 hv
      obtain rfl := not_not.1 hu
      have hk' : (s.endThread u).kind c = .dynamic := by
        show s.kind c = .dynamic
        cases hs : s.kind c with
        | root => exact absurd hs hk
        | dynamic => rfl
      rw [stack_of_dynamic hk', binding?_endThread, if_pos rfl] at hframe
      cases hframe

end Store

namespace Scene.Step

variable {υ ε : Type} {t : ThreadId} {c : CellId} {S S' : Scene υ ε}

/-- A guard that is not in the program's hands goes away. -/
theorem left_head (w : World (Hands υ) ε) (g : Guard) (scopes : List Guard) :
    Step t c ⟨w, g :: scopes⟩ ⟨w, scopes⟩ := by
  have hstep := Step.left (t := t) (c := c) (S := ⟨w, g :: scopes⟩) g
  rwa [List.erase_cons_head] at hstep

/-- A guard is put into the program's hands. -/
theorem returned_head (w : World (Hands υ) ε) {g : Guard} (scopes : List Guard) (n : Nat)
    {h : HeldGuard} (hf : h.guard.frame = g.frame) :
    Step t c ⟨w, g :: scopes⟩ ⟨w.withGuard n h, scopes⟩ := by
  have hstep := Step.returned (t := t) (c := c) (S := ⟨w, g :: scopes⟩) List.mem_cons_self n hf
  rwa [List.erase_cons_head] at hstep

/-- No step takes back a frame number. -/
theorem framesIssued_le (h : Step t c S S') : S.store.framesIssued ≤ S'.store.framesIssued := by
  cases h with
  | revised hs => exact hs.framesIssued_le
  | opened u d | entered u d =>
    exact Nat.le_trans (Nat.le_succ _) (Nat.le_of_eq (Store.framesIssued_push _ u d).symm)
  | closed _ hpop => exact Nat.le_of_eq (Store.framesIssued_pop hpop).symm
  | noted | configured | minded | left | taken | returned | created | destroyed | ended =>
    exact Nat.le_refl _

/-- Every step keeps the variable well formed. -/
theorem wellFormedAt (h : Step t c S S') (hs : S.store.WellFormedAt c) :
    S'.store.WellFormedAt c := by
  cases h with
  | revised hr => exact hr.wellFormedAt hs
  | opened u d => exact hs.push u d
  | entered u d => exact hs.push u d
  | closed _ hpop => exact hs.pop hpop
  | created symbol kind init hc =>
    exact hs.of_sameAt (S.store.sameAt_create symbol kind init hc) (Nat.le_refl _)
  | destroyed u hd => exact hs.of_sameAt (S.store.sameAt_destroy u hd) (Nat.le_refl _)
  | ended hu => exact hs.endThread _
  | noted | configured | minded | left | taken | returned => exact hs

/-- A step leaves the stack as it is, opens the next frame on it, or closes the frame of a guard
that is not in the program's hands. -/
theorem stack_cases (h : Step t c S S') :
    S'.store.stack t c = S.store.stack t c ∨
      (∃ frame, frame.id = .afterIssued S.store.framesIssued ∧
        S'.store.framesIssued = S.store.framesIssued + 1 ∧
        S'.store.stack t c = (S.store.stack t c).push frame) ∨
      ∃ g ∈ S.scopes, ∃ frame, frame.id = g.frame ∧
        S.store.stack t c = (S'.store.stack t c).push frame := by
  have hpush : ∀ u d, (S.store.push u d).2.stack t c = S.store.stack t c ∨
      (∃ frame, frame.id = .afterIssued S.store.framesIssued ∧
        (S.store.push u d).2.framesIssued = S.store.framesIssued + 1 ∧
        (S.store.push u d).2.stack t c = (S.store.stack t c).push frame) := by
    intro u d
    rw [Store.stack_push]
    split
    · exact .inr ⟨_, S.store.push_fst_id u d, S.store.framesIssued_push u d, rfl⟩
    · exact .inl rfl
  cases h with
  | revised hs => exact .inl (hs.keepsStacks.stack t c)
  | opened u d => exact (hpush u d).imp_right .inl
  | entered u d => exact (hpush u d).imp_right .inl
  | @closed g hg u r s hpop =>
    obtain ⟨frame, rest, hid, htop, hstack⟩ := Store.stack_pop hpop
    by_cases hat : c = g.cell ∧ S.store.SameStack g.cell u t
    · obtain ⟨rfl, hsame⟩ := hat
      refine .inr (.inr ⟨g, hg, frame, hid, ?_⟩)
      rw [hsame.stack_eq, htop]
      show rest.push frame = (s.stack t g.cell).push frame
      rw [hstack, if_pos ⟨rfl, hsame⟩]
    · refine .inl ?_
      show s.stack t c = _
      rw [hstack, if_neg hat]
  | created symbol kind init hc => exact .inl ((S.store.sameAt_create symbol kind init hc).stack t)
  | destroyed u hd => exact .inl ((S.store.sameAt_destroy u hd).stack t)
  | ended hu => exact .inl (S.store.stack_endThread hu)
  | noted | configured | minded | left | taken | returned => exact .inl rfl

end Scene.Step

/-- No steps take back a frame number. -/
theorem Scene.Steps.framesIssued_le {υ ε : Type} {t : ThreadId} {c : CellId} {S S' : Scene υ ε}
    (h : Steps t c S S') : S.store.framesIssued ≤ S'.store.framesIssued := by
  induction h with
  | refl => exact Nat.le_refl _
  | tail _ hstep ih => exact Nat.le_trans ih hstep.framesIssued_le

/-! ## Programs -/

section Programs

variable {υ ε : Type} {t : ThreadId} {c : CellId}

/-- Steps lead from one world to another, whatever guards are not in the program's hands. -/
def Stepping (t : ThreadId) (c : CellId) (w w' : World (Hands υ) ε) : Prop :=
  ∀ scopes, Scene.Steps t c ⟨w, scopes⟩ ⟨w', scopes⟩

/-- The same while a guard is held that the program does not have in its hands. -/
def SteppingWith (t : ThreadId) (c : CellId) (g : Guard) (w w' : World (Hands υ) ε) : Prop :=
  ∀ scopes, g ∈ scopes → Scene.Steps t c ⟨w, scopes⟩ ⟨w', scopes⟩

/-- Changes that open and close no frame are steps. -/
theorem Stepping.revising : Revising (Stepping t c : World (Hands υ) ε → World (Hands υ) ε → Prop)
    where
  refl _ _ := .refl
  trans h h' scopes := (h scopes).trans (h' scopes)
  settings _ s _ := .single (.configured s)
  note _ n hn _ := .single (.noted n hn)
  store _ _ hs _ := .single (.revised hs)

/-- So they are while the scene has one more guard. -/
theorem SteppingWith.revising (g : Guard) :
    Revising (SteppingWith t c g : World (Hands υ) ε → World (Hands υ) ε → Prop) where
  refl _ _ _ := .refl
  trans h h' scopes hg := (h scopes hg).trans (h' scopes hg)
  settings _ s _ _ := .single (.configured s)
  note _ n hn _ _ := .single (.noted n hn)
  store _ _ hs _ _ := .single (.revised hs)

/-- A scope is entered with a new guard, which closes its frame and nothing else, and is left. -/
theorem Stepping.scoping :
    Scoping (Stepping t c : World (Hands υ) ε → World (Hands υ) ε → Prop) (SteppingWith t c) where
  toRevising := revising
  revising_held := SteppingWith.revising
  weaken _ _ _ h scopes _ := h scopes
  opened w u d w' h scopes := by
    have hinside := h (.next w.store u d :: scopes) List.mem_cons_self
    have hentered : Scene.Step t c ⟨w, scopes⟩ ⟨w.opened u d, .next w.store u d :: scopes⟩ :=
      .entered u d
    exact Relation.ReflTransGen.head hentered (hinside.tail (.left_head w' _ scopes))
  closed g w u r s hpop scopes hg := .single (.closed hg hpop)

end Programs

namespace Hands

variable {υ ε : Type} {t : ThreadId} {c : CellId} {deliver : Delivery (Hands υ) ε}

/-- Acquiring a guard is made of steps. -/
theorem acquire_stepping (d : CellId) :
    Leads (Stepping t c) (acquire d : Act (Hands υ) ε Nat) := by
  intro ctx w scopes
  have hentered : Scene.Steps t c ⟨w, scopes⟩
      ⟨w.acquired ctx.thread d, .next w.store ctx.thread d :: scopes⟩ :=
    (Relation.ReflTransGen.single (.entered ctx.thread d)).tail (.noted _ rfl)
  have hput := Scene.Step.returned_head (t := t) (c := c) (w.acquired ctx.thread d)
    (g := .next w.store ctx.thread d) scopes w.host.issued
    (h := ⟨ctx.thread, .next w.store ctx.thread d, false⟩) rfl
  exact (hentered.tail hput).tail (.minded rfl)

/-- What a guard does with its frame while it is in nobody's hands. -/
theorem guard_stepping (hd : ∀ w e, Leads (Stepping t c) (deliver w e)) (g : Guard) :
    Leads (SteppingWith t c g) (g.release deliver) ∧ Leads (SteppingWith t c g) (g.drop deliver) := by
  have hscopes : Scopes deliver (Stepping t c) (SteppingWith t c) := Stepping.scoping.scopes hd
  have hg := (hscopes.altering_held g).toCalm
  exact ⟨g.release_leads hg (hscopes.pop g), g.drop_leads hg (hscopes.pop g)⟩

/-- Releasing a guard is made of steps if the watches are. -/
theorem release_stepping (hd : ∀ w e, Leads (Stepping t c) (deliver w e)) (n : Nat) :
    Leads (Stepping t c) (release deliver n) := by
  intro ctx w scopes
  rcases release_cases deliver n ctx w with hnone | ⟨h, hget, hthread⟩
  · rw [hnone]
    exact .refl
  have htaken : Scene.Step t c ⟨w, scopes⟩ ⟨w.without n, h.guard :: scopes⟩ := .taken hget
  have hrun := (guard_stepping hd h.guard).1 ctx (w.without n) (h.guard :: scopes)
    List.mem_cons_self
  have hput : ∀ (w' : World (Hands υ) ε) (k : HeldGuard), k.guard.frame = h.guard.frame →
      Scene.Step t c ⟨w', h.guard :: scopes⟩ ⟨w'.withGuard n k, scopes⟩ :=
    fun w' k hf => .returned_head w' scopes n hf
  -- However the release ends, the guard goes back into the hands, or the run is over.
  rcases hrelease : h.guard.release deliver ctx (w.without n) with
    ⟨⟨fault | guard⟩ | message | _, w'⟩
  all_goals
    rw [hrelease] at hrun
    have hreached := Relation.ReflTransGen.head htaken hrun
  · rw [release_of_refused hget hthread hrelease]
    exact hreached.tail (hput w' h rfl)
  · rw [release_of_returned hget hthread hrelease]
    have hstate := h.guard.release_yields ctx (w.without n) _ (congrArg Prod.fst hrelease) guard rfl
    exact hreached.tail (hput w' { h with guard } (by rw [hstate]))
  · rw [release_of_panicked hget hthread hrelease]
    exact hreached.tail (hput w' { h with interrupted := true } rfl)
  · rw [release_of_halted hget hthread hrelease]
    exact hreached.tail (.left_head w' h.guard scopes)

/-- Letting a guard go out of scope is made of steps if the watches are. -/
theorem drop_stepping (hd : ∀ w e, Leads (Stepping t c) (deliver w e)) (n : Nat) :
    Leads (Stepping t c) (drop deliver n) := by
  intro ctx w scopes
  rcases drop_cases deliver n ctx w with hnone | ⟨h, hget, -, hdrop⟩
  · rw [hnone]
    exact .refl
  · rw [hdrop]
    have htaken : Scene.Step t c ⟨w, scopes⟩ ⟨w.without n, h.guard :: scopes⟩ := .taken hget
    have hrun := (guard_stepping hd h.guard).2 ctx (w.without n) (h.guard :: scopes)
      List.mem_cons_self
    exact (Relation.ReflTransGen.head htaken hrun).tail (.left_head _ h.guard scopes)

/-- Forgetting a guard is a step. -/
theorem forget_stepping (n : Nat) : Leads (Stepping t c) (forget n : Act (Hands υ) ε Unit) := by
  intro ctx w scopes
  rcases forget_cases n ctx w with hnone | ⟨h, hget, hforget⟩
  · rw [hnone]
    exact .refl
  · rw [hforget]
    have htaken : Scene.Step t c ⟨w, scopes⟩ ⟨w.without n, h.guard :: scopes⟩ := .taken hget
    exact (Relation.ReflTransGen.single htaken).tail (.left_head _ h.guard scopes)

end Hands

section Programs

variable {υ ε : Type} {t : ThreadId} {c : CellId} {deliver : Delivery (Hands υ) ε}

/-- A call that closes frames only through guards is made of steps. -/
theorem Call.stepping (hd : ∀ w e, Leads (Stepping t c) (deliver w e)) {α : Type} {op : Call υ ε α}
    (h : op.Guarded) : Leads (Stepping t c) (op.act deliver) := by
  cases op with
  | own change => exact fun ctx w scopes => .single (.minded rfl)
  | push d => exact fun ctx w scopes => .single (.opened ctx.thread d)
  | pop d f => exact h.elim
  | acquire d => exact Hands.acquire_stepping d
  | release n => exact Hands.release_stepping hd n
  | drop n => exact Hands.drop_stepping hd n
  | forget n => exact Hands.forget_stepping n
  | look | panic | halt | write | setRoot | issueFrame | watch | unwatch | capture | policy
  | policyFromVariable | install | setVariable =>
    exact leads_of_isPlain (Stepping.revising.altering hd) trivial

/-- So are the runs of watches that close frames only through guards. -/
theorem Rules.deliver_stepping (rules : Rules υ ε) (hrules : ∀ w e, (rules w e).Guarded)
    (depth : Nat) (w : WatchId) (e : Event) : Leads (Stepping t c) (rules.deliver depth w e) :=
  rules.deliver_leads Stepping.revising.toPlain.calm (fun _ hd => Stepping.scoping.scopes hd)
    (fun _ hd _ _ h => Call.stepping hd h) hrules depth w e

/-- A program that closes frames only through guards leads from scene to scene by steps. -/
theorem Program.stepping (hd : ∀ w e, Leads (Stepping t c) (deliver w e)) {α : Type}
    (p : Program υ ε α) (hp : p.Guarded) : Leads (Stepping t c) (p.act deliver) :=
  p.leads (Stepping.scoping.scopes hd) (fun _ => Call.stepping hd) hp

end Programs

end ScopedBinding
