import ScopedBinding.Proofs.Composition
import ScopedBinding.Proofs.DynamicScopes
import ScopedBinding.Proofs.Ledgers

/-!
# No alteration is lost

A program that keeps a ledger of a variable goes by steps in which the root of the variable is changed
by alterations only (`Program.ledgered_walks`). Its functions may panic, its watches may alter the root
again, and a function may alter the roots of other variables, whose watches may alter this one once the
function is through. If the run does not halt, no alteration is left under way and the lock is as it was.

Alterations are kept one after another by the lock alone. So at every moment the root is what the
functions of the completed alterations make of the first root, one after another
(`no_alteration_is_lost`).
-/

set_option autoImplicit false

namespace ScopedBinding

open Relation (ReflTransGen)

section Walks

variable {υ ε α β : Type} {c : CellId} {kind : CellKind}

/-! ## Actions that go by steps -/

/-- What a run is like in a world in which the variable has a kind: it goes by steps, and unless it is cut
off the same alterations are under way as before. -/
def World.Walked (c : CellId) (kind : CellKind) (w : World (Hands (Ledger υ)) ε) (e : Ending)
    (w' : World (Hands (Ledger υ)) ε) : Prop :=
  w.store.kind c = kind → ReflTransGen (World.Goes c) w w' ∧
    (e ≠ .halted → w'.ledger.running = w.ledger.running)

namespace World.Walked

variable {w w' w'' : World (Hands (Ledger υ)) ε} {e : Ending}

/-- Nothing has happened. -/
theorem refl (w : World (Hands (Ledger υ)) ε) (e : Ending) : w.Walked c kind e w :=
  fun _ => ⟨.refl, fun _ => rfl⟩

/-- A single step. -/
theorem single (h : w.Goes c w') (hrunning : w'.ledger.running = w.ledger.running) :
    w.Walked c kind e w' :=
  fun _ => ⟨.single h, fun _ => hrunning⟩

/-- What follows a run that was not cut off. -/
theorem trans {first : Ending} (h : w.Walked c kind first w') (hfirst : first ≠ .halted)
    (h' : w'.Walked c kind e w'') : w.Walked c kind e w'' := by
  intro hk
  obtain ⟨hsteps, hrunning⟩ := h hk
  obtain ⟨hsteps', hrunning'⟩ := h' ((Goes.kind_run hsteps).trans hk)
  exact ⟨hsteps.trans hsteps', fun he => (hrunning' he).trans (hrunning hfirst)⟩

/-- A cleanup after a panic. -/
theorem unwound (h : w.Walked c kind .panicked w') (h' : w'.Walked c kind e w'') :
    w.Walked c kind e.unwound w'' := by
  intro hk
  obtain ⟨hsteps, hrunning⟩ := h.trans nofun h' hk
  refine ⟨hsteps, fun he => hrunning fun hhalted => he ?_⟩
  rw [hhalted]
  rfl

end World.Walked

namespace Act

/-- From a world an action goes by steps. -/
def WalksAt (c : CellId) (kind : CellKind) (m : Act (Hands (Ledger υ)) ε α) (ctx : Context)
    (w : World (Hands (Ledger υ)) ε) : Prop :=
  w.Walked c kind (m ctx w).1.ending (m ctx w).2

/-- An action goes by steps wherever the variable has a kind. -/
def Walks (c : CellId) (kind : CellKind) {α : Type} (m : Act (Hands (Ledger υ)) ε α) : Prop :=
  Runs (fun _ w e w' => w.Walked c kind e w') m

variable {ctx : Context} {w w' : World (Hands (Ledger υ)) ε} {m : Act (Hands (Ledger υ)) ε α}

namespace WalksAt

/-- An action that does nothing there. -/
theorem of_still {a : α} (hrun : m ctx w = (.done a, w)) : m.WalksAt c kind ctx w := by
  unfold WalksAt
  rw [hrun]
  exact .refl w _

/-- An action that runs as another does from a later world. -/
theorem of_run {n : Act (Hands (Ledger υ)) ε α} (hrun : m ctx w = n ctx w')
    (h : n.WalksAt c kind ctx w') (hfirst : w.Walked c kind .done w') : m.WalksAt c kind ctx w := by
  unfold WalksAt
  rw [hrun]
  exact hfirst.trans nofun h

/-- One action after another. -/
theorem bind {next : α → Act (Hands (Ledger υ)) ε β} (hm : m.WalksAt c kind ctx w)
    (hnext : ∀ a, Walks c kind (next a)) : (m >>= next).WalksAt c kind ctx w :=
  Runs.bind_at (Q := fun _ w e w' => w.Walked c kind e w') (fun h h' => h.trans nofun h') hm
    fun a _ => hnext a

/-- An action with its cleanup. -/
theorem onUnwind {cleanup : Act (Hands (Ledger υ)) ε Unit} (hm : m.WalksAt c kind ctx w)
    (hc : Walks c kind cleanup) : (Act.onUnwind m cleanup).WalksAt c kind ctx w :=
  Runs.onUnwind_at (Q := fun _ w e w' => w.Walked c kind e w')
    (D := fun _ w e w' => w.Walked c kind e w') .unwound hm hc

end WalksAt

namespace Walks

/-- A value. -/
theorem pure (a : α) : Walks c kind (pure a : Act (Hands (Ledger υ)) ε α) :=
  fun _ w => .refl w _

/-- One action after another. -/
theorem bind {next : α → Act (Hands (Ledger υ)) ε β} (hm : Walks c kind m)
    (hnext : ∀ a, Walks c kind (next a)) : Walks c kind (m >>= next) :=
  fun ctx w => WalksAt.bind (hm ctx w) hnext

/-- An action with its cleanup. -/
theorem onUnwind {cleanup : Act (Hands (Ledger υ)) ε Unit} (hm : Walks c kind m)
    (hc : Walks c kind cleanup) : Walks c kind (Act.onUnwind m cleanup) :=
  fun ctx w => WalksAt.onUnwind (hm ctx w) hc

/-- A step that changes no value and leaves the ledger and the lock as they are. -/
theorem aside (h : ∀ ctx w, w.Aside (m ctx w).2 ∧ (m ctx w).2.ledger = w.ledger ∧
    (m ctx w).2.store.altering c = w.store.altering c) : Walks c kind m := by
  intro ctx w
  obtain ⟨haside, hledger, hlock⟩ := h ctx w
  have hrunning := congrArg Ledger.running hledger
  exact .single (.aside haside hrunning (congrArg Ledger.completed hledger) hlock) hrunning

/-- A panic that is stopped. -/
theorem attempt (h : Walks c kind m) : Walks c kind (Act.attempt m) := by
  intro ctx w hk
  have hm := h ctx w hk
  unfold Act.attempt
  generalize m ctx w = result at hm ⊢
  obtain ⟨_ | _ | _, w'⟩ := result
  · exact hm
  · exact ⟨hm.1, fun _ => hm.2 nofun⟩
  · exact hm

/-- Work on another thread. -/
theorem onThread (t : ThreadId) (h : Walks c kind m) : Walks c kind (Act.onThread t m) :=
  fun _ w => h ⟨t, false⟩ w

/-- Steps one after another. -/
theorem composes : Composes (Same fun {α} (m : Act (Hands (Ledger υ)) ε α) => Walks c kind m)
    (Same fun {α} (m : Act (Hands (Ledger υ)) ε α) => Walks c kind m) := by
  have hsequences : Sequences (Same fun {α} (m : Act (Hands (Ledger υ)) ε α) => Walks c kind m) :=
    Runs.sequences (Q := fun _ w e w' => w.Walked c kind e w') (fun _ w => .refl w _)
      (fun _ w message => .single (.aside (.logged message) rfl rfl rfl) rfl)
      (fun h h' => h.trans nofun h')
  exact hsequences.composes (D := fun _ w e w' => w.Walked c kind e w') (fun _ w => .refl w _)
    (fun _ w _ => .refl w _) .unwound

end Walks

end Act

open Act (Walks WalksAt Same)

/-! ## Operations -/

section Operations

variable {deliver : Delivery (Hands (Ledger υ)) ε} {ctx : Context}
  {w v : World (Hands (Ledger υ)) ε}

/-- Putting other settings in place. -/
theorem Act.setSettings_walks (s : Settings) :
    Walks c kind (Act.setSettings s : Act (Hands (Ledger υ)) ε Unit) :=
  .aside fun _ _ => ⟨.settings s, rfl, rfl⟩

/-- Opening a frame. -/
theorem World.walked_opened (w : World (Hands (Ledger υ)) ε) (t : ThreadId) (d : CellId) :
    w.Walked c kind .done (w.opened t d) :=
  .single (.aside (.opened t d) rfl rfl (w.store.altering_push t d c)) rfl

/-- Opening a frame for a guard. -/
theorem World.walked_acquired (w : World (Hands (Ledger υ)) ε) (t : ThreadId) (d : CellId) :
    w.Walked c kind .done (w.acquired t d) :=
  (w.walked_opened t d).trans nofun (.single (.aside (.logged _) rfl rfl rfl) rfl)

variable (hd : ∀ k e, Walks c kind (deliver k e))

include hd

/-- Telling the watches of an event. -/
theorem Event.deliver_walks (e : Event) : Walks c kind (e.deliver deliver) :=
  (Walks.composes.tell (fun k e => Same.of (hd k e)) e).2

/-- A change at another place than the root of the variable, with the delivery of its event. -/
theorem World.Altered.walks {p : Place} {e : Event} (h : w.Altered ctx.thread p e v)
    (hp : e.cell = c → p ≠ .root) {m : Act (Hands (Ledger υ)) ε α}
    {next : Unit → Act (Hands (Ledger υ)) ε α} (hnext : ∀ a, Walks c kind (next a))
    (hrun : m ctx w = (e.deliver deliver >>= next) ctx v) : m.WalksAt c kind ctx w := by
  have hledger : v.ledger = w.ledger := congrArg Hands.own h.host
  exact .of_run hrun (WalksAt.bind (e.deliver_walks hd ctx v) hnext)
    (.single (.elsewhere h hp) (congrArg Ledger.running hledger))

namespace CellId

/-- Setting another variable, or the binding of a thread. -/
theorem write_walks {d : CellId} (h : d = c → w.store.isBound ctx.thread d = true) (x : Value) :
    (d.write deliver x).WalksAt c kind ctx w := by
  refine (World.Altered.written d x).walks hd (fun hdc hroot => ?_) .pure (by rw [bind_pure]; rfl)
  unfold Store.writtenPlace at hroot
  rw [if_pos (h hdc)] at hroot
  cases hroot

/-- Setting the root of another variable. -/
theorem setRoot_walks {d : CellId} (h : d ≠ c) (x : Value) : Walks c kind (d.setRoot deliver x) :=
  fun _ _ => (World.Altered.rootSet d x).walks hd (fun hdc => absurd hdc h) .pure
    (by rw [bind_pure]; rfl)

/-- Altering the root of another variable. -/
theorem alterRoot_walks {d : CellId} (h : d ≠ c) {f : Value → Act (Hands (Ledger υ)) ε Value}
    (hf : ∀ v, Walks c kind (f v)) : Walks c kind (d.alterRoot deliver f) := by
  have hunlock : Walks c kind (d.unlock : Act (Hands (Ledger υ)) ε Unit) :=
    .aside fun _ w => ⟨.rearranged (.unlock d), rfl, w.store.altering_unlock_of_ne (Ne.symm h)⟩
  have hlock : Walks c kind (Act.onStore fun s => ((), s.lock d) : Act (Hands (Ledger υ)) ε Unit) :=
    .aside fun _ w => ⟨.rearranged (.lock d), rfl, w.store.altering_lock_of_ne (Ne.symm h)⟩
  have hhalt : Walks c kind (Act.halt : Act (Hands (Ledger υ)) ε Unit) := fun _ w => .refl w _
  have hcomposes : Act.Composes (Same fun {α} (m : Act (Hands (Ledger υ)) ε α) => Walks c kind m) _ :=
    Walks.composes
  exact (hcomposes.alterRoot (hcomposes.lock d (.of hhalt) (.of hlock)) (.of hunlock) (.of hunlock)
    (fun x => .of (setRoot_walks hd h x)) fun v => .of (hf v)).2

/-- Closing a frame of another variable, or of one whose frames are those of a thread. -/
theorem pop_walks {d : CellId} (h : d = c → kind = .dynamic) (f : FrameId) :
    Walks c kind (d.pop deliver f) := by
  intro ctx w hk
  cases hp : w.store.pop ctx.thread d f with
  | error fault =>
    rw [pop_of_error hp]
    exact ⟨.refl, fun _ => rfl⟩
  | ok result =>
    obtain ⟨r, s⟩ := result
    refine (World.Altered.returned d f hp).walks hd (fun hdc hroot => ?_)
      (fun _ => .pure _) (pop_delivers hp) hk
    have hdc : d = c := hdc
    subst hdc
    unfold Store.returnedPlace at hroot
    rw [hk, h rfl] at hroot
    cases hroot

end CellId

/-! ### Guards and overrides -/

/-- What only logs and decides the settings goes by steps, and so does closing the frames that set no root
of the variable. -/
theorem Act.Walks.closes :
    Act.Closes (Same fun {α} (m : Act (Hands (Ledger υ)) ε α) => Walks c kind m)
      (Same fun {α} (m : Act (Hands (Ledger υ)) ε α) => Walks c kind m) deliver deliver
      fun d _ => d = c → kind = .dynamic where
  toComposes := Walks.composes
  message message := .of (.aside fun _ _ => ⟨.logged message, rfl, rfl⟩)
  pop h := .of (CellId.pop_walks hd h _)
  current := Walks.composes.current fun s => .of (Act.setSettings_walks s)

/-- Dropping a guard of another variable, or of one whose frames are those of a thread. -/
theorem Guard.drop_walks {g : Guard} (h : g.cell = c → kind = .dynamic) :
    Walks c kind (g.drop deliver) :=
  ((Walks.closes hd).drop h).2

/-- Holding a guard of another variable, or of one whose frames are those of a thread. -/
theorem Guard.hold_walks {d : CellId} (h : d = c → kind = .dynamic)
    {body : Act (Hands (Ledger υ)) ε α} (hbody : Walks c kind body) :
    Walks c kind (hold deliver d body) := by
  intro ctx w
  have hg : Walks c kind ((Guard.next w.store ctx.thread d).drop deliver) := drop_walks hd h
  have hrest : Walks c kind (do
      let a ← Act.onUnwind body ((Guard.next w.store ctx.thread d).drop deliver)
      (Guard.next w.store ctx.thread d).drop deliver
      pure a) :=
    (hbody.onUnwind hg).bind fun a => hg.bind fun _ => .pure a
  exact WalksAt.of_run (Act.bind_of_done (acquire_run d ctx w)) (hrest ctx _)
    (w.walked_acquired ctx.thread d)

namespace Overrides

variable {discard : α → Act (Hands (Ledger υ)) ε Unit} (hdiscard : ∀ a, Walks c kind (discard a))

include hdiscard

/-- Overriding variables around a body. Where the variable is among them, its frame is opened first, so
it is the binding that is set. -/
theorem around_walks {set : Overrides} (hset : ∀ d ∈ set.map Prod.fst, d = c → kind = .dynamic)
    {body : Act (Hands (Ledger υ)) ε α} (hbody : Walks c kind body) :
    Walks c kind (around deliver discard set body) := by
  induction set with
  | nil => exact hbody.bind fun _ => .pure _
  | cons pair rest ih =>
    obtain ⟨d, x⟩ := pair
    have hfirst : d = c → kind = .dynamic := hset d List.mem_cons_self
    have hrest := ih fun d' hd' => hset d' (List.mem_cons_of_mem _ hd')
    intro ctx w hk
    have hbound : d = c →
        (w.acquired ctx.thread d).store.isBound ctx.thread d = true := fun hdc =>
      Store.isBound_push (by rw [hdc, hk, hfirst hdc]) ctx.thread
    have hinside := (CellId.write_walks hd hbound x).bind fun _ => hrest
    have hdrop := Guard.drop_walks hd (g := .next w.store ctx.thread d) hfirst
    refine WalksAt.of_run (around_cons deliver discard d x rest body ctx w) ?_
      (w.walked_acquired ctx.thread d) hk
    refine (hinside.onUnwind hdrop).bind fun ends => ?_
    have hfinish := ((Walks.closes hd).finish (g := .next w.store ctx.thread d) hfirst (.of hdrop)).2
    exact (hfinish.onUnwind (hdiscard ends.1)).bind fun _ => .pure _

/-- Overrides around a body. -/
theorem enter_walks {set : Overrides} (hset : ∀ d ∈ set.map Prod.fst, d = c → kind = .dynamic)
    {body : Act (Hands (Ledger υ)) ε α} (hbody : Walks c kind body) :
    Walks c kind (enter deliver discard set body) := by
  rw [enter_eq]
  exact around_walks hd hdiscard hset
    (.bind (.aside fun _ _ => ⟨.logged _, rfl, rfl⟩) fun _ => hbody)

/-- A run inside overrides. -/
theorem run_walks {set : Overrides} (hset : ∀ d ∈ set.map Prod.fst, d = c → kind = .dynamic)
    {body : Act (Hands (Ledger υ)) ε α} (hbody : Walks c kind body) :
    Walks c kind (run deliver discard set body) :=
  (Walks.composes.run (fun a => .of (hdiscard a)) (.of (enter_walks hd hdiscard hset hbody))).2

end Overrides

/-! ### Guards in hand -/

namespace Hands

/-- Releasing a guard in hand, of another variable or of one whose frames are those of a thread. -/
theorem release_walks {n : Nat}
    (h : ∀ held, w.host.guards.get? n = some held → held.guard.cell = c → kind = .dynamic) :
    (release deliver n).WalksAt c kind ctx w := by
  rcases release_cases deliver n ctx w with hnone | ⟨held, hget, hthread⟩
  · exact .of_still hnone
  · have hput : ∀ held, Walks c kind (put n held : Act (Hands (Ledger υ)) ε Unit) :=
      fun held => .aside fun _ _ => ⟨.host _, rfl, rfl⟩
    have hcloses := Walks.closes hd
    have hrelease : Walks c kind (held.guard.release deliver) :=
      (hcloses.release hcloses.message (hcloses.pop (h held hget))).2
    refine .of_run (release_held hget hthread) ?_ (.single (.aside (.host _) rfl rfl rfl) rfl)
    refine WalksAt.bind (hrelease.onUnwind (hput _) _ _) fun result => ?_
    split <;> exact (hput _).bind fun _ => .pure _

/-- Dropping a guard in hand, of another variable or of one whose frames are those of a thread. -/
theorem drop_walks {n : Nat}
    (h : ∀ held, w.host.guards.get? n = some held → held.guard.cell = c → kind = .dynamic) :
    (drop deliver n).WalksAt c kind ctx w := by
  rcases drop_cases deliver n ctx w with hnone | ⟨held, hget, hthread, hrun⟩
  · exact .of_still hnone
  · exact .of_run hrun (Guard.drop_walks hd (h held hget) ctx _)
      (.single (.aside (.host _) rfl rfl rfl) rfl)

omit hd

/-- Acquiring a guard. -/
theorem acquire_walks (d : CellId) (ctx : Context) (w : World (Hands (Ledger υ)) ε) :
    (acquire d : Act (Hands (Ledger υ)) ε Nat).WalksAt c kind ctx w := by
  have hput : (w.acquired ctx.thread d).Walked c kind .done (acquire d ctx w).2 :=
    .single (.aside (.host _) rfl rfl rfl) rfl
  exact (w.walked_acquired ctx.thread d).trans nofun hput

/-- Forgetting a guard. -/
theorem forget_walks (n : Nat) :
    Walks c kind (forget n : Act (Hands (Ledger υ)) ε Unit) := by
  intro ctx w
  rcases forget_cases n ctx w with hnone | ⟨held, -, hrun⟩
  · exact WalksAt.of_still hnone
  · rw [hrun]
    exact .single (.aside (.host _) rfl rfl rfl) rfl

end Hands

/-! ## Programs -/

omit hd in
/-- A variable is dynamic if closing its frames sets no root. -/
theorem Store.dynamic_of_not_shares {s : Store} {d : CellId} (hk : s.kind c = kind)
    (h : s.shares c d = false) (hdc : d = c) : kind = .dynamic := by
  unfold shares at h
  rw [hk] at h
  cases kind with
  | dynamic => rfl
  | root => exact absurd ⟨hdc, rfl⟩ (of_decide_eq_false h)

omit hd in
/-- A variable is dynamic if closing its frames sets no root, wherever it is among overrides. -/
theorem Store.dynamic_of_none_shares {s : Store} {set : Overrides} (hk : s.kind c = kind)
    (h : (set.any fun pair => s.shares c pair.1) = false) :
    ∀ d ∈ set.map Prod.fst, d = c → kind = .dynamic := by
  intro d hd
  obtain ⟨pair, hpair, rfl⟩ := List.mem_map.1 hd
  exact dynamic_of_not_shares hk (Bool.eq_false_iff.2 (List.any_eq_false.1 h pair hpair))

/-- A call that does not set the root of the variable itself. -/
theorem Call.ledgered_walks (op : Call υ ε α) (h : op.intrudes c ctx w.plain = false) :
    (op.ledgered.act deliver).WalksAt c kind ctx w := by
  intro hk
  have hcomposes : Act.Composes (Same fun {α} (m : Act (Hands (Ledger υ)) ε α) => Walks c kind m) _ :=
    Walks.composes
  have hset : ∀ s, Same (fun {α} (m : Act (Hands (Ledger υ)) ε α) => Walks c kind m)
      (Act.setSettings s) (Act.setSettings s) := fun s => .of (Act.setSettings_walks s)
  have haside : ∀ w' : World (Hands (Ledger υ)) ε, w.Aside w' → w'.ledger.running = w.ledger.running →
      w'.ledger.completed = w.ledger.completed → w'.store.altering c = w.store.altering c →
      ReflTransGen (World.Goes c) w w' ∧ (Ending.done ≠ .halted →
        w'.ledger.running = w.ledger.running) := fun _ h hrunning hcompleted hlock =>
    ⟨.single (.aside h hrunning hcompleted hlock), fun _ => hrunning⟩
  have hown : ∀ d, w.store.shares c d = false → d = c → kind = .dynamic :=
    fun d => Store.dynamic_of_not_shares hk
  have hguard : ∀ n, ((w.plain.host.guards.get? n).any fun held =>
      w.store.shares c held.guard.cell) = false → ∀ held, w.host.guards.get? n = some held →
      held.guard.cell = c → kind = .dynamic := by
    intro n hany held hget
    rw [show w.plain.host.guards.get? n = some held from hget] at hany
    exact hown held.guard.cell hany
  cases op with
  | look | panic | halt => exact ⟨.refl, fun _ => rfl⟩
  | own change => exact haside _ (.host _) rfl rfl rfl
  | write d x =>
    refine CellId.write_walks hd (fun hdc => ?_) x hk
    simp only [intrudes, hdc, true_and, decide_eq_false_iff_not, Bool.not_eq_false] at h
    rw [hdc]
    exact h
  | setRoot d x => exact CellId.setRoot_walks hd (of_decide_eq_false h) x ctx w hk
  | push d => exact haside _ (.opened ctx.thread d) rfl rfl (w.store.altering_push ctx.thread d c)
  | pop d f => exact CellId.pop_walks hd (hown d h) f ctx w hk
  | issueFrame => exact haside _ (.rearranged .issueFrame) rfl rfl rfl
  | watch d key k =>
    exact haside _ (.rearranged (.watch d key k)) rfl rfl
      (w.store.altering_updateCell_of_keeps d c fun _ => rfl)
  | unwatch d key =>
    exact haside _ (.rearranged (.unwatch d key)) rfl rfl
      (w.store.altering_updateCell_of_keeps d c fun _ => rfl)
  | acquire d => exact Hands.acquire_walks d ctx w hk
  | release n => exact Hands.release_walks hd (hguard n h) hk
  | drop n => exact Hands.drop_walks hd (hguard n h) hk
  | forget n => exact Hands.forget_walks n ctx w hk
  | capture cells => exact (hcomposes.capture cells).2 ctx w hk
  | policy => exact (hcomposes.current hset).2 ctx w hk
  | policyFromVariable => exact hcomposes.fromVariable.2 ctx w hk
  | install decided => exact (hcomposes.install hset decided).2 ctx w hk
  | setVariable content => exact (hcomposes.setVariable hset content).2 ctx w hk

/-- An alteration whose function keeps the ledger: it begins with the lock, the function runs, and it is
completed or given up. After it is completed the watches are told. -/
theorem CellId.alterRoot_entered {F : Value → Act (Hands (Ledger υ)) ε Value}
    {m : Act (Hands (Ledger υ)) ε Value} (hm : Walks c kind m)
    (hF : F (w.store.root c) ctx (w.locked c) =
      match m ctx (w.beginning c ctx.thread) with
      | (.done x, v) => (.done x, v.entering (.complete ⟨ctx.thread, w.store.root c, x⟩))
      | (.panicked message, v) =>
        (.panicked message, v.entering (.giveUp ctx.thread (w.store.root c)))
      | (.halted, v) => (.halted, v)) : (c.alterRoot deliver F).WalksAt c kind ctx w := by
  intro hk
  cases hfree : w.store.altering c with
  | true =>
    rw [alterRoot_of_taken hfree]
    exact ⟨.refl, fun _ => rfl⟩
  | false =>
    have hbegun : w.Goes c (w.beginning c ctx.thread) := .begun _ hfree
    obtain ⟨hsteps, hrunning⟩ := hm ctx (w.beginning c ctx.thread) (hbegun.kind_eq.trans hk)
    generalize m ctx (w.beginning c ctx.thread) = result at hsteps hrunning hF
    obtain ⟨o, v⟩ := result
    have hall : ReflTransGen (World.Goes c) w v := .head hbegun hsteps
    cases o with
    | done x =>
      have hunderway : v.ledger.running = (ctx.thread, w.store.root c) :: w.ledger.running :=
        hrunning nofun
      have hcompleted : v.Goes c (v.altering c ⟨ctx.thread, w.store.root c, x⟩) :=
        .completed (hunderway ▸ List.mem_cons_self) x
      have herased : (v.altering c ⟨ctx.thread, w.store.root c, x⟩).ledger.running =
          w.ledger.running :=
        (congrArg (List.erase · (ctx.thread, w.store.root c)) hunderway).trans (List.erase_cons_head _ _)
      -- The root is set right after the function has ended, and the watches are told of it.
      let e : Event := ⟨c, ((v.store.unlock c).setRoot c x).2.symbol c, (v.store.unlock c).root c, x, .write⟩
      have hset : c.setRoot deliver x ctx
            ((v.entering (.complete ⟨ctx.thread, w.store.root c, x⟩)).unlocked c) =
          e.deliver deliver ctx (v.altering c ⟨ctx.thread, w.store.root c, x⟩) :=
        rfl
      have htold := WalksAt.bind (e.deliver_walks hd ctx
        (v.altering c ⟨ctx.thread, w.store.root c, x⟩)) fun _ => Walks.pure x
      have hrun : c.alterRoot deliver F ctx w = _ :=
        (alterRoot_of_done hfree hF).trans (Act.bind_congr hset fun _ => pure x)
      exact WalksAt.of_run hrun htold (fun _ => ⟨hall.tail hcompleted, fun _ => herased⟩) hk
    | panicked message =>
      have hunderway : v.ledger.running = (ctx.thread, w.store.root c) :: w.ledger.running :=
        hrunning nofun
      have hgivenUp : v.Goes c (v.givingUp c ctx.thread (w.store.root c)) :=
        .givenUp (hunderway ▸ List.mem_cons_self)
      have herased : (v.givingUp c ctx.thread (w.store.root c)).ledger.running = w.ledger.running :=
        (congrArg (List.erase · (ctx.thread, w.store.root c)) hunderway).trans (List.erase_cons_head _ _)
      rw [alterRoot_of_panicked hfree hF]
      exact ⟨hall.tail hgivenUp, fun _ => herased⟩
    | halted =>
      rw [alterRoot_of_halted hfree hF]
      exact ⟨hall, fun hn => absurd rfl hn⟩

namespace Program

omit hd in
/-- A program that halts where something is the case goes by steps if the program does elsewhere. -/
theorem haltIf_walks {see : Context → World (Hands (Ledger υ)) ε → Bool}
    {p : Program (Ledger υ) ε α} (h : ∀ ctx w, w.store.kind c = kind → see ctx w = false →
      (p.act deliver).WalksAt c kind ctx w) : Walks c kind ((haltIf see p).act deliver) := by
  intro ctx w hk
  rw [haltIf_run]
  cases hsee : see ctx w with
  | true => exact ⟨.refl, fun hn => absurd rfl hn⟩
  | false => exact h ctx w hk hsee hk

/-- A program with a ledger goes by steps. -/
theorem ledgered_walks (p : Program υ ε α) : Walks c kind ((p.ledgered c).act deliver) := by
  induction p with
  | call op => exact haltIf_walks fun ctx w _ h => op.ledgered_walks hd h
  | bind first next ihFirst ihNext => exact ihFirst.bind ihNext
  | attempt body ih => exact ih.attempt
  | onUnwind body cleanup ihBody ihCleanup => exact ihBody.onUnwind ihCleanup
  | onThread t body ih => exact ih.attempt.onThread t
  | alterRoot d f ih =>
    unfold ledgered
    split
    · next hdc =>
      subst hdc
      exact fun ctx w =>
        CellId.alterRoot_entered hd (ih _) (accounted_run _ (w.store.root d) ctx (w.locked d))
    · next hdc => exact CellId.alterRoot_walks hd hdc ih
  | hold d body ih =>
    exact haltIf_walks fun ctx w hk h =>
      Guard.hold_walks hd (Store.dynamic_of_not_shares hk h) ih ctx w
  | override discard set body ihDiscard ihBody =>
    exact haltIf_walks fun ctx w hk h =>
      Overrides.run_walks hd ihDiscard (Store.dynamic_of_none_shares hk h) ihBody ctx w
  | tryOverride discard ofFault set body ihDiscard ihBody =>
    refine haltIf_walks fun ctx w hk h => ?_
    have hcurrent : Same (fun {α} (m : Act (Hands (Ledger υ)) ε α) => Walks c kind m) _ _ :=
      (Walks.closes hd).current
    have henter := Overrides.enter_walks hd ihDiscard (Store.dynamic_of_none_shares hk h) ihBody
    exact (Walks.composes.tryRun hcurrent (fun a => .of (ihDiscard a)) (fun a => .of (ihDiscard a))
      ofFault (.of henter)).2 ctx w
  | convey discard snapshot body ihDiscard ihBody =>
    exact haltIf_walks fun ctx w hk h =>
      Overrides.run_walks hd ihDiscard (Store.dynamic_of_none_shares hk h) ihBody ctx w

end Program

end Operations

/-- Watches with a ledger go by steps. -/
theorem Rules.ledgered_walks (rules : Rules υ ε) (depth : Nat) (k : WatchId) (e : Event) :
    Walks c kind ((rules.ledgered c).deliver depth k e) := by
  induction depth generalizing k e with
  | zero => exact fun _ _ _ => ⟨.refl, fun hn => absurd rfl hn⟩
  | succ depth ih => exact (rules k e).ledgered_walks ih

end Walks

/-! ## Alterations as they come out -/

section Main

variable {υ ε α : Type}

/-- How an alteration of a root comes out, by who has the lock and by what its function does. -/
structure CellId.Alters {η : Type} (c : CellId) (deliver : Delivery η ε)
    (f : Value → Act η ε Value) (ctx : Context) (w : World η ε) : Prop where
  /-- While another alteration has the lock there is no going on, and the function is not run. -/
  waits (htaken : w.store.altering c = true) : c.alterRoot deliver f ctx w = (.halted, w)
  /-- The root that is there when the function has ended is replaced by what it made, whether the thread
  has a binding or not. The lock is free then, and the watches are told of just that, once. -/
  completed (hfree : w.store.altering c = false) (x : Value) (v : World η ε)
    (hf : f (w.store.root c) ctx (w.locked c) = (.done x, v)) :
    ∃ e w', (v.unlocked c).Altered ctx.thread .root e w' ∧
      e = ⟨c, w'.store.symbol c, v.store.root c, x, .write⟩ ∧
      (∀ t d, w'.store.binding? t d = v.store.binding? t d) ∧ w'.store.altering c = false ∧
      c.alterRoot deliver f ctx w = (do e.deliver deliver; pure x : Act η ε Value) ctx w'
  /-- Whatever the watches have done. -/
  returned (hfree : w.store.altering c = false) (x y : Value) (v w' : World η ε)
    (hf : f (w.store.root c) ctx (w.locked c) = (.done x, v))
    (hrun : c.alterRoot deliver f ctx w = (.done y, w')) : y = x
  /-- A function that panics leaves the root as it is and the lock free. -/
  failed (hfree : w.store.altering c = false) (message : String) (v : World η ε)
    (hf : f (w.store.root c) ctx (w.locked c) = (.panicked message, v)) :
    c.alterRoot deliver f ctx w = (.panicked message, v.unlocked c) ∧
      (v.unlocked c).store.root c = v.store.root c ∧ (v.unlocked c).store.altering c = false

/-- Every alteration comes out like this. -/
theorem CellId.alters {η : Type} (c : CellId) (deliver : Delivery η ε)
    (f : Value → Act η ε Value) (ctx : Context) (w : World η ε) : c.Alters deliver f ctx w where
  waits htaken := alterRoot_of_taken htaken
  completed hfree x v hf := by
    have hroot : (v.unlocked c).store.root c = v.store.root c := Store.root_unlock _ c c
    have hlock := (Store.altering_setRoot (v.unlocked c).store c c x).trans (Store.altering_unlock _ c)
    refine ⟨_, _, .rootSet c x, ?_, fun t d => ?_, hlock, ?_⟩
    · rw [← hroot]
      rfl
    · rfl
    · rw [alterRoot_of_done hfree hf]
      rfl
  returned hfree x y v w' hf hrun := by
    rw [alterRoot_of_done hfree hf] at hrun
    obtain ⟨_, u, -, hlast⟩ := Act.done_of_bind hrun
    cases hlast
    rfl
  failed hfree message v hf :=
    ⟨alterRoot_of_panicked hfree hf, Store.root_unlock _ c c, Store.altering_unlock _ c⟩

/-- The run of a program that keeps a ledger of a variable, with watches that do so. -/
def Program.ledgeredRun (rules : Rules υ ε) (depth : Nat) (c : CellId) (p : Program υ ε α)
    (ctx : Context) (w : World (Hands (Ledger υ)) ε) : Outcome α × World (Hands (Ledger υ)) ε :=
  (p.ledgered c).act ((rules.ledgered c).deliver depth) ctx w

/-- A world that has come about from another without the loss of an alteration: those completed
meanwhile account for it, and the root is what their functions make of the first root, one after
another. -/
def World.LosesNothing (c : CellId) (w v : World (Hands (Ledger υ)) ε) : Prop :=
  ∃ as es, w.Accounts c v as es ∧
    ∀ fs : List (Value → Value), List.Forall₂ (fun a f => f a.shown = a.result) as fs →
      v.store.root c = fs.foldl (fun x f => f x) (w.store.root c)

/-- What comes of a program that keeps a ledger of the alterations of a variable. -/
structure Program.LosesNothing (rules : Rules υ ε) (depth : Nat) (c : CellId) (p : Program υ ε α)
    (ctx : Context) (w : World (Hands (Ledger υ)) ε) : Prop where
  /-- It does what the program does without the ledger, or halts. -/
  mimics : (p.ledgeredRun rules depth c ctx w).1 = .halted ∨
    p.act (rules.deliver depth) ctx w.plain =
      ((p.ledgeredRun rules depth c ctx w).1, (p.ledgeredRun rules depth c ctx w).2.plain)
  /-- It goes by steps. -/
  steps : ReflTransGen (World.Goes c) w (p.ledgeredRun rules depth c ctx w).2
  /-- Unless it halts it leaves no alteration under way, and the lock as it was. -/
  settled : (p.ledgeredRun rules depth c ctx w).1 ≠ .halted →
    (p.ledgeredRun rules depth c ctx w).2.ledger.running = w.ledger.running ∧
      (p.ledgeredRun rules depth c ctx w).2.store.altering c = w.store.altering c
  /-- Steps of any threads, in any order, lose nothing. -/
  lossless : ∀ v, ReflTransGen (World.Goes c) w v → w.LosesNothing c v
  /-- What a function enters in the ledger: the root that it was shown, and how it ended. -/
  entered : ∀ (deliver : Delivery (Hands (Ledger υ)) ε) (f : Value → Program (Ledger υ) ε Value) shown
    ctx v, (accounted f shown).act deliver ctx v =
      match (f shown).act deliver ctx (v.entering (.begin ctx.thread shown)) with
      | (.done x, u) => (.done x, u.entering (.complete ⟨ctx.thread, shown, x⟩))
      | (.panicked message, u) => (.panicked message, u.entering (.giveUp ctx.thread shown))
      | (.halted, u) => (.halted, u)
  alters : ∀ (deliver : Delivery (Hands υ) ε) f ctx v, c.Alters deliver f ctx v

/-- No alteration of a root is lost. A program keeps a ledger of a variable of either kind and goes by
steps, and it does what it would do without the ledger, unless it halts: because an alteration waits for
a lock that nobody gives back, because the root would be set in another way, or because watches set each
other off too deep.

At every moment, whichever steps of whichever threads have come before, the alterations completed so far
form a chain from the first root to the present one: each was shown the root that it replaced, and the
root is what their functions make of the first one, one after another. Each is noted once, with these
two roots. It is the lock that keeps alterations one after another. An alteration whose function panics
is given up; it leaves the root as it is and the lock free for the next one. -/
theorem no_alteration_is_lost (rules : Rules υ ε) (depth : Nat) (c : CellId) (p : Program υ ε α)
    (ctx : Context) {w : World (Hands (Ledger υ)) ε} (hw : w.Serial c) :
    p.LosesNothing rules depth c ctx w where
  mimics := p.ledgered_mimics (rules.ledgered_mimics c depth) c ctx w
  steps := (p.ledgered_walks (rules.ledgered_walks depth) ctx w rfl).1
  settled hn := by
    obtain ⟨hsteps, hrunning⟩ := p.ledgered_walks (rules.ledgered_walks depth) ctx w rfl
    have hsame := hrunning (mt Outcome.ending_eq_halted.1 hn)
    obtain ⟨as, es, haccounts⟩ := World.Goes.accounts_run hsteps hw
    have hlock := haccounts.serial.altering_eq
    rw [hsame, ← hw.altering_eq] at hlock
    exact ⟨hsame, hlock⟩
  lossless v hv := by
    obtain ⟨as, es, haccounts⟩ := World.Goes.accounts_run hv hw
    exact ⟨as, es, haccounts, fun fs hfs => (haccounts.chain.foldl hfs).symm⟩
  entered deliver f shown ctx v := Program.accounted_run f shown ctx v
  alters deliver f ctx v := c.alters deliver f ctx v

/-- The number after a number. -/
def Value.next : Value → Value
  | .int n => .int (n + 1)
  | v => v

/-- Watches that alter a root again when it has become two. -/
def Rules.chasing : Rules Unit Unit := fun _ e =>
  if e.new = .int 2 then do
    let _ ← .alterRoot e.cell fun v => pure v.next
    pure ()
  else pure ()

/-- A program with an alteration that panics, and one on another thread that has bound the variable. -/
def Program.alterBound : Program Unit Unit (Except String (Except Fault Value)) := do
  let _ ← .attempt (.alterRoot ⟨0⟩ fun _ => .call (.panic "not now"))
  .onThread ⟨1⟩ (.override skip [(⟨0⟩, .int 7)] (.alterRoot ⟨0⟩ fun v => pure v.next))

/-- A world in which the dynamic variable is watched, and nothing is in the ledger. -/
def World.accounted : World (Hands (Ledger Unit)) Unit :=
  .start (Store.sample.watch ⟨0⟩ "a" ⟨0⟩) ⟨[], [], ()⟩

/-- The run of that program with a ledger. -/
def World.alteredBound :
    Outcome (Except String (Except Fault Value)) × World (Hands (Ledger Unit)) Unit :=
  Program.alterBound.ledgeredRun Rules.chasing 3 ⟨0⟩ ⟨⟨0⟩, false⟩ .accounted

/-- The value with which the alteration on the other thread has ended. -/
def Outcome.inside? : Outcome (Except String (Except Fault Value)) → Option Value
  | .done (.ok (.ok v)) => some v
  | _ => none

/-- The alteration returns the two that its function made, although the watch has made it a three, and
the alteration that panicked before has left the lock to it. -/
theorem alteredBound_is_kept : ∃ as es,
    World.accounted.Accounts ⟨0⟩ World.alteredBound.2 as es ∧
      as = [⟨⟨1⟩, .int 1, .int 2⟩, ⟨⟨1⟩, .int 2, .int 3⟩] ∧
      World.alteredBound.1.inside? = some (.int 2) ∧
      World.alteredBound.2.store.root ⟨0⟩ = .int 3 ∧
      World.alteredBound.2.store.altering ⟨0⟩ = false := by
  have hserial : World.accounted.Serial ⟨0⟩ :=
    { wellFormed := (Store.Revises.watch ⟨0⟩ "a" ⟨0⟩).wellFormed Store.sample_fresh.wellFormed
      exists_cell := by decide +kernel
      holders := by decide +kernel
      shown := nofun }
  have hlossless := no_alteration_is_lost Rules.chasing 3 ⟨0⟩ Program.alterBound ⟨⟨0⟩, false⟩ hserial
  obtain ⟨as, es, h, -⟩ := hlossless.lossless World.alteredBound.2 hlossless.steps
  have hcompleted : World.alteredBound.2.ledger.completed =
      [⟨⟨1⟩, .int 1, .int 2⟩, ⟨⟨1⟩, .int 2, .int 3⟩] := by
    decide +kernel
  have has : World.alteredBound.2.ledger.completed = as := h.completed
  exact ⟨as, es, h, has.symm.trans hcompleted, by decide +kernel, by decide +kernel,
    by decide +kernel⟩

end Main

end ScopedBinding
