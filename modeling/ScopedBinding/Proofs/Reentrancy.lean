import ScopedBinding.Proofs.Commitment
import ScopedBinding.Proofs.Reachable
import ScopedBinding.Proofs.Registry

/-!
# Watches that change what they watch

A watch may register and remove watches while an event is delivered, its own variable's among them,
and it may change variables, whose events are delivered in turn. A run is told here as steps from moment
to moment, where a moment is the world together with all registrations so far (`Moment.Step`). A change of a
variable is one step with all that its watches do: they are called one after another, those that were
registered when the change was made and no others, each with a run of its own (`Calls`). These runs are
told in the same way (`Rules.Unfolds`).

The registry of a variable is what its registrations say at every moment, also in the middle of a
delivery (`Moment.Faithful`).
-/

set_option autoImplicit false

namespace ScopedBinding

open Act (Leads)
open Registration (current)
open Relation (ReflTransGen)

/-! ## Moments -/

section Moments

variable {η ε : Type}

/-- A world, and the registrations that its variables have had, the newest first. -/
structure Moment (η ε : Type) where
  world : World η ε
  registrations : CellId → List Registration

namespace Moment

/-- The watches of a variable. -/
def watches (S : Moment η ε) (c : CellId) : Table String WatchId :=
  S.world.store.watches c

/-- The registry of every variable is what the registrations say. -/
def Faithful (S : Moment η ε) : Prop :=
  ∀ c, (S.world.store.cell? c).isSome = true → (S.watches c).Registers (S.registrations c)

/-- The registrations with another one for a variable. -/
def registering (S : Moment η ε) (c : CellId) (r : Registration) : CellId → List Registration :=
  fun d => if d = c then r :: S.registrations c else S.registrations d

/-- The moment after the world has changed and no watch was registered or removed. -/
def going (S : Moment η ε) (w : World η ε) : Moment η ε :=
  { S with world := w }

/-- The moment after a watch was registered. -/
def adding (S : Moment η ε) (c : CellId) (key : String) (k : WatchId) : Moment η ε :=
  ⟨{ S.world with store := S.world.store.watch c key k }, S.registering c (.added key k)⟩

/-- The moment after a watch was removed. -/
def removing (S : Moment η ε) (c : CellId) (key : String) : Moment η ε :=
  ⟨{ S.world with store := (S.world.store.unwatch c key).2 }, S.registering c (.removed key)⟩

end Moment

/-- Watches are called with an event, in this order, each in the moment that the one before it has left
behind. The first that does not end as it should ends the calls. -/
inductive Calls (deliver : Delivery η ε) (inside : Moment η ε → Moment η ε → Prop) (e : Event)
    (ctx : Context) : List WatchId → Moment η ε → Outcome Unit → Moment η ε → Prop where
  | all (S : Moment η ε) : Calls deliver inside e ctx [] S (.done ()) S
  | next {k : WatchId} {ks : List WatchId} {S S₁ S' : Moment η ε} {o : Outcome Unit}
      (hk : deliver k e ctx S.world = (.done (), S₁.world)) (hinside : inside S S₁)
      (hrest : Calls deliver inside e ctx ks S₁ o S') : Calls deliver inside e ctx (k :: ks) S o S'
  | cut {k : WatchId} {ks : List WatchId} {S S' : Moment η ε} {o : Outcome Unit}
      (hk : deliver k e ctx S.world = (o, S'.world)) (ho : o ≠ .done ()) (hinside : inside S S') :
      Calls deliver inside e ctx (k :: ks) S o S'

/-- A step of a run. A change of a variable comes with the calls of the watches that its variable has
at that moment. -/
inductive Moment.Step (deliver : Delivery η ε) (inside : Moment η ε → Moment η ε → Prop) (S : Moment η ε) :
    Moment η ε → Prop where
  | settings (s : Settings) : Moment.Step deliver inside S (S.going { S.world with settings := s })
  | host (a : η) : Moment.Step deliver inside S (S.going { S.world with host := a })
  | logged (message : LogMessage) : Moment.Step deliver inside S
      (S.going { S.world with journal := .logged message :: S.world.journal })
  | issued : Moment.Step deliver inside S
      (S.going { S.world with store := S.world.store.issueFrame.2 })
  | opened (t : ThreadId) (c : CellId) : Moment.Step deliver inside S (S.going (S.world.opened t c))
  | locked (c : CellId) : Moment.Step deliver inside S (S.going (S.world.locked c))
  | unlocked (c : CellId) : Moment.Step deliver inside S (S.going (S.world.unlocked c))
  | added (c : CellId) (key : String) (k : WatchId) : Moment.Step deliver inside S (S.adding c key k)
  | removed (c : CellId) (key : String) : Moment.Step deliver inside S (S.removing c key)
  | changed {ctx : Context} {p : Place} {e : Event} {v : World η ε} {o : Outcome Unit}
      {S' : Moment η ε} (h : S.world.Altered ctx.thread p e v)
      (hcalls : Calls deliver inside e ctx (S.watches e.cell).values (S.going v) o S') :
      Moment.Step deliver inside S S'

/-! ## The registry from step to step -/

namespace Store

/-- Opening a frame leaves all registries as they are. -/
theorem watches_push (s : Store) (t : ThreadId) (c d : CellId) :
    (s.push t c).2.watches d = s.watches d := by
  cases hk : s.kind c with
  | root =>
    rw [push_of_root hk t]
    exact s.issueFrame.2.watches_updateCell c d fun _ => rfl
  | dynamic =>
    rw [push_of_dynamic hk]
    rfl

/-- The store with the registry of a variable changed. -/
def rearrange (s : Store) (c : CellId) (change : Table String WatchId → Table String WatchId) :
    Store :=
  s.updateCell c fun cell => { cell with watches := change cell.watches }

variable {s : Store} {c d : CellId}

/-- The changed registry. -/
theorem watches_rearrange (hc : (s.cell? c).isSome = true)
    (change : Table String WatchId → Table String WatchId) :
    (s.rearrange c change).watches c = change (s.watches c) := by
  obtain ⟨cell, hcell⟩ := Option.isSome_iff_exists.1 hc
  unfold rearrange watches
  rw [cell?_updateCell, if_pos rfl, hcell]
  rfl

/-- The registries of other variables stay as they are. -/
theorem watches_rearrange_ne (h : d ≠ c)
    (change : Table String WatchId → Table String WatchId) :
    (s.rearrange c change).watches d = s.watches d := by
  unfold rearrange watches
  rw [cell?_updateCell, if_neg h]

end Store

section Faithful

variable {deliver : Delivery η ε} {inside : Moment η ε → Moment η ε → Prop} {S S' : Moment η ε}

namespace Moment.Faithful

/-- A step that registers no watch and removes none. -/
theorem going (h : S.Faithful) {w : World η ε}
    (hcells : ∀ c, (w.store.cell? c).isSome = (S.world.store.cell? c).isSome)
    (hwatches : ∀ c, w.store.watches c = S.world.store.watches c) : (S.going w).Faithful := by
  intro c hc
  have htable : (S.going w).watches c = S.watches c := hwatches c
  rw [htable]
  exact h c ((hcells c).symm.trans hc)

/-- A change of the registry of one variable that keeps it what its registrations say. -/
theorem registering (h : S.Faithful) {c : CellId} {r : Registration}
    {change : Table String WatchId → Table String WatchId}
    (hr : ∀ {t H}, t.Registers H → (change t).Registers (r :: H)) :
    Faithful ⟨{ S.world with store := S.world.store.rearrange c change }, S.registering c r⟩ := by
  intro d hd
  have hexists : (S.world.store.cell? d).isSome = true :=
    (S.world.store.isSome_updateCell c d _).symm.trans hd
  have hbefore := h d hexists
  show ((S.world.store.rearrange c change).watches d).Registers (S.registering c r d)
  unfold Moment.registering
  by_cases hdc : d = c
  · subst hdc
    rw [Store.watches_rearrange hexists, if_pos rfl]
    exact hr hbefore
  · rw [Store.watches_rearrange_ne hdc, if_neg hdc]
    exact hbefore

/-- Registering a watch keeps the registry what its registrations say. -/
theorem adding (h : S.Faithful) (c : CellId) (key : String) (k : WatchId) :
    (S.adding c key k).Faithful :=
  h.registering fun ht => ht.added key k

/-- Removing a watch keeps the registry what its registrations say. -/
theorem removing (h : S.Faithful) (c : CellId) (key : String) : (S.removing c key).Faithful :=
  h.registering fun ht => ht.removed key

/-- A change of a value registers no watch and removes none. -/
theorem altered (h : S.Faithful) {t : ThreadId} {p : Place} {e : Event} {v : World η ε}
    (hv : S.world.Altered t p e v) : (S.going v).Faithful := by
  refine h.going (fun c => ?_) hv.watches
  cases hv with
  | written d x => exact (Store.Revises.write t d x).isSome c
  | rootSet d x => exact (Store.Revises.setRoot d x).isSome c
  | returned d f hp => exact Store.isSome_pop hp c

end Moment.Faithful

variable (hinside : ∀ {S S'}, inside S S' → S.Faithful → S'.Faithful)

include hinside

/-- The calls of watches keep every registry what its registrations say, if each of them does. -/
theorem Calls.faithful {e : Event} {ctx : Context} {ks : List WatchId} {o : Outcome Unit}
    (h : Calls deliver inside e ctx ks S o S') (hS : S.Faithful) : S'.Faithful := by
  induction h with
  | all S => exact hS
  | next _ hin _ ih => exact ih (hinside hin hS)
  | cut _ _ hin => exact hinside hin hS

/-- One step keeps every registry what its registrations say. -/
theorem Moment.Step.faithful (h : Moment.Step deliver inside S S') (hS : S.Faithful) : S'.Faithful := by
  cases h with
  | settings | host | logged | issued => exact hS.going (fun _ => rfl) fun _ => rfl
  | opened t c =>
    exact hS.going (S.world.store.isSome_push t c) (S.world.store.watches_push t c)
  | locked c | unlocked c =>
    exact hS.going (fun d => S.world.store.isSome_updateCell c d _)
      fun d => S.world.store.watches_updateCell c d fun _ => rfl
  | added c key k => exact hS.adding c key k
  | removed c key => exact hS.removing c key
  | changed hv hcalls => exact hcalls.faithful hinside (hS.altered hv)

/-- From the first moment of a run to its last, every registry is what its registrations say. -/
theorem Moment.Step.faithful_run (h : ReflTransGen (Moment.Step deliver inside) S S') (hS : S.Faithful) :
    S'.Faithful := by
  induction h with
  | refl => exact hS
  | tail _ hstep ih => exact hstep.faithful hinside ih

end Faithful

/-! ## Runs as steps -/

section Runs

variable {deliver : Delivery η ε} {inside : Moment η ε → Moment η ε → Prop}

/-- Whatever a watch is told of, its run is one that `inside` tells. -/
def Delivery.Unfolds (deliver : Delivery η ε) (inside : Moment η ε → Moment η ε → Prop) : Prop :=
  ∀ k e ctx S, ∃ S', (deliver k e ctx S.world).2 = S'.world ∧ inside S S'

/-- Steps lead from the one world to the other, whatever was registered before. -/
def Unrolls (deliver : Delivery η ε) (inside : Moment η ε → Moment η ε → Prop)
    (w w' : World η ε) : Prop :=
  ∀ S, S.world = w → ∃ S', S'.world = w' ∧ ReflTransGen (Moment.Step deliver inside) S S'

/-- One step that leads from the one world to the other. -/
theorem Unrolls.step {w w' : World η ε}
    (h : ∀ S, S.world = w → ∃ S', S'.world = w' ∧ Moment.Step deliver inside S S') :
    Unrolls deliver inside w w' := by
  intro S hS
  obtain ⟨S', hS', hstep⟩ := h S hS
  exact ⟨S', hS', .single hstep⟩

/-- Whatever happens without the store is told by steps. -/
theorem Unrolls.calm : Calm (Unrolls deliver inside) where
  refl w S hS := ⟨S, hS, .refl⟩
  trans h h' S hS := by
    obtain ⟨S', hS', hsteps⟩ := h S hS
    obtain ⟨S'', hS'', hsteps'⟩ := h' S' hS'
    exact ⟨S'', hS'', hsteps.trans hsteps'⟩
  settings w s := .step fun S hS => ⟨_, hS ▸ rfl, .settings s⟩
  logged w message := .step fun S hS => ⟨_, hS ▸ rfl, .logged message⟩

/-- Calling watches one after another, up to the first that does not end as it should. -/
theorem Delivery.Unfolds.calls (hd : deliver.Unfolds inside) (e : Event) (ctx : Context)
    (ks : List WatchId) (S : Moment η ε) : ∃ o S',
    ks.forM (fun k => deliver k e) ctx S.world = (o, S'.world) ∧
      Calls deliver inside e ctx ks S o S' := by
  induction ks generalizing S with
  | nil => exact ⟨.done (), S, rfl, .all S⟩
  | cons k ks ih =>
    obtain ⟨S₁, hworld, hin⟩ := hd k e ctx S
    cases hk : deliver k e ctx S.world with
    | mk o v =>
    rw [hk] at hworld
    obtain rfl : v = S₁.world := hworld
    cases o with
    | done a =>
      obtain ⟨o, S', hrest, hcalls⟩ := ih S₁
      exact ⟨o, S', (Act.bind_of_done hk).trans hrest, .next hk hin hcalls⟩
    | panicked message => exact ⟨_, S₁, Act.bind_of_panicked hk, .cut hk nofun hin⟩
    | halted => exact ⟨_, S₁, Act.bind_of_halted hk, .cut hk nofun hin⟩

/-- Delivering an event calls the watches that its variable has at that moment. -/
theorem Delivery.Unfolds.delivers (hd : deliver.Unfolds inside) (e : Event) (ctx : Context)
    (S : Moment η ε) : ∃ o S', e.deliver deliver ctx S.world = (o, S'.world) ∧
      Calls deliver inside e ctx (S.watches e.cell).values S o S' :=
  hd.calls e ctx (S.watches e.cell).values S

/-- A change with the delivery of its event is one step. -/
theorem Unrolls.altered (hd : deliver.Unfolds inside) {w v : World η ε} {ctx : Context} {p : Place}
    {e : Event} (hv : w.Altered ctx.thread p e v) :
    Unrolls deliver inside w (e.deliver deliver ctx v).2 := by
  refine .step fun S hS => ?_
  subst hS
  obtain ⟨o, S', hrun, hcalls⟩ := hd.delivers e ctx (S.going v)
  have htable : (S.going v).watches e.cell = S.watches e.cell := hv.watches e.cell
  rw [htable] at hcalls
  exact ⟨S', (congrArg Prod.snd hrun).symm, .changed hv hcalls⟩

/-- Closing a frame is no step if it is rejected, and otherwise a change with its delivery. -/
theorem CellId.pop_unrolls (hd : deliver.Unfolds inside) (c : CellId) (f : FrameId) :
    Leads (Unrolls deliver inside) (c.pop deliver f) := by
  intro ctx w
  cases hp : w.store.pop ctx.thread c f with
  | error fault =>
    rw [CellId.pop_of_error hp]
    exact Unrolls.calm.refl w
  | ok result =>
    obtain ⟨r, s⟩ := result
    rw [CellId.pop_of_ok hp]
    refine Unrolls.calm.trans ?_
      (Leads.bind_right Unrolls.calm _ (fun _ => .pure Unrolls.calm _) ctx _)
    rw [CellId.announce_run]
    exact .altered hd (.returned c f hp)

/-- Every elementary operation is a step. -/
theorem Unrolls.stepwise (hd : deliver.Unfolds inside) :
    Stepwise deliver (Unrolls deliver inside) where
  toCalm := Unrolls.calm
  write c x ctx _ := .altered hd (.written c x)
  setRoot c x ctx _ := .altered hd (.rootSet c x)
  rearranged w s h := .step fun S hS => by
    subst hS
    cases h with
    | watch c key k => exact ⟨S.adding c key k, rfl, .added c key k⟩
    | unwatch c key => exact ⟨S.removing c key, rfl, .removed c key⟩
    | issueFrame => exact ⟨_, rfl, .issued⟩
    | lock c => exact ⟨_, rfl, .locked c⟩
    | unlock c => exact ⟨_, rfl, .unlocked c⟩
  host w a := .step fun S hS => ⟨_, hS ▸ rfl, .host a⟩
  opened w t c := .step fun S hS => ⟨_, hS ▸ rfl, .opened t c⟩
  pop c f := c.pop_unrolls hd f

end Runs

end Moments

/-! ## Programs -/

section Programs

variable {υ ε : Type} (rules : Rules υ ε)

/-- The run of a watch, as deep as watches may set each other off. -/
def Rules.Inside : Nat → Moment (Hands υ) ε → Moment (Hands υ) ε → Prop
  | 0 => Eq
  | depth + 1 => ReflTransGen (Moment.Step (rules.deliver depth) (Inside depth))

/-- The run of a program, step by step. -/
def Rules.Unfolds (depth : Nat) : Moment (Hands υ) ε → Moment (Hands υ) ε → Prop :=
  ReflTransGen (Moment.Step (rules.deliver depth) (rules.Inside depth))

/-- The run of a watch is told by steps, with a depth less for the watches that it sets off. -/
theorem Rules.deliver_unfolds (depth : Nat) :
    (rules.deliver depth).Unfolds (rules.Inside depth) := by
  induction depth with
  | zero => exact fun k e ctx S => ⟨S, rfl, rfl⟩
  | succ depth ih =>
    intro k e ctx S
    obtain ⟨S', hworld, hsteps⟩ := (rules k e).leads_to (Unrolls.stepwise ih) ctx S.world S rfl
    exact ⟨S', hworld.symm, hsteps⟩

/-- The run of a watch keeps every registry what its registrations say. -/
theorem Rules.Inside.faithful {rules : Rules υ ε} {depth : Nat} {S S' : Moment (Hands υ) ε}
    (h : rules.Inside depth S S') (hS : S.Faithful) : S'.Faithful := by
  induction depth generalizing S S' with
  | zero =>
    cases h
    exact hS
  | succ depth ih => exact Moment.Step.faithful_run (fun hin => ih hin) h hS

/-- What registering and removing watches of a variable does at a moment, and what it reports. -/
structure CellId.Registry (c : CellId) (ctx : Context) (S : Moment (Hands υ) ε) : Prop where
  watch (key : String) (k : WatchId) :
    c.watch key k ctx S.world = (.done (), (S.adding c key k).world)
  /-- A key that is there keeps its place, with the new watch, and another one comes last. -/
  added (key : String) (k : WatchId) :
    ((S.adding c key k).watches c).keys =
        (if key ∈ (S.watches c).keys then (S.watches c).keys else (S.watches c).keys ++ [key]) ∧
      ∀ key', ((S.adding c key k).watches c).get? key' =
        if key' = key then some k else (S.watches c).get? key'
  unwatch (key : String) : ∃ found,
    c.unwatch key ctx S.world = (.done found, (S.removing c key).world) ∧
      (found = true ↔ key ∈ (S.watches c).keys)
  removed (key : String) :
    ((S.removing c key).watches c).entries = (S.watches c).entries.filter (·.1 ≠ key)
  elsewhere (key : String) (k : WatchId) (d : CellId) (hd : d ≠ c) :
    (S.adding c key k).watches d = S.watches d ∧ (S.removing c key).watches d = S.watches d

/-- Registering and removing watches, at any moment, of a variable that exists. -/
theorem CellId.registry {c : CellId} (ctx : Context) {S : Moment (Hands υ) ε}
    (hc : (S.world.store.cell? c).isSome = true) : c.Registry ctx S := by
  have hadded : ∀ key k, (S.adding c key k).watches c = (S.watches c).insert key k :=
    fun key k => Store.watches_rearrange hc (·.insert key k)
  have hremoved : ∀ key, (S.removing c key).watches c = (S.watches c).erase key :=
    fun key => Store.watches_rearrange hc (·.erase key)
  refine ⟨fun key k => rfl, fun key k => ⟨?_, fun key' => ?_⟩, fun key => ?_, fun key => ?_, ?_⟩
  · rw [hadded]
    split
    · next hkey => exact Table.keys_insert_present (Table.mem_keys.1 hkey) k
    · next hkey =>
      rw [Table.mem_keys, Option.not_isSome_iff_eq_none] at hkey
      exact Table.keys_insert_new hkey k
  · rw [hadded, Table.get?_insert]
  · refine ⟨(S.watches c).contains key, rfl, ?_⟩
    rw [Table.contains_eq, Table.mem_keys]
  · rw [hremoved]
    simp only [Table.erase, ne_eq, decide_not]
  · intro key k d hd
    exact ⟨Store.watches_rearrange_ne hd (·.insert key k),
      Store.watches_rearrange_ne hd (·.erase key)⟩

/-- Watches are called as they are registered, also when they register, remove and change things
themselves.

A run of a program goes by steps, and every registry is what the registrations say from its first
moment to its last, and so it is in the runs of the watches: the keys are distinct and in the order in
which they were last newly added. A change of a variable is a step that calls the watches which the
variable has at that moment, each once and in their order, up to the first that panics; whatever a
watch does, its own changes with their deliveries among them, is over before the next one is called. -/
theorem watches_called_as_registered (rules : Rules υ ε) (depth : Nat) {α : Type}
    (p : Program υ ε α) (ctx : Context) {S : Moment (Hands υ) ε} (hS : S.Faithful) :
    (∃ S', (p.act (rules.deliver depth) ctx S.world).2 = S'.world ∧ rules.Unfolds depth S S' ∧
      S'.Faithful) ∧
    (∀ n S₁ S₂, rules.Unfolds n S₁ S₂ → S₁.Faithful → S₂.Faithful) ∧
    (∀ n ctx (S₁ : Moment (Hands υ) ε) e, ∃ o S₂,
      e.deliver (rules.deliver n) ctx S₁.world = (o, S₂.world) ∧
        Calls (rules.deliver n) (rules.Inside n) e ctx (S₁.watches e.cell).values S₁ o S₂) ∧
    (∀ n, (rules.deliver n).Announces) ∧
    ∀ c ctx (S₁ : Moment (Hands υ) ε), (S₁.world.store.cell? c).isSome = true →
      c.Registry ctx S₁ := by
  have hfaithful : ∀ n S₁ S₂, rules.Unfolds n S₁ S₂ → S₁.Faithful → S₂.Faithful :=
    fun n S₁ S₂ h => Moment.Step.faithful_run (fun hin => hin.faithful) h
  obtain ⟨S', hworld, hsteps⟩ :=
    p.leads_to (Unrolls.stepwise (rules.deliver_unfolds depth)) ctx S.world S rfl
  refine ⟨⟨S', hworld.symm, hsteps, hfaithful depth S S' hsteps hS⟩, hfaithful, ?_, ?_, ?_⟩
  · exact fun n ctx S₁ e => (rules.deliver_unfolds n).delivers e ctx S₁
  · exact fun n => (rules.deliver n).announces
  · exact fun c ctx S₁ hc => c.registry ctx hc

end Programs

/-! ## A delivery that is rearranged -/

/-- A new variable has no watches. -/
theorem Store.watches_create {s : Store} (h : ∀ c, s.watches c = ∅) (symbol : Symbol)
    (kind : CellKind) (init : Value) (c : CellId) : (s.create symbol kind init).2.watches c = ∅ := by
  unfold create watches cell?
  dsimp only
  rw [Table.get?_insert]
  split
  · rfl
  · exact h c

/-- Where nobody has registered a watch, nothing is in the registries. -/
theorem Moment.Faithful.start {η ε : Type} {w : World η ε} (h : ∀ c, w.store.watches c = ∅) :
    Moment.Faithful ⟨w, fun _ => []⟩ := by
  intro c _
  have htable : Moment.watches ⟨w, fun _ => []⟩ c = ∅ := h c
  rw [htable]
  exact .empty

/-- Watches that keep a list of what they were told. The first, when it is told of a five, takes the
second one away, registers a third and changes the value again. -/
def Rules.rearranging : Rules (List (WatchId × Value)) Unit := fun k e =>
  if k = ⟨0⟩ ∧ e.new = .int 5 then do
    let _ ← .call (.unwatch e.cell "b")
    .call (.watch e.cell "c" ⟨2⟩)
    .call (.write e.cell (.int 6))
  else .call (.own fun told => told ++ [(k, e.new)])

/-- A moment at which the dynamic variable has two watches. -/
def Moment.watchedTwice : Moment (Hands (List (WatchId × Value))) Unit :=
  (Moment.adding ⟨.start .sample [], fun _ => []⟩ ⟨0⟩ "a" ⟨0⟩).adding ⟨0⟩ "b" ⟨1⟩

/-- The second watch is told of the five although it was taken away, after all of them have been told of
the six that came later. The third one is not told of the five. -/
theorem rearranged_while_told : ∃ S',
    Rules.rearranging.Unfolds 3 .watchedTwice S' ∧ S'.Faithful ∧
      (S'.watches ⟨0⟩).keys = ["a", "c"] ∧
      S'.world.host.own = [(⟨0⟩, .int 6), (⟨2⟩, .int 6), (⟨1⟩, .int 5)] := by
  have hempty : ∀ c, Store.sample.watches c = ∅ :=
    Store.watches_create (Store.watches_create (fun _ => rfl) _ _ _) _ _ _
  have hS : Moment.watchedTwice.Faithful :=
    ((Moment.Faithful.start hempty).adding ⟨0⟩ "a" ⟨0⟩).adding ⟨0⟩ "b" ⟨1⟩
  obtain ⟨⟨S', hworld, hsteps, hfaithful⟩, -⟩ := watches_called_as_registered Rules.rearranging 3
    (.call (.write ⟨0⟩ (.int 5))) ⟨⟨0⟩, false⟩ hS
  refine ⟨S', hsteps, hfaithful, ?_, ?_⟩
  · unfold Moment.watches
    rw [← hworld]
    decide +kernel
  · rw [← hworld]
    decide +kernel

end ScopedBinding
