import ScopedBinding.Proofs.Composition
import ScopedBinding.Proofs.Conveyance

/-!
# Scopes that other threads do not notice

Overrides of dynamic variables work on the bindings of their thread only, also while watches and the
body do whatever they do. So they lead any relation between stores that holds where only bindings of
the thread differ, and that the body and the watches lead on that thread (`Overrides.around_leadsOn`).
That no root has changed is such a relation, and that no other thread sees other values.
-/

set_option autoImplicit false

namespace ScopedBinding

open Act (Leads Composes Closes Same)
open Store (Confined)

/-- An action leads on a thread where it takes every world to one that a relation holds of. -/
def Act.LeadsOn {η ε α : Type} (t : ThreadId) (R : World η ε → World η ε → Prop)
    (m : Act η ε α) : Prop :=
  ∀ unwinding w, R w (m ⟨t, unwinding⟩ w).2

/-- A relation between stores that can be put together, and that holds where only bindings of a
thread differ. -/
structure Store.Overlooks (t : ThreadId) (R : Store → Store → Prop) : Prop where
  confined : ∀ {s s'}, Confined t s s' → R s s'
  trans : ∀ {s s' s''}, R s s' → R s' s'' → R s s''

/-- Every root is as before. -/
def Store.SameRoots (s s' : Store) : Prop :=
  ∀ c, s'.root c = s.root c

/-- Every other thread sees of every variable what it saw before. -/
def Store.SameElsewhere (t : ThreadId) (s s' : Store) : Prop :=
  ∀ u c, u ≠ t → s'.read u c = s.read u c

/-- Bindings of a thread are no roots. -/
theorem Store.overlooks_sameRoots (t : ThreadId) : Overlooks t SameRoots where
  confined h := h.root
  trans h h' c := (h' c).trans (h c)

/-- Bindings of a thread are seen on that thread only. -/
theorem Store.overlooks_sameElsewhere (t : ThreadId) : Overlooks t (SameElsewhere t) where
  confined h u c hu := by
    unfold Store.read
    rw [h.binding u c hu, h.root]
  trans h h' u c hu := (h' u c hu).trans (h u c hu)

/-- A relation between the stores of worlds. -/
def World.OnStores {η ε : Type} (R : Store → Store → Prop) (w w' : World η ε) : Prop :=
  R w.store w'.store

/-- Variables keep their kinds, and a relation holds between the stores if some variables are
dynamic. -/
structure World.Within {η ε : Type} (cells : List CellId) (R : Store → Store → Prop)
    (w w' : World η ε) : Prop where
  kind : ∀ c, w'.store.kind c = w.store.kind c
  store : (∀ c ∈ cells, w.store.kind c = .dynamic) → R w.store w'.store

section LeadsOn

variable {η ε α β : Type} {t : ThreadId} {R : Store → Store → Prop} {cells : List CellId}
  {S : World η ε → World η ε → Prop} {deliver : Delivery η ε}

/-- The relation can be put together, as no step in between gives a variable another kind. -/
theorem World.Within.calm (hR : Store.Overlooks t R) :
    Calm (World.Within cells R : World η ε → World η ε → Prop) where
  refl w := ⟨fun _ => rfl, fun _ => hR.confined (.refl t w.store)⟩
  trans h h' := by
    refine ⟨fun c => (h'.kind c).trans (h.kind c), fun hk => hR.trans (h.store hk) (h'.store ?_)⟩
    intro c hc
    rw [h.kind]
    exact hk c hc
  settings w _ := ⟨fun _ => rfl, fun _ => hR.confined (.refl t w.store)⟩
  logged w _ := ⟨fun _ => rfl, fun _ => hR.confined (.refl t w.store)⟩

/-- What goes on after an action on a thread leads on from where that ended. -/
theorem Act.bind_after (hS : Calm S) {m : Act η ε α} {next : α → Act η ε β} {unwinding : Bool}
    {w v : World η ε} (hm : S w (m ⟨t, unwinding⟩ v).2) (hnext : ∀ a, LeadsOn t S (next a)) :
    S w ((m >>= next) ⟨t, unwinding⟩ v).2 := by
  rcases bind_cases m next ⟨t, unwinding⟩ v with ⟨a, hgo⟩ | hstop
  · rw [hgo]
    exact hS.trans hm (hnext a unwinding _)
  · rw [hstop]
    exact hm

/-- The cleanup of an action on a thread leads on from where that panicked. -/
theorem Act.onUnwind_after (hS : Calm S) {m : Act η ε α} {cleanup : Act η ε Unit}
    {unwinding : Bool} {w v : World η ε} (hm : S w (m ⟨t, unwinding⟩ v).2)
    (hc : LeadsOn t S cleanup) : S w (Act.onUnwind m cleanup ⟨t, unwinding⟩ v).2 := by
  unfold Act.onUnwind
  generalize m ⟨t, unwinding⟩ v = result at hm ⊢
  obtain ⟨a | message | _, v'⟩ := result
  · exact hm
  · have hsecond := hc true v'
    dsimp only
    generalize cleanup ⟨t, true⟩ v' = result at hsecond ⊢
    obtain ⟨_ | _ | _, v''⟩ := result <;> exact hS.trans hm hsecond
  · exact hm

/-- Leading on a thread is a property of the runs on that thread. -/
theorem Act.leadsOn_iff_runs {m : Act η ε α} :
    LeadsOn t S m ↔ Runs (fun ctx w _ w' => ctx.thread = t → S w w') m := by
  constructor
  · rintro h ⟨u, unwinding⟩ w rfl
    exact h unwinding w
  · exact fun h unwinding w => h ⟨t, unwinding⟩ w rfl

/-- Where an action leads on a thread follows from its parts. -/
theorem Act.LeadsOn.composes (hS : Calm S) :
    Composes (Same fun {α} (m : Act η ε α) => LeadsOn t S m)
      (Same fun {α} (m : Act η ε α) => LeadsOn t S m) := by
  simp only [leadsOn_iff_runs]
  let Q (ctx : Context) (w : World η ε) (_ : Ending) (w' : World η ε) : Prop :=
    ctx.thread = t → S w w'
  have hstill : ∀ ctx w, Q ctx w .done w := fun _ w _ => hS.refl w
  refine (Runs.sequences (Q := Q) hstill (fun _ w message _ => hS.logged w message)
    fun h h' ht => hS.trans (h ht) (h' ht)).composes (D := Q) hstill (fun _ w _ _ => hS.refl w) ?_
  exact fun h h' ht => hS.trans (h ht) (h' ht)

/-- The settings are no part of the stores. -/
theorem Settings.current_leadsOn (hS : Calm S) :
    Act.LeadsOn t S (Settings.current : Act η ε ReleasePolicy) :=
  fun unwinding w => current_leads hS ⟨t, unwinding⟩ w

/-- Making a change known leads where the watches lead. -/
theorem CellId.announce_leadsOn (hS : Calm S)
    (hnote : ∀ w n, S w { w with journal := n :: w.journal })
    (hd : ∀ k e, Act.LeadsOn t S (deliver k e)) (c : CellId) (change : Change) (r : Replaced) :
    Act.LeadsOn t S (c.announce deliver change r) :=
  ((Act.LeadsOn.composes hS).announce (fun _ _ => .of fun _ w => hnote w _) (fun k e => .of (hd k e)) c
    change r).2

variable (hR : Store.Overlooks t R)
  (hd : ∀ k e, Act.LeadsOn t (World.Within cells R) (deliver k e))

include hR in
/-- A note changes no store. -/
theorem World.Within.note (w : World η ε) (n : Note ε) :
    Within cells R w { w with journal := n :: w.journal } :=
  ⟨fun _ => rfl, fun _ => hR.confined (.refl t w.store)⟩

include hR hd

/-- Closing a frame of one of the variables. -/
theorem CellId.pop_within {c : CellId} (hc : c ∈ cells) (f : FrameId) :
    Act.LeadsOn t (World.Within cells R) (c.pop deliver f) := by
  have hS : Calm (World.Within cells R : World η ε → World η ε → Prop) := World.Within.calm hR
  intro unwinding w
  cases hp : w.store.pop t c f with
  | error fault =>
    rw [CellId.pop_of_error hp]
    exact hS.refl w
  | ok result =>
    obtain ⟨r, s⟩ := result
    rw [CellId.pop_of_ok hp]
    have hclosed : World.Within cells R w (w.closed t c f s) := by
      refine ⟨Store.kind_pop hp, fun hk => hR.confined ?_⟩
      have hclose := Store.confined_close (hk c hc) t f
      rwa [Store.close_of_ok hp] at hclose
    refine hS.trans hclosed (Act.bind_after hS ?_ fun _ _ v => hS.refl v)
    exact c.announce_leadsOn hS (World.Within.note hR) hd .restore r unwinding _

/-- Opening a scope and setting the variable in it. -/
theorem CellId.write_within {c : CellId} (hc : c ∈ cells) (v : Value) (unwinding : Bool)
    (w : World η ε) :
    World.Within cells R w (c.write deliver v ⟨t, unwinding⟩ (w.acquired t c)).2 := by
  have hS : Calm (World.Within cells R : World η ε → World η ε → Prop) := World.Within.calm hR
  have hwritten : World.Within cells R w
      { w.acquired t c with store := ((w.store.push t c).2.write t c v).2 } := by
    refine ⟨fun d => ?_, fun hk => hR.confined (Overrides.override_dynamic (hk c hc) t v).1⟩
    exact ((Store.keepsStacks_write _ t c v).kind d).trans (Store.kind_push w.store t c d)
  exact hS.trans hwritten
    (c.announce_leadsOn hS (World.Within.note hR) hd .write _ unwinding _)

/-- The operations on guards of these variables. -/
theorem World.Within.closes :
    Closes (Same fun {α} (m : Act η ε α) => Act.LeadsOn t (World.Within cells R) m)
      (Same fun {α} (m : Act η ε α) => Act.LeadsOn t (World.Within cells R) m) deliver deliver
      fun c _ => c ∈ cells :=
  have hS : Calm (World.Within cells R : World η ε → World η ε → Prop) := World.Within.calm hR
  { toComposes := Act.LeadsOn.composes hS
    message := fun message => .of fun _ w => hS.logged w message
    current := .of (Settings.current_leadsOn hS)
    pop := fun hc => .of (CellId.pop_within hR hd hc _) }

/-- Overrides of dynamic variables lead where the body, its result that goes away and the watches
lead. -/
theorem Overrides.around_leadsOn {discard : α → Act η ε Unit}
    (hdiscard : ∀ a, Act.LeadsOn t (World.Within cells R) (discard a)) {set : Overrides}
    (hset : ∀ c ∈ set.map Prod.fst, c ∈ cells) {body : Act η ε α}
    (hbody : Act.LeadsOn t (World.Within cells R) body) :
    Act.LeadsOn t (World.Within cells R) (around deliver discard set body) := by
  have hS : Calm (World.Within cells R : World η ε → World η ε → Prop) := World.Within.calm hR
  have h : Act.Closes _ _ deliver deliver fun c _ => c ∈ cells := World.Within.closes hR hd
  induction set with
  | nil => exact (h.bind (.of hbody) fun a => h.pure _).2
  | cons pair rest ih =>
    obtain ⟨c, v⟩ := pair
    obtain ⟨hc, hrest⟩ := List.forall_mem_cons.1 hset
    intro unwinding w
    rw [around_cons]
    have hdrop := h.drop (g := Guard.next w.store t c) hc
    refine Act.bind_after hS ?_ fun ends => ?_
    · refine Act.onUnwind_after hS ?_ hdrop.2
      exact Act.bind_after hS (c.write_within hR hd hc v unwinding w) fun _ => ih hrest
    · exact (h.bind (h.onUnwind (h.finish hc hdrop) (.of (hdiscard ends.1))) fun _ => h.pure _).2

/-- The same for the entering of a body. -/
theorem Overrides.enter_leadsOn {discard : α → Act η ε Unit}
    (hdiscard : ∀ a, Act.LeadsOn t (World.Within cells R) (discard a)) {set : Overrides}
    (hset : ∀ c ∈ set.map Prod.fst, c ∈ cells) {body : Act η ε α}
    (hbody : Act.LeadsOn t (World.Within cells R) body) :
    Act.LeadsOn t (World.Within cells R) (enter deliver discard set body) := by
  have h : Act.Closes _ _ deliver deliver fun c _ => c ∈ cells := World.Within.closes hR hd
  rw [enter_eq]
  exact around_leadsOn hR hd hdiscard hset (h.bind (h.message _) fun _ => .of hbody).2

end LeadsOn

/-! ## Programs -/

section Programs

variable {υ ε α β : Type} {t : ThreadId} {R : Store → Store → Prop} {rules : Rules υ ε}
  {depth : Nat} {set : Overrides} {w : World (Hands υ) ε}

/-- Programs that are watches keep the kinds of all variables. -/
theorem Rules.deliver_evolves (rules : Rules υ ε) (depth : Nat) (k : WatchId) (e : Event) :
    Leads EvolvesStore (rules.deliver depth k e) :=
  rules.deliver_leads_to EvolvesStore.revising.toPlain.calm (fun _ hd => EvolvesStore.stepwise hd)
    depth k e

/-- No program gives a variable another kind. -/
theorem Act.LeadsOn.within {m : Act (Hands υ) ε α} (hm : LeadsOn t (World.OnStores R) m)
    (hevolves : Leads EvolvesStore m) (cells : List CellId) :
    LeadsOn t (World.Within cells R) m :=
  fun unwinding w => ⟨(hevolves ⟨t, unwinding⟩ w).kind, fun _ => hm unwinding w⟩

section Run

variable (hR : Store.Overlooks t R)
  (hd : ∀ k e, Act.LeadsOn t (World.OnStores R) (rules.deliver depth k e))

include hR hd

/-- Programs amid watches that are programs keep the kinds of variables, so that overrides of dynamic
variables stay such to their end. -/
theorem Overrides.enter_unnoticed (set : Overrides) {discard : α → Program υ ε Unit}
    (hdiscard : ∀ a, Act.LeadsOn t (World.OnStores R) ((discard a).act (rules.deliver depth)))
    {p : Program υ ε α} (hp : Act.LeadsOn t (World.OnStores R) (p.act (rules.deliver depth))) :
    Act.LeadsOn t (World.Within (set.map Prod.fst) R)
      (enter (rules.deliver depth) (fun a => (discard a).act (rules.deliver depth)) set
        (p.act (rules.deliver depth))) := by
  have hevolves := rules.deliver_evolves depth
  have hwatches := fun k e => (hd k e).within (hevolves k e) (set.map Prod.fst)
  have hbody {β : Type} {q : Program υ ε β}
      (hq : Act.LeadsOn t (World.OnStores R) (q.act (rules.deliver depth))) :=
    hq.within (q.leads_to (EvolvesStore.stepwise hevolves)) (set.map Prod.fst)
  exact enter_leadsOn hR hwatches (fun a => hbody (hdiscard a)) (fun _ hc => hc) (hbody hp)

variable (hk : ∀ c ∈ set.map Prod.fst, w.store.kind c = .dynamic)

include hk

/-- A run inside overrides of dynamic variables. -/
theorem Program.override_unnoticed {discard : α → Program υ ε Unit}
    (hdiscard : ∀ a, Act.LeadsOn t (World.OnStores R) ((discard a).act (rules.deliver depth)))
    {p : Program υ ε α} (hp : Act.LeadsOn t (World.OnStores R) (p.act (rules.deliver depth)))
    (unwinding : Bool) :
    R w.store
      ((override discard set p).act (rules.deliver depth) ⟨t, unwinding⟩ w).2.store := by
  have hevolves := rules.deliver_evolves depth
  have hS : Calm (@World.Within (Hands υ) ε (set.map Prod.fst) R) := World.Within.calm hR
  have hrun := (Act.LeadsOn.composes hS).run
    (fun a => .of ((hdiscard a).within ((discard a).leads_to (EvolvesStore.stepwise hevolves)) _))
    (.of (Overrides.enter_unnoticed hR hd set hdiscard hp))
  exact (hrun.2 unwinding w).store hk

/-- A run of a body that may fail inside overrides of dynamic variables. -/
theorem Program.tryOverride_unnoticed {discard : Except β α → Program υ ε Unit}
    (hdiscard : ∀ a, Act.LeadsOn t (World.OnStores R) ((discard a).act (rules.deliver depth)))
    {ofFault : Fault → β} {p : Program υ ε (Except β α)}
    (hp : Act.LeadsOn t (World.OnStores R) (p.act (rules.deliver depth))) (unwinding : Bool) :
    R w.store
      ((tryOverride discard ofFault set p).act (rules.deliver depth) ⟨t, unwinding⟩ w).2.store := by
  have hevolves := rules.deliver_evolves depth
  have hS : Calm (@World.Within (Hands υ) ε (set.map Prod.fst) R) := World.Within.calm hR
  have hgone := fun a =>
    (hdiscard a).within ((discard a).leads_to (EvolvesStore.stepwise hevolves)) (set.map Prod.fst)
  have hrun := (Act.LeadsOn.composes hS).tryRun (.of (Settings.current_leadsOn hS))
    (fun a => .of (hgone a)) (fun a => .of (hgone a)) ofFault
    (.of (Overrides.enter_unnoticed hR hd set hdiscard hp))
  exact (hrun.2 unwinding w).store hk

end Run

end Programs

end ScopedBinding
