import ScopedBinding.Proofs.Views

/-!
# Operations amid other threads

Some operations take more than one step: setting a root to what a function makes of it, holding a
guard or overrides around a body, and capturing one binding after another. Here they are written
with a turn of other threads before every step (`Act.after`). The other threads are a function of
the whole world, so their turns may differ and depend on each other.

If the other threads do nothing these are the operations of the library. They let the store evolve if
the watches and the other threads do.
-/

set_option autoImplicit false

namespace ScopedBinding

open Act (Leads)

/-! ## Operations amid other threads -/

section Operations

variable {η ε α β : Type} (deliver : Delivery η ε) (others : World η ε → World η ε)

/-- An action after a turn of the other threads. -/
def Act.after (m : Act η ε α) : Act η ε α :=
  fun ctx w => m ctx (others w)

/-- Running an action that has the lock of a variable. -/
def CellId.aloneAmid (c : CellId) (m : Act η ε α) : Act η ε α := do
  Act.after others c.lock
  let a ← Act.onUnwind m (Act.after others c.unlock)
  Act.after others c.unlock
  pure a

/-- Setting a root to what a function makes of it. Others may work before the lock is taken and before
it is given back, before the root is looked at and before it is set, while the function runs, and before
the watches are told. -/
def CellId.alterRootAmid (c : CellId) (f : Value → Act η ε Value) : Act η ε Value := do
  let (v, r) ← c.aloneAmid others do
    let old ← Act.after others do return (← Act.store).root c
    let v ← f old
    let r ← Act.after others (Act.onStore fun s => s.setRoot c v)
    pure (v, r)
  Act.after others (c.announce deliver .write r)
  pure v

/-- Holding a guard around a body. -/
def Guard.holdAmid (c : CellId) (body : Act η ε α) : Act η ε α := do
  let guard ← Act.after others (Guard.acquire c)
  let a ← Act.onUnwind body (Act.after others (guard.drop deliver))
  Act.after others (guard.drop deliver)
  pure a

namespace Overrides

/-- One override around the rest of them, once its guard is acquired. -/
def insideAmid (discard : α → Act η ε Unit) (cell : CellId) (value : Value) (guard : Guard)
    (rest : Act η ε (α × Option Fault)) : Act η ε (α × Option Fault) := do
  let (a, inner) ← Act.onUnwind
    (do Act.after others (cell.write deliver value); rest)
    (Act.after others (guard.drop deliver))
  return (a, inner.or (← Act.onUnwind (Act.after others (finish deliver guard)) (discard a)))

/-- Overriding variables around a body. -/
def aroundAmid (discard : α → Act η ε Unit) : Overrides → Act η ε α → Act η ε (α × Option Fault)
  | [], body => do
    return (← body, none)
  | (cell, value) :: rest, body => do
    let guard ← Act.after others (Guard.acquire cell)
    insideAmid deliver others discard cell value guard (aroundAmid discard rest body)

/-- Overriding variables around a body, with the message that it is entered. -/
def enterAmid (discard : α → Act η ε Unit) (set : Overrides) (body : Act η ε α) :
    Act η ε (α × Option Fault) :=
  aroundAmid deliver others discard set do
    logEntering set.length
    body

/-- Overriding variables around a body that cannot fail. -/
def runAmid (discard : α → Act η ε Unit) (set : Overrides) (body : Act η ε α) :
    Act η ε (Except Fault α) := do
  settle discard (← enterAmid deliver others discard set body)

/-- Overriding variables around a body that may fail. -/
def tryRunAmid (discard : Except β α → Act η ε Unit) (ofFault : Fault → β) (set : Overrides)
    (body : Act η ε (Except β α)) : Act η ε (Except β α) := do
  let policy ← Settings.current
  trySettle discard ofFault policy (← enterAmid deliver others discard set body)

end Overrides

namespace Snapshot

/-- Taking the bindings of variables one by one. -/
def collectAmid : List CellId → Act η ε Overrides
  | [] => pure []
  | c :: rest => do
    let bound ← Act.after others do return (← Act.store).isBound (← Act.thread) c
    if bound then
      let v ← Act.after others c.read
      return (c, v) :: (← collectAmid rest)
    else collectAmid rest

/-- Capturing bindings. -/
def captureAmid (cells : List CellId) : Act η ε Snapshot := do
  let bindings ← collectAmid others cells
  Act.log ⟨.debug, source, "captured thread bindings",
    [("captured", toString bindings.length), ("candidates", toString cells.length)]⟩
  pure ⟨bindings⟩

end Snapshot

/-! ### Without other threads -/

/-- A turn in which nothing is done makes no difference. -/
theorem Act.after_id (m : Act η ε α) : Act.after id m = m :=
  rfl

/-- Setting a root to what a function makes of it, without other threads. -/
theorem CellId.alterRootAmid_alone (c : CellId) (f : Value → Act η ε Value) :
    c.alterRootAmid deliver id f = c.alterRoot deliver f := by
  unfold alterRootAmid alterRoot aloneAmid alone
  simp only [Act.after_id, bind_assoc, pure_bind]

/-- Holding a guard without other threads. -/
theorem Guard.holdAmid_alone (c : CellId) (body : Act η ε α) :
    holdAmid deliver id c body = hold deliver c body :=
  rfl

namespace Overrides

/-- Scopes inside scopes without other threads. -/
theorem aroundAmid_alone (discard : α → Act η ε Unit) (set : Overrides) (body : Act η ε α) :
    aroundAmid deliver id discard set body = around deliver discard set body := by
  induction set with
  | nil => rfl
  | cons pair rest ih =>
    obtain ⟨c, v⟩ := pair
    unfold aroundAmid around
    rw [ih]
    rfl

/-- A run inside overrides without other threads. -/
theorem runAmid_alone (discard : α → Act η ε Unit) (set : Overrides) (body : Act η ε α) :
    runAmid deliver id discard set body = run deliver discard set body := by
  unfold runAmid enterAmid
  rw [aroundAmid_alone, run_eq, enter_eq]

/-- A run of a body that may fail without other threads. -/
theorem tryRunAmid_alone (discard : Except β α → Act η ε Unit) (ofFault : Fault → β)
    (set : Overrides) (body : Act η ε (Except β α)) :
    tryRunAmid deliver id discard ofFault set body = tryRun deliver discard ofFault set body := by
  unfold tryRunAmid enterAmid
  rw [aroundAmid_alone, tryRun_eq, enter_eq]

end Overrides

namespace Snapshot

/-- Without other threads the bindings that are taken one by one are those of one moment. -/
theorem collectAmid_alone (cells : List CellId) (ctx : Context) (w : World η ε) :
    collectAmid id cells ctx w = (.done (ofStore w.store ctx.thread cells).bindings, w) := by
  induction cells with
  | nil => rfl
  | cons c rest ih =>
    have hbound : (Act.after id do return (← Act.store).isBound (← Act.thread) c :
        Act η ε Bool) ctx w = (.done (w.store.isBound ctx.thread c), w) := rfl
    have hread : Act.after id c.read ctx w = (.done (w.store.read ctx.thread c), w) := rfl
    unfold collectAmid ofStore
    rw [Act.bind_of_done hbound]
    cases hb : w.store.isBound ctx.thread c with
    | true =>
      rw [List.filter_cons_of_pos hb, List.map_cons]
      simp only [if_true]
      rw [Act.bind_of_done hread, Act.bind_of_done ih]
      rfl
    | false =>
      rw [List.filter_cons_of_neg (by simp [hb])]
      exact ih

/-- Capturing without other threads. -/
theorem captureAmid_alone (cells : List CellId) :
    captureAmid id cells = (capture cells : Act η ε Snapshot) := by
  funext ctx w
  unfold captureAmid
  rw [Act.bind_of_done (collectAmid_alone cells ctx w)]
  rfl

end Snapshot

/-! ### What they make of the store -/

section Evolving

variable {deliver others}

/-- A calm relation for the evolving of the store. -/
theorem EvolvesStore.calm : Calm (@EvolvesStore η ε) :=
  revising.toPlain.calm

/-- Changes that open and close no frame let the store evolve. -/
theorem EvolvesStore.revised {w : World η ε} {s : Store} (h : w.store.Revises s) :
    EvolvesStore w { w with store := s } :=
  revising.store w s h

section Turns

variable (ho : ∀ w, EvolvesStore w (others w))
include ho

/-- An action after a turn of the other threads. -/
theorem Act.after_evolves {m : Act η ε α} (hm : Leads EvolvesStore m) :
    Leads EvolvesStore (Act.after others m) :=
  fun ctx w => EvolvesStore.calm.trans (ho w) (hm ctx (others w))

/-- Looking at the world after a turn of the other threads. -/
theorem Act.after_still {m : Act η ε α} (hm : ∀ ctx w, (m ctx w).2 = w) :
    Leads EvolvesStore (Act.after others m) :=
  after_evolves ho (.still EvolvesStore.calm hm)

/-- Running an action that has the lock of a variable. -/
theorem CellId.aloneAmid_evolves (c : CellId) {m : Act η ε α} (hm : Leads EvolvesStore m) :
    Leads EvolvesStore (c.aloneAmid others m) := by
  have hC := EvolvesStore.calm (η := η) (ε := ε)
  have hlock : Leads EvolvesStore (c.lock : Act η ε Unit) := by
    intro ctx w
    rw [lock_run]
    split
    · exact hC.refl w
    · exact EvolvesStore.revised (.lock c)
  have hunlock : Leads EvolvesStore (c.unlock : Act η ε Unit) := fun _ _ =>
    EvolvesStore.revised (.unlock c)
  have hfree := Act.after_evolves ho hunlock
  refine .bind hC (Act.after_evolves ho hlock) fun _ => ?_
  exact .bind hC (.onUnwind hC hm hfree) fun a => .bind hC hfree fun _ => .pure hC a

namespace Snapshot

/-- Taking bindings one by one. -/
theorem collectAmid_evolves (cells : List CellId) : Leads EvolvesStore (collectAmid others cells) := by
  have hC := EvolvesStore.calm (η := η) (ε := ε)
  induction cells with
  | nil => exact .pure hC _
  | cons c rest ih =>
    unfold collectAmid
    refine .bind hC (Act.after_still ho fun _ _ => rfl) fun bound => ?_
    split
    · refine .bind hC (Act.after_still ho fun _ _ => rfl) fun v => ?_
      exact .bind hC ih fun _ => .pure hC _
    · exact ih

/-- Capturing bindings. -/
theorem captureAmid_evolves (cells : List CellId) :
    Leads EvolvesStore (captureAmid others cells) := by
  have hC := EvolvesStore.calm (η := η) (ε := ε)
  refine .bind hC (collectAmid_evolves ho cells) fun _ => ?_
  exact .bind hC (.log hC _) fun _ => .pure hC _

end Snapshot

variable (hd : ∀ k e, Leads EvolvesStore (deliver k e))
include hd

/-- Setting a root to what a function makes of it. -/
theorem CellId.alterRootAmid_evolves (c : CellId) {f : Value → Act η ε Value}
    (hf : ∀ v, Leads EvolvesStore (f v)) :
    Leads EvolvesStore (c.alterRootAmid deliver others f) := by
  have hC := EvolvesStore.calm (η := η) (ε := ε)
  have hset : ∀ v : Value, Leads EvolvesStore
      (Act.onStore fun s => s.setRoot c v : Act η ε Replaced) := fun v _ _ =>
    EvolvesStore.revised (.setRoot c v)
  have hannounce := c.announce_leads EvolvesStore.revising.toPlain hd .write
  refine .bind hC (c.aloneAmid_evolves ho ?_) fun result => ?_
  · refine .bind hC (Act.after_still ho fun _ _ => rfl) fun old => .bind hC (hf old) fun v => ?_
    exact .bind hC (Act.after_evolves ho (hset v)) fun r => .pure hC _
  · exact .bind hC (Act.after_evolves ho (hannounce result.2)) fun _ => .pure hC _

/-- Dropping a guard. -/
theorem Guard.dropAmid_evolves (g : Guard) : Leads EvolvesStore (Act.after others (g.drop deliver)) :=
  Act.after_evolves ho (g.drop_leads EvolvesStore.calm ((EvolvesStore.stepwise hd).pop _ _))

omit hd in
/-- Acquiring a guard. -/
theorem Guard.acquireAmid_evolves (c : CellId) :
    Leads EvolvesStore (Act.after others (Guard.acquire c) : Act η ε Guard) := by
  refine Act.after_evolves ho fun ctx w => ?_
  have h : Stepwise (fun _ _ => pure () : Delivery η ε) EvolvesStore :=
    EvolvesStore.stepwise fun _ _ => .pure EvolvesStore.calm ()
  exact h.trans (h.opened w ctx.thread c) (h.logged _ _)

/-- Holding a guard around a body. -/
theorem Guard.holdAmid_evolves (c : CellId) {body : Act η ε α} (hbody : Leads EvolvesStore body) :
    Leads EvolvesStore (holdAmid deliver others c body) := by
  have hC := EvolvesStore.calm (η := η) (ε := ε)
  refine .bind hC (acquireAmid_evolves ho c) fun g => ?_
  have hdrop := dropAmid_evolves ho hd g
  exact .bind hC (.onUnwind hC hbody hdrop) fun a => .bind hC hdrop fun _ => .pure hC a

namespace Overrides

variable {discard : α → Act η ε Unit} (hdiscard : ∀ a, Leads EvolvesStore (discard a))
include hdiscard

/-- One override around the rest of them. -/
theorem insideAmid_evolves (c : CellId) (v : Value) (g : Guard)
    {rest : Act η ε (α × Option Fault)} (hrest : Leads EvolvesStore rest) :
    Leads EvolvesStore (insideAmid deliver others discard c v g rest) := by
  have hC := EvolvesStore.calm (η := η) (ε := ε)
  have h := EvolvesStore.stepwise hd
  have hwrite := Act.after_evolves ho (h.write c v)
  have hfinish := Act.after_evolves ho (finish_leads h.scopes g)
  refine .bind hC (.onUnwind hC (.bind hC hwrite fun _ => hrest) (g.dropAmid_evolves ho hd))
    fun ends => ?_
  exact .bind hC (.onUnwind hC hfinish (hdiscard ends.1)) fun _ => .pure hC _

/-- Overriding variables around a body. -/
theorem aroundAmid_evolves (set : Overrides) {body : Act η ε α} (hbody : Leads EvolvesStore body) :
    Leads EvolvesStore (aroundAmid deliver others discard set body) := by
  have hC := EvolvesStore.calm (η := η) (ε := ε)
  induction set with
  | nil => exact .bind hC hbody fun a => .pure hC _
  | cons pair rest ih =>
    obtain ⟨c, v⟩ := pair
    exact .bind hC (Guard.acquireAmid_evolves ho c) fun g =>
      insideAmid_evolves ho hd hdiscard c v g ih

/-- Overriding variables around a body, with the message that it is entered. -/
theorem enterAmid_evolves (set : Overrides) {body : Act η ε α} (hbody : Leads EvolvesStore body) :
    Leads EvolvesStore (enterAmid deliver others discard set body) :=
  aroundAmid_evolves ho hd hdiscard set
    (.bind EvolvesStore.calm (.log EvolvesStore.calm _) fun _ => hbody)

/-- A run inside overrides. -/
theorem runAmid_evolves (set : Overrides) {body : Act η ε α} (hbody : Leads EvolvesStore body) :
    Leads EvolvesStore (runAmid deliver others discard set body) :=
  .bind EvolvesStore.calm (enterAmid_evolves ho hd hdiscard set hbody) fun ends =>
    ((Leads.composes EvolvesStore.calm).settle (fun a => .of (hdiscard a)) ends).2

omit hdiscard in
/-- A run of a body that may fail. -/
theorem tryRunAmid_evolves {discard : Except β α → Act η ε Unit}
    (hdiscard : ∀ a, Leads EvolvesStore (discard a)) (ofFault : Fault → β) (set : Overrides)
    {body : Act η ε (Except β α)} (hbody : Leads EvolvesStore body) :
    Leads EvolvesStore (tryRunAmid deliver others discard ofFault set body) := by
  have hC := EvolvesStore.calm (η := η) (ε := ε)
  refine .bind hC (Settings.current_leads hC) fun policy => ?_
  refine .bind hC (enterAmid_evolves ho hd hdiscard set hbody) fun ends => ?_
  exact ((Leads.composes hC).trySettle (fun a => .of (hdiscard a)) (fun a => .of (hdiscard a))
    ofFault policy ends).2

end Overrides

end Turns

end Evolving

end Operations

end ScopedBinding
