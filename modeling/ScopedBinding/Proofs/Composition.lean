import ScopedBinding.Proofs.Locks
import ScopedBinding.Proofs.ScopeLoop

/-!
# Relations that actions have from their parts

The operations of the library and the programs over it are put together from a few elementary actions.
A relation between actions that is passed on from the parts to the whole holds of all that is put
together from what it holds of. What is elementary depends on the relation:

* `Act.Sequences`: the parts of a sequence, and actions that only look at the world.
* `Act.Composes`: a relation passed on by sequences and by panics, where the cleanups on the way of a
  panic are related by another relation.
* `Act.Releases`: closing a frame. `Act.Closes`: asking for the policy too. Then the operations on guards
  are related.
* `Act.Encloses`: opening frames and setting variables. Then scopes are related.
* `Act.Stores`: every change of the store, with its note and the watches that are told. `Act.Changes`:
  asking for the policy too.
* `Act.Handles`: taking guards out of the hands of a program and putting them there.
* `Act.Congruent`: the ways to put programs together. Then whole programs are related
  (`Program.related`).

A property of single actions is such a relation between actions that are the same (`Act.Same`).
-/

set_option autoImplicit false

namespace ScopedBinding

variable {η η' ε α β : Type}

/-- The warnings about the content of the environment variable are no messages of guards. -/
theorem ReleasePolicy.ofVariable_source (content : Option (List UInt8)) :
    ∀ message ∈ (ofVariable content).2, message.source ≠ Guard.source := by
  unfold ofVariable
  cases content with
  | none => exact nofun
  | some bytes =>
    dsimp only
    split
    · exact nofun
    · exact List.forall_mem_singleton.2 (by simp [unrecognised, Guard.source])

/-- A property of single actions, as a relation between actions that are the same. -/
def Act.Same (Q : {α : Type} → Act η ε α → Prop) {α : Type} (m m' : Act η ε α) : Prop :=
  m' = m ∧ Q m

/-- An action that has a property is related to itself. -/
theorem Act.Same.of {Q : {α : Type} → Act η ε α → Prop} {m : Act η ε α} (h : Q m) :
    Act.Same Q m m :=
  ⟨rfl, h⟩

/-- A relation between actions that holds of those which only look at the world, and that is passed on
from the parts of a sequence to the whole. -/
structure Act.Sequences (P : {α : Type} → Act η ε α → Act η' ε α → Prop) : Prop where
  pure : ∀ {α : Type} (a : α), P (pure a) (pure a)
  thread : P Act.thread Act.thread
  store : P Act.store Act.store
  settings : P Act.settings Act.settings
  /-- The messages of guards are not among those that every relation holds of. -/
  log : ∀ {message : LogMessage}, message.source ≠ Guard.source →
    P (Act.log message) (Act.log message)
  bind : ∀ {α β : Type} {m : Act η ε α} {m' : Act η' ε α} {next : α → Act η ε β}
    {next' : α → Act η' ε β}, P m m' → (∀ a, P (next a) (next' a)) → P (m >>= next) (m' >>= next')

/-- A relation that panics pass on too. Cleanups have a relation of their own. -/
structure Act.Composes (P : {α : Type} → Act η ε α → Act η' ε α → Prop)
    (C : Act η ε Unit → Act η' ε Unit → Prop) : Prop extends Act.Sequences P where
  failRelease : ∀ policy fault, P (Guard.failRelease policy fault) (Guard.failRelease policy fault)
  onUnwind : ∀ {α : Type} {m : Act η ε α} {m' : Act η' ε α} {cleanup : Act η ε Unit}
    {cleanup' : Act η' ε Unit}, P m m' → C cleanup cleanup' →
    P (Act.onUnwind m cleanup) (Act.onUnwind m' cleanup')

/-! ## What runs are like -/

/-- How a run ended, without its value. -/
inductive Ending where
  | done
  | panicked
  | halted
  deriving DecidableEq

/-- How a run with this outcome ended. -/
def Outcome.ending {α : Type} : Outcome α → Ending
  | .done _ => .done
  | .panicked _ => .panicked
  | .halted => .halted

/-- A run that ends with some value. -/
theorem Outcome.done_of_ending {α σ : Type} {result : Outcome α × σ}
    (h : result.1.ending = .done) : ∃ a, result = (.done a, result.2) := by
  obtain ⟨o, w⟩ := result
  cases o with
  | done a => exact ⟨a, rfl⟩
  | panicked message => cases h
  | halted => cases h

/-- Only a run that is cut off is one without a value and without a panic. -/
theorem Outcome.ending_eq_halted {α : Type} {o : Outcome α} : o.ending = .halted ↔ o = .halted := by
  cases o with
  | done a => exact ⟨nofun, nofun⟩
  | panicked message => exact ⟨nofun, nofun⟩
  | halted => exact ⟨fun _ => rfl, fun _ => rfl⟩

/-- Changing the value changes nothing of how a run ended. -/
theorem Outcome.ending_map {α β : Type} (f : α → β) (o : Outcome α) : (o.map f).ending = o.ending := by
  cases o <;> rfl

/-- How a panic ends after a cleanup on its way has ended. -/
def Ending.unwound : Ending → Ending
  | .done => .panicked
  | .panicked => .halted
  | .halted => .halted

namespace Act

variable {Q D : Context → World η ε → Ending → World η ε → Prop}

/-- What all runs of an action are like, by where they start, how they end and where. -/
def Runs (Q : Context → World η ε → Ending → World η ε → Prop) (m : Act η ε α) : Prop :=
  ∀ ctx w, Q ctx w (m ctx w).1.ending (m ctx w).2

/-- An action that does nothing runs as a value does. -/
theorem Runs.still (h : ∀ ctx w, Q ctx w .done w) {m : Act η ε α}
    (hm : ∀ ctx w, ∃ a, m ctx w = (.done a, w)) : Runs Q m := by
  intro ctx w
  obtain ⟨a, heq⟩ := hm ctx w
  rw [heq]
  exact h ctx w

/-- The run of actions one after another that starts somewhere, by the run of the first. -/
theorem Runs.bind_at (append : ∀ {ctx w w' e w''}, Q ctx w .done w' → D ctx w' e w'' → Q ctx w e w'')
    {m : Act η ε α} {next : α → Act η ε β} {ctx : Context} {w : World η ε}
    (hm : Q ctx w (m ctx w).1.ending (m ctx w).2)
    (hnext : ∀ a, (m ctx w).1 = .done a → Runs D (next a)) :
    Q ctx w ((m >>= next) ctx w).1.ending ((m >>= next) ctx w).2 := by
  show Q ctx w (Act.bind m next ctx w).1.ending (Act.bind m next ctx w).2
  unfold Act.bind
  generalize m ctx w = result at hm hnext ⊢
  obtain ⟨a | message | _, w'⟩ := result
  · exact append hm (hnext a rfl ctx w')
  · exact hm
  · exact hm

/-- Runs of actions one after another. -/
theorem Runs.bind (append : ∀ {ctx w w' e w''}, Q ctx w .done w' → Q ctx w' e w'' → Q ctx w e w'')
    {m : Act η ε α} {next : α → Act η ε β} (hm : Runs Q m) (hnext : ∀ a, Runs Q (next a)) :
    Runs Q (m >>= next) :=
  fun ctx w => bind_at (Q := Q) (D := Q) append (hm ctx w) fun a _ => hnext a

/-- The run of an action with its cleanup that starts somewhere, by the run of the action. -/
theorem Runs.onUnwind_at (unwound : ∀ {ctx : Context} {w w' e w''}, Q ctx w .panicked w' →
      D { ctx with unwinding := true } w' e w'' → Q ctx w e.unwound w'')
    {m : Act η ε α} {cleanup : Act η ε Unit} {ctx : Context} {w : World η ε}
    (hm : Q ctx w (m ctx w).1.ending (m ctx w).2) (hc : Runs D cleanup) :
    Q ctx w (Act.onUnwind m cleanup ctx w).1.ending (Act.onUnwind m cleanup ctx w).2 := by
  unfold Act.onUnwind
  generalize m ctx w = result at hm ⊢
  obtain ⟨a | message | _, w'⟩ := result
  · exact hm
  · have hsecond := unwound hm (hc { ctx with unwinding := true } w')
    dsimp only
    generalize cleanup { ctx with unwinding := true } w' = result at hsecond ⊢
    obtain ⟨_ | _ | _, w''⟩ := result <;> exact hsecond
  · exact hm

/-- Runs of an action with its cleanup, whether the cleanup runs or not. -/
theorem Runs.onUnwind (unwound : ∀ {ctx : Context} {w w' e w''}, Q ctx w .panicked w' →
      D { ctx with unwinding := true } w' e w'' → Q ctx w e.unwound w'')
    {m : Act η ε α} {cleanup : Act η ε Unit} (hm : Runs Q m) (hc : Runs D cleanup) :
    Runs Q (Act.onUnwind m cleanup) :=
  fun ctx w => onUnwind_at (Q := Q) (D := D) unwound (hm ctx w) hc

/-- What runs are like is passed on from the parts of a sequence if it can be put together. -/
theorem Runs.sequences (still : ∀ ctx w, Q ctx w .done w)
    (logged : ∀ ctx w message, Q ctx w .done { w with journal := .logged message :: w.journal })
    (append : ∀ {ctx w w' e w''}, Q ctx w .done w' → Q ctx w' e w'' → Q ctx w e w'') :
    Sequences (Same fun {α} (m : Act η ε α) => Runs Q m) where
  pure _ := .of (.still still fun _ _ => ⟨_, rfl⟩)
  thread := .of (.still still fun _ _ => ⟨_, rfl⟩)
  store := .of (.still still fun _ _ => ⟨_, rfl⟩)
  settings := .of (.still still fun _ _ => ⟨_, rfl⟩)
  log _ := .of fun ctx w => logged ctx w _
  bind := by
    rintro _ _ m _ next next' ⟨rfl, hm⟩ hnext
    obtain rfl : next' = next := funext fun a => (hnext a).1
    exact .of (Runs.bind (Q := Q) append hm fun a => (hnext a).2)

/-- It is passed on by panics too if it goes with what the cleanups are like. -/
theorem Sequences.composes (h : Sequences (Same fun {α} (m : Act η ε α) => Runs Q m))
    (still : ∀ ctx w, Q ctx w .done w)
    (panics : ∀ ctx w, ctx.unwinding = false → Q ctx w .panicked w)
    (unwound : ∀ {ctx : Context} {w w' e w''}, Q ctx w .panicked w' →
      D { ctx with unwinding := true } w' e w'' → Q ctx w e.unwound w'') :
    Composes (Same fun {α} (m : Act η ε α) => Runs Q m)
      (Same fun {α} (m : Act η ε α) => Runs D m) where
  toSequences := h
  failRelease policy fault := .of fun ctx w => by
    rw [Guard.failRelease_run]
    split
    · next hpanics => exact panics ctx w hpanics.2
    · exact still ctx w
  onUnwind := by
    rintro _ m _ cleanup _ ⟨rfl, hm⟩ ⟨rfl, hc⟩
    exact .of (Runs.onUnwind (Q := Q) (D := D) unwound hm hc)

end Act

/-! ## What is put together -/

namespace Act.Sequences

variable {P : {α : Type} → Act η ε α → Act η' ε α → Prop}

/-- A loop over a list. -/
theorem forM (h : Sequences P) {f : α → Act η ε PUnit} {f' : α → Act η' ε PUnit} {l : List α}
    (hf : ∀ a ∈ l, P (f a) (f' a)) : P (l.forM f) (l.forM f') := by
  induction l with
  | nil => exact h.pure _
  | cons a l ih =>
    obtain ⟨hfirst, hrest⟩ := List.forall_mem_cons.1 hf
    exact h.bind hfirst fun _ => ih hrest

/-! ## Settings and snapshots -/

/-- Looking at the policy that the environment variable selects. -/
theorem fromVariable (h : Sequences P) : P Settings.fromVariable Settings.fromVariable := by
  unfold Settings.fromVariable
  refine h.bind h.settings fun s => ?_
  refine h.bind (h.forM fun message hmessage => h.log ?_) fun _ => h.pure _
  exact ReleasePolicy.ofVariable_source s.content message hmessage

/-- Asking for the policy of the process. -/
theorem current (h : Sequences P)
    (hset : ∀ s, P (Act.setSettings s) (Act.setSettings s)) : P Settings.current Settings.current := by
  unfold Settings.current
  refine h.bind h.settings fun s => ?_
  split
  · exact h.pure _
  · refine h.bind h.fromVariable fun policy => ?_
    refine h.bind h.settings fun s => ?_
    exact h.bind (hset _) fun _ => h.pure policy

/-- Installing a policy. -/
theorem install (h : Sequences P) (hset : ∀ s, P (Act.setSettings s) (Act.setSettings s))
    (policy : ReleasePolicy) : P (Settings.install policy) (Settings.install policy) := by
  unfold Settings.install
  refine h.bind h.settings fun s => ?_
  split
  · exact h.pure _
  · exact h.bind (hset _) fun _ => h.pure _

/-- Changing the environment variable. -/
theorem setVariable (h : Sequences P) (hset : ∀ s, P (Act.setSettings s) (Act.setSettings s))
    (content : Option (List UInt8)) :
    P (Settings.setVariable content) (Settings.setVariable content) := by
  unfold Settings.setVariable
  exact h.bind h.settings fun s => hset _

/-- Taking a snapshot. -/
theorem capture (h : Sequences P) (cells : List CellId) :
    P (Snapshot.capture cells) (Snapshot.capture cells) := by
  unfold Snapshot.capture
  refine h.bind h.store fun s => ?_
  refine h.bind h.thread fun t => ?_
  exact h.bind (h.log (by simp [Snapshot.source, Guard.source])) fun _ => h.pure _

/-! ## Events -/

variable {deliver : Delivery η ε} {deliver' : Delivery η' ε}

/-- Telling the watches of an event. -/
theorem tell (h : Sequences P) (hd : ∀ k e, P (deliver k e) (deliver' k e)) (e : Event) :
    P (e.deliver deliver) (e.deliver deliver') := by
  unfold Event.deliver
  exact h.bind h.store fun _ => h.forM fun k _ => hd k e

/-- Making a change known. -/
theorem announce (h : Sequences P)
    (hnote : ∀ t e, P (Act.note (.changed t e)) (Act.note (.changed t e)))
    (hd : ∀ k e, P (deliver k e) (deliver' k e)) (c : CellId) (change : Change) (r : Replaced) :
    P (c.announce deliver change r) (c.announce deliver' change r) := by
  unfold CellId.announce
  refine h.bind h.store fun s => ?_
  refine h.bind h.thread fun t => ?_
  exact h.bind (hnote t _) fun _ => h.tell hd _

/-- Taking the lock of a variable. -/
theorem lock (h : Sequences P) (c : CellId) (hhalt : P (Act.halt : Act η ε Unit) Act.halt)
    (hlock : P (Act.onStore fun s => ((), s.lock c)) (Act.onStore fun s => ((), s.lock c))) :
    P c.lock c.lock := by
  unfold CellId.lock
  refine h.bind h.store fun s => ?_
  split
  · exact hhalt
  · exact hlock

/-! ## Variables -/

/-- Setting a variable. -/
theorem write (h : Sequences P)
    (hstore : ∀ t c v, P (Act.onStore fun s => s.write t c v) (Act.onStore fun s => s.write t c v))
    (hannounce : ∀ (c : CellId) change r,
      P (c.announce deliver change r) (c.announce deliver' change r))
    (c : CellId) (v : Value) : P (c.write deliver v) (c.write deliver' v) := by
  unfold CellId.write
  refine h.bind h.thread fun t => ?_
  exact h.bind (hstore t c v) fun r => hannounce c .write r

/-- Setting a root. -/
theorem setRoot (h : Sequences P)
    (hstore : ∀ c v, P (Act.onStore fun s => s.setRoot c v) (Act.onStore fun s => s.setRoot c v))
    (hannounce : ∀ (c : CellId) change r,
      P (c.announce deliver change r) (c.announce deliver' change r))
    (c : CellId) (v : Value) : P (c.setRoot deliver v) (c.setRoot deliver' v) := by
  unfold CellId.setRoot
  exact h.bind (hstore c v) fun r => hannounce c .write r

/-! ## Ends of scopes -/

/-- Releasing a guard. -/
theorem release (h : Sequences P) (hmessage : ∀ message, P (Act.log message) (Act.log message))
    {g : Guard} (hpop : P (g.cell.pop deliver g.frame) (g.cell.pop deliver' g.frame)) :
    P (g.release deliver) (g.release deliver') := by
  unfold Guard.release
  refine h.bind h.store fun s => ?_
  dsimp only
  split
  · refine h.bind hpop fun closed => ?_
    split <;> exact h.bind (hmessage _) fun _ => h.pure _
  · refine h.bind (h.pure _) fun closed => ?_
    split <;> exact h.bind (hmessage _) fun _ => h.pure _
  · refine h.bind (h.pure _) fun closed => ?_
    split <;> exact h.bind (hmessage _) fun _ => h.pure _

/-- Giving up a guard. -/
theorem abandon (h : Sequences P)
    (hmessage : ∀ message, P (Act.log message) (Act.log message)) (g : Guard) :
    P g.abandon g.abandon := by
  unfold Guard.abandon
  split
  · refine h.bind h.store fun s => ?_
    exact h.bind (hmessage _) fun _ => h.pure _
  · exact h.pure g

/-- What is made of the result of a body. -/
theorem settle (h : Sequences P) {discard : α → Act η ε Unit} {discard' : α → Act η' ε Unit}
    (hdiscard : ∀ a, P (discard a) (discard' a)) (ends : α × Option Fault) :
    P (Overrides.settle discard ends) (Overrides.settle discard' ends) := by
  obtain ⟨a, _ | fault⟩ := ends
  · exact h.pure _
  · exact h.bind (hdiscard a) fun _ => h.pure _

/-- A run inside overrides. -/
theorem run (h : Sequences P) {discard : α → Act η ε Unit} {discard' : α → Act η' ε Unit}
    (hdiscard : ∀ a, P (discard a) (discard' a)) {set : Overrides} {body : Act η ε α}
    {body' : Act η' ε α} (henter : P (Overrides.enter deliver discard set body)
      (Overrides.enter deliver' discard' set body')) :
    P (Overrides.run deliver discard set body) (Overrides.run deliver' discard' set body') := by
  rw [Overrides.run_eq, Overrides.run_eq]
  exact h.bind henter (h.settle hdiscard)

end Act.Sequences

namespace Act.Composes

variable {P : {α : Type} → Act η ε α → Act η' ε α → Prop} {C : Act η ε Unit → Act η' ε Unit → Prop}
  {deliver : Delivery η ε} {deliver' : Delivery η' ε}

/-- Altering a root. -/
theorem alterRoot (h : Composes P C) {c : CellId} (hlock : P c.lock c.lock)
    (hunlock : P c.unlock c.unlock) (hcleanup : C c.unlock c.unlock)
    (hset : ∀ v, P (c.setRoot deliver v) (c.setRoot deliver' v)) {f : Value → Act η ε Value}
    {f' : Value → Act η' ε Value} (hf : ∀ v, P (f v) (f' v)) :
    P (c.alterRoot deliver f) (c.alterRoot deliver' f') := by
  rw [CellId.alterRoot_eq, CellId.alterRoot_eq]
  refine h.bind hlock fun _ => ?_
  refine h.bind (h.onUnwind (h.bind h.store fun _ => hf _) hcleanup) fun v => ?_
  exact h.bind hunlock fun _ => h.bind (hset v) fun _ => h.pure v

/-- What is made of the result of a body that may fail. -/
theorem trySettle (h : Composes P C) {discard : Except β α → Act η ε Unit}
    {discard' : Except β α → Act η' ε Unit} (hdiscard : ∀ a, P (discard a) (discard' a))
    (hcleanup : ∀ a, C (discard a) (discard' a)) (ofFault : Fault → β) (policy : ReleasePolicy)
    (ends : Except β α × Option Fault) :
    P (Overrides.trySettle discard ofFault policy ends)
      (Overrides.trySettle discard' ofFault policy ends) := by
  obtain ⟨failure | a, _ | fault⟩ := ends
  · exact h.pure _
  · refine h.bind (h.log (by simp [Overrides.source, Guard.source])) fun _ => ?_
    exact h.bind (h.onUnwind (h.failRelease policy fault) (hcleanup _)) fun _ => h.pure _
  · exact h.pure _
  · exact h.bind (hdiscard _) fun _ => h.pure _

/-- A run of a body that may fail inside overrides. -/
theorem tryRun (h : Composes P C) (hcurrent : P Settings.current Settings.current)
    {discard : Except β α → Act η ε Unit} {discard' : Except β α → Act η' ε Unit}
    (hdiscard : ∀ a, P (discard a) (discard' a)) (hcleanup : ∀ a, C (discard a) (discard' a))
    (ofFault : Fault → β) {set : Overrides} {body : Act η ε (Except β α)}
    {body' : Act η' ε (Except β α)} (henter : P (Overrides.enter deliver discard set body)
      (Overrides.enter deliver' discard' set body')) :
    P (Overrides.tryRun deliver discard ofFault set body)
      (Overrides.tryRun deliver' discard' ofFault set body') := by
  rw [Overrides.tryRun_eq, Overrides.tryRun_eq]
  refine h.bind hcurrent fun policy => ?_
  exact h.bind henter (h.trySettle hdiscard hcleanup ofFault policy)

end Act.Composes

/-! ## Guards -/

/-- A relation that also holds of closing some frames and of every message. -/
structure Act.Releases (P : {α : Type} → Act η ε α → Act η' ε α → Prop)
    (C : Act η ε Unit → Act η' ε Unit → Prop) (deliver : Delivery η ε) (deliver' : Delivery η' ε)
    (closable : CellId → FrameId → Prop) : Prop extends Act.Composes P C where
  message : ∀ message : LogMessage, P (Act.log message) (Act.log message)
  pop : ∀ {c : CellId} {f : FrameId}, closable c f → P (c.pop deliver f) (c.pop deliver' f)

/-- Ending an override. -/
theorem Act.Releases.finish {P : {α : Type} → Act η ε α → Act η' ε α → Prop}
    {C : Act η ε Unit → Act η' ε Unit → Prop} {deliver : Delivery η ε} {deliver' : Delivery η' ε}
    {closable : CellId → FrameId → Prop} {g : Guard} (h : Releases P C deliver deliver' closable)
    (hg : closable g.cell g.frame) (hdrop : C (g.drop deliver) (g.drop deliver')) :
    P (Overrides.finish deliver g) (Overrides.finish deliver' g) := by
  unfold Overrides.finish
  refine h.bind (h.onUnwind (h.release h.message (h.pop hg)) hdrop) fun result => ?_
  split
  · exact h.pure _
  · exact h.bind (h.abandon h.message g) fun _ => h.pure _

/-- A relation that also holds of asking for the policy. -/
structure Act.Closes (P : {α : Type} → Act η ε α → Act η' ε α → Prop)
    (C : Act η ε Unit → Act η' ε Unit → Prop) (deliver : Delivery η ε) (deliver' : Delivery η' ε)
    (closable : CellId → FrameId → Prop) : Prop extends
    Act.Releases P C deliver deliver' closable where
  current : P Settings.current Settings.current

/-- Dropping a guard. -/
theorem Act.Closes.drop {P : {α : Type} → Act η ε α → Act η' ε α → Prop}
    {C : Act η ε Unit → Act η' ε Unit → Prop} {deliver : Delivery η ε} {deliver' : Delivery η' ε}
    {closable : CellId → FrameId → Prop} {g : Guard} (h : Closes P C deliver deliver' closable)
    (hg : closable g.cell g.frame) : P (g.drop deliver) (g.drop deliver') := by
  unfold Guard.drop
  split
  · refine h.bind h.current fun policy => ?_
    refine h.bind (h.release h.message (h.pop hg)) fun result => ?_
    split
    · exact h.pure _
    · exact h.failRelease policy _
  · exact h.pure _

/-! ## Scopes -/

/-- A relation that also holds of opening and closing all frames, of setting variables, and of the drops
of guards on the way of a panic. -/
structure Act.Encloses (P : {α : Type} → Act η ε α → Act η' ε α → Prop)
    (C : Act η ε Unit → Act η' ε Unit → Prop) (deliver : Delivery η ε) (deliver' : Delivery η' ε) :
    Prop extends Act.Releases P C deliver deliver' fun _ _ => True where
  acquire : ∀ c : CellId, P (Guard.acquire c) (Guard.acquire c)
  write : ∀ (c : CellId) (v : Value), P (c.write deliver v) (c.write deliver' v)
  cleanup : ∀ g : Guard, C (g.drop deliver) (g.drop deliver')

namespace Act.Encloses

variable {P : {α : Type} → Act η ε α → Act η' ε α → Prop} {C : Act η ε Unit → Act η' ε Unit → Prop}
  {deliver : Delivery η ε} {deliver' : Delivery η' ε} {discard : α → Act η ε Unit}
  {discard' : α → Act η' ε Unit} {body : Act η ε α} {body' : Act η' ε α}

/-- Scopes inside scopes. -/
theorem around (h : Encloses P C deliver deliver') (hdiscard : ∀ a, C (discard a) (discard' a))
    (hbody : P body body') (set : Overrides) :
    P (Overrides.around deliver discard set body) (Overrides.around deliver' discard' set body') := by
  induction set with
  | nil => exact h.bind hbody fun a => h.pure _
  | cons pair rest ih =>
    obtain ⟨c, v⟩ := pair
    refine h.bind (h.acquire c) fun g => ?_
    refine h.bind (h.onUnwind (h.bind (h.write c v) fun _ => ih) (h.cleanup g)) fun ends => ?_
    have hfinish := h.finish (g := g) trivial (h.cleanup g)
    exact h.bind (h.onUnwind hfinish (hdiscard ends.1)) fun _ => h.pure _

/-- Overrides around a body. -/
theorem enter (h : Encloses P C deliver deliver') (hdiscard : ∀ a, C (discard a) (discard' a))
    (hbody : P body body') (set : Overrides) :
    P (Overrides.enter deliver discard set body) (Overrides.enter deliver' discard' set body') := by
  rw [Overrides.enter_eq, Overrides.enter_eq]
  refine h.around hdiscard (h.bind (h.log ?_) fun _ => hbody) set
  simp [Overrides.source, Guard.source]

end Act.Encloses

/-- A relation that holds of all of these. -/
structure Act.Opens (P : {α : Type} → Act η ε α → Act η' ε α → Prop)
    (C : Act η ε Unit → Act η' ε Unit → Prop) (deliver : Delivery η ε) (deliver' : Delivery η' ε) :
    Prop extends Act.Closes P C deliver deliver' (fun _ _ => True),
      Act.Encloses P C deliver deliver'

/-- Holding a guard around a body. -/
theorem Act.Opens.hold {P : {α : Type} → Act η ε α → Act η' ε α → Prop}
    {C : Act η ε Unit → Act η' ε Unit → Prop} {deliver : Delivery η ε} {deliver' : Delivery η' ε}
    (h : Opens P C deliver deliver') (c : CellId) {body : Act η ε α} {body' : Act η' ε α}
    (hbody : P body body') : P (Guard.hold deliver c body) (Guard.hold deliver' c body') := by
  unfold Guard.hold
  refine h.bind (h.acquire c) fun g => ?_
  refine h.bind (h.onUnwind hbody (h.cleanup g)) fun a => ?_
  exact h.bind (h.drop trivial) fun _ => h.pure a

/-! ## Changes of the store -/

/-- A relation that holds of every change of the store, of every note, and of telling the watches. -/
structure Act.Stores (P : {α : Type} → Act η ε α → Act η' ε α → Prop)
    (C : Act η ε Unit → Act η' ε Unit → Prop) (deliver : Delivery η ε) (deliver' : Delivery η' ε) :
    Prop extends Act.Composes P C where
  onStore : ∀ {α : Type} (change : Store → α × Store), P (Act.onStore change) (Act.onStore change)
  note : ∀ n : Note ε, P (Act.note n) (Act.note n)
  told : ∀ k e, P (deliver k e) (deliver' k e)

namespace Act.Stores

variable {P : {α : Type} → Act η ε α → Act η' ε α → Prop} {C : Act η ε Unit → Act η' ε Unit → Prop}
  {deliver : Delivery η ε} {deliver' : Delivery η' ε}

/-- Making a change known. -/
theorem announce (h : Stores P C deliver deliver') (c : CellId) (change : Change) (r : Replaced) :
    P (c.announce deliver change r) (c.announce deliver' change r) :=
  h.toSequences.announce (fun _ _ => h.note _) h.told c change r

/-- Setting a variable. -/
theorem write (h : Stores P C deliver deliver') (c : CellId) (v : Value) :
    P (c.write deliver v) (c.write deliver' v) :=
  h.toSequences.write (fun _ _ _ => h.onStore _) h.announce c v

/-- Setting a root. -/
theorem setRoot (h : Stores P C deliver deliver') (c : CellId) (v : Value) :
    P (c.setRoot deliver v) (c.setRoot deliver' v) :=
  h.toSequences.setRoot (fun _ _ => h.onStore _) h.announce c v

/-- Altering a root. -/
theorem alterRoot (h : Stores P C deliver deliver')
    (hhalt : P (Act.halt : Act η ε Unit) Act.halt) (c : CellId) (hunlock : C c.unlock c.unlock)
    {f : Value → Act η ε Value} {f' : Value → Act η' ε Value} (hf : ∀ v, P (f v) (f' v)) :
    P (c.alterRoot deliver f) (c.alterRoot deliver' f') :=
  h.toComposes.alterRoot (h.toSequences.lock c hhalt (h.onStore _)) (h.onStore _) hunlock
    (h.setRoot c) hf

/-- Opening a frame. -/
theorem push (h : Stores P C deliver deliver') (c : CellId) : P c.push c.push := by
  unfold CellId.push
  refine h.bind h.thread fun t => ?_
  refine h.bind (h.onStore _) fun frame => ?_
  exact h.bind (h.note _) fun _ => h.pure _

/-- Closing a frame. -/
theorem pop (h : Stores P C deliver deliver') (c : CellId) (f : FrameId) :
    P (c.pop deliver f) (c.pop deliver' f) := by
  unfold CellId.pop
  refine h.bind h.thread fun t => ?_
  refine h.bind h.store fun s => ?_
  split
  · exact h.pure _
  · next r s _ =>
    refine h.bind (h.onStore fun _ => ((), s)) fun _ => ?_
    refine h.bind (h.note _) fun _ => ?_
    exact h.bind (h.announce c .restore r) fun _ => h.pure _

/-- Opening a frame for a guard. -/
theorem acquire (h : Stores P C deliver deliver') (c : CellId) :
    P (Guard.acquire c) (Guard.acquire c) := by
  unfold Guard.acquire
  refine h.bind (h.push c) fun f => ?_
  refine h.bind h.store fun s => ?_
  exact h.bind (h.note _) fun _ => h.pure _

/-- The operations on guards that ask for no policy. -/
theorem releases (h : Stores P C deliver deliver') : Releases P C deliver deliver' fun _ _ => True where
  toComposes := h.toComposes
  message _ := h.note _
  pop _ := h.pop _ _

/-- Scopes. -/
theorem encloses (h : Stores P C deliver deliver')
    (hcleanup : ∀ g : Guard, C (g.drop deliver) (g.drop deliver')) : Encloses P C deliver deliver' where
  toReleases := h.releases
  acquire := h.acquire
  write := h.write
  cleanup := hcleanup

end Act.Stores

/-- A relation that also holds of asking for the policy. -/
structure Act.Changes (P : {α : Type} → Act η ε α → Act η' ε α → Prop)
    (C : Act η ε Unit → Act η' ε Unit → Prop) (deliver : Delivery η ε) (deliver' : Delivery η' ε) :
    Prop extends Act.Stores P C deliver deliver' where
  current : P Settings.current Settings.current

namespace Act.Changes

variable {P : {α : Type} → Act η ε α → Act η' ε α → Prop} {C : Act η ε Unit → Act η' ε Unit → Prop}
  {deliver : Delivery η ε} {deliver' : Delivery η' ε}

/-- The operations on guards. -/
theorem closes (h : Changes P C deliver deliver') : Closes P C deliver deliver' fun _ _ => True where
  toReleases := h.releases
  current := h.current

/-- The operations on scopes. -/
theorem opens (h : Changes P C deliver deliver')
    (hcleanup : ∀ g : Guard, C (g.drop deliver) (g.drop deliver')) : Opens P C deliver deliver' :=
  { h.closes, h.encloses hcleanup with }

end Act.Changes

/-! ## Guards in hand -/

/-- A relation that also holds of taking guards out of the hands of a program and of putting them
there. -/
structure Act.Handles {υ υ' : Type}
    (P : {α : Type} → Act (Hands υ) ε α → Act (Hands υ') ε α → Prop)
    (C : Act (Hands υ) ε Unit → Act (Hands υ') ε Unit → Prop) (deliver : Delivery (Hands υ) ε)
    (deliver' : Delivery (Hands υ') ε) : Prop extends
    Act.Closes P C deliver deliver' fun _ _ => True where
  find : ∀ n : Nat, P (Hands.find n) (Hands.find n)
  take : ∀ n : Nat, P (Hands.take n) (Hands.take n)
  put : ∀ (n : Nat) (h : HeldGuard), P (Hands.put n h) (Hands.put n h)
  puts : ∀ (n : Nat) (h : HeldGuard), C (Hands.put n h) (Hands.put n h)

namespace Act.Handles

variable {υ υ' : Type} {P : {α : Type} → Act (Hands υ) ε α → Act (Hands υ') ε α → Prop}
  {C : Act (Hands υ) ε Unit → Act (Hands υ') ε Unit → Prop} {deliver : Delivery (Hands υ) ε}
  {deliver' : Delivery (Hands υ') ε}

/-- Releasing a guard in hand. -/
theorem releaseHeld (h : Handles P C deliver deliver') (n : Nat) :
    P (Hands.release deliver n) (Hands.release deliver' n) := by
  unfold Hands.release
  refine h.bind (h.find n) fun found => ?_
  split
  · exact h.pure _
  · refine h.bind (h.take n) fun _ => ?_
    refine h.bind (h.onUnwind (h.release h.message (h.pop trivial)) (h.puts n _)) fun result => ?_
    split <;> exact h.bind (h.put n _) fun _ => h.pure _

/-- Letting a guard in hand go out of scope. -/
theorem dropHeld (h : Handles P C deliver deliver') (n : Nat) :
    P (Hands.drop deliver n) (Hands.drop deliver' n) := by
  unfold Hands.drop
  refine h.bind (h.find n) fun found => ?_
  split
  · exact h.pure _
  · exact h.bind (h.take n) fun _ => h.drop trivial

/-- Forgetting a guard in hand. -/
theorem forgetHeld (h : Handles P C deliver deliver') (n : Nat) :
    P (Hands.forget n) (Hands.forget n) := by
  unfold Hands.forget
  refine h.bind (h.find n) fun found => ?_
  split
  · exact h.pure _
  · exact h.take n

end Act.Handles

/-! ## Programs -/

/-- A relation that is passed on by all ways to put programs together. -/
structure Act.Congruent (P : {α : Type} → Act η ε α → Act η' ε α → Prop) (deliver : Delivery η ε)
    (deliver' : Delivery η' ε) : Prop extends Act.Composes P P where
  current : P Settings.current Settings.current
  attempt : ∀ {α : Type} {m : Act η ε α} {m' : Act η' ε α}, P m m' →
    P (Act.attempt m) (Act.attempt m')
  onThread : ∀ {α : Type} {m : Act η ε α} {m' : Act η' ε α} (t : ThreadId), P m m' →
    P (Act.onThread t m) (Act.onThread t m')
  alterRoot : ∀ (c : CellId) {f : Value → Act η ε Value} {f' : Value → Act η' ε Value},
    (∀ v, P (f v) (f' v)) → P (c.alterRoot deliver f) (c.alterRoot deliver' f')
  hold : ∀ (c : CellId) {α : Type} {body : Act η ε α} {body' : Act η' ε α}, P body body' →
    P (Guard.hold deliver c body) (Guard.hold deliver' c body')
  enter : ∀ {α : Type} {discard : α → Act η ε Unit} {discard' : α → Act η' ε Unit},
    (∀ a, P (discard a) (discard' a)) → ∀ {body : Act η ε α} {body' : Act η' ε α}, P body body' →
      ∀ set, P (Overrides.enter deliver discard set body) (Overrides.enter deliver' discard' set body')

/-- A relation that every change of the store has and that panics and threads pass on is passed on by
programs. -/
theorem Act.Changes.congruent {P : {α : Type} → Act η ε α → Act η' ε α → Prop}
    {deliver : Delivery η ε} {deliver' : Delivery η' ε} (h : Changes P P deliver deliver')
    (halt : P (Act.halt : Act η ε Unit) Act.halt)
    (attempt : ∀ {α : Type} {m : Act η ε α} {m' : Act η' ε α}, P m m' →
      P (Act.attempt m) (Act.attempt m'))
    (onThread : ∀ {α : Type} {m : Act η ε α} {m' : Act η' ε α} (t : ThreadId), P m m' →
      P (Act.onThread t m) (Act.onThread t m')) : Congruent P deliver deliver' where
  toComposes := h.toComposes
  current := h.current
  attempt := attempt
  onThread := onThread
  alterRoot c _ _ hf := h.alterRoot halt c (h.onStore _) hf
  hold c _ _ _ hbody := (h.opens fun _ => h.closes.drop trivial).hold c hbody
  enter hdiscard _ _ hbody set := (h.opens fun _ => h.closes.drop trivial).enter hdiscard hbody set

/-- The actions of a program with two ways to deliver events are related if those of its calls are. -/
theorem Program.related {υ : Type} {P : {α : Type} → Act (Hands υ) ε α → Act (Hands υ) ε α → Prop}
    {deliver deliver' : Delivery (Hands υ) ε} (h : Act.Congruent P deliver deliver')
    {allowed : {β : Type} → Call υ ε β → Prop} {cleanups : Prop}
    (hcall : ∀ {β : Type} (op : Call υ ε β), allowed op → P (op.act deliver) (op.act deliver'))
    {α : Type} (p : Program υ ε α) (hp : p.Uses allowed cleanups) :
    P (p.act deliver) (p.act deliver') := by
  induction p with
  | call op => exact hcall op hp
  | bind first next ihFirst ihNext => exact h.bind (ihFirst hp.1) fun a => ihNext a (hp.2 a)
  | attempt body ih => exact h.attempt (ih hp)
  | onUnwind body cleanup ihBody ihCleanup => exact h.onUnwind (ihBody hp.2.1) (ihCleanup hp.2.2)
  | onThread t body ih => exact h.onThread t (h.attempt (ih hp))
  | alterRoot c f ih => exact h.alterRoot c fun v => ih v (hp v)
  | hold c body ih => exact h.hold c (ih hp)
  | override discard set body ihDiscard ihBody =>
    have hdiscard := fun a => ihDiscard a (hp.1 a)
    exact h.run hdiscard (h.enter hdiscard (ihBody hp.2) set)
  | tryOverride discard ofFault set body ihDiscard ihBody =>
    have hdiscard := fun a => ihDiscard a (hp.1 a)
    exact h.tryRun h.current hdiscard hdiscard ofFault (h.enter hdiscard (ihBody hp.2) set)
  | convey discard snapshot body ihDiscard ihBody =>
    have hdiscard := fun a => ihDiscard a (hp.1 a)
    exact h.run hdiscard (h.enter hdiscard (ihBody hp.2) snapshot.bindings)

end ScopedBinding
