import ScopedBinding.Proofs.Alterations

/-!
# Programs with a ledger

A program keeps a ledger of the alterations of one variable (`Program.ledgered`): the function of an
alteration makes an entry when it begins and one when it ends. The ledger decides nothing; what keeps an
alteration waiting is the lock of the variable. The program halts before it would change the root of the
variable in any other way than by an alteration.

A program with a ledger does what the program does, if it does not halt (`Program.ledgered_mimics`).
-/

set_option autoImplicit false

namespace ScopedBinding

variable {υ ε α β : Type}

/-! ## The ledger beside the program -/

/-- The world as it is without the ledger. -/
def World.plain (w : World (Hands (Ledger υ)) ε) : World (Hands υ) ε :=
  ⟨w.store, w.settings, w.journal, ⟨w.host.guards, w.host.issued, w.host.own.own⟩⟩

/-- Whether closing a frame of one variable would set the root of another, or of the same. -/
def Store.shares (s : Store) (c d : CellId) : Bool :=
  d = c ∧ s.kind c = .root

/-- Whether a call would itself set the root of a variable. -/
def Call.intrudes (c : CellId) (ctx : Context) (w : World (Hands υ) ε) :
    {α : Type} → Call υ ε α → Bool
  | _, .write d _ => d = c ∧ w.store.isBound ctx.thread c = false
  | _, .setRoot d _ => d = c
  | _, .pop d _ => w.store.shares c d
  | _, .release n => (w.host.guards.get? n).any fun h => w.store.shares c h.guard.cell
  | _, .drop n => (w.host.guards.get? n).any fun h => w.store.shares c h.guard.cell
  | _, _ => false

/-- A call beside a ledger, which it does not see. -/
def Call.ledgered : {α : Type} → Call υ ε α → Call (Ledger υ) ε α
  | _, .look see => .look fun ctx w => see ctx w.plain
  | _, .own change => .own fun l => { l with own := change l.own }
  | _, .panic message => .panic message
  | _, .halt => .halt
  | _, .write c v => .write c v
  | _, .setRoot c v => .setRoot c v
  | _, .push c => .push c
  | _, .pop c frame => .pop c frame
  | _, .issueFrame => .issueFrame
  | _, .watch c key k => .watch c key k
  | _, .unwatch c key => .unwatch c key
  | _, .acquire c => .acquire c
  | _, .release n => .release n
  | _, .drop n => .drop n
  | _, .forget n => .forget n
  | _, .capture cells => .capture cells
  | _, .policy => .policy
  | _, .policyFromVariable => .policyFromVariable
  | _, .install decided => .install decided
  | _, .setVariable content => .setVariable content

namespace Program

/-- A program that halts where something is the case. -/
def haltIf (see : Context → World (Hands υ) ε → Bool) (p : Program υ ε α) : Program υ ε α :=
  .bind (.call (.look see)) fun stop => if stop then .call .halt else p

/-- A function for a new root, with entries in the ledger when it begins and when it ends. -/
def accounted (f : Value → Program (Ledger υ) ε Value) (shown : Value) :
    Program (Ledger υ) ε Value := do
  let t ← .call (.look fun ctx _ => ctx.thread)
  .call (.own (.begin t shown))
  let x ← .onUnwind (f shown) (.call (.own (.giveUp t shown)))
  .call (.own (.complete ⟨t, shown, x⟩))
  pure x

/-- A program that keeps a ledger of the alterations of a variable. -/
def ledgered (c : CellId) : {α : Type} → Program υ ε α → Program (Ledger υ) ε α
  | _, .call op => .haltIf (fun ctx w => op.intrudes c ctx w.plain) (.call op.ledgered)
  | _, .bind first next => .bind (first.ledgered c) fun a => (next a).ledgered c
  | _, .attempt body => .attempt (body.ledgered c)
  | _, .onUnwind body cleanup => .onUnwind (body.ledgered c) (cleanup.ledgered c)
  | _, .onThread t body => .onThread t (body.ledgered c)
  | _, .alterRoot d f =>
    if d = c then .alterRoot d (accounted fun v => (f v).ledgered c)
    else .alterRoot d fun v => (f v).ledgered c
  | _, .hold d body => .haltIf (fun _ w => w.store.shares c d) (.hold d (body.ledgered c))
  | _, .override discard set body =>
    .haltIf (fun _ w => set.any fun p => w.store.shares c p.1)
      (.override (fun a => (discard a).ledgered c) set (body.ledgered c))
  | _, .tryOverride discard ofFault set body =>
    .haltIf (fun _ w => set.any fun p => w.store.shares c p.1)
      (.tryOverride (fun a => (discard a).ledgered c) ofFault set (body.ledgered c))
  | _, .convey discard snapshot body =>
    .haltIf (fun _ w => snapshot.bindings.any fun p => w.store.shares c p.1)
      (.convey (fun a => (discard a).ledgered c) snapshot (body.ledgered c))

end Program

/-- Watches that keep the ledger too. -/
def Rules.ledgered (c : CellId) (rules : Rules υ ε) : Rules (Ledger υ) ε :=
  fun k e => (rules k e).ledgered c

/-! ## Actions that do the same beside a ledger -/

/-- An action beside a ledger does what another one does without it, or halts. -/
def Act.Mimics (m' : Act (Hands (Ledger υ)) ε α) (m : Act (Hands υ) ε α) : Prop :=
  ∀ ctx w, (m' ctx w).1 = .halted ∨ m ctx w.plain = ((m' ctx w).1, (m' ctx w).2.plain)

namespace Act.Mimics

/-- Actions that end in the same way in worlds that are the same without the ledger. -/
theorem of_run {m' : Act (Hands (Ledger υ)) ε α} {m : Act (Hands υ) ε α}
    (h : ∀ ctx w, m ctx w.plain = ((m' ctx w).1, (m' ctx w).2.plain)) : m'.Mimics m :=
  fun ctx w => .inr (h ctx w)

/-- A run that halts does no other thing. -/
theorem halt {m : Act (Hands υ) ε α} : (Act.halt : Act (Hands (Ledger υ)) ε α).Mimics m :=
  fun _ _ => .inl rfl

/-- A value. -/
theorem pure (a : α) : (pure a : Act (Hands (Ledger υ)) ε α).Mimics (pure a) :=
  of_run fun _ _ => rfl

variable {m' : Act (Hands (Ledger υ)) ε α} {m : Act (Hands υ) ε α}

/-- One action after another. -/
theorem bind (hm : m'.Mimics m) {next' : α → Act (Hands (Ledger υ)) ε β}
    {next : α → Act (Hands υ) ε β} (hnext : ∀ a, (next' a).Mimics (next a)) :
    (m' >>= next').Mimics (m >>= next) := by
  intro ctx w
  have hfirst := hm ctx w
  cases hrun : m' ctx w with
  | mk o v =>
  rw [hrun] at hfirst
  rcases hfirst with rfl | hplain
  · exact .inl (congrArg Prod.fst (bind_of_halted hrun))
  · cases o with
    | done a =>
      rw [bind_of_done hrun, bind_of_done hplain]
      exact hnext a ctx v
    | panicked message =>
      rw [bind_of_panicked hrun, bind_of_panicked hplain]
      exact .inr rfl
    | halted => exact .inl (congrArg Prod.fst (bind_of_halted hrun))

/-- An action whose panic is stopped. -/
theorem attempt (hm : m'.Mimics m) : (Act.attempt m').Mimics (Act.attempt m) := by
  intro ctx w
  have hfirst := hm ctx w
  unfold Act.attempt
  cases hrun : m' ctx w with
  | mk o v =>
  rw [hrun] at hfirst
  rcases hfirst with rfl | hplain
  · exact .inl rfl
  · rw [hplain]
    cases o <;> exact .inr rfl

/-- An action with its cleanup. -/
theorem onUnwind (hm : m'.Mimics m) {cleanup' : Act (Hands (Ledger υ)) ε Unit}
    {cleanup : Act (Hands υ) ε Unit} (hc : cleanup'.Mimics cleanup) :
    (Act.onUnwind m' cleanup').Mimics (Act.onUnwind m cleanup) := by
  intro ctx w
  have hfirst := hm ctx w
  unfold Act.onUnwind
  cases hrun : m' ctx w with
  | mk o v =>
  rw [hrun] at hfirst
  rcases hfirst with rfl | hplain
  · exact .inl rfl
  · rw [hplain]
    cases o with
    | done a => exact .inr rfl
    | halted => exact .inl rfl
    | panicked message =>
      have hsecond := hc { ctx with unwinding := true } v
      dsimp only
      cases hlast : cleanup' { ctx with unwinding := true } v with
      | mk o' v' =>
      rw [hlast] at hsecond
      rcases hsecond with rfl | hclean
      · exact .inl rfl
      · rw [hclean]
        cases o' <;> exact .inr rfl

/-- Work on another thread. -/
theorem onThread (t : ThreadId) (hm : m'.Mimics m) :
    (Act.onThread t m').Mimics (Act.onThread t m) :=
  fun _ w => hm ⟨t, false⟩ w

end Act.Mimics

/-! ## Operations -/

section Operations

open Act (Mimics)

variable {deliver' : Delivery (Hands (Ledger υ)) ε} {deliver : Delivery (Hands υ) ε}

/-- Nothing that the library looks at is in the ledger. -/
theorem Act.Mimics.sequences : Act.Sequences
    fun {α} (m' : Act (Hands (Ledger υ)) ε α) (m : Act (Hands υ) ε α) => m'.Mimics m where
  pure := .pure
  thread := .of_run fun _ _ => rfl
  store := .of_run fun _ _ => rfl
  settings := .of_run fun _ _ => rfl
  log _ := .of_run fun _ _ => rfl
  bind hm hnext := hm.bind hnext

variable (hd : ∀ k e, (deliver' k e).Mimics (deliver k e))

include hd

/-- Nothing that the library changes is in the ledger. -/
theorem Act.Mimics.changes : Act.Changes
    (fun {α} (m' : Act (Hands (Ledger υ)) ε α) (m : Act (Hands υ) ε α) => m'.Mimics m)
    (fun m' m => m'.Mimics m) deliver' deliver where
  toSequences := sequences
  failRelease policy fault := .of_run fun ctx w => by
    rw [Guard.failRelease_run, Guard.failRelease_run]
  onUnwind hm hc := hm.onUnwind hc
  onStore _ := .of_run fun _ _ => rfl
  note _ := .of_run fun _ _ => rfl
  told := hd
  current := sequences.current fun _ => .of_run fun _ _ => rfl

/-- All ways to put programs together. -/
theorem Act.Mimics.congruent : Act.Congruent
    (fun {α} (m' : Act (Hands (Ledger υ)) ε α) (m : Act (Hands υ) ε α) => m'.Mimics m) deliver'
    deliver :=
  (changes hd).congruent .halt .attempt .onThread

/-- The guards in the hands of a program are not in the ledger. -/
theorem Act.Mimics.handles : Act.Handles
    (fun {α} (m' : Act (Hands (Ledger υ)) ε α) (m : Act (Hands υ) ε α) => m'.Mimics m)
    (fun m' m => m'.Mimics m) deliver' deliver where
  toCloses := (changes hd).closes
  find _ := .of_run fun _ _ => rfl
  take _ := .of_run fun _ _ => rfl
  put _ _ := .of_run fun _ _ => rfl
  puts _ _ := .of_run fun _ _ => rfl

/-! ## Programs -/

/-- A call does beside a ledger what it does without. -/
theorem Call.ledgered_mimics (op : Call υ ε α) :
    (op.ledgered.act deliver').Mimics (op.act deliver) := by
  have h := Mimics.changes hd
  have hands := Mimics.handles hd
  have hset : ∀ s, (Act.setSettings s : Act (Hands (Ledger υ)) ε Unit).Mimics (Act.setSettings s) :=
    fun s => .of_run fun _ _ => rfl
  cases op with
  | look | own | panic | halt | issueFrame | watch | unwatch | acquire => exact .of_run fun _ _ => rfl
  | write c v => exact h.write c v
  | setRoot c v => exact h.setRoot c v
  | push c => exact h.push c
  | pop c frame => exact h.pop c frame
  | release n => exact hands.releaseHeld n
  | drop n => exact hands.dropHeld n
  | forget n => exact hands.forgetHeld n
  | capture cells => exact h.capture cells
  | policy => exact h.current
  | policyFromVariable => exact h.fromVariable
  | install decided => exact h.install hset decided
  | setVariable content => exact h.setVariable hset content

omit hd

namespace Program

/-- A program that halts where something is the case runs as the program does where it is not. -/
theorem haltIf_run (see : Context → World (Hands (Ledger υ)) ε → Bool)
    (p : Program (Ledger υ) ε α) (ctx : Context) (w : World (Hands (Ledger υ)) ε) :
    (haltIf see p).act deliver' ctx w =
      if see ctx w = true then (.halted, w) else p.act deliver' ctx w := by
  have hrun : (haltIf see p).act deliver' ctx w =
      (if see ctx w then .call .halt else p : Program (Ledger υ) ε α).act deliver' ctx w := rfl
  rw [hrun]
  split <;> rfl

/-- Halting is no other thing to do. -/
theorem haltIf_mimics {see : Context → World (Hands (Ledger υ)) ε → Bool}
    {p : Program (Ledger υ) ε α} {m : Act (Hands υ) ε α} (h : (p.act deliver').Mimics m) :
    ((haltIf see p).act deliver').Mimics m := by
  intro ctx w
  rw [haltIf_run]
  split
  · exact .inl rfl
  · exact h ctx w

/-- How a function with its entries in the ledger runs. -/
theorem accounted_run (f : Value → Program (Ledger υ) ε Value) (shown : Value) (ctx : Context)
    (w : World (Hands (Ledger υ)) ε) :
    (accounted f shown).act deliver' ctx w =
      match (f shown).act deliver' ctx (w.entering (.begin ctx.thread shown)) with
      | (.done x, v) => (.done x, v.entering (.complete ⟨ctx.thread, shown, x⟩))
      | (.panicked message, v) => (.panicked message, v.entering (.giveUp ctx.thread shown))
      | (.halted, v) => (.halted, v) := by
  show Act.bind (Act.onUnwind ((f shown).act deliver') _) _ ctx
    (w.entering (.begin ctx.thread shown)) = _
  unfold Act.bind Act.onUnwind
  cases (f shown).act deliver' ctx (w.entering (.begin ctx.thread shown)) with
  | mk o v => cases o <;> rfl

/-- The entries in the ledger make no difference to a function. -/
theorem accounted_mimics {f : Value → Program (Ledger υ) ε Value} {shown : Value}
    {m : Act (Hands υ) ε Value} (h : ((f shown).act deliver').Mimics m) :
    ((accounted f shown).act deliver').Mimics m := by
  intro ctx w
  have hrun := h ctx (w.entering (.begin ctx.thread shown))
  rw [accounted_run]
  cases hf : (f shown).act deliver' ctx (w.entering (.begin ctx.thread shown)) with
  | mk o v =>
  rw [hf] at hrun
  rcases hrun with rfl | hplain
  · exact .inl rfl
  · rw [show m ctx w.plain = (o, v.plain) from hplain]
    cases o with
    | done x => exact .inr rfl
    | panicked message => exact .inr rfl
    | halted => exact .inl rfl

include hd

/-- A program with a ledger does what the program does, or halts. -/
theorem ledgered_mimics (c : CellId) (p : Program υ ε α) :
    ((p.ledgered c).act deliver').Mimics (p.act deliver) := by
  have h := Mimics.congruent hd
  induction p with
  | call op => exact haltIf_mimics (op.ledgered_mimics hd)
  | bind first next ihFirst ihNext => exact ihFirst.bind ihNext
  | attempt body ih => exact ih.attempt
  | onUnwind body cleanup ihBody ihCleanup => exact ihBody.onUnwind ihCleanup
  | onThread t body ih => exact ih.attempt.onThread t
  | alterRoot d f ih =>
    unfold ledgered
    split
    · exact h.alterRoot d fun v => accounted_mimics (ih v)
    · exact h.alterRoot d ih
  | hold d body ih => exact haltIf_mimics (h.hold d ih)
  | override discard set body ihDiscard ihBody =>
    exact haltIf_mimics (h.run ihDiscard (h.enter ihDiscard ihBody set))
  | tryOverride discard ofFault set body ihDiscard ihBody =>
    have henter := h.enter ihDiscard ihBody set
    exact haltIf_mimics (h.tryRun h.current ihDiscard ihDiscard ofFault henter)
  | convey discard snapshot body ihDiscard ihBody =>
    exact haltIf_mimics (h.run ihDiscard (h.enter ihDiscard ihBody snapshot.bindings))

end Program

end Operations

/-- Watches with a ledger do what the watches do, or halt. -/
theorem Rules.ledgered_mimics (c : CellId) (rules : Rules υ ε) (depth : Nat) (k : WatchId)
    (e : Event) : ((rules.ledgered c).deliver depth k e).Mimics (rules.deliver depth k e) := by
  induction depth generalizing k e with
  | zero => exact .of_run fun _ _ => rfl
  | succ depth ih => exact Program.ledgered_mimics ih c (rules k e)

end ScopedBinding
