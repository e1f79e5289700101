import ScopedBinding.Proofs.Amid

/-!
# Routines of one thread

A `Routine` is a program of one thread over dynamic variables. It asks what the thread sees, sets
values and roots, takes frame numbers, opens and closes frames, holds guards, overrides variables
around bodies, and captures and runs snapshots. It knows its frames by the order in which it got
them, may compare them, and of faults it sees the kind. What becomes of a body's result that nobody gets
is a routine too.

`Routine.program` is the program as such. `Routine.amid` lets other threads work before every
single step of it. If they do nothing the two are the same (`Routine.amid_alone`).
-/

set_option autoImplicit false

namespace ScopedBinding

open Act (Leads)

/-- The frame numbers that a routine was given, oldest first. The rest is for other threads to use.
-/
structure Known (σ : Type) where
  frames : List FrameId
  rest : σ

/-- What a thread can ask about a variable. -/
inductive Question : Type → Type 1 where
  | value : Question Value
  | root : Question Value
  | depth : Question Nat
  | isBound : Question Bool

/-- What a thread sees of a variable. -/
def Question.answer (s : Store) (t : ThreadId) (c : CellId) : {α : Type} → Question α → α
  | _, .value => s.read t c
  | _, .root => s.root c
  | _, .depth => s.depth t c
  | _, .isBound => s.isBound t c

/-- Whether one known frame has a smaller number than another. -/
def FrameId.precedes? (frames : List FrameId) (n m : Nat) : Option Bool := do
  let f ← frames[n]?
  let g ← frames[m]?
  return decide (f.val < g.val)

/-- A single step of a routine. -/
inductive Step : Type → Type 1 where
  | ask {α : Type} (question : Question α) (c : CellId) : Step α
  | precedes (n m : Nat) : Step (Option Bool)
  | write (c : CellId) (v : Value) : Step Unit
  | setRoot (c : CellId) (v : Value) : Step Unit
  | issueFrame : Step Nat
  | push (c : CellId) : Step Nat
  | pop (c : CellId) (n : Nat) : Step (Option (Except String Unit))
  | acquire (c : CellId) : Step Nat
  | release (n : Nat) : Step (Option (Except String Unit))
  | drop (n : Nat) : Step Unit
  | forget (n : Nat) : Step Unit

namespace Step

variable {σ ε α : Type}

/-- The variable that a step names. -/
def cell? : {α : Type} → Step α → Option CellId
  | _, .ask _ c => some c
  | _, .write c _ => some c
  | _, .setRoot c _ => some c
  | _, .push c => some c
  | _, .pop c _ => some c
  | _, .acquire c => some c
  | _, _ => none

/-- A frame number under its place in the order of those that the routine knows. -/
def numbered (take : Program (Known σ) ε FrameId) : Program (Known σ) ε Nat := do
  let n ← .call (.look fun _ w => w.host.own.frames.length)
  let f ← take
  .call (.own fun known => { known with frames := known.frames ++ [f] })
  pure n

/-- The program of a step. -/
def program : {α : Type} → Step α → Program (Known σ) ε α
  | _, .ask question c => .call (.look fun ctx w => question.answer w.store ctx.thread c)
  | _, .precedes n m => .call (.look fun _ w => FrameId.precedes? w.host.own.frames n m)
  | _, .write c v => .call (.write c v)
  | _, .setRoot c v => .call (.setRoot c v)
  | _, .issueFrame => numbered (.call .issueFrame)
  | _, .push c => numbered (.call (.push c))
  | _, .pop c n => do
    match ← .call (.look fun _ w => w.host.own.frames[n]?) with
    | none => pure none
    | some f =>
      let result ← .call (.pop c f)
      pure (some (result.mapError Fault.kindName))
  | _, .acquire c => .call (.acquire c)
  | _, .release n => do
    let result ← .call (.release n)
    pure (result.map (Except.mapError Fault.kindName))
  | _, .drop n => .call (.drop n)
  | _, .forget n => .call (.forget n)

end Step

/-- Programs of one thread. -/
inductive Routine : Type → Type 1 where
  | done {α : Type} (a : α) : Routine α
  | panic {α : Type} (message : String) : Routine α
  | step {α : Type} (op : Step α) : Routine α
  | bind {α β : Type} (first : Routine α) (next : α → Routine β) : Routine β
  | attempt {α : Type} (body : Routine α) : Routine (Option α)
  | onUnwind {α : Type} (body : Routine α) (cleanup : Routine Unit) : Routine α
  | alterRoot (c : CellId) (f : Value → Routine Value) : Routine Value
  | hold {α : Type} (c : CellId) (body : Routine α) : Routine α
  | override {α : Type} (discard : α → Routine Unit) (set : Overrides) (body : Routine α) :
      Routine (Except String α)
  | tryOverride {α β : Type} (discard : Except β α → Routine Unit) (ofKind : String → β)
      (set : Overrides) (body : Routine (Except β α)) : Routine (Except β α)
  | capture (cells : List CellId) : Routine Snapshot
  | convey {α : Type} (discard : α → Routine Unit) (snapshot : Snapshot) (body : Routine α) :
      Routine (Except String α)

namespace Routine

variable {σ ε α : Type}

/-- A routine as a program. -/
def program : {α : Type} → Routine α → Program (Known σ) ε α
  | _, .done a => pure a
  | _, .panic message => .call (.panic message)
  | _, .step op => op.program
  | _, .bind first next => first.program >>= fun a => (next a).program
  | _, .attempt body => do return (← Program.attempt body.program).toOption
  | _, .onUnwind body cleanup => .onUnwind body.program cleanup.program
  | _, .alterRoot c f => .alterRoot c fun v => (f v).program
  | _, .hold c body => .hold c body.program
  | _, .override discard set body => do
    return (← Program.override (fun a => (discard a).program) set body.program).mapError
      Fault.kindName
  | _, .tryOverride discard ofKind set body =>
    .tryOverride (fun a => (discard a).program) (fun fault => ofKind fault.kindName) set body.program
  | _, .capture cells => .call (.capture cells)
  | _, .convey discard snapshot body => do
    return (← Program.convey (fun a => (discard a).program) snapshot body.program).mapError
      Fault.kindName

/-- The action of a routine where other threads work before every step. -/
def amid (deliver : Delivery (Hands (Known σ)) ε)
    (others : World (Hands (Known σ)) ε → World (Hands (Known σ)) ε) :
    {α : Type} → Routine α → Act (Hands (Known σ)) ε α
  | _, .done a => pure a
  | _, .panic message => Act.panic message
  | _, .step op => Act.after others (op.program.act deliver)
  | _, .bind first next => first.amid deliver others >>= fun a => (next a).amid deliver others
  | _, .attempt body => do return (← Act.attempt (body.amid deliver others)).toOption
  | _, .onUnwind body cleanup =>
    Act.onUnwind (body.amid deliver others) (cleanup.amid deliver others)
  | _, .alterRoot c f => c.alterRootAmid deliver others fun v => (f v).amid deliver others
  | _, .hold c body => Guard.holdAmid deliver others c (body.amid deliver others)
  | _, .override discard set body => do
    return (← Overrides.runAmid deliver others (fun a => (discard a).amid deliver others) set
      (body.amid deliver others)).mapError Fault.kindName
  | _, .tryOverride discard ofKind set body =>
    Overrides.tryRunAmid deliver others (fun a => (discard a).amid deliver others)
      (fun fault => ofKind fault.kindName) set (body.amid deliver others)
  | _, .capture cells => Snapshot.captureAmid others cells
  | _, .convey discard snapshot body => do
    return (← Overrides.runAmid deliver others (fun a => (discard a).amid deliver others)
      snapshot.bindings (body.amid deliver others)).mapError Fault.kindName

/-- Routines that touch only some variables, and that end with values that have a property. -/
def Over (V : CellId → Prop) : {α : Type} → Routine α → (α → Prop) → Prop
  | _, .done a, post => post a
  | _, .panic _, _ => True
  | _, .step op, post => (∀ c ∈ op.cell?, V c) ∧ ∀ a, post a
  | _, .bind first next, post => first.Over V fun a => (next a).Over V post
  | _, .attempt body, post => post none ∧ body.Over V fun a => post (some a)
  | _, .onUnwind body cleanup, post => body.Over V post ∧ cleanup.Over V fun _ => True
  | _, .alterRoot c f, post => V c ∧ ∀ v, (f v).Over V post
  | _, .hold c body, post => V c ∧ body.Over V post
  | _, .override discard set body, post => (∀ p ∈ set, V p.1) ∧ (∀ kind, post (.error kind)) ∧
    body.Over V fun a => post (.ok a) ∧ (discard a).Over V fun _ => True
  | _, .tryOverride discard ofKind set body, post => (∀ p ∈ set, V p.1) ∧
    (∀ kind, post (.error (ofKind kind))) ∧
    body.Over V fun a => post a ∧ (discard a).Over V fun _ => True
  | _, .capture cells, post => (∀ c ∈ cells, V c) ∧
    ∀ s : Snapshot, (∀ p ∈ s.bindings, V p.1) → post s
  | _, .convey discard snapshot body, post => (∀ p ∈ snapshot.bindings, V p.1) ∧
    (∀ kind, post (.error kind)) ∧
    body.Over V fun a => post (.ok a) ∧ (discard a).Over V fun _ => True

variable {deliver : Delivery (Hands (Known σ)) ε}

/-- With no other threads a routine runs as its program does. -/
theorem amid_alone (deliver : Delivery (Hands (Known σ)) ε) (r : Routine α) :
    r.amid deliver id = r.program.act deliver := by
  induction r with
  | done a => rfl
  | panic message => rfl
  | step op => rfl
  | bind first next ihFirst ihNext =>
    unfold amid
    rw [ihFirst]
    simp only [ihNext]
    rfl
  | attempt body ih =>
    unfold amid
    rw [ih]
    rfl
  | onUnwind body cleanup ihBody ihCleanup =>
    unfold amid
    rw [ihBody, ihCleanup]
    rfl
  | alterRoot c f ih =>
    unfold amid
    simp only [ih]
    exact c.alterRootAmid_alone deliver _
  | hold c body ih =>
    unfold amid
    rw [ih]
    exact Guard.holdAmid_alone deliver c _
  | override discard set body ihDiscard ihBody =>
    unfold amid
    simp only [ihBody, ihDiscard, Overrides.runAmid_alone]
    rfl
  | tryOverride discard ofKind set body ihDiscard ihBody =>
    unfold amid
    simp only [ihBody, ihDiscard, Overrides.tryRunAmid_alone]
    rfl
  | capture cells => exact Snapshot.captureAmid_alone cells
  | convey discard snapshot body ihDiscard ihBody =>
    unfold amid
    simp only [ihBody, ihDiscard, Overrides.runAmid_alone]
    rfl

/-- A routine amid other threads lets the store evolve if the watches and the other threads do. -/
theorem amid_evolves {others : World (Hands (Known σ)) ε → World (Hands (Known σ)) ε}
    (ho : ∀ w, EvolvesStore w (others w)) (hd : ∀ k e, Leads EvolvesStore (deliver k e))
    (r : Routine α) : Leads EvolvesStore (r.amid deliver others) := by
  have hC := EvolvesStore.calm (η := Hands (Known σ)) (ε := ε)
  induction r with
  | done a => exact .pure hC a
  | panic message => exact .still hC fun _ _ => rfl
  | step op => exact Act.after_evolves ho (op.program.leads_to (EvolvesStore.stepwise hd))
  | bind first next ihFirst ihNext => exact .bind hC ihFirst ihNext
  | attempt body ih => exact .bind hC (.attempt ih) fun _ => .pure hC _
  | onUnwind body cleanup ihBody ihCleanup => exact .onUnwind hC ihBody ihCleanup
  | alterRoot c f ih => exact c.alterRootAmid_evolves ho hd ih
  | hold c body ih => exact Guard.holdAmid_evolves ho hd c ih
  | override discard set body ihDiscard ihBody =>
    exact .bind hC (Overrides.runAmid_evolves ho hd ihDiscard set ihBody) fun _ => .pure hC _
  | tryOverride discard ofKind set body ihDiscard ihBody =>
    exact Overrides.tryRunAmid_evolves ho hd ihDiscard _ set ihBody
  | capture cells => exact Snapshot.captureAmid_evolves ho cells
  | convey discard snapshot body ihDiscard ihBody =>
    exact .bind hC (Overrides.runAmid_evolves ho hd ihDiscard _ ihBody) fun _ => .pure hC _

end Routine

end ScopedBinding
