import ScopedBinding.Proofs.Leads

/-!
# What every program leads to

A relation between worlds that holds of every single step, and that can be put together, is led by
every program (`Program.leads_to`), whatever programs its watches are and however it ends. The single
steps are the changes of values with their notes, the opening and the closing of frames, and the steps
that change no value.
-/

set_option autoImplicit false

namespace ScopedBinding

open Act (Leads)

section Steps

variable {η ε : Type} (deliver : Delivery η ε) (R : World η ε → World η ε → Prop)

/-- A relation that every single step leads, with the watches told of it. -/
structure Stepwise : Prop extends Altering deliver R where
  host : ∀ w a, R w { w with host := a }
  opened : ∀ w t c, R w (w.opened t c)
  pop : ∀ c f, Leads R (CellId.pop deliver c f)

variable {deliver R}

/-- A scope is a sequence of steps, whether its frame is closed or not. -/
theorem Stepwise.scopes (h : Stepwise deliver R) : Scopes deliver R fun _ => R where
  toAltering := h.toAltering
  altering_held _ := h.toAltering
  weaken _ _ _ hR := hR
  opened w t c _ hR := h.trans (h.opened w t c) hR
  pop g := h.pop g.cell g.frame

/-- A relation for which it does not matter what notes say, and that holds of every change of the
store, is led by every step that its watches lead. -/
theorem Revising.stepwise (h : Revising R) (host : ∀ w a, R w { w with host := a })
    (opened : ∀ w t c, R w (w.opened t c))
    (closed : ∀ w t c f r s, w.store.pop t c f = .ok (r, s) → R w (w.closed t c f s))
    (hd : ∀ w e, Leads R (deliver w e)) : Stepwise deliver R where
  toAltering := h.altering hd
  host := host
  opened := opened
  pop c f := c.pop_leads h.toPlain hd f fun w t r s hp => h.toPlain.changed (closed w t c f r s hp)

end Steps

namespace Hands

variable {υ ε α : Type} {R : World (Hands υ) ε → World (Hands υ) ε → Prop}
  {deliver : Delivery (Hands υ) ε}

/-- Looking for a guard leaves the world as it is. -/
theorem find_still (n : Nat) (ctx : Context) (w : World (Hands υ) ε) : (find n ctx w).2 = w :=
  rfl

/-- Acquiring a guard opens a frame and changes the program's hands. -/
theorem acquire_leads (hR : Calm R) (hhost : ∀ w a, R w { w with host := a })
    (hopened : ∀ w t c, R w (w.opened t c)) (c : CellId) :
    Leads R (acquire c : Act (Hands υ) ε Nat) := by
  have hacquire : Leads R (Guard.acquire c : Act (Hands υ) ε Guard) := fun ctx w =>
    hR.trans (hopened w ctx.thread c) (hR.logged _ _)
  unfold acquire
  refine .bind hR hacquire fun g => ?_
  refine .bind hR (.still hR fun _ _ => rfl) fun t => ?_
  refine .bind hR (.still hR fun _ _ => rfl) fun hands => ?_
  refine .bind hR (fun _ w => hhost w _) fun _ => ?_
  exact .bind hR (fun _ w => hhost w _) fun _ => .pure hR _

/-- What is done to guards in hand leads where its steps lead. -/
theorem handles (h : Stepwise deliver R) :
    Act.Handles (Act.Same fun {α} (m : Act (Hands υ) ε α) => Leads R m)
      (Act.Same fun {α} (m : Act (Hands υ) ε α) => Leads R m) deliver deliver where
  toComposes := Leads.composes h.toCalm
  message message := .of (.log h.toCalm message)
  current := .of (Settings.current_leads h.toCalm)
  pop _ := .of (h.pop _ _)
  find n := .of (.still h.toCalm (find_still n))
  take _ := .of fun _ w => h.host w _
  put _ _ := .of fun _ w => h.host w _
  puts _ _ := .of fun _ w => h.host w _

/-- Forgetting a guard changes the program's hands only. -/
theorem forget_leads (hR : Calm R) (hhost : ∀ w a, R w { w with host := a }) (n : Nat) :
    Leads R (forget n : Act (Hands υ) ε Unit) := by
  unfold forget
  refine .bind hR (.still hR (find_still n)) fun found => ?_
  cases found with
  | none => exact .pure hR _
  | some held => exact fun _ w => hhost w _

end Hands

section Programs

variable {υ ε : Type} {R : World (Hands υ) ε → World (Hands υ) ε → Prop}
  {deliver : Delivery (Hands υ) ε}

/-- Every call leads where its steps and the watches lead. -/
theorem Call.leads (h : Stepwise deliver R) {α : Type}
    (op : Call υ ε α) : Leads R (op.act deliver) := by
  cases op with
  | own change => exact fun ctx w => h.host w _
  | push c => exact fun ctx w => h.opened w ctx.thread c
  | pop c f => exact h.pop c f
  | acquire c => exact Hands.acquire_leads h.toCalm h.host h.opened c
  | release n => exact ((Hands.handles h).releaseHeld n).2
  | drop n => exact ((Hands.handles h).dropHeld n).2
  | forget n => exact ((Hands.handles h).forgetHeld n).2
  | look | panic | halt | write | setRoot | issueFrame | watch | unwatch | capture | policy
  | policyFromVariable | install | setVariable => exact leads_of_isPlain h.toAltering trivial

/-- What holds of every call holds of the calls of every program. -/
theorem Program.uses_of_forall {allowed : {β : Type} → Call υ ε β → Prop}
    (h : ∀ {β : Type} (op : Call υ ε β), allowed op) {α : Type} (p : Program υ ε α) :
    p.Uses allowed True := by
  induction p with
  | call op => exact h op
  | bind first next ihFirst ihNext => exact ⟨ihFirst, ihNext⟩
  | attempt body ih => exact ih
  | onUnwind body cleanup ihBody ihCleanup => exact ⟨trivial, ihBody, ihCleanup⟩
  | onThread t body ih => exact ih
  | alterRoot c f ih => exact ih
  | hold c body ih => exact ih
  | override discard set body ihDiscard ihBody => exact ⟨ihDiscard, ihBody⟩
  | tryOverride discard ofFault set body ihDiscard ihBody => exact ⟨ihDiscard, ihBody⟩
  | convey discard snapshot body ihDiscard ihBody => exact ⟨ihDiscard, ihBody⟩

/-- Every program makes some calls. -/
theorem Program.uses_any {α : Type} (p : Program υ ε α) : p.Uses (fun _ => True) True :=
  p.uses_of_forall fun _ => trivial

/-- Every program leads a relation that its steps and its watches lead. -/
theorem Program.leads_to (h : Stepwise deliver R) {α : Type}
    (p : Program υ ε α) : Leads R (p.act deliver) :=
  p.leads h.scopes (fun op _ => op.leads h) p.uses_any

/-- Watches that are programs lead a relation that their steps lead. -/
theorem Rules.deliver_leads_to (hR : Calm R) (h : ∀ deliver : Delivery (Hands υ) ε,
      (∀ w e, Leads R (deliver w e)) → Stepwise deliver R) (rules : Rules υ ε) (depth : Nat)
    (w : WatchId) (e : Event) : Leads R (rules.deliver depth w e) :=
  rules.deliver_leads hR (fun _ hd => (h _ hd).scopes) (fun _ hd _ op _ => op.leads (h _ hd))
    (fun w e => (rules w e).uses_any) depth w e

end Programs

end ScopedBinding
