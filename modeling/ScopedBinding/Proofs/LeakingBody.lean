import Mathlib.Data.List.TakeWhile
import ScopedBinding.Proofs.Leftovers
import ScopedBinding.Proofs.Reach

/-!
# Overrides around a body that leaks

A body that closes frames only through guards may still leave frames open, on the overridden
variables and elsewhere. It cannot close the frames of the scopes around it, because they are out of
its reach (`Program.sparesAll`), nor anything outward of them. So what it leaves on an overridden
variable is a run of frames of its own on top of the stack from its start, and leaving the scopes goes
as `unwound_opened` says.
-/

set_option autoImplicit false

namespace ScopedBinding

open Act (Leads Ends)
open Store (SameAt GivenBack)

section Quiet

variable {υ ε α : Type} {deliver : Delivery (Hands υ) ε} {discard : α → Act (Hands υ) ε Unit}

namespace Overrides

/-- Opens the scopes of overrides, one after another. -/
def openAll (deliver : Delivery (Hands υ) ε) : Overrides → Act (Hands υ) ε (List Guard)
  | [] => pure []
  | (c, v) :: rest => do
    let guard ← Guard.acquire c
    c.write deliver v
    return guard :: (← openAll deliver rest)

/-- The parts of the first scope: it is opened, what follows goes on with the inner scopes, and the
guards are its own and theirs. -/
theorem openAll_cons {c : CellId} {x : Value} {rest : Overrides} {ctx : Context}
    {v v' : World (Hands υ) ε} {gs : List Guard}
    (h : openAll deliver ((c, x) :: rest) ctx v = (.done gs, v')) :
    ∃ v₁ inner, (∀ {β : Type} (next : Act (Hands υ) ε β),
        (do c.write deliver x; next) ctx (v.acquired ctx.thread c) = next ctx v₁) ∧
      openAll deliver rest ctx v₁ = (.done inner, v') ∧
      gs = .next v.store ctx.thread c :: inner := by
  unfold openAll at h
  rw [Act.bind_of_done (Guard.acquire_run c ctx v)] at h
  obtain ⟨⟨⟩, v₁, hwrite, hrest⟩ := Act.done_of_bind h
  obtain ⟨inner, v₂, hinner, hend⟩ := Act.done_of_bind hrest
  cases hend
  exact ⟨v₁, inner, fun next => Act.bind_of_done hwrite, hinner, rfl⟩

/-- The first scope is opened, and then the others. -/
theorem openAll_cons_of_done {c : CellId} {x : Value} {rest : Overrides} {ctx : Context}
    {v v₁ v' : World (Hands υ) ε} {inner : List Guard}
    (hwrite : c.write deliver x ctx (v.acquired ctx.thread c) = (.done (), v₁))
    (hrest : openAll deliver rest ctx v₁ = (.done inner, v')) :
    openAll deliver ((c, x) :: rest) ctx v =
      (.done (.next v.store ctx.thread c :: inner), v') := by
  unfold openAll
  rw [Act.bind_of_done (Guard.acquire_run c ctx v), Act.bind_of_done hwrite, Act.bind_of_done hrest]
  rfl

/-- Overrides that end with a value have come to run the body, and its value is theirs. -/
theorem done_of_around {set : Overrides} {body : Act (Hands υ) ε α} {ctx : Context}
    {w w' : World (Hands υ) ε} {a : α} {fault : Option Fault}
    (h : around deliver discard set body ctx w = (.done (a, fault), w')) :
    ∃ guards v v', openAll deliver set ctx w = (.done guards, v) ∧ body ctx v = (.done a, v') := by
  induction set generalizing w w' a fault with
  | nil =>
    obtain ⟨b, v, hbody, hend⟩ := Act.done_of_bind h
    cases hend
    exact ⟨[], w, _, rfl, hbody⟩
  | cons pair rest ih =>
    obtain ⟨c, x⟩ := pair
    rw [around_cons] at h
    obtain ⟨⟨b, inner⟩, v₃, hinside, hleave⟩ := Act.done_of_bind h
    obtain ⟨outer, v₄, -, hend⟩ := Act.done_of_bind hleave
    cases hend
    obtain ⟨⟨⟩, v₁, hwrite, haround⟩ := Act.done_of_bind (Act.done_of_onUnwind hinside)
    obtain ⟨guards, v, v', hopen, hbody⟩ := ih haround
    exact ⟨_, v, v', openAll_cons_of_done hwrite hopen, hbody⟩

/-- Overrides that end with a value come to it whatever would become of the result if it went away. -/
theorem around_done_always {set : Overrides} {body : Act (Hands υ) ε α} {ctx : Context}
    {w w' : World (Hands υ) ε} {ends : α × Option Fault}
    (h : around deliver discard set body ctx w = (.done ends, w'))
    (discard' : α → Act (Hands υ) ε Unit) :
    around deliver discard' set body ctx w = (.done ends, w') := by
  induction set generalizing w w' ends with
  | nil => exact h
  | cons pair rest ih =>
    obtain ⟨c, x⟩ := pair
    rw [around_cons] at h ⊢
    obtain ⟨inner, v₁, hinside, hleave⟩ := Act.done_of_bind h
    obtain ⟨⟨⟩, v₂, hwrite, haround⟩ := Act.done_of_bind (Act.done_of_onUnwind hinside)
    obtain ⟨outer, v₃, hfinish, hend⟩ := Act.done_of_bind hleave
    have hinside' : (do c.write deliver x; around deliver discard' rest body) ctx
        (w.acquired ctx.thread c) = (.done inner, v₁) :=
      (Act.bind_of_done hwrite).trans (ih haround)
    have hfinish' := Act.done_of_onUnwind hfinish
    rw [Act.bind_of_done (Act.onUnwind_of_done hinside'),
      Act.bind_of_done (Act.onUnwind_of_done hfinish')]
    exact hend

/-- The loop that acquires the guards of overrides opens the same scopes. It lists the guards newest first,
before those that there were already. -/
theorem acquireAll_of_openAll {set : Overrides} {ctx : Context} {v v' : World (Hands υ) ε}
    {gs : List Guard} (h : openAll deliver set ctx v = (.done gs, v')) (guards : List Guard) :
    acquireAll deliver set guards ctx v = (.done (gs.reverse ++ guards), v') := by
  induction set generalizing v gs guards with
  | nil =>
    cases h
    rfl
  | cons pair rest ih =>
    obtain ⟨c, x⟩ := pair
    unfold openAll at h
    rw [Act.bind_of_done (Guard.acquire_run c ctx v)] at h
    obtain ⟨⟨⟩, v₁, hwrite, hrest⟩ := Act.done_of_bind h
    obtain ⟨inner, v₂, hinner, hend⟩ := Act.done_of_bind hrest
    cases hend
    unfold acquireAll
    rw [Act.bind_of_done (Guard.acquire_run c ctx v), Act.bind_of_done (Act.onUnwind_of_done hwrite),
      ih hinner, List.reverse_cons, List.append_assoc]
    rfl

end Overrides

end Quiet

/-- Watches that do nothing. -/
def Delivery.silent : Delivery (Hands Unit) Unit :=
  fun _ _ => pure ()

/-- A program whose result is the number of a guard of the shared variable that it has acquired. -/
def Program.leak : Program Unit Unit Nat :=
  .call (.acquire ⟨1⟩)

end ScopedBinding
