import Mathlib.Data.List.Forall2
import ScopedBinding.Proofs.History
import ScopedBinding.Proofs.Reachable

/-!
# Alterations of a root

A root is altered in three moves: an alteration takes the lock of the variable and its function is shown
the root, the function runs, and the root is set to what it made of it. Many steps of any threads may come
between. A `Ledger` keeps, beside the state of a program, what is known of the alterations of one
variable: those under way with the roots that their functions were shown, and those that are completed, in
their order. The ledger keeps no alteration from beginning.

`World.Goes` is one step of any thread where the root of the variable is changed by alterations only.
Because each of them begins by taking the lock there is never more than one under way, and the root is
still what its function was shown (`World.Serial`). So the completed alterations form a chain from the
first root to the present one (`World.Accounts`), and the root is what their functions make of the first
one, one after another (`Alteration.Chain.foldl`).
-/

set_option autoImplicit false

namespace ScopedBinding

open Relation (ReflTransGen)

/-! ## Completed alterations -/

/-- An alteration that was completed: the thread that asked for it, the root that its function was
shown, and what the function made of it. -/
structure Alteration where
  thread : ThreadId
  shown : Value
  result : Value
  deriving DecidableEq

namespace Alteration

/-- Alterations that lead from one root to another, each shown what the one before it has made. -/
def Chain : List Alteration → Value → Value → Prop
  | [], old, new => old = new
  | a :: rest, old, new => a.shown = old ∧ Chain rest a.result new

/-- The event of an alteration of a variable, and its thread. -/
structure Noted (c : CellId) (a : Alteration) (note : ThreadId × Event) : Prop where
  thread : note.1 = a.thread
  cell : note.2.cell = c
  old : note.2.old = a.shown
  new : note.2.new = a.result
  change : note.2.change = .write

variable {as as' : List Alteration} {u v v' : Value}

/-- Alterations that follow on one another form one chain. -/
theorem Chain.append (h : Chain as u v) (h' : Chain as' v v') : Chain (as ++ as') u v' := by
  induction as generalizing u with
  | nil =>
    have huv : u = v := h
    rw [huv]
    exact h'
  | cons a rest ih => exact ⟨h.1, ih h.2⟩

/-- The root is the first one with the functions of the alterations applied one after another. -/
theorem Chain.foldl {fs : List (Value → Value)} (h : Chain as u v)
    (hfs : List.Forall₂ (fun a f => f a.shown = a.result) as fs) :
    fs.foldl (fun x f => f x) u = v := by
  induction hfs generalizing u with
  | nil => exact h
  | @cons a f as fs hf _ ih =>
    obtain ⟨hshown, hrest⟩ := h
    rw [List.foldl_cons, ← hshown, hf]
    exact ih hrest

end Alteration

/-- What is known of the alterations of a variable, beside the state of a program: those under way, with
the root that their functions were shown, and those that are completed. -/
structure Ledger (υ : Type) where
  running : List (ThreadId × Value)
  completed : List Alteration
  own : υ

namespace Ledger

variable {υ : Type}

/-- An alteration has begun: its function is shown the root. -/
def begin (t : ThreadId) (shown : Value) (l : Ledger υ) : Ledger υ :=
  { l with running := (t, shown) :: l.running }

/-- An alteration under way is given up. -/
def giveUp (t : ThreadId) (shown : Value) (l : Ledger υ) : Ledger υ :=
  { l with running := l.running.erase (t, shown) }

/-- An alteration under way is completed. -/
def complete (a : Alteration) (l : Ledger υ) : Ledger υ :=
  { l with running := l.running.erase (a.thread, a.shown), completed := l.completed ++ [a] }

end Ledger

/-! ## Steps -/

section Steps

variable {υ ε : Type}

namespace World

/-- What is known of the alterations. -/
def ledger (w : World (Hands (Ledger υ)) ε) : Ledger υ :=
  w.host.own

/-- The world with a change of the ledger. -/
def entering (w : World (Hands (Ledger υ)) ε) (change : Ledger υ → Ledger υ) :
    World (Hands (Ledger υ)) ε :=
  { w with host := { w.host with own := change w.host.own } }

/-- The world after a thread has taken the lock of a variable and its function is shown the root. -/
def beginning (w : World (Hands (Ledger υ)) ε) (c : CellId) (t : ThreadId) :
    World (Hands (Ledger υ)) ε :=
  (w.locked c).entering (.begin t (w.store.root c))

/-- The world after an alteration of a variable was given up, with the lock given back. -/
def givingUp (w : World (Hands (Ledger υ)) ε) (c : CellId) (t : ThreadId) (shown : Value) :
    World (Hands (Ledger υ)) ε :=
  (w.entering (.giveUp t shown)).unlocked c

/-- The world after an alteration of a variable was completed, with the lock given back. -/
def altering (w : World (Hands (Ledger υ)) ε) (c : CellId) (a : Alteration) :
    World (Hands (Ledger υ)) ε :=
  let v := (w.entering (.complete a)).unlocked c
  v.changed a.thread c .write (v.store.setRoot c a.result).1 (v.store.setRoot c a.result).2

/-- A step of any thread where a variable has its root changed by alterations only. An alteration begins
by taking the lock of the variable. Nothing else keeps alterations apart. -/
inductive Goes (c : CellId) (w : World (Hands (Ledger υ)) ε) :
    World (Hands (Ledger υ)) ε → Prop where
  | aside {w' : World (Hands (Ledger υ)) ε} (h : w.Aside w')
      (hrunning : w'.ledger.running = w.ledger.running)
      (hcompleted : w'.ledger.completed = w.ledger.completed)
      (hlock : w'.store.altering c = w.store.altering c) : Goes c w w'
  | elsewhere {t : ThreadId} {p : Place} {e : Event} {w' : World (Hands (Ledger υ)) ε}
      (h : w.Altered t p e w') (hp : e.cell = c → p ≠ .root) : Goes c w w'
  | begun (t : ThreadId) (h : w.store.altering c = false) : Goes c w (w.beginning c t)
  | givenUp {t : ThreadId} {shown : Value} (h : (t, shown) ∈ w.ledger.running) :
      Goes c w (w.givingUp c t shown)
  | completed {t : ThreadId} {shown : Value} (h : (t, shown) ∈ w.ledger.running) (x : Value) :
      Goes c w (w.altering c ⟨t, shown, x⟩)

/-- The alterations of a variable go one after another. -/
structure Serial (c : CellId) (w : World (Hands (Ledger υ)) ε) : Prop where
  wellFormed : w.store.WellFormed
  exists_cell : (w.store.cell? c).isSome = true
  /-- One alteration is under way while the lock is taken, and none while it is free. -/
  holders : w.ledger.running.length = (w.store.altering c).toNat
  /-- The function of an alteration under way was shown what the root is still. -/
  shown : ∀ a ∈ w.ledger.running, a.2 = w.store.root c

/-- How a world has come about from another by such steps. -/
structure Accounts (c : CellId) (w w' : World (Hands (Ledger υ)) ε) (as : List Alteration)
    (es : List (ThreadId × Event)) : Prop where
  serial : w'.Serial c
  kind : w'.store.kind c = w.store.kind c
  completed : w'.ledger.completed = w.ledger.completed ++ as
  chain : Alteration.Chain as (w.store.root c) (w'.store.root c)
  events : w'.events = w.events ++ es
  /-- Every completed alteration was noted once, in its turn. -/
  noted : ∃ told, told.Sublist es ∧ List.Forall₂ (Alteration.Noted c) as told

end World

/-! ## What one step accounts for -/

variable {c : CellId} {w w' : World (Hands (Ledger υ)) ε}

namespace World

/-- A step without a change of a value creates no variable and destroys none. -/
theorem Aside.isSome (h : w.Aside w') (d : CellId) :
    (w'.store.cell? d).isSome = (w.store.cell? d).isSome := by
  cases h with
  | settings | host | logged => rfl
  | rearranged hs => exact hs.revises.isSome d
  | opened t c => exact w.store.isSome_push t c d

/-- A change creates no variable and destroys none. -/
theorem Altered.isSome {t : ThreadId} {p : Place} {e : Event} (h : w.Altered t p e w')
    (d : CellId) : (w'.store.cell? d).isSome = (w.store.cell? d).isSome := by
  cases h with
  | written c x => exact (Store.Revises.write t c x).isSome d
  | rootSet c x => exact (Store.Revises.setRoot c x).isSome d
  | returned c f hp => exact Store.isSome_pop hp d

/-- A change leaves the state of the program as it is. -/
theorem Altered.host {t : ThreadId} {p : Place} {e : Event} (h : w.Altered t p e w') :
    w'.host = w.host := by
  cases h <;> rfl

/-- A change at another place leaves the root as it is. -/
theorem Altered.root {t : ThreadId} {p : Place} {e : Event} (h : w.Altered t p e w')
    (hw : w.store.WellFormed) (hp : e.cell = c → p ≠ .root) :
    w'.store.root c = w.store.root c := by
  refine Option.some.inj ((h.replaces hw).elsewhere .root c ?_)
  rintro ⟨hcell, hplace⟩
  exact hp hcell.symm hplace.symm

/-- A change takes and frees no lock. -/
theorem Altered.altering_eq {t : ThreadId} {p : Place} {e : Event} (h : w.Altered t p e w')
    (d : CellId) : w'.store.altering d = w.store.altering d := by
  cases h with
  | written c x => exact w.store.altering_write t c d x
  | rootSet c x => exact w.store.altering_setRoot c d x
  | returned c f hp => exact Store.altering_pop hp d

namespace Serial

/-- Nothing is under way when the lock is free. -/
theorem idle (hw : w.Serial c) (h : w.store.altering c = false) : w.ledger.running = [] := by
  have hlength : w.ledger.running.length = 0 := by rw [hw.holders, h, Bool.toNat_false]
  exact List.length_eq_zero_iff.1 hlength

/-- The lock is taken while something is under way. -/
theorem altering_eq (hw : w.Serial c) : w.store.altering c = !w.ledger.running.isEmpty := by
  cases hlock : w.store.altering c with
  | false => rw [hw.idle hlock, List.isEmpty_nil, Bool.not_true]
  | true =>
    have hholders := hw.holders
    rw [hlock, Bool.toNat_true] at hholders
    obtain ⟨a, ha⟩ := List.length_eq_one_iff.1 hholders
    rw [ha, List.isEmpty_cons, Bool.not_false]

/-- An alteration under way is the only one. -/
theorem alone (hw : w.Serial c) {a : ThreadId × Value} (h : a ∈ w.ledger.running) :
    w.ledger.running = [a] := by
  have hle : w.ledger.running.length ≤ 1 := hw.holders.trans_le (Bool.toNat_le _)
  have hpos : 0 < w.ledger.running.length := List.length_pos_of_mem h
  obtain ⟨b, hb⟩ := List.length_eq_one_iff.1 (Nat.le_antisymm hle hpos)
  rw [hb, List.mem_singleton] at h
  rw [hb, h]

/-- Nothing is under way any more when the only alteration under way is taken off. -/
theorem erase (hw : w.Serial c) {a : ThreadId × Value} (h : a ∈ w.ledger.running) :
    w.ledger.running.erase a = [] := by
  rw [hw.alone h, List.erase_cons_head]

/-- A step that has nothing to do with alterations. -/
theorem keep (hw : w.Serial c) (hwellFormed : w'.store.WellFormed)
    (hcell : (w'.store.cell? c).isSome = (w.store.cell? c).isSome)
    (hrunning : w'.ledger.running = w.ledger.running)
    (hlock : w'.store.altering c = w.store.altering c)
    (hroot : w'.store.root c = w.store.root c) : w'.Serial c where
  wellFormed := hwellFormed
  exists_cell := hcell.trans hw.exists_cell
  holders := by rw [hrunning, hlock, hw.holders]
  shown a ha := by
    rw [hrunning] at ha
    rw [hroot, hw.shown a ha]

/-- Whoever takes the lock finds nothing under way. -/
theorem beginning (hw : w.Serial c) (t : ThreadId) (h : w.store.altering c = false) :
    (w.beginning c t).Serial c where
  wellFormed := (Store.Revises.lock c).wellFormed hw.wellFormed
  exists_cell := ((Store.Revises.lock c).isSome c).trans hw.exists_cell
  holders := by
    have hlock : (w.beginning c t).store.altering c = true := Store.altering_lock hw.exists_cell
    have hrunning : (w.beginning c t).ledger.running = [(t, w.store.root c)] :=
      congrArg ((t, w.store.root c) :: ·) (hw.idle h)
    rw [hlock, hrunning, List.length_singleton, Bool.toNat_true]
  shown a ha := by
    have hroot : (w.beginning c t).store.root c = w.store.root c := Store.root_lock _ c c
    have hrunning : (w.beginning c t).ledger.running = [(t, w.store.root c)] :=
      congrArg ((t, w.store.root c) :: ·) (hw.idle h)
    rw [hrunning, List.mem_singleton] at ha
    rw [hroot, ha]

/-- An alteration that is given up leaves the lock free. -/
theorem givingUp (hw : w.Serial c) {t : ThreadId} {shown : Value}
    (h : (t, shown) ∈ w.ledger.running) : (w.givingUp c t shown).Serial c where
  wellFormed := (Store.Revises.unlock c).wellFormed hw.wellFormed
  exists_cell := ((Store.Revises.unlock c).isSome c).trans hw.exists_cell
  holders := by
    have hlock : (w.givingUp c t shown).store.altering c = false := Store.altering_unlock _ c
    have hrunning : (w.givingUp c t shown).ledger.running = [] := hw.erase h
    rw [hlock, hrunning, List.length_nil, Bool.toNat_false]
  shown a ha := by
    have hrunning : (w.givingUp c t shown).ledger.running = [] := hw.erase h
    rw [hrunning] at ha
    cases ha

/-- A completed alteration leaves the lock free. -/
theorem altering (hw : w.Serial c) {t : ThreadId} {shown : Value}
    (h : (t, shown) ∈ w.ledger.running) (x : Value) : (w.altering c ⟨t, shown, x⟩).Serial c where
  wellFormed := by
    have hunlocked := (Store.Revises.unlock c).wellFormed hw.wellFormed
    exact (Store.Revises.setRoot c x).wellFormed hunlocked
  exists_cell := by
    have hunlocked := ((Store.Revises.unlock c).isSome c).trans hw.exists_cell
    exact ((Store.Revises.setRoot c x).isSome c).trans hunlocked
  holders := by
    have hlock : (w.altering c ⟨t, shown, x⟩).store.altering c = false :=
      (Store.altering_setRoot _ c c x).trans (Store.altering_unlock _ c)
    have hrunning : (w.altering c ⟨t, shown, x⟩).ledger.running = [] := hw.erase h
    rw [hlock, hrunning, List.length_nil, Bool.toNat_false]
  shown a ha := by
    have hrunning : (w.altering c ⟨t, shown, x⟩).ledger.running = [] := hw.erase h
    rw [hrunning] at ha
    cases ha

end Serial

/-- A variable stays of its kind. -/
theorem Goes.kind_eq (h : w.Goes c w') : w'.store.kind c = w.store.kind c := by
  cases h with
  | aside h => exact h.kind c
  | elsewhere h => exact h.kind c
  | begun t => exact (w.store.keepsStacks_lock c).kind c
  | givenUp => exact (w.store.keepsStacks_unlock c).kind c
  | completed h x =>
    have hset := ((w.store.unlock c).keepsStacks_setRoot c x).kind c
    exact hset.trans ((w.store.keepsStacks_unlock c).kind c)

/-- A variable stays of its kind. -/
theorem Goes.kind_run (h : ReflTransGen (Goes c) w w') : w'.store.kind c = w.store.kind c := by
  induction h with
  | refl => rfl
  | tail _ hstep ih => exact hstep.kind_eq.trans ih

namespace Accounts

variable {as : List Alteration} {es : List (ThreadId × Event)}

/-- What is known at the first moment. -/
theorem start (hw : w.Serial c) : w.Accounts c w [] [] where
  serial := hw
  kind := rfl
  completed := (List.append_nil _).symm
  chain := rfl
  events := (List.append_nil _).symm
  noted := ⟨[], .slnil, .nil⟩

/-- What is known of steps that come one after another. -/
theorem trans {v : World (Hands (Ledger υ)) ε} {as' : List Alteration}
    {es' : List (ThreadId × Event)} (h : w.Accounts c v as es) (h' : v.Accounts c w' as' es') :
    w.Accounts c w' (as ++ as') (es ++ es') where
  serial := h'.serial
  kind := h'.kind.trans h.kind
  completed := by rw [h'.completed, h.completed, List.append_assoc]
  chain := h.chain.append h'.chain
  events := by rw [h'.events, h.events, List.append_assoc]
  noted := by
    obtain ⟨told, hsub, hnoted⟩ := h.noted
    obtain ⟨told', hsub', hnoted'⟩ := h'.noted
    exact ⟨told ++ told', hsub.append hsub', List.rel_append hnoted hnoted'⟩

end Accounts

/-- A completed alteration replaces the root that its function was shown, and is noted with it. -/
theorem Serial.accounts_completed (hw : w.Serial c) {t : ThreadId} {shown : Value}
    (h : (t, shown) ∈ w.ledger.running) (x : Value) :
    w.Accounts c (w.altering c ⟨t, shown, x⟩) [⟨t, shown, x⟩]
      [(t, ⟨c, ((w.store.unlock c).setRoot c x).2.symbol c, shown, x, .write⟩)] where
  serial := hw.altering h x
  kind := (Goes.completed h x).kind_eq
  completed := rfl
  chain := by
    have hexists := ((Store.Revises.unlock c).isSome c).trans hw.exists_cell
    have hroot : ((w.store.unlock c).setRoot c x).2.root c = x :=
      Store.root_updateCell_self hexists fun _ => rfl
    exact ⟨hw.shown _ h, hroot.symm⟩
  events := by
    have hroot : (w.store.unlock c).root c = shown := (Store.root_unlock _ c c).trans (hw.shown _ h).symm
    rw [← hroot]
    exact List.reverse_cons
  noted := ⟨_, .refl _, .cons ⟨rfl, rfl, rfl, rfl, rfl⟩ .nil⟩

/-- One step. -/
theorem Goes.accounts (h : w.Goes c w') (hw : w.Serial c) : ∃ as es, w.Accounts c w' as es := by
  have hkind := h.kind_eq
  cases h with
  | aside h hrunning hcompleted hlock =>
    have hroot : w'.store.root c = w.store.root c := h.visible .root c
    have hserial := hw.keep (h.wellFormed hw.wellFormed) (h.isSome c) hrunning hlock hroot
    refine ⟨[], [], hserial, hkind, ?_, hroot.symm, ?_, [], .slnil, .nil⟩
    · rw [hcompleted, List.append_nil]
    · rw [h.events, List.append_nil]
  | @elsewhere t p e _ h hp =>
    have hroot : w'.store.root c = w.store.root c := h.root hw.wellFormed hp
    have hledger : w'.ledger = w.ledger := congrArg Hands.own h.host
    have hserial := hw.keep (h.wellFormed hw.wellFormed) (h.isSome c)
      (congrArg Ledger.running hledger) (h.altering_eq c) hroot
    refine ⟨[], [(t, e)], hserial, hkind, ?_, hroot.symm, h.events, [], List.nil_sublist _, .nil⟩
    rw [hledger, List.append_nil]
  | begun t hfree =>
    have hroot : (w.beginning c t).store.root c = w.store.root c := Store.root_lock _ c c
    exact ⟨[], [], hw.beginning t hfree, hkind, (List.append_nil _).symm,
      hroot.symm, (List.append_nil _).symm, [], .slnil, .nil⟩
  | @givenUp t shown h =>
    have hroot : (w.givingUp c t shown).store.root c = w.store.root c := Store.root_unlock _ c c
    exact ⟨[], [], hw.givingUp h, hkind, (List.append_nil _).symm,
      hroot.symm, (List.append_nil _).symm, [], .slnil, .nil⟩
  | completed h x => exact ⟨_, _, hw.accounts_completed h x⟩

/-- Any number of steps. -/
theorem Goes.accounts_run (h : ReflTransGen (Goes c) w w') (hw : w.Serial c) :
    ∃ as es, w.Accounts c w' as es := by
  induction h with
  | refl => exact ⟨[], [], .start hw⟩
  | tail _ hstep ih =>
    obtain ⟨as, es, hfirst⟩ := ih
    obtain ⟨as', es', hlast⟩ := hstep.accounts hfirst.serial
    exact ⟨_, _, hfirst.trans hlast⟩

end World

end Steps

end ScopedBinding
