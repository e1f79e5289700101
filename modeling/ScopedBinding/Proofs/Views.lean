import Mathlib.Logic.Relation
import ScopedBinding.Proofs.Conveyance
import ScopedBinding.Proofs.Renaming

/-!
# What a thread sees of a store

Of dynamic variables a thread sees their cells and its own bindings. Two stores match for a thread
if it sees the same in both, but for the numbers of frames (`Store.Matches`). Whatever the thread
does to both of them they match again. Of what other threads do to one of them it sees nothing, as
long as they change no root: a step of a thread touches no binding of another
(`Store.StepBy.binding`).
-/

set_option autoImplicit false

namespace ScopedBinding

namespace Store

/-- A single change of the store by a thread. -/
inductive StepBy (u : ThreadId) (s : Store) : Store → Prop where
  | write (c : CellId) (v : Value) : StepBy u s (s.write u c v).2
  | setRoot (c : CellId) (v : Value) : StepBy u s (s.setRoot c v).2
  | push (c : CellId) : StepBy u s (s.push u c).2
  | pop (c : CellId) (f : FrameId) {r : Replaced} {s' : Store} (h : s.pop u c f = .ok (r, s')) :
      StepBy u s s'
  | issueFrame : StepBy u s s.issueFrame.2

/-- A step of another thread that changes the root of none of some variables. -/
def Foreign (t : ThreadId) (V : CellId → Prop) (s s' : Store) : Prop :=
  ∃ u, u ≠ t ∧ StepBy u s s' ∧ ∀ c, V c → s'.root c = s.root c

/-- A frame that another thread opens leaves a thread's bindings. -/
theorem binding_push_ne (s : Store) {t u : ThreadId} (h : t ≠ u) (c d : CellId) :
    (s.push u d).2.binding? t c = s.binding? t c := by
  cases hk : s.kind d with
  | root =>
    rw [push_of_root hk]
    rfl
  | dynamic => exact (confined_push hk u).binding t c h

/-- Setting a root to what it was touches no cell. -/
theorem cell_setRoot (s : Store) (c d : CellId) (v : Value)
    (hroot : (s.setRoot d v).2.root c = s.root c) : (s.setRoot d v).2.cell? c = s.cell? c := by
  have hcell : (s.setRoot d v).2.cell? c =
      if c = d then (s.cell? d).map (fun cell => { cell with root := v }) else s.cell? c :=
    s.cell?_updateCell d c _
  by_cases hcd : c = d
  · subst hcd
    rw [if_pos rfl] at hcell
    unfold root at hroot
    rw [hcell] at hroot ⊢
    cases hs : s.cell? c with
    | none => rfl
    | some cell =>
      rw [hs] at hroot
      have hv : v = cell.root := hroot
      rw [hv]
      rfl
  · rw [if_neg hcd] at hcell
    exact hcell

namespace StepBy

variable {u t : ThreadId} {s s' : Store} {c : CellId}

/-- A step of some thread lets the store evolve. -/
theorem evolves (h : StepBy u s s') : s.Evolves s' := by
  cases h with
  | write c v =>
    have hrevises : s.Revises _ := .write u c v
    exact ⟨hrevises.framesIssued_le, hrevises.wellFormed, hrevises.keepsStacks.kind⟩
  | setRoot c v =>
    have hrevises : s.Revises _ := .setRoot c v
    exact ⟨hrevises.framesIssued_le, hrevises.wellFormed, hrevises.keepsStacks.kind⟩
  | push c =>
    refine ⟨?_, fun hs => hs.push u c, s.kind_push u c⟩
    rw [framesIssued_push]
    omega
  | pop c f hp => exact ⟨Nat.le_of_eq (framesIssued_pop hp).symm, fun hs => hs.pop hp, kind_pop hp⟩
  | issueFrame =>
    have hrevises : s.Revises _ := .issueFrame
    exact ⟨hrevises.framesIssued_le, hrevises.wellFormed, hrevises.keepsStacks.kind⟩

/-- No thread touches a binding of another. -/
theorem binding (h : StepBy u s s') (htu : t ≠ u) (c : CellId) :
    s'.binding? t c = s.binding? t c := by
  cases h with
  | write d v =>
    unfold Store.write
    cases s.binding? u d with
    | some b => exact (s.confined_putBinding u d _).binding t c htu
    | none => rfl
  | setRoot d v => rfl
  | push d => exact binding_push_ne s htu c d
  | pop d f hp =>
    obtain ⟨frame, rest, -, -, ⟨-, -, rfl⟩ | ⟨-, -, -, rfl⟩ | ⟨-, -, -, rfl⟩⟩ := pop_ok_cases hp
    · rfl
    · exact (s.confined_eraseBinding u d).binding t c htu
    · exact (s.confined_putBinding u d _).binding t c htu
  | issueFrame => rfl

/-- A thread that does not change the root of a dynamic variable does not touch its cell. -/
theorem cell (h : StepBy u s s') (hk : s.kind c = .dynamic) (hroot : s'.root c = s.root c) :
    s'.cell? c = s.cell? c := by
  cases h with
  | write d v =>
    unfold Store.write at hroot ⊢
    cases hb : s.binding? u d with
    | some b => rfl
    | none =>
      rw [hb] at hroot
      exact cell_setRoot s c d v hroot
  | setRoot d v => exact cell_setRoot s c d v hroot
  | push d =>
    by_cases hcd : c = d
    · subst hcd
      exact (confined_push hk u).cell c
    · exact (s.sameAt_push u hcd).cell
  | pop d f hp =>
    by_cases hcd : c = d
    · subst hcd
      have hclose := (confined_close hk u f).cell c
      rw [close_of_ok hp] at hclose
      exact hclose
    · exact (sameAt_pop hcd hp).cell
  | issueFrame => rfl

end StepBy

/-- Two stores in which a thread sees the same of some dynamic variables, which nobody watches. -/
structure Matches (t : ThreadId) (V : CellId → Prop) (ρ : Renaming) (s s' : Store) : Prop where
  fits : ρ.Fits s.framesIssued s'.framesIssued
  issued : s.framesIssued ≤ s'.framesIssued
  dynamic : ∀ c, V c → s.kind c = .dynamic
  unwatched : ∀ c, V c → (s.watches c).values = []
  cell : ∀ c, V c → s'.cell? c = s.cell? c
  binding : ∀ c, V c → Option.Rel (Binding.Matches ρ) (s.binding? t c) (s'.binding? t c)

namespace Matches

variable {t : ThreadId} {V : CellId → Prop} {ρ ρ' : Renaming} {s s' s'' : Store} {c : CellId}

/-- A store shows what it shows itself, with the same frames. -/
theorem refl (hs : s.WellFormed) (hdynamic : ∀ c, V c → s.kind c = .dynamic)
    (hunwatched : ∀ c, V c → (s.watches c).values = []) :
    Matches t V (.same s.framesIssued) s s := by
  refine ⟨Renaming.fits_same _, Nat.le_refl _, hdynamic, hunwatched, fun _ _ => rfl, fun c hc => ?_⟩
  cases hb : s.binding? t c with
  | none => exact .none
  | some b =>
    refine .some (Binding.matches_same fun frame hframe => (hs c).issued t frame ?_)
    rw [stack_of_dynamic (hdynamic c hc), hb]
    exact hframe

/-! ### What the thread sees -/

section

variable (h : Matches t V ρ s s') (hc : V c)
include h hc

/-- The two stores have the same roots. -/
theorem root : s'.root c = s.root c := by
  unfold Store.root
  rw [h.cell c hc]

/-- The two stores have the same symbols. -/
theorem symbol : s'.symbol c = s.symbol c := by
  unfold Store.symbol
  rw [h.cell c hc]

/-- A variable in view is dynamic in the other store too. -/
theorem dynamic' : s'.kind c = .dynamic := by
  have hk := h.dynamic c hc
  unfold Store.kind at hk ⊢
  rw [h.cell c hc]
  exact hk

/-- A variable in view is not watched in the other store either. -/
theorem unwatched' : (s'.watches c).values = [] := by
  have hw := h.unwatched c hc
  unfold Store.watches at hw ⊢
  rw [h.cell c hc]
  exact hw

/-- The lock of a variable in view is taken in both stores or in neither. -/
theorem altering : s'.altering c = s.altering c := by
  unfold Store.altering
  rw [h.cell c hc]

/-- The thread has bound a variable in both stores or in neither. -/
theorem bindings : (s.binding? t c = none ∧ s'.binding? t c = none) ∨
    ∃ b b', s.binding? t c = some b ∧ s'.binding? t c = some b' ∧ b.Matches ρ b' := by
  have hb := h.binding c hc
  generalize s.binding? t c = x at hb ⊢
  generalize s'.binding? t c = y at hb ⊢
  cases hb with
  | none => exact .inl ⟨rfl, rfl⟩
  | some hb => exact .inr ⟨_, _, rfl, rfl, hb⟩

/-- The thread has bound the same variables in both stores. -/
theorem isBound : s'.isBound t c = s.isBound t c := by
  unfold Store.isBound
  rcases h.bindings hc with ⟨hs, hs'⟩ | ⟨b, b', hs, hs', -⟩
  · rw [hs, hs']
  · rw [hs, hs']
    rfl

/-- The thread reads the same in both stores. -/
theorem read : s'.read t c = s.read t c := by
  have hroot := h.root hc
  unfold Store.read
  rcases h.bindings hc with ⟨hs, hs'⟩ | ⟨b, b', hs, hs', hb⟩
  · rw [hs, hs']
    exact hroot
  · rw [hs, hs']
    exact hb.value

/-- The thread's stacks in both stores match. -/
theorem stack : (s.stack t c).Matches ρ (s'.stack t c) := by
  rw [stack_of_dynamic (h.dynamic c hc), stack_of_dynamic (h.dynamic' hc)]
  rcases h.bindings hc with ⟨hs, hs'⟩ | ⟨b, b', hs, hs', hb⟩
  · rw [hs, hs']
    exact .nil
  · rw [hs, hs']
    exact hb.frames

/-- The thread's stacks in both stores are of the same depth. -/
theorem depth : s'.depth t c = s.depth t c :=
  (h.stack hc).depth

end

/-! ### What the thread does -/

/-- The same change of a cell in both stores keeps the match, if it leaves the kind and the watches. -/
theorem updateCell (h : Matches t V ρ s s') (c : CellId) {change : Cell → Cell}
    (hstorage : ∀ cell, (change cell).storage = cell.storage)
    (hwatches : ∀ cell, (change cell).watches = cell.watches) :
    Matches t V ρ (s.updateCell c change) (s'.updateCell c change) := by
  have hkind := (s.keepsStacks_updateCell c hstorage).kind
  refine ⟨h.fits, h.issued, fun d hd => ?_, fun d hd => ?_, fun d hd => ?_, h.binding⟩
  · rw [hkind]
    exact h.dynamic d hd
  · have hkept : (s.updateCell c change).watches d = s.watches d := by
      unfold Store.watches
      rw [cell?_updateCell]
      split
      · next hdc => cases hcell : s.cell? c <;> simp [hdc, hcell, hwatches]
      · rfl
    rw [hkept]
    exact h.unwatched d hd
  · rw [cell?_updateCell, cell?_updateCell]
    split
    · next hdc =>
      subst hdc
      rw [h.cell d hd]
    · exact h.cell d hd

/-- Setting a root in both stores keeps the match. -/
theorem updateRoot (h : Matches t V ρ s s') (c : CellId) (v : Value) :
    Matches t V ρ (s.setRoot c v).2 (s'.setRoot c v).2 :=
  h.updateCell c (fun _ => rfl) fun _ => rfl

/-- Taking a lock in both stores keeps the match. -/
theorem lock (h : Matches t V ρ s s') (c : CellId) : Matches t V ρ (s.lock c) (s'.lock c) :=
  h.updateCell c (fun _ => rfl) fun _ => rfl

/-- Giving back a lock in both stores keeps the match. -/
theorem unlock (h : Matches t V ρ s s') (c : CellId) : Matches t V ρ (s.unlock c) (s'.unlock c) :=
  h.updateCell c (fun _ => rfl) fun _ => rfl

/-- Changing a binding of the thread in both stores keeps the match. -/
theorem putBinding (h : Matches t V ρ s s') (c : CellId) {b b' : Binding} (hb : b.Matches ρ b') :
    Matches t V ρ (s.putBinding t c b) (s'.putBinding t c b') := by
  refine ⟨h.fits, h.issued, h.dynamic, h.unwatched, h.cell, fun d hd => ?_⟩
  rw [binding?_putBinding, binding?_putBinding]
  split
  · exact .some hb
  · exact h.binding d hd

/-- Removing a binding of the thread in both stores keeps the match. -/
theorem eraseBinding (h : Matches t V ρ s s') (c : CellId) :
    Matches t V ρ (s.eraseBinding t c) (s'.eraseBinding t c) := by
  refine ⟨h.fits, h.issued, h.dynamic, h.unwatched, h.cell, fun d hd => ?_⟩
  rw [binding?_eraseBinding, binding?_eraseBinding]
  split
  · exact .none
  · exact h.binding d hd

/-- Setting a variable in both stores keeps the match. -/
theorem write (h : Matches t V ρ s s') (hc : V c) (v : Value) :
    Matches t V ρ (s.write t c v).2 (s'.write t c v).2 := by
  unfold Store.write
  rcases h.bindings hc with ⟨hs, hs'⟩ | ⟨b, b', hs, hs', hb⟩
  · rw [hs, hs']
    exact h.updateRoot c v
  · rw [hs, hs']
    exact h.putBinding c ⟨rfl, hb.frames⟩

/-- Both runs take their next numbers, which stand for each other from then on. -/
theorem issueFrame (h : Matches t V ρ s s') (hn : s'.framesIssued + 1 < 2 ^ 64) :
    Matches t V (ρ.insert s.issueFrame.1 s'.issueFrame.1) s.issueFrame.2 s'.issueFrame.2 := by
  have hle := h.issued
  have hfits := h.fits.insert_next (by omega) hn
  refine ⟨hfits, Nat.succ_le_succ hle, h.dynamic, h.unwatched, h.cell, fun c hc => ?_⟩
  exact Option.Rel.imp (fun _ _ hb => hb.mono (ρ.le_insert _ _)) (h.binding c hc)

/-- Opening a frame in both stores keeps the match, which has a new pair of frames then. -/
theorem push (h : Matches t V ρ s s') (hc : V c) (hn : s'.framesIssued + 1 < 2 ^ 64) :
    Matches t V (ρ.insert (s.push t c).1.id (s'.push t c).1.id) (s.push t c).2 (s'.push t c).2 := by
  have hissued := h.issueFrame hn
  have hstack := (h.stack hc).mono (ρ.le_insert s.issueFrame.1 s'.issueFrame.1)
  rw [push_of_dynamic (h.dynamic c hc), push_of_dynamic (h.dynamic' hc), h.read hc]
  refine hissued.putBinding c ⟨rfl, hstack.push ⟨?_, rfl⟩⟩
  exact ρ.insert_self _ _

/-- Closing frames that stand for each other is rejected in both runs, or closes them. -/
theorem pop (h : Matches t V ρ s s') (hc : V c) {f g : FrameId} (hf : ρ f g) :
    (∃ fault fault' : Fault, s.pop t c f = .error fault ∧ s'.pop t c g = .error fault' ∧
      fault.Matches ρ fault') ∨
    ∃ r r' s₁ s₁', s.pop t c f = .ok (r, s₁) ∧ s'.pop t c g = .ok (r', s₁') ∧
      Matches t V ρ s₁ s₁' := by
  rw [pop_of_dynamic (h.dynamic c hc), pop_of_dynamic (h.dynamic' hc), h.symbol hc]
  rcases (h.stack hc).pop? h.fits hf with ⟨top, top', hp, hp', htop⟩ |
    ⟨x, y, rest, rest', hp, hp', hxy, hrest⟩
  · left
    rw [hp, hp']
    exact ⟨_, _, rfl, rfl, .outOfOrder _ hf htop⟩
  · right
    rw [hp, hp']
    dsimp only
    rw [hrest.isEmpty]
    split
    · exact ⟨_, _, _, _, rfl, rfl, h.eraseBinding c⟩
    · exact ⟨_, _, _, _, rfl, rfl, h.putBinding c ⟨hxy.saved, hrest⟩⟩

/-! ### What other threads do -/

/-- A step of another thread that changes no root of the variables is not seen. -/
theorem foreign (h : Matches t V ρ s s') (hstep : Foreign t V s' s'') : Matches t V ρ s s'' := by
  obtain ⟨u, hu, hstep, hroot⟩ := hstep
  have hevolves := hstep.evolves
  refine ⟨h.fits.mono_right hevolves.framesIssued_le,
    Nat.le_trans h.issued hevolves.framesIssued_le, h.dynamic, h.unwatched, fun c hc => ?_,
    fun c hc => ?_⟩
  · rw [hstep.cell (h.dynamic' hc) (hroot c hc)]
    exact h.cell c hc
  · rw [hstep.binding hu.symm]
    exact h.binding c hc

/-- Steps of other threads keep the match. -/
theorem foreign_many (h : Matches t V ρ s s')
    (hsteps : Relation.ReflTransGen (Foreign t V) s' s'') : Matches t V ρ s s'' := by
  induction hsteps with
  | refl => exact h
  | tail _ hstep ih => exact ih.foreign hstep

end Matches

end Store

end ScopedBinding
