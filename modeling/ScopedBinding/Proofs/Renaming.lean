import Mathlib.Data.List.Forall2
import Mathlib.Order.Basic
import ScopedBinding.Proofs.WellFormed

/-!
# Frames under other numbers

Frame numbers are taken from one counter for all threads, so the frames of a thread have other
numbers when other threads open frames in between. `Renaming` says which number of one run stands
for which of another. A renaming `Fits` two counters if all its numbers were given out, and if it
keeps the order of numbers; it then is one-to-one.

Stacks, bindings and faults match under a renaming if they differ in frame numbers only.
-/

set_option autoImplicit false

namespace ScopedBinding

/-- Which frame number of one run stands for which number of another run. -/
abbrev Renaming : Type :=
  FrameId → FrameId → Prop

namespace FrameId

/-- A number that was given out is smaller than the next one, if the next one is not the last. -/
theorem Issued.lt_afterIssued {n : Nat} {f : FrameId} (h : f.Issued n) (hn : n + 1 < 2 ^ 64) :
    f.val < (afterIssued n).val := by
  obtain ⟨i, hi, rfl⟩ := h
  rw [UInt64.lt_iff_toNat_lt]
  simp only [afterIssued, UInt64.toNat_ofNat']
  omega

/-- The next number is given out after that. -/
theorem issued_afterIssued (n : Nat) : (afterIssued n).Issued (n + 1) :=
  ⟨n, Nat.lt_succ_self n, rfl⟩

/-- Numbers of which neither is below the other are the same. -/
theorem eq_of_val_not_lt {f g : FrameId} (h : ¬f.val < g.val) (h' : ¬g.val < f.val) : f = g := by
  obtain ⟨x⟩ := f
  obtain ⟨y⟩ := g
  rw [UInt64.lt_iff_toNat_lt] at h h'
  have hxy : x.toNat = y.toNat := by
    dsimp only at h h'
    omega
  rw [UInt64.toNat_inj.1 hxy]

end FrameId

namespace Renaming

/-- A renaming of numbers that were given out, in their order. -/
structure Fits (ρ : Renaming) (n m : Nat) : Prop where
  left : ∀ {f g}, ρ f g → f.Issued n
  right : ∀ {f g}, ρ f g → g.Issued m
  order : ∀ {f g f' g'}, ρ f g → ρ f' g' → (f.val < f'.val ↔ g.val < g'.val)

/-- The renaming that keeps the numbers that were given out. -/
def same (n : Nat) : Renaming :=
  fun f g => f = g ∧ f.Issued n

/-- A renaming with one more number. -/
def insert (ρ : Renaming) (a b : FrameId) : Renaming :=
  fun f g => ρ f g ∨ f = a ∧ g = b

variable {ρ ρ' : Renaming} {n m : Nat} {f g f' g' a b : FrameId}

/-- Keeping the numbers that were given out keeps their order. -/
theorem fits_same (n : Nat) : (same n).Fits n n := by
  refine ⟨fun h => h.2, fun h => h.1 ▸ h.2, fun h h' => ?_⟩
  rw [h.1, h'.1]

/-- One more number changes nothing of those before. -/
theorem le_insert (ρ : Renaming) (a b : FrameId) : ρ ≤ ρ.insert a b :=
  fun _ _ h => .inl h

/-- The added numbers stand for each other. -/
theorem insert_self (ρ : Renaming) (a b : FrameId) : ρ.insert a b a b :=
  .inr ⟨rfl, rfl⟩

namespace Fits

/-- A renaming in the order of numbers is one-to-one. -/
theorem eq_iff (h : ρ.Fits n m) (hf : ρ f g) (hf' : ρ f' g') : f = f' ↔ g = g' := by
  have hlt := h.order hf hf'
  have hgt := h.order hf' hf
  constructor
  · intro heq
    subst heq
    have hirrefl : ¬f.val < f.val := UInt64.lt_irrefl f.val
    exact FrameId.eq_of_val_not_lt (fun hg => hirrefl (hlt.2 hg)) fun hg => hirrefl (hgt.2 hg)
  · intro heq
    subst heq
    have hirrefl : ¬g.val < g.val := UInt64.lt_irrefl g.val
    exact FrameId.eq_of_val_not_lt (fun hf => hirrefl (hlt.1 hf)) fun hf => hirrefl (hgt.1 hf)

/-- More numbers may be given out on the one side. -/
theorem mono_right (h : ρ.Fits n m) {m' : Nat} (hm : m ≤ m') : ρ.Fits n m' :=
  ⟨h.left, fun hf => (h.right hf).mono hm, h.order⟩

/-- The next numbers of both runs stand for each other. -/
theorem insert_next (h : ρ.Fits n m) (hn : n + 1 < 2 ^ 64) (hm : m + 1 < 2 ^ 64) :
    (ρ.insert (.afterIssued n) (.afterIssued m)).Fits (n + 1) (m + 1) := by
  have hirrefl (x : UInt64) : ¬x < x := UInt64.lt_irrefl x
  refine ⟨?_, ?_, ?_⟩
  · rintro f g (hf | ⟨rfl, -⟩)
    · exact (h.left hf).mono (Nat.le_succ n)
    · exact FrameId.issued_afterIssued n
  · rintro f g (hf | ⟨-, rfl⟩)
    · exact (h.right hf).mono (Nat.le_succ m)
    · exact FrameId.issued_afterIssued m
  · rintro f g f' g' (hf | ⟨rfl, rfl⟩) (hf' | ⟨rfl, rfl⟩)
    · exact h.order hf hf'
    · have hleft := (h.left hf).lt_afterIssued hn
      have hright := (h.right hf).lt_afterIssued hm
      simp only [hleft, hright]
    · have hleft := UInt64.lt_asymm ((h.left hf').lt_afterIssued hn)
      have hright := UInt64.lt_asymm ((h.right hf').lt_afterIssued hm)
      simp only [hleft, hright]
    · simp only [hirrefl]

end Fits

end Renaming

/-! ## What differs in frame numbers only -/

variable {ρ ρ' : Renaming} {n m : Nat}

/-- Frames that save the same value. -/
structure Frame.Matches (ρ : Renaming) (x y : Frame) : Prop where
  id : ρ x.id y.id
  saved : y.saved = x.saved

/-- Stacks of frames that match one by one. -/
def FrameStack.Matches (ρ : Renaming) (s s' : FrameStack) : Prop :=
  List.Forall₂ (Frame.Matches ρ) s.frames s'.frames

/-- Bindings to the same value. -/
structure Binding.Matches (ρ : Renaming) (b b' : Binding) : Prop where
  value : b'.value = b.value
  frames : b.frames.Matches ρ b'.frames

/-- Faults of one kind about the same variable. -/
inductive Fault.Matches (ρ : Renaming) : Fault → Fault → Prop where
  | doubleRelease (symbol : String) : Matches ρ (.doubleRelease symbol) (.doubleRelease symbol)
  | outOfOrder (symbol : String) {f g : FrameId} {top top' : Option FrameId} (hf : ρ f g)
      (htop : Option.Rel ρ top top') :
      Matches ρ (.outOfOrder symbol f top) (.outOfOrder symbol g top')
  | abandoned (symbol : String) {f g : FrameId} (hf : ρ f g) :
      Matches ρ (.abandoned symbol f) (.abandoned symbol g)

/-- Texts that are the same, or the wordings of faults that match. -/
def MessageMatches (ρ : Renaming) (x y : String) : Prop :=
  x = y ∨ ∃ fault fault' : Fault, fault.Matches ρ fault' ∧ x = fault.message ∧ y = fault'.message

/-- Options are related by every relation that follows. -/
theorem Option.Rel.imp {α β : Type} {R S : α → β → Prop} (h : ∀ a b, R a b → S a b)
    {x : Option α} {y : Option β} (hxy : Option.Rel R x y) : Option.Rel S x y := by
  cases hxy with
  | some hab => exact .some (h _ _ hab)
  | none => exact .none

/-- Frames that match go on to match when more numbers are renamed. -/
theorem Frame.Matches.mono {x y : Frame} (h : x.Matches ρ y) (hρ : ρ ≤ ρ') : x.Matches ρ' y :=
  ⟨hρ _ _ h.id, h.saved⟩

/-- Stacks that match go on to match when more numbers are renamed. -/
theorem FrameStack.Matches.mono {s s' : FrameStack} (h : s.Matches ρ s') (hρ : ρ ≤ ρ') :
    s.Matches ρ' s' :=
  List.Forall₂.imp (fun _ _ hxy => hxy.mono hρ) h

/-- Bindings that match go on to match when more numbers are renamed. -/
theorem Binding.Matches.mono {b b' : Binding} (h : b.Matches ρ b') (hρ : ρ ≤ ρ') :
    b.Matches ρ' b' :=
  ⟨h.value, h.frames.mono hρ⟩

/-- Faults that match go on to match when more numbers are renamed. -/
theorem Fault.Matches.mono {fault fault' : Fault} (h : fault.Matches ρ fault') (hρ : ρ ≤ ρ') :
    fault.Matches ρ' fault' := by
  cases h with
  | doubleRelease symbol => exact .doubleRelease symbol
  | outOfOrder symbol hf htop => exact .outOfOrder symbol (hρ _ _ hf) (Option.Rel.imp hρ htop)
  | abandoned symbol hf => exact .abandoned symbol (hρ _ _ hf)

/-- Messages that match go on to match when more numbers are renamed. -/
theorem MessageMatches.mono {x y : String} (h : MessageMatches ρ x y) (hρ : ρ ≤ ρ') :
    MessageMatches ρ' x y := by
  rcases h with rfl | ⟨fault, fault', hfault, hx, hy⟩
  · exact .inl rfl
  · exact .inr ⟨fault, fault', hfault.mono hρ, hx, hy⟩

/-- Faults that match are of one kind. -/
theorem Fault.Matches.kindName {fault fault' : Fault} (h : fault.Matches ρ fault') :
    fault'.kindName = fault.kindName := by
  cases h <;> rfl

/-- A binding matches itself under the renaming that keeps its numbers. -/
theorem Binding.matches_same {b : Binding} (h : ∀ frame ∈ b.frames.frames, frame.id.Issued n) :
    b.Matches (.same n) b := by
  refine ⟨rfl, List.forall₂_same.2 fun frame hframe => ?_⟩
  exact ⟨⟨rfl, h frame hframe⟩, rfl⟩

namespace FrameStack.Matches

variable {s s' : FrameStack} {f g : FrameId}

/-- Stacks that match are of one depth. -/
theorem depth (h : s.Matches ρ s') : s'.depth = s.depth :=
  (List.Forall₂.length_eq h).symm

/-- Frames that match on stacks that match. -/
theorem push (h : s.Matches ρ s') {x y : Frame} (hxy : x.Matches ρ y) :
    (s.push x).Matches ρ (s'.push y) :=
  .cons hxy h

/-- Stacks that match are empty together. -/
theorem isEmpty (h : s.Matches ρ s') : s'.isEmpty = s.isEmpty := by
  obtain ⟨frames⟩ := s
  obtain ⟨frames'⟩ := s'
  cases h <;> rfl

/-- Closing frames that stand for each other succeeds on both stacks or on none. -/
theorem pop? (h : s.Matches ρ s') (hρ : ρ.Fits n m) (hf : ρ f g) :
    (∃ top top', s.pop? f = .error top ∧ s'.pop? g = .error top' ∧ Option.Rel ρ top top') ∨
    ∃ x y rest rest', s.pop? f = .ok (x, rest) ∧ s'.pop? g = .ok (y, rest') ∧ x.Matches ρ y ∧
      rest.Matches ρ rest' := by
  obtain ⟨frames⟩ := s
  obtain ⟨frames'⟩ := s'
  unfold FrameStack.pop?
  cases h with
  | nil => exact .inl ⟨none, none, rfl, rfl, .none⟩
  | @cons x y rest rest' hxy hrest =>
    have hiff := hρ.eq_iff hxy.id hf
    dsimp only
    by_cases hid : x.id = f
    · right
      rw [if_pos hid, if_pos (hiff.1 hid)]
      exact ⟨x, y, ⟨rest⟩, ⟨rest'⟩, rfl, rfl, hxy, hrest⟩
    · left
      rw [if_neg hid, if_neg fun hid' => hid (hiff.2 hid')]
      exact ⟨some x.id, some y.id, rfl, rfl, .some hxy.id⟩

end FrameStack.Matches

end ScopedBinding
