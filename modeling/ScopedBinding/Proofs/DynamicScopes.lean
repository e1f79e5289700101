import ScopedBinding.Proofs.Leftovers

/-!
# Scopes on dynamic variables

A scope that overrides a dynamic variable works on the binding that its thread has for the variable,
and on nothing else (`Store.Confined`): no root changes, and no binding of another thread. This holds
for opening the scope, for setting the value in it and for closing its frame, whatever has become of
the stack by then.

`Store.ClosesAll` says that the frames of some guards are closed, the last one first, where each may be
tried twice. If a body left the stacks of its thread as it found them this is the same as closing each
frame once (`Overrides.closesAll_eq`), and then the scopes give back what they were opened on.
-/

set_option autoImplicit false

namespace ScopedBinding

namespace Store

variable {s s' s'' : Store} {t u : ThreadId} {c d : CellId}

/-- Two stores have the same variables, and differ at most in the bindings of one thread. -/
structure Confined (t : ThreadId) (s s' : Store) : Prop where
  cell : ∀ c, s'.cell? c = s.cell? c
  binding : ∀ u c, u ≠ t → s'.binding? u c = s.binding? u c

namespace Confined

/-- Nothing is touched. -/
theorem refl (t : ThreadId) (s : Store) : Confined t s s :=
  ⟨fun _ => rfl, fun _ _ _ => rfl⟩

/-- What is confined to a thread twice is confined to it. -/
theorem trans (h : Confined t s s') (h' : Confined t s' s'') : Confined t s s'' := by
  refine ⟨fun c => ?_, fun u c hu => ?_⟩
  · rw [h'.cell, h.cell]
  · rw [h'.binding u c hu, h.binding u c hu]

/-- No root is touched. -/
theorem root (h : Confined t s s') (c : CellId) : s'.root c = s.root c := by
  unfold Store.root
  rw [h.cell]

/-- No kind is touched. -/
theorem kind (h : Confined t s s') (c : CellId) : s'.kind c = s.kind c := by
  unfold Store.kind
  rw [h.cell]

end Confined

/-- Putting a binding touches the thread's bindings only. -/
theorem confined_putBinding (s : Store) (t : ThreadId) (c : CellId) (b : Binding) :
    Confined t s (s.putBinding t c b) := by
  refine ⟨fun _ => rfl, fun u d hu => ?_⟩
  have hne : (u, d) ≠ (t, c) := fun heq => hu (Prod.mk.inj heq).1
  rw [binding?_putBinding, if_neg hne]

/-- Erasing a binding touches the thread's bindings only. -/
theorem confined_eraseBinding (s : Store) (t : ThreadId) (c : CellId) :
    Confined t s (s.eraseBinding t c) := by
  refine ⟨fun _ => rfl, fun u d hu => ?_⟩
  have hne : (u, d) ≠ (t, c) := fun heq => hu (Prod.mk.inj heq).1
  rw [binding?_eraseBinding, if_neg hne]

/-- Opening a frame of a dynamic variable touches the thread's bindings only. -/
theorem confined_push (hk : s.kind c = .dynamic) (t : ThreadId) :
    Confined t s (s.push t c).2 := by
  have hissue : Confined t s s.issueFrame.2 := ⟨fun _ => rfl, fun _ _ _ => rfl⟩
  rw [push_of_dynamic hk]
  exact hissue.trans (confined_putBinding _ t c _)

/-- Opening a frame of a dynamic variable binds it. -/
theorem isBound_push (hk : s.kind c = .dynamic) (t : ThreadId) :
    (s.push t c).2.isBound t c = true := by
  rw [push_of_dynamic hk]
  unfold isBound
  rw [binding?_putBinding, if_pos rfl]
  rfl

/-- Setting a variable that the thread has bound sets the value of its binding. -/
theorem write_of_bound (hb : s.isBound t c = true) (v : Value) :
    Confined t s (s.write t c v).2 ∧ (s.write t c v).2.read t c = v := by
  obtain ⟨b, hb⟩ := Option.isSome_iff_exists.1 hb
  unfold write
  rw [hb]
  refine ⟨confined_putBinding s t c _, ?_⟩
  rw [read_putBinding, if_pos rfl]

/-- Closing a frame of a dynamic variable touches the thread's bindings only. -/
theorem confined_close (hk : s.kind c = .dynamic) (t : ThreadId) (f : FrameId) :
    Confined t s (s.close t c f) := by
  cases hp : s.pop t c f with
  | error fault =>
    rw [close_of_error hp]
    exact .refl t s
  | ok result =>
    obtain ⟨r, s'⟩ := result
    rw [close_of_ok hp]
    obtain ⟨_, _, -, -, ⟨hroot, -⟩ | ⟨-, -, -, rfl⟩ | ⟨-, -, -, rfl⟩⟩ := pop_ok_cases hp
    · rw [hk] at hroot
      cases hroot
    · exact s.confined_eraseBinding t c
    · exact s.confined_putBinding t c _

/-- The same if closing is tried twice. -/
theorem Closes.confined {f : FrameId} (h : Closes t c f s s') (hk : s.kind c = .dynamic) :
    Confined t s s' := by
  have honce := confined_close hk t f
  rcases h with rfl | rfl
  · exact honce
  · exact honce.trans (confined_close ((honce.kind c).trans hk) t f)

/-- The frames of some guards are closed, the last one first; each may be tried twice. -/
inductive ClosesAll (t : ThreadId) : List Guard → Store → Store → Prop where
  | nil (s : Store) : ClosesAll t [] s s
  | cons {g : Guard} {gs : List Guard} {s s' s'' : Store} (hrest : ClosesAll t gs s s')
      (hfirst : Closes t g.cell g.frame s' s'') : ClosesAll t (g :: gs) s s''

namespace ClosesAll

variable {gs : List Guard}

/-- Closing takes no frame number. -/
theorem framesIssued (h : ClosesAll t gs s s') : s'.framesIssued = s.framesIssued := by
  induction h with
  | nil => rfl
  | cons _ hfirst ih => exact hfirst.framesIssued.trans ih

end ClosesAll

end Store

open Store (Confined ClosesAll SameAt GivenBack)

namespace Overrides

variable {s s₂ s₃ : Store} {t : ThreadId} {set : Overrides} {c : CellId}

/-- Inside one override of a dynamic variable the thread sees the value, and nothing else has been
touched. -/
theorem override_dynamic (hk : s.kind c = .dynamic) (t : ThreadId) (v : Value) :
    Confined t s ((s.push t c).2.write t c v).2 ∧
      ((s.push t c).2.write t c v).2.read t c = v := by
  have hbound := Store.isBound_push hk t
  obtain ⟨hwrite, hread⟩ := Store.write_of_bound hbound v
  exact ⟨(Store.confined_push hk t).trans hwrite, hread⟩

/-- Opening scopes of dynamic variables touches the thread's bindings only. -/
theorem confined_opened (hk : ∀ c ∈ set.map Prod.fst, s.kind c = .dynamic) :
    Confined t s (opened t set s).2 := by
  induction set generalizing s with
  | nil => exact .refl t s
  | cons pair rest ih =>
    obtain ⟨c, v⟩ := pair
    obtain ⟨hfirst, -⟩ := override_dynamic (hk c List.mem_cons_self) t v
    refine hfirst.trans (ih fun d hd => ?_)
    rw [hfirst.kind]
    exact hk d (List.mem_cons_of_mem _ hd)

/-- Inside overrides of dynamic variables the thread sees, of each of them, a value that it was
overridden with. -/
theorem read_opened (hk : ∀ c ∈ set.map Prod.fst, s.kind c = .dynamic) (hc : c ∈ set.map Prod.fst) :
    ∃ v, (c, v) ∈ set ∧ (opened t set s).2.read t c = v := by
  induction set generalizing s with
  | nil => cases hc
  | cons pair rest ih =>
    obtain ⟨d, v⟩ := pair
    obtain ⟨hfirst, hread⟩ := override_dynamic (hk d List.mem_cons_self) t v
    have hk' : ∀ c ∈ rest.map Prod.fst, ((s.push t d).2.write t d v).2.kind c = .dynamic := by
      intro c hc
      rw [hfirst.kind]
      exact hk c (List.mem_cons_of_mem _ hc)
    by_cases hrest : c ∈ rest.map Prod.fst
    · obtain ⟨x, hx, hsees⟩ := ih hk' hrest
      exact ⟨x, List.mem_cons_of_mem _ hx, hsees⟩
    · -- No later pair is for this variable, so its own value is still seen.
      have hcd : c = d := by simpa [hrest] using hc
      subst hcd
      refine ⟨v, List.mem_cons_self, ?_⟩
      exact ((sameAt_opened _ hrest).read t).trans hread

/-- After a body that left the stacks of its thread as it found them, no frame of a scope is closed by
a second try. -/
theorem closesAll_eq (hs : s.WellFormed) (hleft : BodyLeft t set (fun _ => []) s s₂)
    (hle : (opened t set s).2.framesIssued ≤ s₂.framesIssued) (hn : s₂.framesIssued ≤ 2 ^ 64)
    (hcloses : ClosesAll t (opened t set s).1 s₂ s₃) :
    s₃ = Guard.closeAll t (opened t set s).1 s₂ := by
  induction set generalizing s s₃ with
  | nil =>
    cases hcloses
    rfl
  | cons pair rest ih =>
    obtain ⟨c, v⟩ := pair
    have hissued := framesIssued_opened t ((c, v) :: rest) s
    rw [List.length_cons] at hissued
    have hs' := (hs.push t c).write t c v
    -- Closing each frame once gives the stack of the outermost pair back.
    have hgiven := (unwound_opened hs hleft).1.stack c List.mem_cons_self rfl
    have honce : Guard.closeAll t (opened t ((c, v) :: rest) s).1 s₂ =
        (Guard.closeAll t (opened t rest ((s.push t c).2.write t c v).2).1 s₂).close t c
          (s.push t c).1.id := rfl
    cases hcloses with
    | cons hrest hfirst =>
      have hinner := ih hs' hleft.tail hle hrest
      subst hinner
      rcases hfirst with hfirst | hfirst
      · rw [hfirst, honce]
        rfl
      · rw [hfirst, honce]
        rw [honce] at hgiven
        exact hs.close_again (by omega) hgiven

end Overrides

/-- A variable of which all is kept is given back. -/
theorem Store.GivenBack.of_sameAt {s s' : Store} {c : CellId} (h : SameAt c s s') (t : ThreadId) :
    GivenBack t c s s' := by
  refine ⟨fun _ => h.root, fun _ hb => ⟨?_, h.read t⟩, fun _ hb => ?_⟩
  · rw [h.isBound]
    exact hb
  · have hb' : s'.isBound t c = false := by
      rw [h.isBound]
      exact hb
    exact ⟨hb', Store.read_of_not_bound hb'⟩

/-- What is left when overrides end whose body left the stacks of the thread as it found them: the
stacks and the bound variables are those from before, the overridden variables are given back, and the
others are as the body left them. -/
structure Returned (t : ThreadId) (set : Overrides) (s s₂ s₃ : Store) : Prop where
  stack : ∀ c, s₃.stack t c = s.stack t c
  bound : ∀ c, s₃.isBound t c = s.isBound t c
  given : ∀ c ∈ set.map Prod.fst, GivenBack t c s s₃
  other : ∀ c, c ∉ set.map Prod.fst → SameAt c s₂ s₃

/-- What is left when all frames of the scopes have been closed, with second tries or without. -/
theorem Returned.of_closesAll {s s₂ s₃ : Store} {t : ThreadId} {set : Overrides}
    (hs : s.WellFormed) (hs₂ : s₂.WellFormed) (hkind : ∀ c, s₂.kind c = s.kind c)
    (hstack : ∀ c, s₂.stack t c = (Overrides.opened t set s).2.stack t c)
    (hle : (Overrides.opened t set s).2.framesIssued ≤ s₂.framesIssued)
    (hn : s₂.framesIssued ≤ 2 ^ 64) (hcloses : ClosesAll t (Overrides.opened t set s).1 s₂ s₃) :
    Returned t set s s₂ s₃ := by
  have hleft : BodyLeft t set (fun _ => []) s s₂ :=
    ⟨hs₂, hkind, fun c _ => congrArg FrameStack.frames (hstack c), fun _ _ _ h => nomatch h⟩
  have heq := Overrides.closesAll_eq hs hleft hle hn hcloses
  obtain ⟨hunwound, -⟩ := unwound_opened hs hleft
  rw [← heq] at hunwound
  have hkind' : ∀ c, s₃.kind c = s.kind c := fun c => (hunwound.kind c).trans (hkind c)
  have hother : ∀ c, c ∉ set.map Prod.fst → SameAt c s₂ s₃ :=
    fun c hc => hunwound.untouched c (.inl hc)
  have hback : ∀ c, s₃.stack t c = s.stack t c := by
    intro c
    by_cases hc : c ∈ set.map Prod.fst
    · exact hunwound.stack c hc rfl
    · rw [(hother c hc).stack, hstack, (Overrides.sameAt_opened s hc).stack]
  refine ⟨hback, fun c => ?_, fun c hc => ?_, hother⟩
  · cases hk : s.kind c with
    | root =>
      have hbefore : s.binding? t c = none := (hs c).unbound t hk
      have hafter : s₃.binding? t c = none :=
        (hunwound.wellFormed c).unbound t ((hkind' c).trans hk)
      unfold Store.isBound
      rw [hbefore, hafter]
    | dynamic =>
      have hbefore := hs.isBound_iff hk t
      have hafter := hunwound.wellFormed.isBound_iff ((hkind' c).trans hk) t
      rw [hback] at hafter
      exact Bool.eq_iff_iff.2 (hafter.trans hbefore.symm)
  · exact .of_stack hs hunwound.wellFormed (hkind' c) (hback c) (hunwound.read c hc rfl)

/-- Overrides that were opened up to some pair only leave all the variables as they were. -/
theorem Returned.of_front {s s₃ : Store} {t : ThreadId} {front set : Overrides}
    (hfront : front <+: set) (h : Returned t front s (Overrides.opened t front s).2 s₃) :
    Returned t set s s s₃ := by
  have hother : ∀ c, c ∉ front.map Prod.fst → SameAt c s s₃ := fun c hc =>
    (Overrides.sameAt_opened s hc).trans (h.other c hc)
  refine ⟨h.stack, h.bound, fun c _ => ?_, fun c hc => hother c fun hmem => ?_⟩
  · by_cases hc : c ∈ front.map Prod.fst
    · exact h.given c hc
    · exact .of_sameAt (hother c hc) t
  · exact hc ((hfront.map Prod.fst).subset hmem)

end ScopedBinding
