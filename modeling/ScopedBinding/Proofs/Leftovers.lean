import ScopedBinding.Proofs.Restoration

/-!
# Leaving scopes on top of leftovers

A body may leave frames of its own on the variables that are overridden around it. When the scopes
are left, the frame of each pair is tried once, the last pair first. On a variable without leftovers
every frame of a scope is innermost when its turn comes, and the variable is given back. On a variable
with leftovers every try is rejected, the fault names the innermost leftover, and nothing is touched.

`Overrides.opened` opens the scopes, `Guard.closeAll` leaves them, and `Unwound` is what comes of it,
by induction over the pairs.
-/

set_option autoImplicit false

namespace ScopedBinding

open Store (SameAt GivenBack)

/-- The guards of the scopes that overrides open, and the store inside them. -/
def Overrides.opened (t : ThreadId) : Overrides → Store → List Guard × Store
  | [], s => ([], s)
  | (c, v) :: rest, s =>
    let inside := opened t rest ((s.push t c).2.write t c v).2
    (.next s t c :: inside.1, inside.2)

namespace Guard

/-- The store after one try to close the frame of every guard, the last guard first. -/
def closeAll (t : ThreadId) (gs : List Guard) (s : Store) : Store :=
  gs.foldr (fun g s => s.close t g.cell g.frame) s

/-- Why the frame of a guard cannot be closed. -/
def rejection (t : ThreadId) (g : Guard) (s : Store) : Option Fault :=
  match s.pop t g.cell g.frame with
  | .error fault => some fault
  | .ok _ => none

/-- What comes of trying every guard, by guard. -/
def rejections (t : ThreadId) : List Guard → Store → List (Option Fault)
  | [], _ => []
  | g :: rest, s => g.rejection t (closeAll t rest s) :: rejections t rest s

/-- The fault of a guard whose variable has leftovers. -/
def leftoverFault (g : Guard) (extra : CellId → List Frame) (s : Store) : Option Fault :=
  match extra g.cell with
  | [] => none
  | frame :: _ => some (.outOfOrder (s.symbol g.cell).display g.frame (some frame.id))

end Guard

namespace Overrides

variable {s : Store} {t : ThreadId}

/-- The guards of scopes are for the variables of the pairs, in their order. -/
theorem opened_cells (t : ThreadId) (set : Overrides) (s : Store) :
    (opened t set s).1.map Guard.cell = set.map Prod.fst := by
  induction set generalizing s with
  | nil => rfl
  | cons pair rest ih =>
    simp only [opened, List.map_cons, ih]
    rfl

/-- Each scope takes one frame number. -/
theorem framesIssued_opened (t : ThreadId) (set : Overrides) (s : Store) :
    (opened t set s).2.framesIssued = s.framesIssued + set.length := by
  induction set generalizing s with
  | nil => rfl
  | cons pair rest ih =>
    simp only [opened, ih, Store.framesIssued_write, Store.framesIssued_push, List.length_cons]
    omega

/-- Opening scopes keeps all frames in order. -/
theorem wellFormed_opened (hs : s.WellFormed) (t : ThreadId) (set : Overrides) :
    (opened t set s).2.WellFormed := by
  induction set generalizing s with
  | nil => exact hs
  | cons pair rest ih => exact ih ((hs.push t pair.1).write t pair.1 pair.2)

/-- Opening scopes changes no kind. -/
theorem kind_opened (t : ThreadId) (set : Overrides) (s : Store) (d : CellId) :
    (opened t set s).2.kind d = s.kind d := by
  induction set generalizing s with
  | nil => rfl
  | cons pair rest ih =>
    simp only [opened, ih]
    exact ((Store.keepsStacks_write _ t _ _).kind d).trans (Store.kind_push s t _ d)

/-- Opening scopes touches no variable but those of the pairs. -/
theorem sameAt_opened (s : Store) {set : Overrides} {d : CellId} (hd : d ∉ set.map Prod.fst) :
    SameAt d s (opened t set s).2 := by
  induction set generalizing s with
  | nil => exact .refl d s
  | cons pair rest ih =>
    rw [List.map_cons, List.mem_cons, not_or] at hd
    exact ((s.sameAt_push t hd.1).trans (Store.sameAt_write _ t hd.1 _)).trans (ih _ hd.2)

/-- The stack of a variable just overridden has the frame of the scope inside. -/
theorem stack_pushed (s : Store) (t : ThreadId) (c : CellId) (v : Value) :
    ((s.push t c).2.write t c v).2.stack t c = (s.stack t c).push (s.push t c).1 := by
  rw [(Store.keepsStacks_write _ t c v).stack, Store.stack_push, if_pos ⟨rfl, .inr rfl⟩]

end Overrides

/-- What a body left on the variables overridden around it: the stacks from its start, and on top of
them frames of its own. -/
structure BodyLeft (t : ThreadId) (set : Overrides) (extra : CellId → List Frame)
    (s s₂ : Store) : Prop where
  wellFormed : s₂.WellFormed
  kind : ∀ c, s₂.kind c = s.kind c
  stack : ∀ c ∈ set.map Prod.fst, (s₂.stack t c).frames =
    extra c ++ ((Overrides.opened t set s).2.stack t c).frames
  own : ∀ c ∈ set.map Prod.fst, ∀ frame ∈ extra c, ∀ g ∈ (Overrides.opened t set s).1,
    frame.id ≠ g.frame

/-- What comes of leaving the scopes: variables with leftovers are untouched, and the other overridden
ones are as they were before the scopes. -/
structure Unwound (t : ThreadId) (set : Overrides) (extra : CellId → List Frame)
    (s s₂ s₃ : Store) : Prop where
  wellFormed : s₃.WellFormed
  symbol : ∀ d, s₃.symbol d = s₂.symbol d
  kind : ∀ d, s₃.kind d = s₂.kind d
  untouched : ∀ d, d ∉ set.map Prod.fst ∨ extra d ≠ [] → SameAt d s₂ s₃
  stack : ∀ d ∈ set.map Prod.fst, extra d = [] → s₃.stack t d = s.stack t d
  read : ∀ d ∈ set.map Prod.fst, extra d = [] → s.kind d = .root ∨ s.isBound t d = true →
    s₃.read t d = s.read t d

namespace BodyLeft

variable {t : ThreadId} {extra : CellId → List Frame} {s s₂ : Store} {c : CellId} {v : Value}
  {rest : Overrides}

/-- What a body left is left inside the outermost scope too. -/
theorem tail (h : BodyLeft t ((c, v) :: rest) extra s s₂) :
    BodyLeft t rest extra ((s.push t c).2.write t c v).2 s₂ := by
  refine ⟨h.wellFormed, fun d => ?_, fun d hd => h.stack d (List.mem_cons_of_mem _ hd), ?_⟩
  · rw [h.kind, (Store.keepsStacks_write _ t c v).kind, Store.kind_push]
  · exact fun d hd frame hf g hg =>
      h.own d (List.mem_cons_of_mem _ hd) frame hf g (List.mem_cons_of_mem _ hg)

/-- What a thread sees of the outermost pair when its turn comes: the leftovers, or the frame of the
scope and the stack from before. -/
theorem stack_turn (h : BodyLeft t ((c, v) :: rest) extra s s₂)
    {s₃ : Store}
    (hrest : Unwound t rest extra ((s.push t c).2.write t c v).2 s₂ s₃) :
    (extra c = [] → s₃.stack t c = (s.stack t c).push (s.push t c).1) ∧
      (extra c ≠ [] → s₃.stack t c = s₂.stack t c) := by
  refine ⟨fun hnone => ?_, fun hsome => (hrest.untouched c (.inr hsome)).stack t⟩
  rw [← Overrides.stack_pushed s t c v]
  by_cases hc : c ∈ rest.map Prod.fst
  · exact hrest.stack c hc hnone
  · have hinside := Overrides.sameAt_opened (t := t) ((s.push t c).2.write t c v).2 hc
    have hstack := h.stack c List.mem_cons_self
    rw [hnone] at hstack
    rw [(hrest.untouched c (.inl hc)).stack, ← hinside.stack]
    exact congrArg FrameStack.mk hstack

/-- The turn of a pair whose variable has leftovers. It is rejected and nothing happens. -/
theorem reject_turn (h : BodyLeft t ((c, v) :: rest) extra s s₂)
    {s₃ : Store} (hstack : s₃.stack t c = s₂.stack t c) (hsymbol : s₃.symbol c = s₂.symbol c)
    {frame : Frame} {more : List Frame} (hextra : extra c = frame :: more) :
    s₃.pop t c (s.push t c).1.id =
      .error (.outOfOrder (s₂.symbol c).display (s.push t c).1.id (some frame.id)) := by
  have htop : (s₃.stack t c).top?.map Frame.id = some frame.id := by
    unfold FrameStack.top?
    rw [hstack, h.stack c List.mem_cons_self, hextra]
    rfl
  have hne : frame.id ≠ (s.push t c).1.id :=
    h.own c List.mem_cons_self frame (by rw [hextra]; exact List.mem_cons_self)
      (.next s t c) List.mem_cons_self
  have hpop := Store.pop_of_not_top (f := (s.push t c).1.id) (s := s₃) (t := t) (c := c)
    (by rw [htop]; exact fun heq => hne (Option.some.inj heq))
  rw [hpop, hsymbol, htop]

/-- Another overridden variable without leftovers, after the inner scopes have been left. -/
theorem inner_scopes {s₃ : Store}
    (hrest : Unwound t rest extra ((s.push t c).2.write t c v).2 s₂ s₃) {d : CellId}
    (hd : d ∈ ((c, v) :: rest).map Prod.fst) (hdc : d ≠ c) (hnone : extra d = []) :
    s₃.stack t d = s.stack t d ∧
      (s.kind d = .root ∨ s.isBound t d = true → s₃.read t d = s.read t d) := by
  have hsame : SameAt d s ((s.push t c).2.write t c v).2 :=
    (s.sameAt_push t hdc).trans (Store.sameAt_write _ t hdc v)
  have hd' : d ∈ rest.map Prod.fst := by simpa [hdc] using hd
  refine ⟨(hrest.stack d hd' hnone).trans (hsame.stack t), fun hvis => ?_⟩
  rw [← hsame.kind, ← hsame.isBound] at hvis
  exact (hrest.read d hd' hnone hvis).trans (hsame.read t)

/-- After the turn of a pair with leftovers all is as the inner scopes left it. -/
theorem unwound_rejected {s₃ : Store}
    (hrest : Unwound t rest extra ((s.push t c).2.write t c v).2 s₂ s₃) (hextra : extra c ≠ []) :
    Unwound t ((c, v) :: rest) extra s s₂ s₃ := by
  have hother : ∀ d, extra d = [] → d ≠ c := by
    rintro d hnone rfl
    exact hextra hnone
  refine ⟨hrest.wellFormed, hrest.symbol, hrest.kind, fun d hd => hrest.untouched d ?_, ?_, ?_⟩
  · rw [List.map_cons, List.mem_cons, not_or] at hd
    exact hd.imp And.right id
  · exact fun d hd hnone => (inner_scopes hrest hd (hother d hnone) hnone).1
  · exact fun d hd hnone => (inner_scopes hrest hd (hother d hnone) hnone).2

/-- After the turn of a pair without leftovers the variable of the pair is given back too. -/
theorem unwound_closed (hs : s.WellFormed) (h : BodyLeft t ((c, v) :: rest) extra s s₂)
    {s₃ s₄ : Store} (hrest : Unwound t rest extra ((s.push t c).2.write t c v).2 s₂ s₃)
    (hextra : extra c = []) (htop : s₃.stack t c = (s.stack t c).push (s.push t c).1)
    {r : Replaced} (hpop : s₃.pop t c (s.push t c).1.id = .ok (r, s₄)) :
    Unwound t ((c, v) :: rest) extra s s₂ s₄ := by
  refine ⟨hrest.wellFormed.pop hpop, fun d => ?_, fun d => ?_, fun d hd => ?_, ?_, ?_⟩
  · exact (Store.symbol_pop hpop d).trans (hrest.symbol d)
  · exact (Store.kind_pop hpop d).trans (hrest.kind d)
  · have hdc : d ≠ c := by
      rintro rfl
      simp [hextra] at hd
    refine (hrest.untouched d ?_).trans (Store.sameAt_pop hdc hpop)
    rw [List.map_cons, List.mem_cons, not_or] at hd
    exact hd.imp And.right id
  · intro d hd hnone
    by_cases hdc : d = c
    · subst hdc
      exact Store.stack_pop_top htop hpop (.inr rfl)
    · rw [(Store.sameAt_pop hdc hpop).stack]
      exact (inner_scopes hrest hd hdc hnone).1
  · intro d hd hnone hvis
    by_cases hdc : d = c
    · subst hdc
      rw [((hrest.wellFormed _).read_pop htop hpop).1 ?_, (hs _).saved_push]
      rw [hrest.kind, h.kind]
      exact hs.has_frame hvis
    · rw [(Store.sameAt_pop hdc hpop).read]
      exact (inner_scopes hrest hd hdc hnone).2 hvis

/-- The turn of a pair, whether its variable has leftovers or not. -/
theorem unwound_turn (hs : s.WellFormed) (h : BodyLeft t ((c, v) :: rest) extra s s₂)
    {s₃ : Store} (hrest : Unwound t rest extra ((s.push t c).2.write t c v).2 s₂ s₃) :
    Unwound t ((c, v) :: rest) extra s s₂ (s₃.close t c (s.push t c).1.id) ∧
      Guard.rejection t (.next s t c) s₃ = Guard.leftoverFault (.next s t c) extra s₂ := by
  obtain ⟨hfree, hbusy⟩ := h.stack_turn hrest
  unfold Guard.rejection Guard.leftoverFault
  cases hextra : extra c with
  | cons frame more =>
    have hsome : extra c ≠ [] := by
      rw [hextra]
      exact nofun
    have hpop := h.reject_turn (hbusy hsome) (hrest.symbol c) hextra
    rw [Store.close_of_error hpop]
    refine ⟨unwound_rejected hrest hsome, ?_⟩
    simp only [Guard.next, hpop, hextra]
  | nil =>
    have htop := hfree hextra
    obtain ⟨r, s₄, hpop⟩ := Store.pop_of_top htop
    rw [Store.close_of_ok hpop]
    refine ⟨unwound_closed hs h hrest hextra htop hpop, ?_⟩
    simp only [Guard.next, hpop, hextra]

end BodyLeft

/-- What comes of leaving the scopes, one after another, and which of them are rejected. -/
theorem unwound_opened {t : ThreadId} {set : Overrides} {extra : CellId → List Frame}
    {s s₂ : Store} (hs : s.WellFormed) (h : BodyLeft t set extra s s₂) :
    Unwound t set extra s s₂ (Guard.closeAll t (Overrides.opened t set s).1 s₂) ∧
      Guard.rejections t (Overrides.opened t set s).1 s₂ =
        (Overrides.opened t set s).1.map fun g => g.leftoverFault extra s₂ := by
  induction set generalizing s with
  | nil =>
    refine ⟨⟨h.wellFormed, fun _ => rfl, fun _ => rfl, fun d _ => .refl d s₂, ?_, ?_⟩, rfl⟩
    · exact fun d hd => nomatch hd
    · exact fun d hd => nomatch hd
  | cons pair rest ih =>
    obtain ⟨c, v⟩ := pair
    -- The inner scopes are left first, and the turn of this pair finds what they leave.
    obtain ⟨hrest, hfaults⟩ := ih ((hs.push t c).write t c v) h.tail
    obtain ⟨hunwound, hfault⟩ := h.unwound_turn hs hrest
    refine ⟨hunwound, ?_⟩
    simp only [Overrides.opened, Guard.rejections, List.map_cons, hfaults, hfault]

end ScopedBinding
