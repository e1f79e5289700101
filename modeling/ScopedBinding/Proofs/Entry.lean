import ScopedBinding.Proofs.Conveyance
import ScopedBinding.Proofs.Precedence

/-!
# What a body finds

While overrides are put in place around a body, each pair opens a frame that saves the value its thread
sees and then sets the value of the pair. A variable may occur in several pairs, and then each of its
frames saves the value of the pair before (`Overrides.frames_opened`), and the value of the last pair is
the one that the body sees (`Overrides.read_last`).

The facts about the store are by induction on the pairs, where the first pair is done and the rest goes
on from there. `Overrides.Entered` collects them.
-/

set_option autoImplicit false

namespace ScopedBinding

open Act (Ends)
open Store (SameAt Confined)

/-! ## One pair -/

namespace Store

variable {s : Store} {t : ThreadId} {c : CellId}

/-- Without a binding the root is set. -/
theorem write_of_unbound (h : s.binding? t c = none) (v : Value) :
    s.write t c v = s.setRoot c v := by
  unfold write
  rw [h]

/-- Inside an override of a variable with a root for all threads everybody sees the value. -/
theorem WellFormed.override_root (hs : s.WellFormed) (hk : s.kind c = .root) (t u : ThreadId)
    (v : Value) :
    ((s.push t c).2.write t c v).2.read u c = v := by
  have hpush := hs.push t c
  have hk' : (s.push t c).2.kind c = .root := (s.kind_push t c c).trans hk
  have hunbound : (s.push t c).2.binding? t c = none := (hpush c).unbound t hk'
  have hcell : ((s.push t c).2.cell? c).isSome = true := by
    have hstorage := storage_of_root hk' t
    cases hc : (s.push t c).2.cell? c with
    | none => simp [hc] at hstorage
    | some cell => rfl
  have hwrite := (hpush.write t c v) c
  have hkind : ((s.push t c).2.write t c v).2.kind c = .root :=
    ((s.push t c).2.keepsStacks_write t c v).kind c |>.trans hk'
  rw [hwrite.read_of_root hkind u, write_of_unbound hunbound]
  exact root_updateCell_self hcell fun _ => rfl

/-- Inside an override the thread sees the value. -/
theorem WellFormed.override_read (hs : s.WellFormed) (t : ThreadId) (c : CellId) (v : Value) :
    ((s.push t c).2.write t c v).2.read t c = v := by
  cases hk : s.kind c with
  | root => exact hs.override_root hk t t v
  | dynamic => exact (Overrides.override_dynamic hk t v).2

/-- An override makes no binding of another thread. -/
theorem WellFormed.override_binding (hs : s.WellFormed) {u : ThreadId} (hu : u ≠ t) (c d : CellId)
    (v : Value) :
    ((s.push t c).2.write t c v).2.binding? u d = s.binding? u d := by
  cases hk : s.kind c with
  | root =>
    have hk' : (s.push t c).2.kind c = .root := (s.kind_push t c c).trans hk
    have hunbound : (s.push t c).2.binding? t c = none := (hs.push t c c).unbound t hk'
    rw [write_of_unbound hunbound, push_of_root hk t]
    rfl
  | dynamic => exact (Overrides.override_dynamic hk t v).1.binding u d hu

/-- An override leaves the root of every dynamic variable. -/
theorem override_dynamic_root {d : CellId} (hd : s.kind d = .dynamic) (t : ThreadId) (c : CellId)
    (v : Value) : ((s.push t c).2.write t c v).2.root d = s.root d := by
  by_cases hdc : d = c
  · subst hdc
    exact (Overrides.override_dynamic hd t v).1.root d
  · exact ((s.sameAt_push t hdc).trans (sameAt_write _ t hdc v)).root

end Store

/-! ## All pairs -/

namespace Overrides

/-- The values that overrides give a variable, in order. -/
def values (c : CellId) (set : Overrides) : List Value :=
  (set.filter fun pair => pair.1 = c).map Prod.snd

/-- No pair gives no value. -/
@[simp]
theorem values_nil (c : CellId) : values c [] = [] :=
  rfl

/-- A pair gives its value to its own variable. -/
@[simp]
theorem values_cons (c d : CellId) (v : Value) (rest : Overrides) :
    values c ((d, v) :: rest) = if d = c then v :: values c rest else values c rest := by
  unfold values
  by_cases hd : d = c <;> simp [hd]

/-- The numbers of the frames of guards that belong to a variable, in order. -/
def framesOf (c : CellId) (gs : List Guard) : List FrameId :=
  (gs.filter fun g => g.cell = c).map Guard.frame

variable {s : Store} {t : ThreadId}

/-- The frames of the pairs are numbered in order. -/
theorem frames_numbered (t : ThreadId) (set : Overrides) (s : Store) :
    (opened t set s).1.map Guard.frame =
      (List.range' s.framesIssued set.length).map .afterIssued := by
  induction set generalizing s with
  | nil => rfl
  | cons pair rest ih =>
    obtain ⟨c, v⟩ := pair
    simp only [opened, List.map_cons, List.length_cons, List.range'_succ, ih,
      Store.framesIssued_write, Store.framesIssued_push]
    rw [← s.push_fst_id t c]
    rfl

/-- Numbers that are given out in order increase, as long as there are words for them. -/
theorem afterIssued_increasing {n k : Nat} (h : n + k < 2 ^ 64) :
    ((List.range' n k).map fun i => (FrameId.afterIssued i).val).Pairwise (· < ·) := by
  rw [List.pairwise_map]
  refine List.Pairwise.imp_of_mem ?_ (List.pairwise_lt_range' (s := n) (n := k))
  intro i j hi hj hlt
  have hj' := List.mem_range'_1.1 hj
  rw [UInt64.lt_iff_toNat_lt]
  simp only [FrameId.afterIssued, UInt64.toNat_ofNat']
  omega

/-- The thread sees the value of the last pair of a variable. -/
theorem read_last (hs : s.WellFormed) (t : ThreadId) (set : Overrides) (c : CellId) :
    (opened t set s).2.read t c = (values c set).getLastD (s.read t c) := by
  induction set generalizing s with
  | nil => rfl
  | cons pair rest ih =>
    obtain ⟨d, v⟩ := pair
    have hrest := ih ((hs.push t d).write t d v)
    simp only [opened, values_cons, hrest]
    by_cases hd : d = c
    · subst hd
      rw [if_pos rfl, hs.override_read, List.getLastD_cons]
    · have hc : c ≠ d := fun heq => hd heq.symm
      rw [if_neg hd, ((s.sameAt_push t hc).trans (Store.sameAt_write _ t hc v)).read]

/-- Everybody sees the value of the last pair of a variable with a root for all threads. -/
theorem read_last_root (hs : s.WellFormed) {c : CellId} (hk : s.kind c = .root) (t u : ThreadId)
    (set : Overrides) :
    (opened t set s).2.read u c = (values c set).getLastD (s.read u c) := by
  have hkind : (opened t set s).2.kind c = .root := (kind_opened t set s c).trans hk
  have hsame := read_last hs t set c
  rw [(wellFormed_opened hs t set c).read_of_root hkind, (hs c).read_of_root hk] at hsame ⊢
  exact hsame

/-- Each pair of a variable has opened a frame on the stack that the thread sees. The first of them saves
the value from before, and each further one the value of the pair before. -/
theorem frames_opened (hs : s.WellFormed) (t : ThreadId) (set : Overrides) (c : CellId) :
    ∃ new : List Frame,
      ((opened t set s).2.stack t c).frames = new.reverse ++ (s.stack t c).frames ∧
      new.map Frame.saved = (s.read t c :: values c set).dropLast ∧
      new.map Frame.id = framesOf c (opened t set s).1 := by
  induction set generalizing s with
  | nil => exact ⟨[], rfl, rfl, rfl⟩
  | cons pair rest ih =>
    obtain ⟨d, v⟩ := pair
    obtain ⟨new, hstack, hsaved, hids⟩ := ih ((hs.push t d).write t d v)
    by_cases hd : d = c
    · subst hd
      rw [hs.override_read] at hsaved
      refine ⟨(s.push t d).1 :: new, ?_, ?_, ?_⟩
      · simp only [opened, hstack, stack_pushed, FrameStack.push, List.reverse_cons,
          List.append_assoc, List.singleton_append]
      · rw [List.map_cons, hsaved, (hs d).saved_push, values_cons, if_pos rfl, List.dropLast_cons_cons]
      · simp [framesOf, opened, Guard.next, hids]
    · have hc : c ≠ d := fun heq => hd heq.symm
      have hsame : SameAt c s ((s.push t d).2.write t d v).2 :=
        (s.sameAt_push t hc).trans (Store.sameAt_write _ t hc v)
      rw [hsame.stack] at hstack
      rw [hsame.read] at hsaved
      refine ⟨new, hstack, ?_, ?_⟩
      · rw [hsaved, values_cons, if_neg hd]
      · simp [framesOf, opened, Guard.next, hd, hids]

/-- The bindings of other threads are as before. -/
theorem binding_opened (hs : s.WellFormed) {u : ThreadId} (hu : u ≠ t) (set : Overrides)
    (c : CellId) : (opened t set s).2.binding? u c = s.binding? u c := by
  induction set generalizing s with
  | nil => rfl
  | cons pair rest ih =>
    obtain ⟨d, v⟩ := pair
    exact (ih ((hs.push t d).write t d v)).trans (hs.override_binding hu d c v)

/-- The root of a dynamic variable is as before. -/
theorem root_opened {c : CellId} (hk : s.kind c = .dynamic) (t : ThreadId) (set : Overrides) :
    (opened t set s).2.root c = s.root c := by
  induction set generalizing s with
  | nil => rfl
  | cons pair rest ih =>
    obtain ⟨d, v⟩ := pair
    have hkind : ((s.push t d).2.write t d v).2.kind c = .dynamic := by
      rw [(Store.keepsStacks_write _ t d v).kind, Store.kind_push, hk]
    exact (ih hkind).trans (Store.override_dynamic_root hk t d v)

/-- A store in which overrides are in place, with their guards. -/
structure Entered (t : ThreadId) (set : Overrides) (s : Store) (gs : List Guard) (s' : Store) :
    Prop where
  /-- There is a guard for each pair, in order. -/
  cells : gs.map Guard.cell = set.map Prod.fst
  /-- Their frames have the next numbers, and no others have been used. -/
  numbers : gs.map Guard.frame = (List.range' s.framesIssued set.length).map .afterIssued
  issued : s'.framesIssued = s.framesIssued + set.length
  increasing : s.framesIssued + set.length < 2 ^ 64 →
    (gs.map fun g => g.frame.val).Pairwise (· < ·)
  /-- The thread sees the value of the last pair of each variable. -/
  value : ∀ c v, (values c set).getLast? = some v → s'.read t c = v
  /-- Everybody does if the variable has a root for all threads. -/
  shared : ∀ c v, s.kind c = .root → (values c set).getLast? = some v → ∀ u, s'.read u c = v
  /-- A frame has been opened for each pair. -/
  depth : ∀ c, s'.depth t c = s.depth t c + (values c set).length
  /-- The first frame of a variable has saved the value from before, and each further one the value of
  the pair before. -/
  saved : ∀ c, ∃ new : List Frame, (s'.stack t c).frames = new.reverse ++ (s.stack t c).frames ∧
    new.map Frame.saved = (s.read t c :: values c set).dropLast ∧
    new.map Frame.id = framesOf c gs
  /-- Roots of dynamic variables and bindings of other threads are as before. -/
  roots : ∀ c, s.kind c = .dynamic → s'.root c = s.root c
  bindings : ∀ u c, u ≠ t → s'.binding? u c = s.binding? u c
  /-- So is everything about a variable without a pair. -/
  outside : ∀ c, c ∉ set.map Prod.fst → SameAt c s s'

/-- The store after all overrides is what the body finds. -/
theorem entered_opened (hs : s.WellFormed) (t : ThreadId) (set : Overrides) :
    Entered t set s (opened t set s).1 (opened t set s).2 := by
  have hnumbers := frames_numbered t set s
  have hlast : ∀ {c v} {d : Value}, (values c set).getLast? = some v →
      (values c set).getLastD d = v := by
    intro c v d hv
    rw [List.getLastD_eq_getLast?, hv]
    rfl
  refine ⟨opened_cells t set s, hnumbers, framesIssued_opened t set s, fun hn => ?_,
    fun c v hv => ?_, fun c v hk hv u => ?_, fun c => ?_, frames_opened hs t set,
    fun c hk => root_opened hk t set, fun u c hu => binding_opened hs hu set c,
    fun c hc => sameAt_opened s hc⟩
  · have hvals := congrArg (List.map FrameId.val) hnumbers
    rw [List.map_map, List.map_map] at hvals
    show ((opened t set s).1.map (FrameId.val ∘ Guard.frame)).Pairwise (· < ·)
    rw [hvals]
    exact afterIssued_increasing hn
  · rw [read_last hs, hlast hv]
  · rw [read_last_root hs hk, hlast hv]
  · obtain ⟨new, hstack, hsaved, -⟩ := frames_opened hs t set c
    have hlength := congrArg List.length hsaved
    simp only [List.length_map, List.length_dropLast, List.length_cons] at hlength
    unfold Store.depth FrameStack.depth
    rw [hstack, List.length_append, List.length_reverse]
    omega

end Overrides

/-! ## Where the body runs -/

/-- An action around a body gets from a world to another one, where it runs the body. What it comes to
depends on the body by that run only, and it is over when the body is. -/
def Act.Enters {η ε α β : Type} (around : Act η ε α → Act η ε β) (ctx : Context) (w v : World η ε) :
    Prop :=
  ∃ leave : Outcome α × World η ε → Outcome β × World η ε,
    (∀ body, around body ctx w = leave (body ctx v)) ∧
    ∀ v', leave (.halted, v') = (.halted, v')

namespace Act.Enters

variable {η ε α β γ : Type} {around : Act η ε α → Act η ε β} {ctx : Context} {w v : World η ε}

/-- The body itself. -/
theorem self (ctx : Context) (w : World η ε) : Enters (fun body : Act η ε α => body) ctx w w :=
  ⟨id, fun _ => rfl, fun _ => rfl⟩

/-- It makes no difference what has been done up to some world. -/
theorem of_eq (h : Enters around ctx w v) {around' : Act η ε α → Act η ε β} {w' : World η ε}
    (heq : ∀ body, around' body ctx w' = around body ctx w) : Enters around' ctx w' v := by
  obtain ⟨leave, hleave, hhalt⟩ := h
  exact ⟨leave, fun body => (heq body).trans (hleave body), hhalt⟩

/-- Something that comes after the body. -/
theorem bind (h : Enters around ctx w v) (next : β → Act η ε γ) :
    Enters (fun body => around body >>= next) ctx w v := by
  obtain ⟨leave, hleave, hhalt⟩ := h
  refine ⟨fun run => Act.bind (fun _ _ => leave run) next ctx w, fun body => ?_, fun v' => ?_⟩
  · dsimp only
    rw [← hleave]
    rfl
  · exact Act.bind_of_halted (hhalt v')

/-- A cleanup around the body. -/
theorem onUnwind (h : Enters around ctx w v) (cleanup : Act η ε Unit) :
    Enters (fun body => Act.onUnwind (around body) cleanup) ctx w v := by
  obtain ⟨leave, hleave, hhalt⟩ := h
  refine ⟨fun run => Act.onUnwind (fun _ _ => leave run) cleanup ctx w, fun body => ?_,
    fun v' => ?_⟩
  · dsimp only
    rw [← hleave]
    rfl
  · exact Act.onUnwind_of_halted (hhalt v')

end Act.Enters

section Runs

variable {υ ε α β : Type} {deliver : Delivery (Hands υ) ε}

namespace Overrides

/-- When the scopes of overrides are open the body runs. -/
theorem around_enters (discard : α → Act (Hands υ) ε Unit) {set : Overrides} {ctx : Context}
    {w v : World (Hands υ) ε} {gs : List Guard}
    (hopen : openAll deliver set ctx w = (.done gs, v)) :
    Act.Enters (fun body : Act (Hands υ) ε α => around deliver discard set body) ctx w v := by
  induction set generalizing w gs with
  | nil =>
    cases hopen
    exact (Act.Enters.self ctx v).bind fun a => pure (a, none)
  | cons pair rest ih =>
    obtain ⟨c, x⟩ := pair
    obtain ⟨v₁, inner, hwrite, hinner, rfl⟩ := openAll_cons hopen
    have hinside := (ih hinner).of_eq fun body => hwrite (around deliver discard rest body)
    let g : Guard := .next w.store ctx.thread c
    refine ((hinside.onUnwind (g.drop deliver)).bind fun ends => do
      return (ends.1, ends.2.or
        (← Act.onUnwind (finish deliver g) (discard ends.1)))).of_eq fun body => ?_
    exact around_cons deliver discard c x rest body ctx w

/-- With watches that only observe and always return the scopes of overrides are opened. The body starts
when the entry has been logged. -/
theorem enter_enters (hd : deliver.Still) (hreturns : ∀ w e, Ends Ending.Returns (deliver w e))
    (set : Overrides) (ctx : Context) (w : World (Hands υ) ε) :
    ∃ v, v.store = (opened ctx.thread set w.store).2 ∧
      ∀ {α : Type} (discard : α → Act (Hands υ) ε Unit),
        Act.Enters (fun body : Act (Hands υ) ε α => enter deliver discard set body) ctx w v := by
  have hopens := openAll_ends Ending.done_returns hreturns set
  obtain ⟨gs, hopen⟩ := Outcome.done_of_ending (hopens ctx w)
  obtain ⟨-, hstore⟩ := openAll_still hd hopen
  let entering : Act (Hands υ) ε Unit := logEntering set.length
  refine ⟨(entering ctx (openAll deliver set ctx w).2).2, hstore, fun discard => ?_⟩
  obtain ⟨leave, hleave, hhalt⟩ := around_enters discard hopen
  refine ⟨leave, fun body => ?_, hhalt⟩
  exact (congrArg (· ctx w) (enter_eq deliver discard set body)).trans (hleave (do entering; body))

end Overrides

/-- What a body finds inside overrides. The set is arbitrary, with variables of either kind in any order
and as often as one likes; the watches only observe and never panic.

Then the overrides are put in place and the body runs, whatever it is, and it finds the store described
by `Overrides.Entered`:

* of each variable of the set the thread sees the value of the last pair, and of a variable with a root
  for all threads everybody does;
* each pair has opened a frame on the stack of its variable; the first frame has saved the value from
  before, and each further one that of the pair before;
* the roots of dynamic variables, the bindings of other threads, and the variables without a pair are
  as before;
* one frame number has been used for each pair, in order.

A body that may fail finds the same. What becomes of a result that nobody gets is up to the program. -/
theorem body_finds (hd : deliver.Still) (hreturns : ∀ w e, Ends Ending.Returns (deliver w e))
    (set : Overrides) (ctx : Context) (w : World (Hands υ) ε) (hw : w.store.WellFormed) :
    ∃ gs s', Overrides.Entered ctx.thread set w.store gs s' ∧
      (∃ v, v.store = s' ∧ ∀ {α : Type} (discard : α → Act (Hands υ) ε Unit), Act.Enters
        (fun body : Act (Hands υ) ε α => Overrides.run deliver discard set body) ctx w v) ∧
      ∃ v, v.store = s' ∧ ∀ {α β : Type} (discard : Except β α → Act (Hands υ) ε Unit)
        (ofFault : Fault → β), Act.Enters (fun body : Act (Hands υ) ε (Except β α) =>
          Overrides.tryRun deliver discard ofFault set body) ctx w v := by
  refine ⟨_, _, Overrides.entered_opened hw ctx.thread set, ?_, ?_⟩
  · obtain ⟨v, hstore, henter⟩ := Overrides.enter_enters hd hreturns set ctx w
    refine ⟨v, hstore, fun discard => ?_⟩
    simp only [Overrides.run_eq]
    exact (henter discard).bind _
  · -- The policy is read first, which leaves the store as it is.
    obtain ⟨v, hstore, henter⟩ := Overrides.enter_enters hd hreturns set ctx w.afterPolicy
    refine ⟨v, hstore, fun discard ofFault => ?_⟩
    refine ((henter discard).bind
      (Overrides.trySettle discard ofFault w.settings.policy)).of_eq fun body => ?_
    rw [Overrides.tryRun_eq]
    exact Act.bind_of_done (Settings.current_decides ctx w)

end Runs

/-- Watches that count what they are told. -/
def Rules.counting : Rules Nat Unit :=
  fun _ _ => .call (.own (· + 1))

/-- A world in which both variables are watched and nothing has been counted. -/
def World.counted : World (Hands Nat) Unit :=
  .start World.watchedBoth.store 0

/-- Overrides of both variables, where the dynamic one is overridden twice. -/
def Overrides.twiceFirst : Overrides :=
  [(⟨0⟩, .int 3), (⟨1⟩, .int 4), (⟨0⟩, .int 5)]

/-- A body inside them sees the last value of the dynamic variable under two frames, and another thread
sees the value of the shared one. -/
theorem twiceFirst_found : ∃ gs s',
    Overrides.Entered ⟨0⟩ .twiceFirst World.counted.store gs s' ∧
    (∃ v, v.store = s' ∧ Act.Enters (fun body : Act (Hands Nat) Unit Unit =>
      Overrides.run (Rules.counting.deliver 1) Act.skip .twiceFirst body) ⟨⟨0⟩, false⟩ .counted v) ∧
    s'.read ⟨0⟩ ⟨0⟩ = .int 5 ∧ s'.depth ⟨0⟩ ⟨0⟩ = 2 ∧ s'.read ⟨1⟩ ⟨1⟩ = .int 4 := by
  have hstill : (Rules.counting.deliver 1).Still := fun _ _ _ _ => rfl
  have hreturns : ∀ w e, Ends Ending.Returns (Rules.counting.deliver 1 w e) := fun _ _ _ _ => rfl
  obtain ⟨gs, s', hentered, ⟨v, hstore, hruns⟩, -⟩ :=
    body_finds hstill hreturns .twiceFirst ⟨⟨0⟩, false⟩ World.counted World.watchedBoth_wellFormed
  refine ⟨gs, s', hentered, ⟨v, hstore, hruns Act.skip⟩, ?_, ?_, ?_⟩
  · exact hentered.value ⟨0⟩ (.int 5) (by decide +kernel)
  · exact (hentered.depth ⟨0⟩).trans (by decide +kernel)
  · exact hentered.shared ⟨1⟩ (.int 4) (by decide +kernel) (by decide +kernel) ⟨1⟩

end ScopedBinding
