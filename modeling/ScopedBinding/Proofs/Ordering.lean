import Mathlib.Data.List.Forall2
import ScopedBinding.Proofs.Attending
import ScopedBinding.Proofs.Conveyance

/-!
# The order in which overrides are given back

Overrides are put in place one after another, with one event for each write, and given back in the
opposite order, with one event for each restoration. This is so on every way out: when the body ends
with a value or panics, when a watch panics at a write, and when a watch panics at a restoration, where
the frame is tried once more and that is rejected.

`Overrides.Opening` says how far the overrides come to be put in place. What is inside then is the body,
or nothing but the panic of a watch; either way the same happens on the way out
(`Overrides.around_in_order`), by induction over the overrides that are in place. If a watch panics at a
restoration the value of the body goes away in between (`Overrides.Interleaved`). The overrides further out
are given back as if it had not, since it leaves their variables alone.
-/

set_option autoImplicit false

namespace ScopedBinding

open Act (Leads Ends)

/-! ## The turn of an override -/

namespace Store

variable {s : Store} {t : ThreadId} {c d : CellId} {f : FrameId}

/-- Closing a frame changes no kind. -/
theorem kind_close (s : Store) (t : ThreadId) (c : CellId) (f : FrameId) (d : CellId) :
    (s.close t c f).kind d = s.kind d := by
  cases hp : s.pop t c f with
  | error fault => rw [close_of_error hp]
  | ok result => rw [close_of_ok hp, kind_pop hp]

/-- Closing frames changes no root of a dynamic variable. -/
theorem root_close (hk : s.kind d = .dynamic) (t : ThreadId) (c : CellId) (f : FrameId) :
    (s.close t c f).root d = s.root d := by
  by_cases hd : d = c
  · subst hd
    exact (confined_close hk t f).root d
  · exact (s.sameAt_close t f hd).root

/-- Closing many frames changes no root of a dynamic variable. -/
theorem root_closeAll (hk : s.kind d = .dynamic) (t : ThreadId) (gs : List Guard) :
    (Guard.closeAll t gs s).root d = s.root d := by
  have hboth : (Guard.closeAll t gs s).kind d = .dynamic ∧
      (Guard.closeAll t gs s).root d = s.root d := by
    induction gs with
    | nil => exact ⟨hk, rfl⟩
    | cons g gs ih =>
      obtain ⟨hkind, hroot⟩ := ih
      constructor
      · exact (kind_close _ t g.cell g.frame d).trans hkind
      · exact (root_close hkind t g.cell g.frame).trans hroot
  exact hboth.2

end Store

namespace Overrides

/-- An override with the store that it is put in place on. -/
structure Stage where
  cell : CellId
  value : Value
  before : Store

/-- Overrides with the stores that they are put in place on, one after another. -/
def stages (t : ThreadId) : Overrides → Store → List Stage
  | [], _ => []
  | (c, v) :: rest, s => ⟨c, v, s⟩ :: stages t rest ((s.push t c).2.write t c v).2

namespace Stage

/-- The event of the write that puts an override in place. -/
structure Wrote (t : ThreadId) (stage : Stage) (e : ThreadId × Event) : Prop where
  thread : e.1 = t
  cell : e.2.cell = stage.cell
  change : e.2.change = .write
  old : e.2.old = stage.before.read t stage.cell
  new : e.2.new = stage.value

/-- The value that is given back: what the thread saw just before the override, or the root that the
variable has by now, if it is dynamic and the thread had not bound it. -/
def returned (t : ThreadId) (now : Store) (stage : Stage) : Value :=
  if stage.before.kind stage.cell = .dynamic ∧ stage.before.isBound t stage.cell = false then
    now.root stage.cell
  else stage.before.read t stage.cell

/-- The event of the restoration that takes an override away. -/
structure GaveBack (t : ThreadId) (now : Store) (stage : Stage) (e : ThreadId × Event) : Prop where
  thread : e.1 = t
  cell : e.2.cell = stage.cell
  change : e.2.change = .restore
  new : e.2.new = stage.returned t now

end Stage

end Overrides

open Overrides (Stage stages)

/-- When the turn of an override comes its frame is innermost, and closing it gives back what the
override has replaced. -/
theorem BodyLeft.turn {t : ThreadId} {c : CellId} {x : Value} {rest : Overrides} {s s₂ : Store}
    (hs : s.WellFormed) (hn : s.framesIssued < 2 ^ 64)
    (hleft : BodyLeft t ((c, x) :: rest) (fun _ => []) s s₂) :
    ∃ r, (Guard.closeAll t (Overrides.opened t rest ((s.push t c).2.write t c x).2).1 s₂).Closable
        t (.next s t c) r (Guard.closeAll t (Overrides.opened t ((c, x) :: rest) s).1 s₂) ∧
      r.new = Stage.returned t s₂ ⟨c, x, s⟩ := by
  have hs' := (hs.push t c).write t c x
  obtain ⟨hrest, -⟩ := unwound_opened hs' hleft.tail
  have hopened : Guard.closeAll t (Overrides.opened t ((c, x) :: rest) s).1 s₂ =
      (Guard.closeAll t (Overrides.opened t rest ((s.push t c).2.write t c x).2).1 s₂).close t c
        (s.push t c).1.id := rfl
  have hdynamic : s.kind c = .dynamic →
      (Guard.closeAll t (Overrides.opened t rest ((s.push t c).2.write t c x).2).1 s₂).root c =
        s₂.root c := fun hk => Store.root_closeAll ((hleft.kind c).trans hk) t _
  rw [hopened]
  generalize Guard.closeAll t _ s₂ = s₃ at hrest hdynamic
  have htop := (hleft.stack_turn hrest).1 rfl
  have hkind : s₃.kind c = s.kind c := (hrest.kind c).trans (hleft.kind c)
  obtain ⟨r, s₄, hpop⟩ := Store.pop_of_top htop
  obtain ⟨frame, below, -, htop', hcases⟩ := Store.pop_ok_cases hpop
  obtain ⟨rfl, rfl⟩ := FrameStack.push_inj (htop.symm.trans htop')
  refine ⟨r, ⟨rfl, ?_, ?_⟩, ?_⟩
  · rw [Store.close_of_ok hpop]
    exact hpop
  · have hgiven : s₄.stack t c = s.stack t c := Store.stack_pop_top htop hpop (.inr rfl)
    rw [Store.close_of_ok hpop]
    exact hs.pop_again hn hgiven
  · unfold Stage.returned
    dsimp only
    -- The outermost frame of a dynamic variable is that of a thread that had not bound it.
    obtain ⟨hk, rfl, -⟩ | ⟨hk, hempty, rfl, -⟩ | ⟨hk, hframes, rfl, -⟩ := hcases
    · rw [hkind] at hk
      rw [if_neg (fun h => by rw [hk] at h; cases h.1)]
      exact (hs c).saved_push t
    · rw [hkind] at hk
      have hfree : s.isBound t c = false := by
        rw [Bool.eq_false_iff]
        intro hbound
        rw [(hs.isBound_iff hk t).1 hbound] at hempty
        cases hempty
      rw [if_pos ⟨hk, hfree⟩]
      exact hdynamic hk
    · rw [hkind] at hk
      have hbound : s.isBound t c = true := (hs.isBound_iff hk t).2 hframes
      rw [if_neg (fun h => by rw [hbound] at h; cases h.2)]
      exact (hs c).saved_push t

/-! ## Runs of overrides -/

/-- Opening a frame makes no event. -/
theorem World.acquired_events {η ε : Type} (w : World η ε) (t : ThreadId) (c : CellId) :
    (w.acquired t c).events = w.events :=
  rfl

section Runs

variable {υ ε α β : Type} {deliver : Delivery (Hands υ) ε} {ctx : Context}

namespace Overrides

/-- How far overrides come to be put in place, with the events of the writes: all of them, or up to a
write at which a watch panics. -/
inductive Opening (deliver : Delivery (Hands υ) ε) (ctx : Context) :
    Overrides → World (Hands υ) ε → Overrides → List (ThreadId × Event) → Option String →
      World (Hands υ) ε → Prop where
  | nil (w : World (Hands υ) ε) : Opening deliver ctx [] w [] [] none w
  | cons {c : CellId} {x : Value} {rest front : Overrides} {w v₁ v : World (Hands υ) ε}
      {e : Event} {W : List (ThreadId × Event)} {cut : Option String}
      (hwrite : c.write deliver x ctx (w.acquired ctx.thread c) = (.done (), v₁))
      (hevent : v₁.events = w.events ++ [(ctx.thread, e)])
      (hrest : Opening deliver ctx rest v₁ front W cut v) :
      Opening deliver ctx ((c, x) :: rest) w ((c, x) :: front) ((ctx.thread, e) :: W) cut v
  | cut {c : CellId} {x : Value} {rest : Overrides} {w v : World (Hands υ) ε} {e : Event}
      {message : String}
      (hwrite : c.write deliver x ctx (w.acquired ctx.thread c) = (.panicked message, v))
      (hevent : v.events = w.events ++ [(ctx.thread, e)]) :
      Opening deliver ctx ((c, x) :: rest) w [(c, x)] [(ctx.thread, e)] (some message) v

/-- What is inside the overrides that are in place: the body, or the panic of a watch. -/
def inside (cut : Option String) (body : Act (Hands υ) ε α) : Act (Hands υ) ε α :=
  match cut with
  | none => body
  | some message => Act.panic message

namespace Opening

variable {set front : Overrides} {W : List (ThreadId × Event)} {cut : Option String}
  {w v : World (Hands υ) ε}

/-- Overrides come to be put in place up to some point, since the watches do not end the run. -/
theorem exists_opening (hd : deliver.Attends) (set : Overrides) (w : World (Hands υ) ε) :
    ∃ front W cut v, Opening deliver ctx set w front W cut v := by
  induction set generalizing w with
  | nil => exact ⟨[], [], none, w, .nil w⟩
  | cons pair rest ih =>
    obtain ⟨c, x⟩ := pair
    obtain ⟨-, e, hevent, -⟩ := c.write_attended hd x ctx (w.acquired ctx.thread c)
    have hsurvives := c.write_ends Ending.done_survives hd.survives x ctx
      (w.acquired ctx.thread c)
    cases hwrite : c.write deliver x ctx (w.acquired ctx.thread c) with
    | mk o v₁ =>
    rw [hwrite] at hevent hsurvives
    cases o with
    | done _ =>
      obtain ⟨front, W, cut, v, hrest⟩ := ih v₁
      exact ⟨_, _, cut, v, .cons hwrite hevent hrest⟩
    | panicked message => exact ⟨_, _, some message, v₁, .cut hwrite hevent⟩
    | halted => exact absurd rfl hsurvives

/-- Each override in place has made one event, in order, and the store is that inside them. -/
theorem wrote (hd : deliver.Attends) (h : Opening deliver ctx set w front W cut v) :
    v.store = (opened ctx.thread front w.store).2 ∧ v.events = w.events ++ W ∧
      List.Forall₂ (Stage.Wrote ctx.thread) (stages ctx.thread front w.store) W := by
  induction h with
  | nil w => exact ⟨rfl, (List.append_nil _).symm, .nil⟩
  | @cons c x rest front w v₁ v e W cut hwrite hevent hrest ih =>
    obtain ⟨hstore, e', hevent', hcell, hchange, hold, hnew⟩ :=
      c.write_attended hd x ctx (w.acquired ctx.thread c)
    rw [hwrite] at hstore hevent'
    have heq : (ctx.thread, e) = (ctx.thread, e') := by
      simpa [World.acquired_events] using hevent.symm.trans hevent'
    obtain ⟨-, rfl⟩ := Prod.mk.inj heq
    have hfirst : Stage.Wrote ctx.thread ⟨c, x, w.store⟩ (ctx.thread, e) :=
      ⟨rfl, hcell, hchange, hold.trans (w.store.read_push ctx.thread ctx.thread c c), hnew⟩
    obtain ⟨hstore', hevents, hwrote⟩ := ih
    have hset : v₁.store = ((w.store.push ctx.thread c).2.write ctx.thread c x).2 := hstore
    rw [hset] at hstore' hwrote
    refine ⟨hstore', ?_, .cons hfirst hwrote⟩
    rw [hevents, hevent, List.append_assoc]
    rfl
  | @cut c x rest w v e message hwrite hevent =>
    obtain ⟨hstore, e', hevent', hcell, hchange, hold, hnew⟩ :=
      c.write_attended hd x ctx (w.acquired ctx.thread c)
    rw [hwrite] at hstore hevent'
    have heq : (ctx.thread, e) = (ctx.thread, e') := by
      simpa [World.acquired_events] using hevent.symm.trans hevent'
    obtain ⟨-, rfl⟩ := Prod.mk.inj heq
    refine ⟨hstore, hevent, .cons ?_ .nil⟩
    exact ⟨rfl, hcell, hchange, hold.trans (w.store.read_push ctx.thread ctx.thread c c), hnew⟩

/-- What an opening that is not cut short comes from. -/
theorem of_none (h : Opening deliver ctx set w front W cut v) (hcut : cut = none) :
    front = set ∧ ∃ gs, openAll deliver set ctx w = (.done gs, v) := by
  induction h with
  | nil w => exact ⟨rfl, [], rfl⟩
  | @cons c x rest front w v₁ v e W cut hwrite hevent hrest ih =>
    obtain ⟨rfl, gs, hopen⟩ := ih hcut
    refine ⟨rfl, .next w.store ctx.thread c :: gs, ?_⟩
    unfold openAll
    rw [Act.bind_of_done (Guard.acquire_run c ctx w), Act.bind_of_done hwrite,
      Act.bind_of_done hopen]
    rfl
  | cut => cases hcut

/-- What an opening that is cut short comes from: all overrides up to some point are in place, and at
the next write a watch panics. -/
theorem of_some (h : Opening deliver ctx set w front W cut v) {message : String}
    (hcut : cut = some message) :
    ∃ init c x rest gs v₁, set = init ++ (c, x) :: rest ∧ front = init ++ [(c, x)] ∧
      openAll deliver init ctx w = (.done gs, v₁) ∧
      c.write deliver x ctx (v₁.acquired ctx.thread c) = (.panicked message, v) := by
  induction h with
  | nil w => cases hcut
  | @cons d y rest front w v₁ v e W cut hwrite hevent hrest ih =>
    obtain ⟨init, c, x, last, gs, v₂, rfl, rfl, hopen, hpanic⟩ := ih hcut
    refine ⟨(d, y) :: init, c, x, last, .next w.store ctx.thread d :: gs, v₂, rfl, rfl, ?_, hpanic⟩
    unfold openAll
    rw [Act.bind_of_done (Guard.acquire_run d ctx w), Act.bind_of_done hwrite,
      Act.bind_of_done hopen]
    rfl
  | @cut c x rest w v e message' hwrite hevent =>
    cases hcut
    exact ⟨[], c, x, rest, [], w, rfl, rfl, rfl, hwrite⟩

/-- If putting overrides in place is cut short the body does not come to run, whatever it is. No frame is
opened any more. -/
theorem unreached (hd : deliver.Observes) (h : Opening deliver ctx set w front W cut v)
    {message : String} (hcut : cut = some message) :
    ∃ v', v'.store.framesIssued = v.store.framesIssued ∧
      ∀ {γ : Type} (discard : γ → Act (Hands υ) ε Unit) (other : Act (Hands υ) ε γ),
        around deliver discard set other ctx w = (.panicked message, v') := by
  let unwinding : Context := { ctx with unwinding := true }
  have hissued : ∀ (w : World (Hands υ) ε) c u,
      ((Guard.next w.store ctx.thread c).drop deliver unwinding u).2.store.framesIssued =
        u.store.framesIssued := by
    intro w c u
    rw [Guard.drop_store hd.store rfl]
    exact u.store.framesIssued_close _ _ _
  induction h with
  | nil w => cases hcut
  | @cons c x rest front w v₁ v e W cut hwrite hevent hrest ih =>
    obtain ⟨v', hframes, hinner⟩ := ih hcut
    refine ⟨((Guard.next w.store ctx.thread c).drop deliver unwinding v').2,
      (hissued w c v').trans hframes, ?_⟩
    intro γ discard other
    rw [around_cons]
    exact leave_panicked hd ((Act.bind_of_done hwrite).trans (hinner discard other))
  | @cut c x rest w v e message' hwrite hevent =>
    cases hcut
    refine ⟨((Guard.next w.store ctx.thread c).drop deliver unwinding v).2, hissued w c v, ?_⟩
    intro γ discard other
    rw [around_cons]
    exact leave_panicked hd (Act.bind_of_panicked hwrite)

end Opening

/-- The events `E` that there are while overrides are taken away: those of the restorations, `R`. If a watch
panics at one of these and the body has ended with a value, the value goes away right after it, with events
of its own, and the restorations that are left come last. -/
inductive Interleaved (discard : α → Act (Hands υ) ε Unit) (ctx : Context)
    (inner : Outcome α × World (Hands υ) ε) (run : Outcome β × World (Hands υ) ε) :
    List (ThreadId × Event) → List (ThreadId × Event) → Prop where
  | all (R : List (ThreadId × Event)) : Interleaved discard ctx inner run R R
  | gone {R D R' : List (ThreadId × Event)} {a : α} {message : String} {u : World (Hands υ) ε}
      (value : inner.1 = .done a)
      (panics : run.1 = .panicked message)
      (before : u.events = inner.2.events ++ R)
      (goes : (discard a { ctx with unwinding := true } u).2.events = u.events ++ D) :
      Interleaved discard ctx inner run (R ++ R') (R ++ D ++ R')

namespace Interleaved

variable {γ : Type} {discard : α → Act (Hands υ) ε Unit} {inner : Outcome α × World (Hands υ) ε}
  {run : Outcome β × World (Hands υ) ε} {run' : Outcome γ × World (Hands υ) ε}
  {R E : List (ThreadId × Event)}

/-- The value goes away after the last restoration. -/
theorem last {D : List (ThreadId × Event)} {a : α} {message : String} {u : World (Hands υ) ε}
    (value : inner.1 = .done a) (panics : run.1 = .panicked message)
    (before : u.events = inner.2.events ++ R)
    (goes : (discard a { ctx with unwinding := true } u).2.events = u.events ++ D) :
    Interleaved discard ctx inner run R (R ++ D) := by
  have h : Interleaved discard ctx inner run (R ++ []) (R ++ D ++ []) :=
    .gone value panics before goes
  rwa [List.append_nil, List.append_nil] at h

/-- After a panic there are restorations only. -/
theorem restored (h : Interleaved discard ctx inner run R E)
    (hpanic : ∀ message, run.1 = .panicked message → run'.1 = .panicked message)
    (e : ThreadId × Event) : Interleaved discard ctx inner run' (R ++ [e]) (E ++ [e]) := by
  cases h with
  | all => exact .all _
  | gone value panics before goes =>
    rw [List.append_assoc, List.append_assoc]
    exact .gone value (hpanic _ panics) before goes

/-- What the run does after the restorations makes no difference if it lets panics pass. -/
theorem of_panic (h : Interleaved discard ctx inner run R E)
    (hpanic : ∀ message, run.1 = .panicked message → run'.1 = .panicked message) :
    Interleaved discard ctx inner run' R E := by
  cases h with
  | all => exact .all _
  | gone value panics before goes => exact .gone value (hpanic _ panics) before goes

/-- The value goes away only if there is one and the run panics. -/
theorem eq_of_kept (h : Interleaved discard ctx inner run R E)
    (hkept : ∀ a message, inner.1 = .done a → run.1 ≠ .panicked message) : E = R := by
  cases h with
  | all => rfl
  | gone value panics before goes => exact absurd panics (hkept _ _ value)

/-- If the run has ended with a value nothing went away. -/
theorem eq_of_done (h : Interleaved discard ctx inner run R E) {b : β} (hdone : run.1 = .done b) :
    E = R := by
  apply h.eq_of_kept
  rw [hdone]
  exact nofun

end Interleaved

/-- Overrides that were put in place on a store have been taken away, from where what was inside them
ended: in the opposite order, each with one event. The run goes on as what was inside, if no watch panics;
and what the thread sees of a variable that is overridden further out is what the closing of the frames
makes of it. -/
structure TakenAway (discard : α → Act (Hands υ) ε Unit) (gs : List Guard) (ctx : Context)
    (front : Overrides) (s : Store) (inner : Outcome α × World (Hands υ) ε)
    (run : Outcome (α × Option Fault) × World (Hands υ) ε) : Prop where
  ends : run.1 ≠ .halted
  panic : ∀ message, inner.1 = .panicked message → run.1 = .panicked message
  value : ∀ b, run.1 = .done b → inner.1 = .done b.1 ∧ b.2 = none
  sameAt : ∀ c, (Guard.closeAll ctx.thread (opened ctx.thread front s).1 inner.2.store).Tops
      ctx.thread gs c →
    Store.SameAt c (Guard.closeAll ctx.thread (opened ctx.thread front s).1 inner.2.store)
      run.2.store
  events : ∃ R E, List.Forall₂ (Stage.GaveBack ctx.thread inner.2.store)
      (stages ctx.thread front s).reverse R ∧
    Interleaved discard ctx inner run R E ∧ run.2.events = inner.2.events ++ E

/-- No override is taken away where none is in place. -/
theorem TakenAway.refl {discard : α → Act (Hands υ) ε Unit} {gs : List Guard} {s : Store}
    {inner : Outcome α × World (Hands υ) ε}
    {run : Outcome (α × Option Fault) × World (Hands υ) ε} (hends : run.1 ≠ .halted)
    (hworld : run.2 = inner.2)
    (hpanic : ∀ message, inner.1 = .panicked message → run.1 = .panicked message)
    (hvalue : ∀ b, run.1 = .done b → inner.1 = .done b.1 ∧ b.2 = none) :
    TakenAway discard gs ctx [] s inner run := by
  refine ⟨hends, hpanic, hvalue, fun c _ => ?_, [], [], .nil, .all [], ?_⟩
  · rw [hworld]
    exact .refl c inner.2.store
  · rw [hworld, List.append_nil]

/-- The way out of a scope whose frame can be closed. The frame is closed with one event, whatever has
happened inside. If a watch panics at it, the value that was inside goes away. -/
theorem leave_attended (hd : deliver.Attends) {discard : α → Act (Hands υ) ε Unit}
    {m : Act (Hands υ) ε (α × Option Fault)} {w : World (Hands υ) ε} {g : Guard} {r : Replaced}
    {s : Store} (hend : (m ctx w).1 ≠ .halted)
    (hdiscard : ∀ b, (m ctx w).1 = .done b →
      ∀ u, (discard b.1 { ctx with unwinding := true } u).1 = .done ())
    (hg : (m ctx w).2.store.Closable ctx.thread g r s) :
    let run := (Act.onUnwind m (g.drop deliver) >>= fun ends => do
      return (ends.1, ends.2.or (← Act.onUnwind (finish deliver g) (discard ends.1)))) ctx w
    ∃ u : World (Hands υ) ε, u.store = s ∧
      u.events = (m ctx w).2.events ++ [(ctx.thread, World.restoration g s r)] ∧
      ((∃ b, (m ctx w).1 = .done b ∧ run = (.done b, u)) ∨
        (∃ b message, (m ctx w).1 = .done b ∧
          run = (.panicked message, (discard b.1 { ctx with unwinding := true } u).2)) ∨
        ∃ message, (m ctx w).1 = .panicked message ∧ run = (.panicked message, u)) := by
  intro run
  cases hm : m ctx w with
  | mk o v =>
  rw [hm] at hend hdiscard hg
  cases o with
  | done b =>
    have hrun : run = (do
        return (b.1, b.2.or (← Act.onUnwind (finish deliver g) (discard b.1)))) ctx v :=
      Act.bind_of_done (Act.onUnwind_of_done hm)
    have hfinish := finish_attended hd hg
    have hsurvives := finish_survives hd.toObserves g ctx v
    cases ho : finish deliver g ctx v with
    | mk o u =>
    rw [ho] at hfinish hsurvives
    refine ⟨u, hfinish.1, hfinish.2, ?_⟩
    cases o with
    | done fault =>
      obtain rfl := finish_accepted hg.acquired hg.closes ho
      refine .inl ⟨b, rfl, ?_⟩
      rw [hrun, Act.bind_of_done (Act.onUnwind_of_done ho), Option.or_none]
      rfl
    | panicked message =>
      refine .inr (.inl ⟨b, message, rfl, ?_⟩)
      rw [hrun]
      exact Act.bind_of_panicked
        (Act.onUnwind_of_panicked ho (Prod.ext (hdiscard b rfl u) rfl))
    | halted => exact absurd rfl hsurvives
  | panicked message =>
    let unwinding : Context := { ctx with unwinding := true }
    have hdrop : (g.drop deliver unwinding v).2.store = s ∧
        (g.drop deliver unwinding v).2.events =
          v.events ++ [(ctx.thread, World.restoration g s r)] :=
      Guard.drop_attended hd hg.acquired hg.closes
    exact ⟨_, hdrop.1, hdrop.2, .inr (.inr ⟨message, rfl, leave_panicked hd.toObserves hm⟩)⟩
  | halted => exact absurd rfl hend

/-- One more override is taken away after those inside it. -/
theorem TakenAway.leave (hd : deliver.Attends) {discard : α → Act (Hands υ) ε Unit}
    {gs : List Guard} {c : CellId} {x : Value} {front : Overrides} {w : World (Hands υ) ε}
    {inner : Outcome α × World (Hands υ) ε}
    (hresult : ∀ a, inner.1 = .done a → Apart gs { ctx with unwinding := true } (discard a))
    (hscope : Guard.next w.store ctx.thread c ∈ gs) (hw : w.store.WellFormed)
    (hn : w.store.framesIssued < 2 ^ 64)
    (hleft : BodyLeft ctx.thread ((c, x) :: front) (fun _ => []) w.store inner.2.store)
    {m : Act (Hands υ) ε (α × Option Fault)}
    (h : TakenAway discard gs ctx front ((w.store.push ctx.thread c).2.write ctx.thread c x).2 inner
      (m ctx (w.acquired ctx.thread c))) :
    TakenAway discard gs ctx ((c, x) :: front) w.store inner
      ((Act.onUnwind m ((Guard.next w.store ctx.thread c).drop deliver) >>= fun ends => do
        return (ends.1, ends.2.or
          (← Act.onUnwind (finish deliver (.next w.store ctx.thread c)) (discard ends.1)))) ctx
            (w.acquired ctx.thread c)) := by
  obtain ⟨r, hclosable, hnew⟩ := hleft.turn hw hn
  obtain ⟨s₁, hclosable₁, hsame₁⟩ := hclosable.sameAt (h.sameAt c (hclosable.tops hscope))
  obtain ⟨R, E, hgave, hwoven, hinner⟩ := h.events
  obtain ⟨u, hstore, hevents, hrun⟩ := leave_attended hd h.ends
    (fun b hb => (hresult b.1 (h.value b hb).1).ends) hclosable₁
  have hR : List.Forall₂ (Stage.GaveBack ctx.thread inner.2.store)
      (stages ctx.thread ((c, x) :: front) w.store).reverse
      (R ++ [(ctx.thread, World.restoration (.next w.store ctx.thread c) s₁ r)]) := by
    unfold stages
    rw [List.reverse_cons]
    exact List.rel_append hgave (.cons ⟨rfl, rfl, rfl, hnew⟩ .nil)
  -- Closing the frame does the same to the variable as it would if nothing had gone away, and it does
  -- nothing to the other variables.
  have hsame : ∀ d, (Guard.closeAll ctx.thread (opened ctx.thread ((c, x) :: front) w.store).1
        inner.2.store).Tops ctx.thread gs d →
      Store.SameAt d (Guard.closeAll ctx.thread (opened ctx.thread ((c, x) :: front) w.store).1
        inner.2.store) u.store := by
    intro d htop
    rw [hstore]
    by_cases hdc : d = c
    · rw [hdc]
      exact hsame₁
    · have hclosed := (Store.sameAt_pop hdc hclosable.closes).symm
      have hbefore := h.sameAt d (htop.of_sameAt hclosed)
      exact (hclosed.trans hbefore).trans (Store.sameAt_pop hdc hclosable₁.closes)
  rw [hinner, List.append_assoc] at hevents
  rcases hrun with ⟨b, hb, hrun⟩ | ⟨b, message, hb, hrun⟩ | ⟨message, hm, hrun⟩
  · rw [hwoven.eq_of_done hb] at hevents
    rw [hrun]
    refine ⟨nofun, fun message hpanic => ?_, ?_, hsame, _, _, hR, .all _, hevents⟩
    · rw [(h.value b hb).1] at hpanic
      cases hpanic
    · intro _ heq
      cases heq
      exact h.value b hb
  · have hapart := hresult b.1 (h.value b hb).1
    obtain ⟨D, hD⟩ := hapart.grows u
    rw [hwoven.eq_of_done hb] at hevents
    rw [hrun]
    refine ⟨nofun, fun message hpanic => ?_, nofun, fun d htop => ?_, _, _, hR,
      .last (h.value b hb).1 rfl hevents hD, ?_⟩
    · rw [(h.value b hb).1] at hpanic
      cases hpanic
    · have hleave := hsame d htop
      exact hleave.trans (hapart.sameAt u d (htop.of_sameAt hleave))
    · rw [hD, hevents, List.append_assoc]
  · rw [hrun]
    refine ⟨nofun, fun message' hpanic => ?_, nofun, hsame, _, _, hR, ?_, hevents⟩
    · exact hm.symm.trans (h.panic message' hpanic)
    · refine hwoven.restored (fun message' hpanic => ?_) _
      exact hm.symm.trans hpanic

/-- The overrides in place are taken away in the opposite order, each with one event, and then the run
goes on as what was inside ended. -/
theorem around_in_order (hd : deliver.Attends) {discard : α → Act (Hands υ) ε Unit}
    {gs : List Guard} {set front : Overrides} {W : List (ThreadId × Event)} {cut : Option String}
    {w v : World (Hands υ) ε} (hopen : Opening deliver ctx set w front W cut v)
    (body : Act (Hands υ) ε α) (hw : w.store.WellFormed)
    (hn : w.store.framesIssued + front.length ≤ 2 ^ 64)
    (hend : (inside cut body ctx v).1 ≠ .halted)
    (hleft : BodyLeft ctx.thread front (fun _ => []) w.store (inside cut body ctx v).2.store)
    (hscopes : ∀ g ∈ (opened ctx.thread front w.store).1, g ∈ gs)
    (hresult : ∀ a, (inside cut body ctx v).1 = .done a →
      Apart gs { ctx with unwinding := true } (discard a)) :
    TakenAway discard gs ctx front w.store (inside cut body ctx v)
      (around deliver discard set body ctx w) := by
  induction hopen with
  | nil w =>
    have hrun : around deliver discard [] body ctx w =
        ((body ctx w).1.map (·, none), (body ctx w).2) := Act.map_run _ body ctx w
    have hend' : (body ctx w).1 ≠ .halted := hend
    rw [hrun]
    apply TakenAway.refl
    · cases hbody : (body ctx w).1 with
      | done | panicked => exact nofun
      | halted => exact absurd hbody hend'
    · rfl
    · intro message hpanic
      have hpanic' : (body ctx w).1 = .panicked message := hpanic
      rw [hpanic']
      rfl
    · intro b hdone
      show (body ctx w).1 = .done b.1 ∧ b.2 = none
      cases hbody : (body ctx w).1 with
      | done a =>
        rw [hbody] at hdone
        cases hdone
        exact ⟨rfl, rfl⟩
      | panicked | halted =>
        rw [hbody] at hdone
        cases hdone
  | @cons c x rest front w v₁ v e W cut hwrite hevent hrest ih =>
    rw [List.length_cons] at hn
    have hset : v₁.store = ((w.store.push ctx.thread c).2.write ctx.thread c x).2 := by
      have hwritten := c.write_store hd.store x ctx (w.acquired ctx.thread c)
      rw [hwrite] at hwritten
      exact hwritten
    have hissued : v₁.store.framesIssued = w.store.framesIssued + 1 := by
      rw [hset, Store.framesIssued_write, Store.framesIssued_push]
    have hw₁ : v₁.store.WellFormed := by
      rw [hset]
      exact (hw.push ctx.thread c).write ctx.thread c x
    obtain ⟨hscope, hinside⟩ := List.forall_mem_cons.1 hscopes
    have htail := hleft.tail
    rw [← hset] at htail hinside
    have hinner := ih hw₁ (by omega) hend htail hinside hresult
    -- Inside this scope is what the rest of the overrides does.
    have hwritten : (do c.write deliver x; around deliver discard rest body) ctx
        (w.acquired ctx.thread c) = around deliver discard rest body ctx v₁ :=
      Act.bind_of_done hwrite
    rw [hset, ← hwritten] at hinner
    rw [around_cons]
    exact hinner.leave hd hresult hscope hw (by omega) hleft
  | @cut c x rest w v e message hwrite hevent =>
    rw [List.length_singleton] at hn
    obtain ⟨hscope, -⟩ := List.forall_mem_cons.1 hscopes
    have hpanicked : (do c.write deliver x; around deliver discard rest body) ctx
        (w.acquired ctx.thread c) = (.panicked message, v) := Act.bind_of_panicked hwrite
    have hinner : TakenAway discard gs ctx []
        ((w.store.push ctx.thread c).2.write ctx.thread c x).2 (inside (some message) body ctx v)
        ((do c.write deliver x; around deliver discard rest body) ctx
          (w.acquired ctx.thread c)) := by
      rw [hpanicked]
      apply TakenAway.refl
      · exact nofun
      · rfl
      · intro _ heq
        cases heq
        rfl
      · exact nofun
    rw [around_cons]
    exact hinner.leave hd hresult hscope hw (by omega) hleft

/-- A body that comes to an end and leaves the stacks of some variables on its thread as it found
them. -/
structure LeavesStacks (cells : List CellId) (body : Act (Hands υ) ε α) (ctx : Context)
    (v : World (Hands υ) ε) : Prop where
  ends : (body ctx v).1 ≠ .halted
  stack : ∀ c ∈ cells, (body ctx v).2.store.stack ctx.thread c = v.store.stack ctx.thread c

/-- The events of a run of overrides around a body, one by one. `W` are those of the writes, `B` those of
the body, and `R` those of the restorations, among which are those of a result that goes away. -/
inductive InOrder (deliver : Delivery (Hands υ) ε) (discard : α → Act (Hands υ) ε Unit)
    (set : Overrides) (body : Act (Hands υ) ε α) (ctx : Context) (w : World (Hands υ) ε)
    (run : Outcome β × World (Hands υ) ε) : Prop where
  /-- All overrides are put in place, and the body runs inside them. -/
  | ran {gs : List Guard} {v : World (Hands υ) ε} {W B R E : List (ThreadId × Event)}
      (opened : openAll deliver set ctx w = (.done gs, v))
      (wrote : List.Forall₂ (Stage.Wrote ctx.thread) (stages ctx.thread set w.store) W)
      (before : v.events = w.events ++ W)
      (after : (body ctx v).2.events = w.events ++ W ++ B)
      (gaveBack : List.Forall₂ (Stage.GaveBack ctx.thread (body ctx v).2.store)
        (stages ctx.thread set w.store).reverse R)
      (result : Interleaved discard ctx (body ctx v) run R E)
      (events : run.2.events = w.events ++ W ++ B ++ E)
      (panics : ∀ message, (body ctx v).1 = .panicked message → run.1 = .panicked message)
      (ends : run.1 ≠ .halted)
  /-- A watch panics at the write of some override. The body does not run, whatever it would be, and no
  frame is opened for the overrides after that one. -/
  | cut {front rest : Overrides} {c : CellId} {x : Value} {gs : List Guard}
      {v₁ v : World (Hands υ) ε} {W R : List (ThreadId × Event)} {message : String}
      (upTo : set = front ++ (c, x) :: rest)
      (opened : openAll deliver front ctx w = (.done gs, v₁))
      (panicked : c.write deliver x ctx (v₁.acquired ctx.thread c) = (.panicked message, v))
      (wrote : List.Forall₂ (Stage.Wrote ctx.thread)
        (stages ctx.thread (front ++ [(c, x)]) w.store) W)
      (gaveBack : List.Forall₂ (Stage.GaveBack ctx.thread v.store)
        (stages ctx.thread (front ++ [(c, x)]) w.store).reverse R)
      (events : run.2.events = w.events ++ W ++ R)
      (unreached : ∀ {γ : Type} (discard' : γ → Act (Hands υ) ε Unit) (other : Act (Hands υ) ε γ),
        around deliver discard' set other ctx w = (.panicked message, run.2))
      (frames : run.2.store.framesIssued = w.store.framesIssued + (front.length + 1))
      (ends : run.1 = .panicked message)

/-- What follows the scopes makes no events and lets panics pass. -/
theorem InOrder.of_tail {γ : Type} {discard : α → Act (Hands υ) ε Unit} {set : Overrides}
    {body : Act (Hands υ) ε α} {w : World (Hands υ) ε} {m : Act (Hands υ) ε β}
    {next : β → Act (Hands υ) ε γ} (h : InOrder deliver discard set body ctx w (m ctx w))
    (hnext : ∀ b v, m ctx w = (.done b, v) →
      (next b ctx v).1 ≠ .halted ∧ (next b ctx v).2.events = v.events) :
    InOrder deliver discard set body ctx w ((m >>= next) ctx w) := by
  have hpanic : ∀ message, (m ctx w).1 = .panicked message →
      (m >>= next) ctx w = (.panicked message, (m ctx w).2) := by
    intro message hm
    exact Act.bind_of_panicked (Prod.ext hm rfl)
  cases h with
  | ran opened wrote before after gaveBack result events panics ends =>
    have htail : ((m >>= next) ctx w).1 ≠ .halted ∧
        ((m >>= next) ctx w).2.events = (m ctx w).2.events := by
      cases hm : m ctx w with
      | mk o v =>
      rw [hm] at ends
      cases o with
      | done b =>
        rw [Act.bind_of_done hm]
        exact hnext b v hm
      | panicked message =>
        rw [Act.bind_of_panicked hm]
        exact ⟨nofun, rfl⟩
      | halted => exact absurd rfl ends
    have hpassed : ∀ message, (m ctx w).1 = .panicked message →
        ((m >>= next) ctx w).1 = .panicked message := by
      intro message hm
      rw [hpanic message hm]
    exact .ran opened wrote before after gaveBack (result.of_panic hpassed)
      (htail.2.trans events) (fun message hbody => hpassed message (panics message hbody)) htail.1
  | cut upTo opened panicked wrote gaveBack events unreached frames ends =>
    rw [hpanic _ ends]
    exact .cut upTo opened panicked wrote gaveBack events unreached frames rfl

/-- Overrides around a body that leaves the stacks of the overridden variables as it found them. None of
their releases is rejected. -/
theorem around_ordered (hd : deliver.Attends) (discard : α → Act (Hands υ) ε Unit)
    (set : Overrides) {body : Act (Hands υ) ε α} (hgrow : Leads EventsGrow body)
    (hevolves : Leads EvolvesStore body) {w : World (Hands υ) ε} (hw : w.store.WellFormed)
    (hn : w.store.framesIssued + set.length ≤ 2 ^ 64)
    (hbody : ∀ gs v, openAll deliver set ctx w = (.done gs, v) →
      LeavesStacks (set.map Prod.fst) body ctx v)
    (hresult : ∀ gs v a, openAll deliver set ctx w = (.done gs, v) → (body ctx v).1 = .done a →
      Apart gs { ctx with unwinding := true } (discard a)) :
    InOrder deliver discard set body ctx w (around deliver discard set body ctx w) ∧
      ∀ b, (around deliver discard set body ctx w).1 = .done b → b.2 = none := by
  obtain ⟨front, W, cut, v, hopen⟩ : ∃ front W cut v, Opening deliver ctx set w front W cut v :=
    Opening.exists_opening hd set w
  obtain ⟨hstore, hevents, hwrote⟩ := hopen.wrote hd
  have hkind := kind_opened ctx.thread front w.store
  cases cut with
  | none =>
    obtain ⟨rfl, gs, hall⟩ := hopen.of_none rfl
    obtain ⟨hends, hstack⟩ := hbody gs v hall
    obtain ⟨rfl, -⟩ := openAll_still hd.store hall
    obtain ⟨B, hB⟩ := hgrow ctx v
    have hafter := hevolves ctx v
    unfold EvolvesStore at hafter
    rw [hstore] at hafter hstack
    have hleft : BodyLeft ctx.thread front (fun _ => []) w.store (body ctx v).2.store := by
      refine ⟨hafter.wellFormed (wellFormed_opened hw ctx.thread front), ?_, ?_, ?_⟩
      · intro c
        exact (hafter.kind c).trans (hkind c)
      · intro c hc
        exact congrArg FrameStack.frames (hstack c hc)
      · exact fun _ _ _ hmem => nomatch hmem
    have htaken : TakenAway discard _ ctx front w.store (body ctx v) _ :=
      around_in_order hd hopen body hw hn hends hleft (fun _ hg => hg) (hresult _ v · hall)
    obtain ⟨R, E, hgave, hwoven, hE⟩ := htaken.events
    have hran : (body ctx v).2.events = w.events ++ W ++ B := by rw [hB, hevents]
    refine ⟨?_, fun b hb => (htaken.value b hb).2⟩
    exact .ran hall hwrote hevents hran hgave hwoven (hE.trans (congrArg (· ++ E) hran))
      htaken.panic htaken.ends
  | some message =>
    obtain ⟨init, c, x, rest, gs, v₁, rfl, rfl, hall, hpanic⟩ := hopen.of_some rfl
    have hlength : w.store.framesIssued + (init ++ [(c, x)]).length ≤ 2 ^ 64 := by
      simp only [List.length_append, List.length_cons, List.length_nil] at hn ⊢
      omega
    have hleft : BodyLeft ctx.thread (init ++ [(c, x)]) (fun _ => []) w.store v.store := by
      rw [hstore]
      exact ⟨wellFormed_opened hw ctx.thread _, hkind, fun _ _ => rfl,
        fun _ _ _ hmem => nomatch hmem⟩
    have htaken : TakenAway discard _ ctx (init ++ [(c, x)]) w.store (.panicked message, v) _ :=
      around_in_order hd hopen body hw hlength nofun hleft (fun _ hg => hg) nofun
    obtain ⟨R, E, hgave, hwoven, hE⟩ := htaken.events
    obtain rfl := hwoven.eq_of_kept nofun
    obtain ⟨v', hframes, hunreached⟩ := hopen.unreached hd.toObserves rfl
    have hissued : v'.store.framesIssued = w.store.framesIssued + (init.length + 1) := by
      rw [hframes, hstore, framesIssued_opened, List.length_append, List.length_singleton]
    rw [hevents, hunreached discard body] at hE
    rw [hunreached discard body]
    exact ⟨.cut rfl hall hpanic hwrote hgave hE hunreached hissued rfl, nofun⟩

end Overrides

/-- Every program makes its events after those that are there. -/
theorem Program.eventsGrow (hd : deliver.Attends) (p : Program υ ε α) :
    Leads EventsGrow (p.act deliver) := by
  refine p.leads_to (EventsGrow.revising.stepwise ?_ ?_ ?_ ?_)
  · exact fun w _ => .of_journal (J := []) rfl
  · exact fun w t c => .of_journal (J := [_]) rfl
  · exact fun w t c f r s _ => .of_journal (J := [_]) rfl
  · intro w e ctx v
    exact ⟨[], by rw [hd.events, List.append_nil]⟩

/-- The body of a run of overrides, with the message that it is entered. -/
def Overrides.entered (set : Overrides) (p : Program υ ε α) (deliver : Delivery (Hands υ) ε) :
    Act (Hands υ) ε α := do
  logEntering set.length
  p.act deliver

/-- The same for the entering of a body. -/
theorem Overrides.enter_ordered (hd : deliver.Attends) (discard : α → Act (Hands υ) ε Unit)
    (set : Overrides) (p : Program υ ε α) {w : World (Hands υ) ε} (hw : w.store.WellFormed)
    (hn : w.store.framesIssued + set.length ≤ 2 ^ 64)
    (hbody : ∀ gs v, openAll deliver set ctx w = (.done gs, v) →
      LeavesStacks (set.map Prod.fst) (entered set p deliver) ctx v)
    (hresult : ∀ gs v a, openAll deliver set ctx w = (.done gs, v) →
      (entered set p deliver ctx v).1 = .done a →
      Apart gs { ctx with unwinding := true } (discard a)) :
    InOrder deliver discard set (entered set p deliver) ctx w
        (enter deliver discard set (p.act deliver) ctx w) ∧
      ∀ b, (enter deliver discard set (p.act deliver) ctx w).1 = .done b → b.2 = none := by
  have hgrow : Calm (@EventsGrow (Hands υ) ε) := EventsGrow.revising.toPlain.calm
  have hevolve : Calm (@EvolvesStore (Hands υ) ε) := EvolvesStore.revising.toPlain.calm
  rw [enter_eq]
  apply around_ordered hd discard set _ _ hw hn hbody hresult
  · exact .bind hgrow (.log hgrow _) fun _ => p.eventsGrow hd
  · exact .bind hevolve (.log hevolve _) fun _ => p.evolves hd.store

/-- Overrides are given back in the reverse of the order in which they were put in place. The watches
only observe; they may panic at any event on a thread that is not unwinding. The body leaves the stacks
of the overridden variables as it found them, and ends with a value, with a failure or with a panic. A
value or a failure may own guards, which are dropped when it goes away; none of them is that of a scope
(`Overrides.Apart`, `Overrides.Apart.dropAll`).

There is one event for each write, in the order of the overrides, up to the last override or up to the
one at whose write a watch panics; in the second case the body does not run, and the overrides after
that one are never touched. Then there are the events of the body, and then one event for the
restoration of each override that was put in place, in the opposite order, also if a watch panics at one
of them. The restored value is what the thread saw just before the override, or the root that the
variable has by then, if it is dynamic and the override was the outermost of the thread. All this is so
when the run comes to its end. A value or a failure goes away only when a watch panics at a restoration,
right after that, and its events are the only others.

A body that may fail is overridden around under the policy that is read before it; reading it makes no
event. Frame numbers do not repeat within a process. -/
theorem overrides_end_in_reverse (hd : deliver.Attends) (set : Overrides) (ctx : Context)
    (w : World (Hands υ) ε) (hw : w.store.WellFormed)
    (hn : w.store.framesIssued + set.length ≤ 2 ^ 64) :
    (∀ {α : Type} (discard : α → Act (Hands υ) ε Unit) (p : Program υ ε α),
      (∀ gs v, Overrides.openAll deliver set ctx w = (.done gs, v) →
        Overrides.LeavesStacks (set.map Prod.fst) (Overrides.entered set p deliver) ctx v) →
      (∀ gs v a, Overrides.openAll deliver set ctx w = (.done gs, v) →
        (Overrides.entered set p deliver ctx v).1 = .done a →
        Overrides.Apart gs { ctx with unwinding := true } (discard a)) →
      Overrides.InOrder deliver discard set (Overrides.entered set p deliver) ctx w
        (Overrides.run deliver discard set (p.act deliver) ctx w)) ∧
    ∃ policy w₀, Settings.current ctx w = (.done policy, w₀) ∧ w₀.store = w.store ∧
      w₀.events = w.events ∧
      ∀ {α β : Type} (discard : Except β α → Act (Hands υ) ε Unit) (ofFault : Fault → β)
        (p : Program υ ε (Except β α)),
        (∀ gs v, Overrides.openAll deliver set ctx w₀ = (.done gs, v) →
          Overrides.LeavesStacks (set.map Prod.fst) (Overrides.entered set p deliver) ctx v) →
        (∀ gs v a, Overrides.openAll deliver set ctx w₀ = (.done gs, v) →
          (Overrides.entered set p deliver ctx v).1 = .done a →
          Overrides.Apart gs { ctx with unwinding := true } (discard a)) →
        Overrides.InOrder deliver discard set (Overrides.entered set p deliver) ctx w₀
          (Overrides.tryRun deliver discard ofFault set (p.act deliver) ctx w) := by
  constructor
  · intro α discard p hbody hresult
    obtain ⟨hordered, hkept⟩ := Overrides.enter_ordered hd discard set p hw hn hbody hresult
    rw [Overrides.run_eq]
    apply hordered.of_tail
    rintro ⟨a, fault⟩ v hdone
    obtain rfl : fault = none := hkept _ (congrArg Prod.fst hdone)
    exact ⟨nofun, rfl⟩
  · obtain ⟨policy, w₀, hpolicy, hstore⟩ := Settings.current_run ctx w
    have hcurrent : Uneventful w (Settings.current ctx w).2 :=
      Settings.current_leads Uneventful.calm ctx w
    rw [hpolicy] at hcurrent
    refine ⟨policy, w₀, hpolicy, hstore, hcurrent.events, ?_⟩
    intro α β discard ofFault p hbody hresult
    rw [← hstore] at hw hn
    obtain ⟨hordered, hkept⟩ := Overrides.enter_ordered hd discard set p hw hn hbody hresult
    rw [Overrides.tryRun_eq, Act.bind_of_done hpolicy]
    apply hordered.of_tail
    rintro ⟨result, fault⟩ v hdone
    obtain rfl : fault = none := hkept _ (congrArg Prod.fst hdone)
    cases result <;> exact ⟨nofun, rfl⟩

end Runs

/-- Watches that panic at restorations whenever they may. -/
def Delivery.possessive : Delivery (Hands Unit) Unit := fun _ e ctx w =>
  if ctx.unwinding = false ∧ e.change = .restore then (.panicked "mine", w) else (.done (), w)

/-- These watches make no event of their own. -/
theorem Delivery.possessive_attends : possessive.Attends where
  store w e ctx v := by
    unfold possessive
    split <;> rfl
  events w e ctx v := by
    unfold possessive
    split <;> rfl
  orderly w e ctx v := by
    unfold possessive
    split
    · next h => exact .inr ⟨rfl, h.1⟩
    · exact .inl rfl

/-- A world in which both variables are watched. -/
def World.watchedBoth : World (Hands Unit) Unit :=
  .start ((Store.sample.watch ⟨0⟩ "w" ⟨0⟩).watch ⟨1⟩ "w" ⟨0⟩) ()

/-- Registering a watch moves no frame. -/
theorem World.watchedBoth_wellFormed : watchedBoth.store.WellFormed := by
  have hfirst := (Store.Revises.watch ⟨0⟩ "w" ⟨0⟩).wellFormed Store.sample_fresh.wellFormed
  exact (Store.Revises.watch ⟨1⟩ "w" ⟨0⟩).wellFormed hfirst

/-- A guard of the second variable that is acquired there. -/
def Guard.ofSecond : Guard :=
  .next World.watchedBoth.store ⟨0⟩ ⟨1⟩

/-- The world with that guard. -/
def World.heldSecond : World (Hands Unit) Unit :=
  World.watchedBoth.acquired ⟨0⟩ ⟨1⟩

/-- A run in it that overrides both variables around a body that sets the first one. The guard goes away
with the value of the body. -/
def World.endedBoth : Outcome (Except Fault Unit) × World (Hands Unit) Unit :=
  Overrides.run Delivery.possessive (fun _ => Overrides.dropAll Delivery.possessive [.ofSecond])
    .both (Program.setFirst.act Delivery.possessive) ⟨⟨0⟩, false⟩ .heldSecond

/-- Setting a variable leaves all stacks. -/
theorem Program.setFirst_leavesStacks {gs : List Guard} {v : World (Hands Unit) Unit}
    (h : Overrides.openAll Delivery.possessive .both ⟨⟨0⟩, false⟩ .heldSecond = (.done gs, v)) :
    Overrides.LeavesStacks (Overrides.both.map Prod.fst)
      (Overrides.entered .both .setFirst Delivery.possessive) ⟨⟨0⟩, false⟩ v := by
  have hkeeps : Store.KeepsStacks v.store
      (Overrides.entered .both .setFirst Delivery.possessive ⟨⟨0⟩, false⟩ v).2.store :=
    Program.keepsStacks_set Delivery.possessive_attends.store Overrides.both.length ⟨0⟩ (.int 5)
      ⟨⟨0⟩, false⟩ v
  have hv : v = (Overrides.openAll Delivery.possessive .both ⟨⟨0⟩, false⟩ .heldSecond).2 :=
    (congrArg Prod.snd h).symm
  have hending : (Overrides.entered .both .setFirst Delivery.possessive ⟨⟨0⟩, false⟩
      v).1.ending = .done := by
    rw [hv]
    decide +kernel
  refine ⟨?_, fun c _ => hkeeps.stack ⟨0⟩ c⟩
  intro hhalted
  rw [hhalted] at hending
  cases hending

/-- The guard is not that of a scope. -/
theorem Guard.ofSecond_apart {gs : List Guard} {v : World (Hands Unit) Unit}
    (h : Overrides.openAll Delivery.possessive .both ⟨⟨0⟩, false⟩ .heldSecond = (.done gs, v)) :
    ∀ g ∈ gs, g.frame ≠ Guard.ofSecond.frame := by
  obtain ⟨rfl, -⟩ := Overrides.openAll_still Delivery.possessive_attends.store h
  decide +kernel

/-- The watch panics when the second variable is given back, and then the value goes away with its guard,
whose frame is closed. The first variable is given back last. Each restoration makes one event. -/
theorem endedBoth_in_order :
    Overrides.InOrder Delivery.possessive
      (fun _ => Overrides.dropAll Delivery.possessive [.ofSecond]) .both
      (Overrides.entered .both .setFirst Delivery.possessive) ⟨⟨0⟩, false⟩ .heldSecond
      World.endedBoth ∧
    World.endedBoth.1.ending = .panicked ∧
    World.endedBoth.2.events.map (fun e => (e.2.cell, e.2.new, e.2.change)) =
      [(⟨0⟩, .int 3, .write), (⟨1⟩, .int 4, .write), (⟨0⟩, .int 5, .write),
        (⟨1⟩, .int 2, .restore), (⟨1⟩, .int 2, .restore), (⟨0⟩, .int 1, .restore)] := by
  obtain ⟨hoverride, -⟩ := overrides_end_in_reverse Delivery.possessive_attends .both
    ⟨⟨0⟩, false⟩ World.heldSecond (World.watchedBoth_wellFormed.push ⟨0⟩ ⟨1⟩) (by decide +kernel)
  refine ⟨hoverride _ .setFirst ?_ ?_, by decide +kernel, by decide +kernel⟩
  · intro gs v hopen
    exact Program.setFirst_leavesStacks hopen
  · intro gs v _ hopen _
    apply Overrides.Apart.dropAll Delivery.possessive_attends rfl
    exact List.forall_mem_singleton.2 (Guard.ofSecond_apart hopen)

end ScopedBinding
