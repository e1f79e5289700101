import ScopedBinding.Proofs.Configuration
import ScopedBinding.Proofs.LeakingBody
import ScopedBinding.Proofs.Junctures

/-!
# Programs go from juncture to juncture

A program that opens and closes frames only by guards goes by steps from every juncture
(`Program.tracked`), whatever such programs its watches are and however it ends. Unless the run is
over, the guards that the program does not have in its hands are as before, and no release is in
progress that was not before.

`Juncture.Reaches` says where an action leads from a juncture, and what holds there. Rebind scopes are
followed more closely: after a body that ended normally, the frames of all overrides around it are
among those that have been left (`Overrides.around_reaches`).
-/

set_option autoImplicit false

namespace ScopedBinding

namespace Juncture

variable {υ ε : Type}

/-- The same guards are out of the program's hands, and the same releases are in progress. -/
structure Alike (M M' : Juncture υ ε) : Prop where
  untried : M'.untried = M.untried
  loose : M'.loose = M.loose
  closing : M'.closing = M.closing

/-- A juncture is like itself. -/
theorem Alike.refl (M : Juncture υ ε) : M.Alike M :=
  ⟨rfl, rfl, rfl⟩

/-- Junctures that are like the same one are alike. -/
theorem Alike.trans {M M' M'' : Juncture υ ε} (h : M.Alike M') (h' : M'.Alike M'') : M.Alike M'' :=
  ⟨h'.untried.trans h.untried, h'.loose.trans h.loose, h'.closing.trans h.closing⟩

/-- An override that has been left stays so. -/
theorem Steps.ended_subset {rules : Rules υ ε} {M M' : Juncture υ ε} (h : Steps rules M M') :
    ∀ f ∈ M.ended, f ∈ M'.ended := by
  induction h with
  | refl => exact fun _ hf => hf
  | tail _ hstep ih =>
    intro f hf
    have hf' := ih f hf
    cases hstep with
    | gaveUp | passed => exact List.mem_cons_of_mem _ hf'
    | revised | created | threadEnded | noted | configured | minded | acquired | closed | reported
    | interrupted | refused | loosened | taken | returned | left => exact hf'

/-- Steps lead from a juncture to one with the world in which an action ends. Unless the run is over,
something holds there. -/
def Reaches {α : Type} (rules : Rules υ ε) (M : Juncture υ ε)
    (result : Outcome α × World (Hands υ) ε) (after : Juncture υ ε → Prop) : Prop :=
  ∃ M', M.Steps rules M' ∧ M'.world = result.2 ∧ (result.1 ≠ .halted → after M')

namespace Reaches

variable {α β : Type} {rules : Rules υ ε} {M M₁ : Juncture υ ε}
  {result : Outcome α × World (Hands υ) ε} {mid after after' : Juncture υ ε → Prop}

/-- An action that ends where it began. -/
theorem here (hworld : result.2 = M.world) (h : after M) : M.Reaches rules result after :=
  ⟨M, .refl, hworld.symm, fun _ => h⟩

/-- The end of a run. -/
theorem halted {w : World (Hands υ) ε} (hsteps : M.Steps rules M₁) (hworld : M₁.world = w) :
    M.Reaches rules ((.halted, w) : Outcome α × World (Hands υ) ε) after :=
  ⟨M₁, hsteps, hworld, fun hn => absurd rfl hn⟩

/-- Steps go before anything. -/
theorem of_steps (hsteps : M.Steps rules M₁) (h : M₁.Reaches rules result after) :
    M.Reaches rules result after := by
  obtain ⟨M', hrest, hworld, hafter⟩ := h
  exact ⟨M', hsteps.trans hrest, hworld, hafter⟩

/-- A step goes before anything. -/
theorem of_step (hstep : Step rules M M₁) (h : M₁.Reaches rules result after) :
    M.Reaches rules result after :=
  of_steps (.single hstep) h

/-- What holds at the end is also reached by steps from there. -/
theorem go (h : M.Reaches rules result after)
    (hgo : ∀ M', M'.world = result.2 → after M' → M'.Reaches rules result after') :
    M.Reaches rules result after' := by
  obtain ⟨M', hsteps, hworld, hafter⟩ := h
  obtain ⟨o, w⟩ := result
  cases o with
  | done a => exact of_steps hsteps (hgo M' hworld (hafter nofun))
  | panicked message => exact of_steps hsteps (hgo M' hworld (hafter nofun))
  | halted => exact halted hsteps hworld

/-- Overrides that had been left before are left after. -/
theorem keeps_ended (h : M.Reaches rules result after) :
    M.Reaches rules result fun M' => after M' ∧ ∀ f ∈ M.ended, f ∈ M'.ended := by
  obtain ⟨M', hsteps, hworld, hafter⟩ := h
  exact ⟨M', hsteps, hworld, fun hn => ⟨hafter hn, hsteps.ended_subset⟩⟩

/-- What follows from what holds at the end holds there too. -/
theorem imp (h : M.Reaches rules result after) (himp : ∀ M', after M' → after' M') :
    M.Reaches rules result after' :=
  h.go fun M' hworld hafter => here hworld.symm (himp M' hafter)

/-- An action whose value is made into another one. -/
theorem map (f : α → β) (h : M.Reaches rules result after) :
    M.Reaches rules (result.1.map f, result.2) after := by
  obtain ⟨M', hsteps, hworld, hafter⟩ := h
  obtain ⟨_ | _ | _, w⟩ := result
  · exact ⟨M', hsteps, hworld, fun _ => hafter nofun⟩
  · exact ⟨M', hsteps, hworld, fun _ => hafter nofun⟩
  · exact halted hsteps hworld

/-- One action after another. -/
theorem bind {m : Act (Hands υ) ε α} {next : α → Act (Hands υ) ε β} {ctx : Context}
    (hm : M.Reaches rules (m ctx M.world) mid)
    (hdone : ∀ a M', m ctx M.world = (.done a, M'.world) → mid M' →
      M'.Reaches rules (next a ctx M'.world) after)
    (hpanicked : ∀ message M', m ctx M.world = (.panicked message, M'.world) → mid M' →
      after M') : M.Reaches rules ((m >>= next) ctx M.world) after := by
  obtain ⟨M', hsteps, hworld, hmid⟩ := hm
  cases hrun : m ctx M.world with
  | mk o w =>
  rw [hrun] at hworld hmid
  obtain rfl : M'.world = w := hworld
  cases o with
  | done a =>
    rw [Act.bind_of_done hrun]
    exact of_steps hsteps (hdone a M' hrun (hmid nofun))
  | panicked message =>
    rw [Act.bind_of_panicked hrun]
    exact of_steps hsteps (here rfl (hpanicked message M' hrun (hmid nofun)))
  | halted =>
    rw [Act.bind_of_halted hrun]
    exact halted hsteps rfl

/-- The cleanup of an action starts where the action panicked. -/
theorem cleanup {m : Act (Hands υ) ε α} {c : Act (Hands υ) ε Unit} {ctx : Context}
    {w : World (Hands υ) ε} {message : String} (hrun : m ctx w = (.panicked message, M.world))
    (h : M.Reaches rules (c { ctx with unwinding := true } M.world) after) :
    M.Reaches rules (Act.onUnwind m c ctx w) after := by
  obtain ⟨M', hsteps, hworld, hafter⟩ := h
  refine of_steps hsteps ?_
  unfold Act.onUnwind
  rw [hrun]
  dsimp only
  generalize c { ctx with unwinding := true } M.world = result at hworld hafter ⊢
  obtain ⟨_ | _ | _, w'⟩ := result
  · exact here hworld.symm (hafter nofun)
  · exact halted .refl hworld
  · exact halted .refl hworld

/-- An action with its cleanup. -/
theorem onUnwind {m : Act (Hands υ) ε α} {c : Act (Hands υ) ε Unit} {ctx : Context}
    (hm : M.Reaches rules (m ctx M.world) mid)
    (hdone : ∀ a M', m ctx M.world = (.done a, M'.world) → mid M' → after M')
    (hpanicked : ∀ message M', m ctx M.world = (.panicked message, M'.world) → mid M' →
      M'.Reaches rules (c { ctx with unwinding := true } M'.world) after) :
    M.Reaches rules (Act.onUnwind m c ctx M.world) after := by
  obtain ⟨M', hsteps, hworld, hmid⟩ := hm
  cases hrun : m ctx M.world with
  | mk o w =>
  rw [hrun] at hworld hmid
  obtain rfl : M'.world = w := hworld
  cases o with
  | done a =>
    rw [Act.onUnwind_of_done hrun]
    exact of_steps hsteps (here rfl (hdone a M' hrun (hmid nofun)))
  | panicked message =>
    exact of_steps hsteps (cleanup hrun (hpanicked message M' hrun (hmid nofun)))
  | halted =>
    rw [Act.onUnwind_of_halted hrun]
    exact halted hsteps rfl

/-- An action with its cleanup, and another one after it, which only a normal end leads to. -/
theorem scope {back : Juncture υ ε → Prop} {m : Act (Hands υ) ε α} {c : Act (Hands υ) ε Unit}
    {next : α → Act (Hands υ) ε β} {ctx : Context}
    (hm : M.Reaches rules (m ctx M.world) mid)
    (hdone : ∀ a M', m ctx M.world = (.done a, M'.world) → mid M' →
      M'.Reaches rules (next a ctx M'.world) after)
    (hpanicked : ∀ M', mid M' →
      M'.Reaches rules (c { ctx with unwinding := true } M'.world) back)
    (hback : (∀ b, ((Act.onUnwind m c >>= next) ctx M.world).1 ≠ .done b) →
      ∀ M', back M' → after M') :
    M.Reaches rules ((Act.onUnwind m c >>= next) ctx M.world) after := by
  obtain ⟨M', hsteps, hworld, hmid⟩ := hm
  cases hrun : m ctx M.world with
  | mk o w =>
  rw [hrun] at hworld hmid
  obtain rfl : M'.world = w := hworld
  cases o with
  | done a =>
    rw [Act.bind_of_done (Act.onUnwind_of_done hrun)]
    exact of_steps hsteps (hdone a M' hrun (hmid nofun))
  | panicked message =>
    have hunwound := of_steps hsteps (cleanup hrun (hpanicked M' (hmid nofun)))
    have hnot : ∀ b, ((Act.onUnwind m c >>= next) ctx M.world).1 ≠ .done b := by
      intro b hb
      obtain ⟨a, v, hdone, -⟩ := Act.done_of_bind (Prod.ext hb rfl)
      cases hrun.symm.trans (Act.done_of_onUnwind hdone)
    refine bind hunwound (fun a M'' hdone _ => ?_) fun _ M'' _ => hback hnot M''
    cases hrun.symm.trans (Act.done_of_onUnwind hdone)
  | halted =>
    rw [Act.bind_of_halted (Act.onUnwind_of_halted hrun)]
    exact halted hsteps rfl

end Reaches

end Juncture

open Juncture (Reaches Step)

namespace Act

variable {υ ε α β : Type} {rules : Rules υ ε}

/-- An action goes by steps from every juncture, and unless the run is over, to one that is alike. -/
def Tracked (rules : Rules υ ε) {α : Type} (m : Act (Hands υ) ε α) : Prop :=
  ∀ ctx (M : Juncture υ ε), M.Reaches rules (m ctx M.world) M.Alike

namespace Tracked

variable {m : Act (Hands υ) ε α}

/-- An action that leaves the world as it is. -/
theorem still (h : ∀ ctx w, (m ctx w).2 = w) : Tracked rules m :=
  fun ctx M => .here (h ctx M.world) (.refl M)

/-- A value. -/
theorem pure (a : α) : Tracked rules (Pure.pure a : Act (Hands υ) ε α) :=
  still fun _ _ => rfl

/-- One action after another. -/
theorem bind {next : α → Act (Hands υ) ε β} (hm : Tracked rules m)
    (hnext : ∀ a, Tracked rules (next a)) : Tracked rules (m >>= next) := by
  intro ctx M
  refine Reaches.bind (hm ctx M) (fun a M' _ halike => ?_) fun _ _ _ halike => halike
  exact (hnext a ctx M').imp fun _ => halike.trans

/-- An action with its cleanup. -/
theorem onUnwind {cleanup : Act (Hands υ) ε Unit} (hm : Tracked rules m)
    (hc : Tracked rules cleanup) : Tracked rules (Act.onUnwind m cleanup) := by
  intro ctx M
  refine Reaches.onUnwind (hm ctx M) (fun _ _ _ halike => halike) fun _ M' _ halike => ?_
  exact (hc _ M').imp fun _ => halike.trans

/-- An action whose panic is stopped. -/
theorem attempt (hm : Tracked rules m) : Tracked rules (Act.attempt m) := by
  intro ctx M
  have hfirst := hm ctx M
  unfold Act.attempt
  generalize m ctx M.world = result at hfirst ⊢
  obtain ⟨M', hsteps, hworld, halike⟩ := hfirst
  obtain ⟨_ | _ | _, w⟩ := result
  · exact .of_steps hsteps (.here hworld.symm (halike nofun))
  · exact .of_steps hsteps (.here hworld.symm (halike nofun))
  · exact .halted hsteps hworld

/-- Work on another thread. -/
theorem onThread (t : ThreadId) (hm : Tracked rules m) : Tracked rules (Act.onThread t m) :=
  fun _ M => hm ⟨t, false⟩ M

/-- A change of the store that opens and closes no frame. -/
theorem revised (h : ∀ ctx w, w.store.Revises (m ctx w).2.store ∧
    (m ctx w).2 = { w with store := (m ctx w).2.store }) : Tracked rules m := by
  intro ctx M
  obtain ⟨hs, hworld⟩ := h ctx M.world
  exact .of_step (.revised hs) (.here hworld ⟨rfl, rfl, rfl⟩)

/-- A note that tells nothing of frames. -/
theorem note {n : Note ε} (hn : n.IsAside) : Tracked rules (Act.note n : Act (Hands υ) ε Unit) :=
  fun _ _ => .of_step (.noted n hn) (.here rfl ⟨rfl, rfl, rfl⟩)

/-- Putting other settings in place. -/
theorem setSettings (s : Settings) : Tracked rules (Act.setSettings s) :=
  fun _ _ => .of_step (.configured s) (.here rfl ⟨rfl, rfl, rfl⟩)

/-- What opens and closes no frame is put together from parts that do so. -/
theorem composes : Composes (Same fun {α} (m : Act (Hands υ) ε α) => Tracked rules m)
    (Same fun {α} (m : Act (Hands υ) ε α) => Tracked rules m) where
  pure a := .of (.pure a)
  thread := .of (.still fun _ _ => rfl)
  store := .of (.still fun _ _ => rfl)
  settings := .of (.still fun _ _ => rfl)
  log h := .of (.note ⟨if_neg h, rfl⟩)
  bind := by
    rintro _ _ m _ next next' ⟨rfl, hm⟩ hnext
    obtain rfl : next' = next := funext fun a => (hnext a).1
    exact .of (hm.bind fun a => (hnext a).2)
  failRelease policy fault := .of (.still fun ctx w => by rw [Guard.failRelease_run])
  onUnwind := by
    rintro _ m _ cleanup _ ⟨rfl, hm⟩ ⟨rfl, hc⟩
    exact .of (hm.onUnwind hc)

/-- Asking for the policy. -/
theorem current : Tracked rules (Settings.current : Act (Hands υ) ε ReleasePolicy) :=
  (composes.current fun s => .of (.setSettings s)).2

end Tracked

end Act

open Act (Congruent Same Tracked)

section Operations

variable {υ ε α β : Type} {rules : Rules υ ε} {depth : Nat}

/-- A delivery that panics has come to a watch that panicked. -/
theorem Event.panicked_deliver {deliver : Delivery (Hands υ) ε} {e : Event} {ctx : Context}
    {w w' : World (Hands υ) ε} {message : String}
    (h : e.deliver deliver ctx w = (.panicked message, w')) :
    ∃ k v, deliver k e ctx v = (.panicked message, w') := by
  change (w.store.watches e.cell).values.forM (fun k => deliver k e) ctx w = _ at h
  generalize (w.store.watches e.cell).values = ks at h
  induction ks generalizing w with
  | nil => cases h
  | cons k ks ih =>
    cases hrun : deliver k e ctx w with
    | mk o v =>
    cases o with
    | done a => exact ih ((Act.bind_of_done hrun).symm.trans h)
    | panicked message' =>
      cases (Act.bind_of_panicked hrun).symm.trans h
      exact ⟨k, w, hrun⟩
    | halted => cases (Act.bind_of_halted hrun).symm.trans h

variable (hd : ∀ k e, Tracked rules (rules.deliver depth k e))

include hd

/-! ## Variables -/

/-- Telling the watches of an event. -/
theorem Event.deliver_tracked (e : Event) : Tracked rules (e.deliver (rules.deliver depth)) :=
  (Tracked.composes.tell (fun k e => Same.of (hd k e)) e).2

namespace CellId

/-- Making a change known. -/
theorem announce_tracked (c : CellId) (change : Change) (r : Replaced) :
    Tracked rules (c.announce (rules.deliver depth) change r) :=
  (Tracked.composes.announce (fun _ _ => .of (.note ⟨rfl, rfl⟩)) (fun k e => .of (hd k e)) c change
    r).2

/-- Setting a variable. -/
theorem write_tracked (c : CellId) (v : Value) :
    Tracked rules (c.write (rules.deliver depth) v) :=
  (Tracked.composes.write (fun t c v => .of (.revised fun _ _ => ⟨.write t c v, rfl⟩))
    (fun c change r => .of (c.announce_tracked hd change r)) c v).2

/-- Setting a root. -/
theorem setRoot_tracked (c : CellId) (v : Value) :
    Tracked rules (c.setRoot (rules.deliver depth) v) :=
  (Tracked.composes.setRoot (fun c v => .of (.revised fun _ _ => ⟨.setRoot c v, rfl⟩))
    (fun c change r => .of (c.announce_tracked hd change r)) c v).2

/-- Altering a root. -/
theorem alterRoot_tracked (c : CellId) {f : Value → Act (Hands υ) ε Value}
    (hf : ∀ v, Tracked rules (f v)) : Tracked rules (c.alterRoot (rules.deliver depth) f) := by
  have hlock : Tracked rules (Act.onStore fun s => ((), s.lock c) : Act (Hands υ) ε Unit) :=
    .revised fun _ _ => ⟨.lock c, rfl⟩
  have hunlock : Tracked rules (c.unlock : Act (Hands υ) ε Unit) :=
    .revised fun _ _ => ⟨.unlock c, rfl⟩
  have hhalt : Tracked rules (Act.halt : Act (Hands υ) ε Unit) := .still fun _ _ => rfl
  have hcomposes : Act.Composes (Same fun {α} (m : Act (Hands υ) ε α) => Tracked rules m) _ :=
    Tracked.composes
  exact (hcomposes.alterRoot (hcomposes.lock c (.of hhalt) (.of hlock)) (.of hunlock) (.of hunlock)
    (fun v => .of (c.setRoot_tracked hd v)) fun v => .of (hf v)).2

end CellId

/-! ## Guards -/

namespace Guard

variable {g : Guard} {ctx : Context} {M M₀ : Juncture υ ε}

/-- A release that closes the frame. It is in progress while the watches are told, and reported if
none of them panics. -/
theorem release_reaches (hg : g ∈ M.untried ∨ g ∈ M.loose) (hstate : g.state = .acquired)
    {r : Replaced} {s : Store} (hpop : M.store.pop ctx.thread g.cell g.frame = .ok (r, s)) :
    M.Reaches rules (g.release (rules.deliver depth) ctx M.world) fun M' => M.Alike M' ∧
      ∀ g', (g.release (rules.deliver depth) ctx M.world).1 = .done (.ok g') →
        ⟨.released, g.frame⟩ ∈ M'.world.reports := by
  have hrun : g.release (rules.deliver depth) ctx M.world = _ := release_of_ok hstate hpop
  have herase : (g.frame :: M.closing).erase g.frame = M.closing :=
    List.erase_cons_head g.frame M.closing
  let M₁ : Juncture υ ε := { M with
    world := M.world.closed ctx.thread g.cell g.frame s, closing := g.frame :: M.closing }
  have hclosed : Step rules M M₁ := .closed hg hpop
  refine .of_step hclosed ?_
  obtain ⟨M₂, hsteps, hworld, halike⟩ := g.cell.announce_tracked hd .restore r ctx M₁
  cases hannounce : g.cell.announce (rules.deliver depth) .restore r ctx M₁.world with
  | mk o w =>
  rw [hannounce] at hworld halike
  obtain rfl : M₂.world = w := hworld
  refine .of_steps hsteps ?_
  cases o with
  | done a =>
    obtain ⟨huntried, hloose, hclosing⟩ := halike nofun
    have hin : g.frame ∈ M₂.closing := hclosing ▸ List.mem_cons_self
    have hreports := (M₂.world.released_tells M.world.store g).reports.reports_eq
    rw [hrun, Act.bind_of_done hannounce]
    refine .of_step (.reported hin M.world.store) (.here rfl ⟨⟨huntried, hloose, ?_⟩, fun _ _ => ?_⟩)
    · exact (congrArg (List.erase · g.frame) hclosing).trans herase
    · exact hreports ▸ List.mem_cons_self
  | panicked message =>
    obtain ⟨huntried, hloose, hclosing⟩ := halike nofun
    have hin : g.frame ∈ M₂.closing := hclosing ▸ List.mem_cons_self
    obtain ⟨k, v, hpanic⟩ := Event.panicked_deliver hannounce
    rw [hrun, Act.bind_of_panicked hannounce]
    refine .of_step (.interrupted hin hpanic) (.here rfl ⟨⟨huntried, hloose, ?_⟩, nofun⟩)
    exact (congrArg (List.erase · g.frame) hclosing).trans herase
  | halted =>
    rw [hrun, Act.bind_of_halted hannounce]
    exact .halted .refl rfl

/-- A release of a guard that is at large, rejected or not. -/
theorem release_loose (hg : g ∈ M.loose) :
    M.Reaches rules (g.release (rules.deliver depth) ctx M.world) M.Alike := by
  rcases release_cases (rules.deliver depth) g ctx M.world with
    ⟨fault, message, hrefused⟩ | ⟨hstate, r, s, hpop⟩
  · rw [hrefused]
    exact .of_step (.refused hg hrefused) (.here rfl ⟨rfl, rfl, rfl⟩)
  · exact (release_reaches hd (.inr hg) hstate hpop).imp fun _ => And.left

/-- A drop of a guard that is at large, whose release may be rejected. -/
theorem drop_loose (hg : g ∈ M.loose) :
    M.Reaches rules (g.drop (rules.deliver depth) ctx M.world) M.Alike := by
  unfold drop
  cases g.state with
  | acquired =>
    refine Reaches.bind (Tracked.current ctx M) (fun policy M₁ _ halike => ?_)
      fun _ _ _ halike => halike
    have hg₁ : g ∈ M₁.loose := halike.loose ▸ hg
    refine Reaches.bind (release_loose hd hg₁) (fun result M₂ _ halike' => ?_)
      fun _ _ _ halike' => halike.trans halike'
    cases result with
    | ok _ => exact .here rfl (halike.trans halike')
    | error fault =>
      exact ((Tracked.composes.failRelease policy fault).2 ctx M₂).imp
        fun _ => (halike.trans halike').trans
  | released => exact .here rfl (.refl M)
  | abandoned => exact .here rfl (.refl M)

omit hd in
/-- A guard that is at large goes away. -/
theorem leave {α : Type} {result : Outcome α × World (Hands υ) ε} (hloose : M.loose = g :: M₀.loose)
    (huntried : M.untried = M₀.untried) (hclosing : M.closing = M₀.closing)
    (h : M.Reaches rules result M.Alike) : M.Reaches rules result M₀.Alike := by
  refine h.go fun M' hworld halike => .of_step (.left g) (.here hworld.symm ⟨?_, ?_, ?_⟩)
  · exact halike.untried.trans huntried
  · show M'.loose.erase g = M₀.loose
    rw [halike.loose, hloose, List.erase_cons_head]
  · exact halike.closing.trans hclosing

/-- Holding a guard around a body. -/
theorem hold_tracked {α : Type} (c : CellId) {body : Act (Hands υ) ε α}
    (hbody : Tracked rules body) : Tracked rules (hold (rules.deliver depth) c body) := by
  intro ctx M
  let g : Guard := .next M.store ctx.thread c
  let M₁ : Juncture υ ε :=
    { M with world := M.world.acquired ctx.thread c, untried := g :: M.untried }
  let M₂ : Juncture υ ε := { M₁ with untried := M₁.untried.erase g, loose := g :: M.loose }
  have hacquired : Step rules M M₁ := .acquired ctx.thread c
  have hloosened : Step rules M₁ M₂ := .loosened List.mem_cons_self
  have hg : ∀ M', M₂.Alike M' → g ∈ M'.loose := fun M' halike => halike.loose ▸ List.mem_cons_self
  unfold hold
  rw [Act.bind_of_done (acquire_run c ctx M.world)]
  refine .of_step hacquired (.of_step hloosened (leave rfl ?_ rfl ?_))
  · exact List.erase_cons_head g M.untried
  · have hinside : M₂.Reaches rules (Act.onUnwind body (g.drop (rules.deliver depth)) ctx M₂.world)
        M₂.Alike := by
      refine Reaches.onUnwind (hbody ctx M₂) (fun _ _ _ halike => halike) fun _ M' _ halike => ?_
      exact (drop_loose hd (hg M' halike)).imp fun _ => halike.trans
    refine Reaches.bind hinside (fun a M' _ halike => ?_) fun _ _ _ halike => halike
    refine Reaches.bind (drop_loose hd (hg M' halike)) (fun _ M'' _ halike' => ?_)
      fun _ _ _ halike' => halike.trans halike'
    exact .here rfl (halike.trans halike')

end Guard

/-! ## Overrides -/

/-- A juncture inside an override, whose guard nobody else has. -/
structure Juncture.Inside (g : Guard) (M₀ M : Juncture υ ε) : Prop where
  untried : M.untried = g :: M₀.untried
  loose : M.loose = M₀.loose
  closing : M.closing = M₀.closing

namespace Juncture.Inside

variable {g : Guard} {M₀ M M' : Juncture υ ε}

omit hd in
/-- A juncture like one inside an override is inside it. -/
theorem trans (h : Inside g M₀ M) (halike : M.Alike M') : Inside g M₀ M' :=
  ⟨halike.untried.trans h.untried, halike.loose.trans h.loose, halike.closing.trans h.closing⟩

omit hd in
/-- Inside an override nobody has tried to release its guard. -/
theorem mem (h : Inside g M₀ M) : g ∈ M.untried :=
  h.untried ▸ List.mem_cons_self

omit hd in
/-- Without this guard the guards are those around the override. -/
theorem erase (h : Inside g M₀ M) : M.untried.erase g = M₀.untried := by
  rw [h.untried, List.erase_cons_head]

end Juncture.Inside

namespace Overrides

variable {g : Guard} {ctx : Context} {M M₀ : Juncture υ ε}

/-- When a panic passes, the guard of an override is dropped. -/
theorem drop_inside (hin : Juncture.Inside g M₀ M) :
    M.Reaches rules (g.drop (rules.deliver depth) ctx M.world) M₀.Alike := by
  let M₁ : Juncture υ ε := { M with untried := M.untried.erase g, loose := g :: M.loose }
  have hloosened : Step rules M M₁ := .loosened hin.mem
  have hloose : M₁.loose = g :: M₀.loose := congrArg (List.cons g) hin.loose
  refine .of_step hloosened (Guard.leave hloose hin.erase hin.closing ?_)
  exact Guard.drop_loose hd List.mem_cons_self

/-- After a normal end of the body, the override is left. -/
theorem finish_reaches (hin : Juncture.Inside g M₀ M) (hstate : g.state = .acquired) :
    M.Reaches rules (finish (rules.deliver depth) g ctx M.world) fun M' => M₀.Alike M' ∧
      ∀ x, (finish (rules.deliver depth) g ctx M.world).1 = .done x → g.frame ∈ M'.ended := by
  unfold finish
  rcases g.release_cases (rules.deliver depth) ctx M.world with
    ⟨fault, message, hrefused⟩ | ⟨-, r, s, hpop⟩
  · rw [Act.bind_of_done (Act.onUnwind_of_done hrefused)]
    refine .of_step (.gaveUp hin.mem hstate hrefused)
      (.here ?_ ⟨⟨hin.erase, hin.loose, hin.closing⟩, fun _ _ => ?_⟩)
    · obtain ⟨c, f, state⟩ := g
      cases hstate
      rfl
    · exact List.mem_cons_self
  · refine Reaches.scope (Guard.release_reaches hd (.inl hin.mem) hstate hpop)
      (fun result M' hrun ⟨halike, hreported⟩ => ?_)
      (fun M' ⟨halike, _⟩ => drop_inside hd (hin.trans halike))
      fun hnot M' hback => ⟨hback, fun x hx => absurd hx (hnot x)⟩
    cases result with
    | error fault =>
      exact absurd (congrArg Prod.fst hrun) (Guard.release_not_refused hstate hpop fault)
    | ok g' =>
      have hin' := hin.trans halike
      have hreport := hreported g' (congrArg Prod.fst hrun)
      refine .of_step (.passed hin'.mem hreport) (.here rfl ⟨?_, fun _ _ => List.mem_cons_self⟩)
      exact ⟨hin'.erase, hin'.loose, hin'.closing⟩

/-- Where an action that overrides variables ends with a value, all of its overrides have been opened,
and they have been left. -/
def LeftAt {α : Type} (deliver : Delivery (Hands υ) ε) (set : Overrides) (ctx : Context)
    (w : World (Hands υ) ε) (o : Outcome α) (M : Juncture υ ε) : Prop :=
  ∀ a, o = .done a → ∃ gs v, openAll deliver set ctx w = (.done gs, v) ∧
    ∀ g ∈ gs, g.frame ∈ M.ended

variable {discard : α → Act (Hands υ) ε Unit} {body : Act (Hands υ) ε α}

/-- Inside an override, its variable is set before the other variables are overridden. -/
theorem assigned_reaches {rest : Overrides} (c : CellId) (v : Value)
    (hrest : ∀ M : Juncture υ ε,
      M.Reaches rules (around (rules.deliver depth) discard rest body ctx M.world) fun M' =>
        M.Alike M' ∧ LeftAt (rules.deliver depth) rest ctx M.world
          (around (rules.deliver depth) discard rest body ctx M.world).1 M') :
    let inner : Act (Hands υ) ε (α × Option Fault) := do
      c.write (rules.deliver depth) v
      around (rules.deliver depth) discard rest body
    M.Reaches rules (inner ctx M.world) fun M' => M.Alike M' ∧
      ∀ a, (inner ctx M.world).1 = .done a →
        ∃ w, c.write (rules.deliver depth) v ctx M.world = (.done (), w) ∧
          LeftAt (rules.deliver depth) rest ctx w (.done a) M' := by
  refine Reaches.bind (c.write_tracked hd v ctx M) (fun _ M₁ hrun halike => ?_)
    fun _ M₁ hrun halike => ⟨halike, fun a ha => ?_⟩
  · refine (hrest M₁).imp fun M' ⟨halike', hleft⟩ => ⟨halike.trans halike', fun a ha => ?_⟩
    rw [Act.bind_of_done hrun] at ha
    rw [ha] at hleft
    exact ⟨M₁.world, hrun, hleft⟩
  · rw [Act.bind_of_panicked hrun] at ha
    cases ha

variable (hdiscard : ∀ a, Tracked rules (discard a))

include hdiscard

/-- After a normal end of the body an override is left, and if a watch panics the result of the body goes
away. -/
theorem finish_discard_reaches (hin : Juncture.Inside g M₀ M) (hstate : g.state = .acquired) (a : α) :
    let ends := Act.onUnwind (finish (rules.deliver depth) g) (discard a)
    M.Reaches rules (ends ctx M.world) fun M' => M₀.Alike M' ∧
      ∀ x, (ends ctx M.world).1 = .done x → g.frame ∈ M'.ended := by
  refine Reaches.onUnwind (finish_reaches hd hin hstate) (fun x M' hrun ⟨hback, hended⟩ => ?_)
    fun message M' hrun ⟨hback, _⟩ => ?_
  · exact ⟨hback, fun _ _ => hended x (congrArg Prod.fst hrun)⟩
  · refine (hdiscard a _ M').imp fun M'' halike => ⟨hback.trans halike, fun x hx => ?_⟩
    cases hrun.symm.trans (Act.done_of_onUnwind (Prod.ext hx rfl))

/-- Overriding variables around a body. If the body ends normally, and no release of the overrides is cut
short, all of them are left. -/
theorem around_reaches (hbody : Tracked rules body) (set : Overrides) (ctx : Context)
    (M : Juncture υ ε) :
    M.Reaches rules (around (rules.deliver depth) discard set body ctx M.world) fun M' =>
      M.Alike M' ∧ LeftAt (rules.deliver depth) set ctx M.world
        (around (rules.deliver depth) discard set body ctx M.world).1 M' := by
  induction set generalizing M with
  | nil =>
    refine (Reaches.bind (hbody ctx M) (fun a M' _ halike => .here rfl halike)
      fun _ _ _ halike => halike).imp fun M' halike => ⟨halike, fun a _ => ?_⟩
    exact ⟨[], M.world, rfl, nofun⟩
  | cons pair rest ih =>
    obtain ⟨c, v⟩ := pair
    let g : Guard := .next M.store ctx.thread c
    let M₁ : Juncture υ ε :=
      { M with world := M.world.acquired ctx.thread c, untried := g :: M.untried }
    have hacquired : Step rules M M₁ := .acquired ctx.thread c
    have hin : Juncture.Inside g M M₁ := ⟨rfl, rfl, rfl⟩
    have hinner := assigned_reaches hd c v ih (M := M₁)
    rw [around_cons]
    refine .of_step hacquired (Reaches.scope hinner (fun ends M' hrun ⟨halike, hleft⟩ => ?_)
      (fun M' ⟨halike, _⟩ => drop_inside hd (hin.trans halike))
      fun hnot M' hback => ⟨hback, fun x hx => absurd hx (hnot x)⟩)
    obtain ⟨u, hwrite, hrest⟩ := hleft ends (congrArg Prod.fst hrun)
    obtain ⟨inner, u', hopen, hended⟩ := hrest ends rfl
    have hfinish : M'.Reaches rules
        (Act.onUnwind (finish (rules.deliver depth) g) (discard ends.1) ctx M'.world) _ :=
      (finish_discard_reaches hd hdiscard (hin.trans halike) rfl ends.1).keeps_ended
    rw [Act.bind_of_done (Act.onUnwind_of_done hrun), Act.map_run]
    refine (hfinish.map _).imp fun M'' ⟨⟨hback, hfinished⟩, hkeeps⟩ => ⟨hback, fun x hx => ?_⟩
    refine ⟨g :: inner, u', ?_, List.forall_mem_cons.2 ⟨?_, fun k hk => hkeeps _ (hended k hk)⟩⟩
    · unfold openAll
      rw [Act.bind_of_done (Guard.acquire_run c ctx M.world), Act.bind_of_done hwrite,
        Act.bind_of_done hopen]
      rfl
    · obtain ⟨y, hy⟩ := Outcome.done_of_map hx
      exact hfinished y hy

/-- The same for a body whose entering is logged. -/
theorem enter_reaches (hbody : Tracked rules body) (set : Overrides) (ctx : Context)
    (M : Juncture υ ε) :
    M.Reaches rules (enter (rules.deliver depth) discard set body ctx M.world) fun M' =>
      M.Alike M' ∧ LeftAt (rules.deliver depth) set ctx M.world
        (enter (rules.deliver depth) discard set body ctx M.world).1 M' := by
  have hentering : Tracked rules (logEntering set.length : Act (Hands υ) ε Unit) :=
    (Tracked.composes.log (by simp [source, Guard.source])).2
  rw [enter_eq]
  exact around_reaches hd hdiscard (hentering.bind fun _ => hbody) set ctx M

/-- Overrides around a body. -/
theorem enter_tracked (hbody : Tracked rules body) (set : Overrides) :
    Tracked rules (enter (rules.deliver depth) discard set body) :=
  fun ctx M => (enter_reaches hd hdiscard hbody set ctx M).imp fun _ => And.left

end Overrides

/-! ## Guards in hand -/

namespace Hands

omit hd in
/-- A guard is acquired, and is in the program's hands from then on. -/
theorem acquire_tracked (c : CellId) :
    Tracked rules (acquire c : Act (Hands υ) ε Nat) := by
  intro ctx M
  let g : Guard := .next M.store ctx.thread c
  let n : Nat := M.world.host.issued
  let M₁ : Juncture υ ε :=
    { M with world := M.world.acquired ctx.thread c, untried := g :: M.untried }
  let M₂ : Juncture υ ε := { M₁ with untried := M₁.untried.erase g, loose := g :: M.loose }
  let M₃ : Juncture υ ε :=
    { M₂ with world := M₂.world.withGuard n ⟨ctx.thread, g, false⟩, loose := M₂.loose.erase g }
  have hacquired : Step rules M M₁ := .acquired ctx.thread c
  have hloosened : Step rules M₁ M₂ := .loosened List.mem_cons_self
  let hands : Hands υ := { M₃.world.host with issued := n + 1 }
  have hreturned : Step rules M₂ M₃ := .returned List.mem_cons_self n rfl
  have hminded : Step rules M₃ { M₃ with world := { M₃.world with host := hands } } := .minded rfl
  refine .of_step hacquired (.of_step hloosened (.of_step hreturned (.of_step hminded ?_)))
  refine .here rfl ?_
  exact ⟨List.erase_cons_head g M.untried, List.erase_cons_head g M.loose, rfl⟩

/-- A guard is released out of the program's hands and put back there. -/
theorem release_tracked (n : Nat) : Tracked rules (release (rules.deliver depth) n) := by
  intro ctx M
  rcases release_cases (rules.deliver depth) n ctx M.world with hnone | ⟨h, hget, hthread⟩
  · rw [hnone]
    exact .here rfl (.refl M)
  let M₁ : Juncture υ ε := { M with world := M.world.without n, loose := h.guard :: M.loose }
  have htaken : Step rules M M₁ := .taken hget
  have hreleased : M₁.Reaches rules (h.guard.release (rules.deliver depth) ctx M₁.world) M₁.Alike :=
    Guard.release_loose hd List.mem_cons_self
  -- However the release ends, the guard goes back into the hands, or the run is over.
  have hput : ∀ {α : Type} {M₂ : Juncture υ ε} (a : Outcome α) (k : HeldGuard), M₁.Alike M₂ →
      k.guard.frame = h.guard.frame → M₂.Reaches rules (a, M₂.world.withGuard n k) M.Alike := by
    intro α M₂ a k halike hframe
    have hg : h.guard ∈ M₂.loose := halike.loose ▸ List.mem_cons_self
    refine .of_step (.returned hg n hframe) (.here rfl ⟨halike.untried, ?_, halike.closing⟩)
    exact (congrArg (List.erase · h.guard) halike.loose).trans (List.erase_cons_head _ _)
  rcases hrun : h.guard.release (rules.deliver depth) ctx M₁.world with
    ⟨⟨fault | guard⟩ | message | _, w⟩
  all_goals
    rw [hrun] at hreleased
    obtain ⟨M₂, hsteps, hworld, halike⟩ := hreleased
    obtain rfl : M₂.world = w := hworld
    refine .of_step htaken (.of_steps hsteps ?_)
  · rw [release_of_refused hget hthread hrun]
    exact hput _ h (halike nofun) rfl
  · have hguard := h.guard.release_yields ctx M₁.world _ (congrArg Prod.fst hrun) guard rfl
    rw [release_of_returned hget hthread hrun]
    exact hput _ { h with guard } (halike nofun) (by rw [hguard])
  · rw [release_of_panicked hget hthread hrun]
    exact hput _ { h with interrupted := true } (halike nofun) rfl
  · rw [release_of_halted hget hthread hrun]
    exact .halted .refl rfl

/-- A guard is dropped out of the program's hands. -/
theorem drop_tracked (n : Nat) : Tracked rules (drop (rules.deliver depth) n) := by
  intro ctx M
  rcases drop_cases (rules.deliver depth) n ctx M.world with hnone | ⟨h, hget, -, hdrop⟩
  · rw [hnone]
    exact .here rfl (.refl M)
  · rw [hdrop]
    let M₁ : Juncture υ ε := { M with world := M.world.without n, loose := h.guard :: M.loose }
    have htaken : Step rules M M₁ := .taken hget
    exact .of_step htaken (Guard.leave rfl rfl rfl (Guard.drop_loose hd List.mem_cons_self))

omit hd in
/-- A guard leaves the program's hands and is forgotten. -/
theorem forget_tracked (n : Nat) : Tracked rules (forget n : Act (Hands υ) ε Unit) := by
  intro ctx M
  rcases forget_cases n ctx M.world with hnone | ⟨h, hget, hforget⟩
  · rw [hnone]
    exact .here rfl (.refl M)
  · rw [hforget]
    let M₁ : Juncture υ ε := { M with world := M.world.without n, loose := h.guard :: M.loose }
    have htaken : Step rules M M₁ := .taken hget
    exact .of_step htaken (Guard.leave (g := h.guard) rfl rfl rfl (.here rfl (.refl M₁)))

end Hands

/-! ## Programs -/

/-- Calls that open and close frames only by guards. -/
def Call.ByGuards {α : Type} : Call υ ε α → Prop
  | .push _ => False
  | .pop _ _ => False
  | _ => True

/-- Programs that open and close frames only by guards. They may forget guards as they like. -/
def Program.ByGuards {α : Type} (p : Program υ ε α) : Prop :=
  p.Uses Call.ByGuards True

/-- Every call but the opening and closing of frames without a guard. -/
theorem Call.tracked {α : Type} {op : Call υ ε α} (h : op.ByGuards) :
    Tracked rules (op.act (rules.deliver depth)) := by
  cases op with
  | look see => exact .still fun _ _ => rfl
  | own change =>
    intro ctx M
    let hands : Hands υ := { M.world.host with own := change M.world.host.own }
    have hminded : Step rules M { M with world := { M.world with host := hands } } := .minded rfl
    exact .of_step hminded (.here rfl ⟨rfl, rfl, rfl⟩)
  | panic message => exact .still fun _ _ => rfl
  | halt => exact .still fun _ _ => rfl
  | write c v => exact c.write_tracked hd v
  | setRoot c v => exact c.setRoot_tracked hd v
  | push c => exact h.elim
  | pop c f => exact h.elim
  | issueFrame => exact .revised fun _ _ => ⟨.issueFrame, rfl⟩
  | watch c key k => exact .revised fun _ _ => ⟨.watch c key k, rfl⟩
  | unwatch c key => exact .revised fun _ _ => ⟨.unwatch c key, rfl⟩
  | acquire c => exact Hands.acquire_tracked c
  | release n => exact Hands.release_tracked hd n
  | drop n => exact Hands.drop_tracked hd n
  | forget n => exact Hands.forget_tracked n
  | capture cells => exact (Tracked.composes.capture cells).2
  | policy => exact .current
  | policyFromVariable => exact Tracked.composes.fromVariable.2
  | install decided => exact (Tracked.composes.install (fun s => .of (.setSettings s)) decided).2
  | setVariable content =>
    exact (Tracked.composes.setVariable (fun s => .of (.setSettings s)) content).2

/-- What programs are put together by. -/
theorem Act.Tracked.congruent : Congruent (Same fun {α} (m : Act (Hands υ) ε α) => Tracked rules m)
    (rules.deliver depth) (rules.deliver depth) where
  toComposes := composes
  current := .of current
  attempt := by
    rintro _ _ _ ⟨rfl, hm⟩
    exact .of hm.attempt
  onThread := by
    rintro _ _ _ t ⟨rfl, hm⟩
    exact .of (hm.onThread t)
  alterRoot c := by
    intro f f' hf
    obtain rfl : f' = f := funext fun v => (hf v).1
    exact .of (c.alterRoot_tracked hd fun v => (hf v).2)
  hold c := by
    rintro _ _ _ ⟨rfl, hbody⟩
    exact .of (Guard.hold_tracked hd c hbody)
  enter := by
    rintro _ discard discard' hdiscard _ _ ⟨rfl, hbody⟩ set
    obtain rfl : discard' = discard := funext fun a => (hdiscard a).1
    exact .of (Overrides.enter_tracked hd (fun a => (hdiscard a).2) hbody set)

/-- A program that opens and closes frames only by guards goes by steps, if its watches do. -/
theorem Program.tracked {α : Type} (p : Program υ ε α) (hp : p.ByGuards) :
    Tracked rules (p.act (rules.deliver depth)) :=
  (p.related (Act.Tracked.congruent hd) (fun _ hop => .of (Call.tracked hd hop)) hp).2

omit hd in
/-- Watches go by steps if they are programs that open and close frames only by guards. -/
theorem Rules.deliver_tracked (hrules : ∀ k e, (rules k e).ByGuards) (depth : Nat) (k : WatchId)
    (e : Event) : Tracked rules (rules.deliver depth k e) := by
  induction depth generalizing k e with
  | zero => exact .still fun _ _ => rfl
  | succ depth ih => exact (rules k e).tracked ih (hrules k e)

end Operations

end ScopedBinding
