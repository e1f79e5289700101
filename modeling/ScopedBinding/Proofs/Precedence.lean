import ScopedBinding.Proofs.GuardStates
import ScopedBinding.Proofs.Journal
import ScopedBinding.Proofs.Nesting
import ScopedBinding.Proofs.Ordering

/-!
# A failing body against rejected releases

After a body each guard of its scopes gets one release, the last one first, and a guard whose release
is rejected is abandoned (`Guard.tryRelease`). When these releases are run through, what the overrides
come to depends on the result of the body and on the first rejection only (`Overrides.around_of_done`).
A failure of the body goes before a rejection, which is logged then and treated by the policy from
before the body.

Nothing is assumed of the watches, apart from what they do in the run at hand: the scopes are opened
and the guards released to the end. For watches that never panic this is so unless the run is cut off
(`Overrides.openAll_ends`, `Overrides.releases_end`).
-/

set_option autoImplicit false

namespace ScopedBinding

open Act (Leads Ends)

/-- A sequence of actions over a list ends as each of them may. -/
theorem Act.Ends.mapM {η ε α β : Type} {allowed : Context → Ending → Prop}
    (hdone : ∀ ctx, allowed ctx .done) {f : α → Act η ε β} (hf : ∀ a, Ends allowed (f a))
    (l : List α) : Ends allowed (l.mapM f) := by
  induction l with
  | nil => exact .pure hdone _
  | cons a l ih =>
    rw [List.mapM_cons]
    exact .bind (hf a) fun b => .bind ih fun bs => .pure hdone _

/-- The last of a sequence of actions over a list. -/
theorem Act.done_of_mapM_concat {η ε α β : Type} {f : α → Act η ε β} {l : List α} {a : α}
    {ctx : Context} {w w' : World η ε} {bs : List β}
    (h : (l ++ [a]).mapM f ctx w = (.done bs, w')) :
    ∃ before b v, l.mapM f ctx w = (.done before, v) ∧ f a ctx v = (.done b, w') ∧
      bs = before ++ [b] := by
  rw [List.mapM_append] at h
  obtain ⟨before, v, hbefore, hrest⟩ := Act.done_of_bind h
  obtain ⟨last, v', hlast, hend⟩ := Act.done_of_bind hrest
  rw [List.mapM_cons] at hlast
  obtain ⟨b, v'', hb, hnil⟩ := Act.done_of_bind hlast
  cases hend
  cases hnil
  exact ⟨before, b, v, hbefore, hb, rfl⟩

/-! ## One release for each guard -/

namespace Guard

variable {η ε : Type} {deliver : Delivery η ε}

/-- The one release that a guard gets after the body of its scope. A rejected guard is abandoned. -/
def tryRelease (deliver : Delivery η ε) (g : Guard) : Act η ε (Option Fault) := do
  match ← g.release deliver with
  | .ok _ => pure none
  | .error fault =>
    let _ ← g.abandon
    pure (some fault)

/-- Such a release ends as the watches may. -/
theorem tryRelease_ends {allowed : Context → Ending → Prop} (hdone : ∀ ctx, allowed ctx .done)
    (hd : ∀ w e, Ends allowed (deliver w e)) (g : Guard) : Ends allowed (g.tryRelease deliver) := by
  unfold tryRelease
  refine .bind (g.release_ends hdone hd) fun result => ?_
  split
  · exact .pure hdone _
  · exact .bind (g.abandon_ends hdone) fun _ => .pure hdone _

/-- Such a release leads where closing the frame does. -/
theorem tryRelease_leads {R : World η ε → World η ε → Prop} (hR : Calm R) (g : Guard)
    (hpop : Leads R (g.cell.pop deliver g.frame)) : Leads R (g.tryRelease deliver) := by
  unfold tryRelease
  refine .bind hR (g.release_leads hR hpop) fun result => ?_
  split
  · exact .pure hR _
  · exact .bind hR (g.abandon_leads hR) fun _ => .pure hR _

/-- A failure stands after a rejected release if this does not panic. -/
theorem failRelease_then {α : Type} (policy : ReleasePolicy) (fault : Fault) (a : α) (ctx : Context)
    (w : World η ε) :
    (do failRelease policy fault; pure a : Act η ε α) ctx w =
      (if policy = .panic ∧ ctx.unwinding = false then .panicked fault.message else .done a, w) := by
  have hfail := failRelease_run policy fault ctx w
  by_cases hpanic : policy = .panic ∧ ctx.unwinding = false
  · rw [if_pos hpanic] at hfail ⊢
    exact Act.bind_of_panicked hfail
  · rw [if_neg hpanic] at hfail ⊢
    exact Act.bind_of_done hfail

/-- A rejected release leaves two messages and nothing else: the fault, and that the guard was
abandoned. -/
theorem tryRelease_rejected {g : Guard} (hg : g.state = .acquired) {ctx : Context}
    {w w' : World η ε} {fault : Fault}
    (h : g.tryRelease deliver ctx w = (.done (some fault), w')) :
    ∃ note, w' = { w with journal := note :: .logged (g.report w.store (some fault)) :: w.journal } := by
  unfold tryRelease at h
  obtain ⟨result, v, hrelease, hrest⟩ := Act.done_of_bind h
  cases hpop : w.store.pop ctx.thread g.cell g.frame with
  | ok closed =>
    obtain ⟨r, s⟩ := closed
    cases result with
    | ok g' => cases hrest
    | error other =>
      exact absurd (congrArg Prod.fst hrelease) (release_not_refused hg hpop other)
  | error other =>
    rw [release_of_error hg hpop] at hrelease
    cases hrelease
    obtain ⟨c, f, state⟩ := g
    cases hg
    cases hrest
    exact ⟨_, rfl⟩

end Guard

section Scopes

variable {υ ε α β : Type} {deliver : Delivery (Hands υ) ε}

namespace Overrides

/-- Opening the scopes of overrides ends as the watches may. -/
theorem openAll_ends {allowed : Context → Ending → Prop} (hdone : ∀ ctx, allowed ctx .done)
    (hd : ∀ w e, Ends allowed (deliver w e)) (set : Overrides) :
    Ends allowed (openAll deliver set) := by
  induction set with
  | nil => exact .pure hdone _
  | cons pair rest ih =>
    obtain ⟨c, x⟩ := pair
    unfold openAll
    refine .bind (.value hdone fun _ _ => ⟨_, rfl⟩) fun g => ?_
    exact .bind (c.write_ends hdone hd x) fun _ => .bind ih fun gs => .pure hdone _

/-- Releasing guards ends as the watches may. -/
theorem releases_end {allowed : Context → Ending → Prop} (hdone : ∀ ctx, allowed ctx .done)
    (hd : ∀ w e, Ends allowed (deliver w e)) (gs : List Guard) :
    Ends allowed (gs.mapM (Guard.tryRelease deliver)) :=
  .mapM hdone (Guard.tryRelease_ends hdone hd) gs

/-- The guards of scopes that were opened are those of the overridden variables, and open. -/
theorem openAll_guards {set : Overrides} {ctx : Context} {v v' : World (Hands υ) ε}
    {gs : List Guard} (h : openAll deliver set ctx v = (.done gs, v')) :
    gs.map Guard.cell = set.map Prod.fst ∧ ∀ g ∈ gs, g.state = .acquired := by
  induction set generalizing v gs with
  | nil =>
    cases h
    exact ⟨rfl, nofun⟩
  | cons pair rest ih =>
    obtain ⟨c, x⟩ := pair
    obtain ⟨v₁, inner, -, hinner, rfl⟩ := openAll_cons h
    obtain ⟨hcells, hstates⟩ := ih hinner
    refine ⟨?_, List.forall_mem_cons.2 ⟨rfl, hstates⟩⟩
    rw [List.map_cons, List.map_cons, hcells]
    rfl

/-- A scope whose guard is not cut short is ended by one release. -/
theorem finish_of_done {g : Guard} {ctx : Context} {v v' : World (Hands υ) ε}
    {rejection : Option Fault} (h : g.tryRelease deliver ctx v = (.done rejection, v')) :
    finish deliver g ctx v = (.done rejection, v') := by
  unfold Guard.tryRelease at h
  obtain ⟨result, v₁, hrelease, hrest⟩ := Act.done_of_bind h
  unfold finish
  rw [Act.bind_of_done (Act.onUnwind_of_done hrelease)]
  exact hrest

/-- After a body that ends with a value the guards are released, the last one first, and the first
rejection comes back beside the value. -/
theorem around_of_done {discard : α → Act (Hands υ) ε Unit} {set : Overrides}
    {body : Act (Hands υ) ε α} {ctx : Context} {v v₁ v₂ v₃ : World (Hands υ) ε} {gs : List Guard}
    {a : α} {rejections : List (Option Fault)}
    (hopen : openAll deliver set ctx v = (.done gs, v₁)) (hbody : body ctx v₁ = (.done a, v₂))
    (hrelease : gs.reverse.mapM (Guard.tryRelease deliver) ctx v₂ = (.done rejections, v₃)) :
    around deliver discard set body ctx v = (.done (a, rejections.findSome? id), v₃) := by
  induction set generalizing v gs rejections v₃ with
  | nil =>
    cases hopen
    cases hrelease
    unfold around
    rw [Act.bind_of_done hbody]
    rfl
  | cons pair rest ih =>
    obtain ⟨c, x⟩ := pair
    obtain ⟨v', inner, hwrite, hinner, rfl⟩ := openAll_cons hopen
    rw [List.reverse_cons] at hrelease
    obtain ⟨before, rejection, v₄, hbefore, htry, rfl⟩ := Act.done_of_mapM_concat hrelease
    have hrun := ih hinner hbefore
    rw [around_cons, Act.bind_of_done (Act.onUnwind_of_done ((hwrite _).trans hrun))]
    dsimp only
    rw [Act.bind_of_done (Act.onUnwind_of_done (finish_of_done htry)), List.findSome?_append,
      List.findSome?_singleton]
    rfl

/-- Every rejection is among the messages of the releases. -/
theorem rejections_logged (hd : ∀ w e, Leads Recorded (deliver w e)) {gs : List Guard}
    (hgs : ∀ g ∈ gs, g.state = .acquired) {ctx : Context} {v v' : World (Hands υ) ε}
    {rejections : List (Option Fault)}
    (h : gs.mapM (Guard.tryRelease deliver) ctx v = (.done rejections, v')) :
    ∃ J, v'.journal = J ++ v.journal ∧ List.Forall₂ (fun g rejection => ∀ fault,
      rejection = some fault →
        .logged ⟨.error, Guard.source, fault.message, [("frame", g.frame.display)]⟩ ∈ J)
      gs rejections := by
  induction gs generalizing v rejections with
  | nil =>
    cases h
    exact ⟨[], rfl, .nil⟩
  | cons g gs ih =>
    rw [List.mapM_cons] at h
    obtain ⟨rejection, v₁, htry, hrest⟩ := Act.done_of_bind h
    obtain ⟨others, v₂, hothers, hend⟩ := Act.done_of_bind hrest
    cases hend
    obtain ⟨hg, hgs⟩ := List.forall_mem_cons.1 hgs
    obtain ⟨J, hJ, hlogged⟩ := ih hgs hothers
    have hpop := (Recorded.stepwise hd).pop g.cell g.frame
    have hleads := g.tryRelease_leads Recorded.revising.toPlain.calm hpop ctx v
    rw [htry] at hleads
    obtain ⟨K, hK, -⟩ := hleads
    refine ⟨J ++ K, by rw [hJ, hK, List.append_assoc], .cons ?_ ?_⟩
    · rintro fault rfl
      obtain ⟨note, hnote⟩ := Guard.tryRelease_rejected hg htry
      have hjournal : K ++ v.journal =
          [note, .logged (g.report v.store (some fault))] ++ v.journal := by
        rw [← hK, hnote]
        rfl
      rw [List.append_cancel_right hjournal]
      exact List.mem_append_right _ (List.mem_cons_of_mem _ List.mem_cons_self)
    · exact hlogged.imp fun _ _ hmem fault hfault => List.mem_append_left _ (hmem fault hfault)

/-- A success that goes away without a step leaves the failure that stands for the rejection. -/
theorem trySettle_ok_of_gone {η ε α β : Type} {discard : Except β α → Act η ε Unit} {a : α}
    (h : discard (.ok a) = pure ()) (ofFault : Fault → β) (policy : ReleasePolicy) (fault : Fault) :
    trySettle discard ofFault policy (.ok a, some fault) = pure (.error (ofFault fault)) := by
  show (do discard (.ok a); pure (Except.error (ofFault fault))) = _
  rw [h]
  rfl

/-- A failure that goes away without a step leaves the panic about the rejection, if there is one. -/
theorem trySettle_error_of_gone {η ε α β : Type} {discard : Except β α → Act η ε Unit} {failure : β}
    (h : discard (.error failure) = pure ()) (ofFault : Fault → β) (policy : ReleasePolicy)
    (fault : Fault) : trySettle discard ofFault policy (.error failure, some fault) = (do
      Act.log ⟨.error, source, "restoration failed after body error: " ++ fault.message, []⟩
      Guard.failRelease policy fault
      pure (.error failure)) := by
  show (do
    Act.log _
    Act.onUnwind (Guard.failRelease policy fault) (discard (.error failure))
    pure (Except.error failure)) = _
  rw [h, Act.onUnwind_nothing]

/-- How a run of a body that may fail ends, from where all guards got their release: `first` is the first
rejection, `v₂` the world in which the body has ended, and `v₃` the one after the releases. The policy was
read before the body, from where `w₀` is the world. -/
structure Precedence {υ ε α β : Type} (deliver : Delivery (Hands υ) ε)
    (discard : Except β α → Program υ ε Unit) (ofFault : Fault → β) (set : Overrides)
    (p : Program υ ε (Except β α)) (policy : ReleasePolicy) (ctx : Context)
    (w w₀ v₂ v₃ : World (Hands υ) ε) (gs : List Guard) (result : Except β α)
    (rejections : List (Option Fault)) (first : Option Fault) : Prop where
  /-- Each pair has one guard, and there are no other guards. -/
  guards : gs.map Guard.cell = set.map Prod.fst
  /-- Without a rejection the run ends with the result of the body. -/
  kept : first = none →
    (Program.tryOverride discard ofFault set p).act deliver ctx w = (.done result, v₃)
  /-- If the body succeeded its value goes away. If this is without a step the run ends with the failure
  that stands for the first rejection. -/
  succeeded : ∀ fault a, first = some fault → result = .ok a → discard result = .skip result →
    (Program.tryOverride discard ofFault set p).act deliver ctx w =
      (.done (.error (ofFault fault)), v₃)
  /-- If the body failed the rejection is logged. Under the panic policy, on a thread that is not
  unwinding, the run panics with its description, and the failure goes away. Otherwise the run ends with
  the failure of the body. -/
  failed : ∀ fault failure, first = some fault → result = .error failure →
    discard result = .skip result →
    (Program.tryOverride discard ofFault set p).act deliver ctx w =
      (if policy = .panic ∧ ctx.unwinding = false then .panicked fault.message
        else .done (.error failure),
        { v₃ with journal := .logged ⟨.error, source,
            "restoration failed after body error: " ++ fault.message, []⟩ :: v₃.journal })
  /-- Whatever the going away of a result comes to, it is the last thing that happens. -/
  settled : (Program.tryOverride discard ofFault set p).act deliver ctx w =
    trySettle (fun a => (discard a).act deliver) ofFault policy (result, first) ctx v₃
  /-- Every rejection is among the messages about the releases. -/
  logged : ∃ J, v₃.journal = J ++ v₂.journal ∧ List.Forall₂ (fun g rejection => ∀ fault,
    rejection = some fault →
      .logged ⟨.error, Guard.source, fault.message, [("frame", g.frame.display)]⟩ ∈ J)
    gs.reverse rejections
  /-- The world is that in which overrides around a body that cannot fail end. -/
  alike : (∀ fault, first = some fault → discard result = .skip result) →
    (Program.override discard set p).act deliver ctx w₀ = (.done (Overrides.result (result, first)), v₃)

end Overrides

/-- A body that may fail, inside overrides around which releases are rejected. The set, the body and the
policy are arbitrary, and so is whether the thread is unwinding. The body may leave any frames open; it
does not panic. The watches are arbitrary programs, and none of them panics while the scopes are opened
or left; both end only in ways in which watches end.

The policy is read before the body. Then the scopes are opened, the body runs, and each guard of the
overridden variables gets one release, the last one first, and no other. Wherever the run gets through
these steps, the first rejection decides what becomes of the result (`Overrides.Precedence`). The world is
that in which overrides around a body that cannot fail end from where the policy has been read; if the
policy was decided before, this is from the same world. -/
theorem failures_take_precedence {υ ε α β : Type} (rules : Rules υ ε) (depth : Nat)
    (discard : Except β α → Program υ ε Unit) (ofFault : Fault → β) (set : Overrides)
    (p : Program υ ε (Except β α)) (ctx : Context) (w : World (Hands υ) ε) :
    let deliver := rules.deliver depth
    let policy := w.settings.policy
    (∀ allowed : Context → Ending → Prop, (∀ ctx, allowed ctx .done) →
      (∀ w e, Ends allowed (deliver w e)) → Ends allowed (Overrides.openAll deliver set) ∧
        ∀ gs : List Guard, Ends allowed (gs.mapM (Guard.tryRelease deliver))) ∧
    ∃ w₀, Settings.current ctx w = (.done policy, w₀) ∧ w₀.store = w.store ∧
      (w.settings.active = some policy → w₀ = w) ∧
      ∀ gs v₁ result v₂ rejections v₃,
        Overrides.openAll deliver set ctx w₀ = (.done gs, v₁) →
        Overrides.entered set p deliver ctx v₁ = (.done result, v₂) →
        gs.reverse.mapM (Guard.tryRelease deliver) ctx v₂ = (.done rejections, v₃) →
        Overrides.Precedence deliver discard ofFault set p policy ctx w w₀ v₂ v₃ gs result rejections
          (rejections.findSome? id) := by
  intro deliver policy
  refine ⟨fun allowed hdone hd =>
    ⟨Overrides.openAll_ends hdone hd set, Overrides.releases_end hdone hd⟩, ?_⟩
  have hpolicy := Settings.current_decides ctx w
  refine ⟨_, hpolicy, rfl, fun hactive => ?_, ?_⟩
  · exact congrArg Prod.snd (hpolicy.symm.trans (Settings.current_of_active hactive))
  intro gs v₁ result v₂ rejections v₃ hopen hbody hrelease
  generalize hfirst : rejections.findSome? id = first
  have henter : Overrides.enter deliver (fun a => (discard a).act deliver) set (p.act deliver) ctx
      w.afterPolicy = (.done (result, first), v₃) := by
    rw [Overrides.enter_eq, ← hfirst]
    exact Overrides.around_of_done hopen hbody hrelease
  have hrun : (Program.tryOverride discard ofFault set p).act deliver ctx w =
      Overrides.trySettle (fun a => (discard a).act deliver) ofFault policy (result, first) ctx v₃ :=
    (Act.bind_of_done hpolicy).trans (Act.bind_of_done henter)
  obtain ⟨hcells, hstates⟩ := Overrides.openAll_guards hopen
  have hrecorded : ∀ w e, Leads Recorded (deliver w e) :=
    rules.deliver_leads_to Recorded.revising.toPlain.calm (fun _ hd => Recorded.stepwise hd) depth
  have hskip : ∀ a : Except β α, (Program.skip a : Program υ ε Unit).act deliver = pure () :=
    fun _ => rfl
  refine ⟨hcells, fun hnone => ?_, ?_, ?_, hrun, ?_, fun hgone => ?_⟩
  · rw [hrun, hnone]
    rfl
  · rintro fault a hfault rfl hgone
    rw [hrun, hfault, Overrides.trySettle_ok_of_gone (by rw [hgone, hskip])]
    rfl
  · rintro fault failure hfault rfl hgone
    rw [hrun, hfault, Overrides.trySettle_error_of_gone (by rw [hgone, hskip])]
    exact Guard.failRelease_then policy fault (Except.error failure) ctx _
  · exact Overrides.rejections_logged hrecorded (fun g hg => hstates g (List.mem_reverse.1 hg)) hrelease
  · show Overrides.run deliver _ set (p.act deliver) ctx _ = _
    rw [Overrides.run_eq, Act.bind_of_done henter]
    cases first with
    | none => rfl
    | some fault =>
      have hpure : (discard result).act deliver = pure () := by rw [hgone fault rfl, hskip]
      rw [Overrides.settle_of_gone hpure]
      rfl

end Scopes

/-- A program that leaves a frame of the shared variable open and fails. -/
def Program.leakAndFail : Program Unit Unit (Except Nat Nat) :=
  .bind .leak fun _ => .call (.look fun _ _ => .error 7)

/-- A run of it inside overrides of both variables, step by step: its result and the rejections. -/
def Program.leakAndFailSteps :
    Act (Hands Unit) Unit (List Guard × Except Nat Nat × List (Option Fault)) := do
  let gs ← Overrides.openAll (Rules.meddling.deliver 3) .both
  let result ← Overrides.entered .both leakAndFail (Rules.meddling.deliver 3)
  return (gs, result, ← gs.reverse.mapM (Guard.tryRelease (Rules.meddling.deliver 3)))

/-- Whether a run has come to a failure and to a rejection. -/
def Outcome.failedAndRejected :
    Outcome (List Guard × Except Nat Nat × List (Option Fault)) → Bool
  | .done (_, .error _, rejections) => (rejections.findSome? id).isSome
  | _ => false

/-- The rejection of its frame makes the overrides around it panic, under the policy of a process whose
variable is not set. -/
theorem leakAndFail_panics :
    ∃ fault w', (Program.tryOverride .skip (fun _ => 0) .both .leakAndFail).act
      (Rules.meddling.deliver 3) ⟨⟨0⟩, false⟩ .watched = (.panicked (Fault.message fault), w') := by
  obtain ⟨-, w₀, hpolicy, -, -, hends⟩ := failures_take_precedence Rules.meddling 3 .skip (fun _ => 0)
    .both Program.leakAndFail ⟨⟨0⟩, false⟩ World.watched
  obtain rfl : (Settings.current ⟨⟨0⟩, false⟩ World.watched).2 = w₀ := congrArg Prod.snd hpolicy
  cases hsteps : Program.leakAndFailSteps ⟨⟨0⟩, false⟩
      (Settings.current ⟨⟨0⟩, false⟩ World.watched).2 with
  | mk o v₃ =>
  have hfailed : o.failedAndRejected = true :=
    (congrArg (fun run => run.1.failedAndRejected) hsteps).symm.trans (by decide +kernel)
  match o, hfailed with
  | .done (gs, .error failure, rejections), hrejected =>
    obtain ⟨fault, hfirst⟩ := Option.isSome_iff_exists.1 hrejected
    obtain ⟨gs', v₁, hopen, hrest⟩ := Act.done_of_bind hsteps
    obtain ⟨result, v₂, hbody, hleave⟩ := Act.done_of_bind hrest
    obtain ⟨rejections', v₄, hrelease, hend⟩ := Act.done_of_bind hleave
    cases hend
    have hprecedence := hends _ _ _ _ _ _ hopen hbody hrelease
    exact ⟨fault, _, hprecedence.failed fault failure hfirst rfl rfl⟩

/-! ## Where a result that owns a guard, or a policy that is not decided, makes a difference -/

/-- A program that acquires two guards of the dynamic variable, forgets the later one, and succeeds with the
number of the other. -/
def Program.keepBelow : Program Unit Unit (Except Nat Nat) := do
  let kept ← .call (.acquire ⟨0⟩)
  let lost ← .call (.acquire ⟨0⟩)
  .call (.forget lost)
  return .ok kept

/-- A guard that goes with a success is dropped. -/
def Program.dropKept : Except Nat Nat → Program Unit Unit Unit
  | .ok n => .call (.drop n)
  | .error _ => .skip ()

/-- A program that installs the log policy. Then it opens a scope whose guard cannot be released at the end,
and sets the shared variable if nothing panics. -/
def Program.installAndLeak : Program Unit Unit (Except Nat Unit) := do
  let _ ← .call (.install .log)
  let _ ← .attempt (do
    .hold ⟨0⟩ (do
      let lost ← .call (.acquire ⟨0⟩)
      .call (.forget lost))
    .call (.write ⟨1⟩ (.int 9)))
  return .ok ()

/-- A success after which a release is rejected does not become the failure that stands for it if the guard
that goes with it cannot be released either: under the panic policy the run panics. And around a body that
installs a policy, overrides of a body that may fail do not end in the store in which overrides of a body
that cannot fail do, since only the former decide the policy before the body. -/
theorem precedence_is_not_all :
    let deliver := Rules.meddling.deliver 3
    ((Program.tryOverride Program.dropKept (fun _ => 0) [(⟨0⟩, .int 3)] .keepBelow).act deliver
        ⟨⟨0⟩, false⟩ (.start Store.sample ())).1.ending = .panicked ∧
      (((Program.tryOverride Program.skip (fun _ => 0) [] .installAndLeak).act deliver ⟨⟨0⟩, false⟩
          (.start Store.sample ())).2.store.root ⟨1⟩ = .int 2 ∧
        ((Program.override Program.skip [] .installAndLeak).act deliver ⟨⟨0⟩, false⟩
          (.start Store.sample ())).2.store.root ⟨1⟩ = .int 9) := by
  decide +kernel

end ScopedBinding
