import ScopedBinding.Proofs.Configuration
import ScopedBinding.Proofs.Steps

/-!
# The policy of a process is decided once

Whatever a process does, its settings only go through changes of the variable, tries to install a
policy, and questions for the policy, and these are the ones that the parts of its program make
(`Program.recounts`). The first deed that is no change of the variable decides the policy for good
(`Settings.Decided`, `configuration_decided_once`).

A guard that goes away while it is acquired asks for the policy before it does anything, and so does a
run of a body that may fail. What they do with a release that fails is up to the policy of the process
at that moment (`Guard.drop_decides`, `Overrides.tryRun_decides`), which is the one they were told.
Other runs of bodies, and releases, ask for no policy while nothing panics.
-/

set_option autoImplicit false

namespace ScopedBinding

open Settings (Chains Deed Keeps Lives)
open Act (Moves MovesDone Recounts)

section Decisions

variable {η ε α β : Type} {deliver : Delivery η ε}

/-- Asking for the policy decides it. -/
theorem World.afterPolicy_active (w : World η ε) :
    w.afterPolicy.settings.active = some w.settings.policy :=
  rfl

/-- A try to install a policy that comes too late is answered by the one that holds. -/
theorem Settings.install_known {policy : ReleasePolicy} {r : World η ε}
    (h : r.settings.active = some policy) (other : ReleasePolicy) (ctx : Context) :
    Settings.install other ctx r = (.done (.error policy), r) := by
  obtain ⟨s, ⟨content, _ | active⟩, journal, host⟩ := r
  · cases h
  · cases h
    rfl

/-- What goes on with the policy that was told before goes on with the policy that holds by then. -/
theorem Act.bind_policy {m : Act η ε α} (hm : Moves Keeps m) {policy : ReleasePolicy} {ctx : Context}
    {w : World η ε} (hw : w.settings.active = some policy) (next : ReleasePolicy → α → Act η ε β) :
    (m >>= next policy) ctx w =
      (do let a ← m
          next (← Act.settings).policy a) ctx w := by
  have hend := hm ctx w policy hw
  show Act.bind m (next policy) ctx w = Act.bind m _ ctx w
  unfold Act.bind
  generalize m ctx w = result at hend ⊢
  obtain ⟨a | message | _, v⟩ := result
  · show next policy a ctx v = next v.settings.policy a ctx v
    rw [Settings.policy_of_active hend]
  · rfl
  · rfl

/-- What becomes of a release of a guard that goes away. -/
def Guard.settleDrop (policy : ReleasePolicy) : Except Fault Guard → Act η ε Unit
  | .ok _ => pure ()
  | .error fault => failRelease policy fault

/-- A guard that goes away while it is acquired decides the policy before all else, and it is the
policy of the process that decides what becomes of its release. -/
theorem Guard.drop_decides (hd : ∀ k e, Moves Keeps (deliver k e)) {g : Guard}
    (hg : g.state = .acquired) (ctx : Context) (w : World η ε) :
    g.drop deliver ctx w =
        (do let result ← g.release deliver
            settleDrop (← Act.settings).policy result) ctx w.afterPolicy ∧
      (g.drop deliver ctx w).2.settings.active = some w.settings.policy := by
  have hdrop : g.drop deliver ctx w =
      (g.release deliver >>= settleDrop w.settings.policy) ctx w.afterPolicy := by
    have hbody : g.drop deliver =
        (do let policy ← Settings.current
            let result ← g.release deliver
            settleDrop policy result) := by
      obtain ⟨cell, frame, state⟩ := g
      cases hg
      rfl
    rw [hbody, Act.bind_of_done (Settings.current_decides ctx w)]
  have h := Moves.stores Keeps.chains hd
  have hrelease := h.release h.releases.message (h.pop g.cell g.frame)
  have hwhole := h.bind hrelease fun result =>
    show Act.Same (fun {α} (m : Act η ε α) => Moves Keeps m)
        (settleDrop w.settings.policy result) (settleDrop w.settings.policy result) by
      cases result with
      | ok _ => exact h.pure _
      | error fault => exact h.failRelease _ fault
  rw [hdrop]
  exact ⟨Act.bind_policy hrelease.2 w.afterPolicy_active settleDrop,
    hwhole.2 ctx w.afterPolicy _ w.afterPolicy_active⟩

/-- A run of a body that may fail decides the policy before the body, and it is the policy of the
process that decides what becomes of a rejected release. -/
theorem Overrides.tryRun_decides (discard : Except β α → Act η ε Unit) (ofFault : Fault → β)
    (set : Overrides) {body : Act η ε (Except β α)}
    (henter : Moves Keeps (enter deliver discard set body)) (ctx : Context) (w : World η ε) :
    tryRun deliver discard ofFault set body ctx w =
      (do let ends ← enter deliver discard set body
          trySettle discard ofFault (← Act.settings).policy ends) ctx w.afterPolicy := by
  rw [tryRun_eq, Act.bind_of_done (Settings.current_decides ctx w)]
  exact Act.bind_policy henter w.afterPolicy_active (trySettle discard ofFault)

/-- Overrides around a body that end with a value move the settings where the body, its result that goes
away, and the watches do. -/
theorem Overrides.run_movesDone {Q : Settings → Settings → Prop} (hQ : Chains Q)
    (hd : ∀ k e, MovesDone Q (deliver k e)) {discard : α → Act η ε Unit}
    (hdiscard : ∀ a, MovesDone Q (discard a)) (set : Overrides) {body : Act η ε α}
    (hbody : MovesDone Q body) : MovesDone Q (run deliver discard set body) := by
  have h := MovesDone.stores hQ hd
  have hscopes := h.encloses fun g => .of fun _ _ => trivial
  exact (h.run (fun a => .of (hdiscard a))
    (hscopes.enter (fun a => .of fun _ _ => trivial) (.of hbody) set)).2

end Decisions

/-! ## What is decided -/

/-- What a list of deeds decides, and how it is answered. -/
structure Settings.Decided (s : Settings) (ds : List Deed) (s' : Settings) : Prop where
  /-- The first deed that is no change of the variable decides the policy. -/
  active : s.active = none → s'.active = decision s.content ds
  /-- A try to install succeeds exactly if nothing was decided before it. -/
  installs : s.active = none → ∀ front policy answer back,
    ds = front ++ .install policy answer :: back →
      (answer = .ok () ↔ decision s.content front = none)
  /-- Every other answer is the policy that holds in the end. -/
  answers : s.active = none → ∀ front d back, ds = front ++ d :: back →
    (∃ policy, d = .install policy (.ok ()) ∧ s'.active = some policy) ∨
      (∃ content, d = .change content) ∨ ∃ policy, s'.active = some policy ∧ d.Agrees policy
  /-- A policy that was decided before stays, and every answer agrees with it. -/
  stays : ∀ policy, s.active = some policy → s'.active = some policy ∧ ∀ d ∈ ds, d.Agrees policy

/-- Settings that go through some deeds are as these decide. -/
theorem Settings.Lives.decided {s s' : Settings} {ds : List Deed} (h : Lives s ds s') :
    s.Decided ds s' where
  active := h.active
  installs hnone front policy answer back hds := by
    subst hds
    exact h.install_iff hnone
  answers hnone front d back hds := by
    subst hds
    exact h.answers
  stays policy hp := h.agrees hp

section Runs

variable {υ ε : Type}

/-- Guards that go away ask for the policy while they are acquired. -/
structure Guard.AsksFirst (deliver : Delivery (Hands υ) ε) (g : Guard) (ctx : Context)
    (w : World (Hands υ) ε) : Prop where
  /-- The policy is decided first. What becomes of a rejected release is up to the policy of the process
  at that moment. -/
  acquired : g.state = .acquired →
    g.drop deliver ctx w =
      (do let result ← g.release deliver
          settleDrop (← Act.settings).policy result) ctx w.afterPolicy
  /-- The policy is decided in the end, whether the release is rejected or not. -/
  decided : g.state = .acquired →
    (g.drop deliver ctx w).2.settings.active = some w.settings.policy
  /-- The end of any other guard does nothing. -/
  idle : g.state ≠ .acquired → g.drop deliver ctx w = (.done (), w)

/-- A run of a body that may fail asks for the policy. -/
structure Program.TriesFirst (deliver : Delivery (Hands υ) ε) {α β : Type}
    (discard : Except β α → Program υ ε Unit) (ofFault : Fault → β) (set : Overrides)
    (p : Program υ ε (Except β α)) (ctx : Context) (w : World (Hands υ) ε) : Prop where
  /-- The policy is decided before the body. What becomes of a rejected release is up to the policy of
  the process at that moment. -/
  asks : (tryOverride discard ofFault set p).act deliver ctx w =
    (do let ends ← Overrides.enter deliver (fun a => (discard a).act deliver) set (p.act deliver)
        Overrides.trySettle (fun a => (discard a).act deliver) ofFault (← Act.settings).policy
          ends) ctx w.afterPolicy
  /-- Wherever the run goes on from there, every try to install a policy fails. -/
  refuses : ∀ r : World (Hands υ) ε, w.afterPolicy.settings.Keeps r.settings → ∀ other ctx,
    Settings.install other ctx r = (.done (.error w.settings.policy), r)

/-- Operations that ask for no policy on their own. Any relation between settings that can be put
together holds of them if it holds of the watches, of the body and of its result that goes away. -/
structure Delivery.Unasked (deliver : Delivery (Hands υ) ε) (Q : Settings → Settings → Prop) :
    Prop where
  release : (∀ k e, Moves Q (deliver k e)) → ∀ g : Guard, Moves Q (g.release deliver)
  override : (∀ k e, MovesDone Q (deliver k e)) → ∀ {α : Type} (discard : α → Program υ ε Unit)
    (p : Program υ ε α), (∀ a, MovesDone Q ((discard a).act deliver)) → MovesDone Q (p.act deliver) →
      ∀ set, MovesDone Q ((Program.override discard set p).act deliver)
  convey : (∀ k e, MovesDone Q (deliver k e)) → ∀ {α : Type} (discard : α → Program υ ε Unit)
    (p : Program υ ε α), (∀ a, MovesDone Q ((discard a).act deliver)) → MovesDone Q (p.act deliver) →
      ∀ snapshot, MovesDone Q ((Program.convey discard snapshot p).act deliver)

/-- How the release policy of a process is decided in runs with some watches. -/
structure Rules.DecidesOnce (rules : Rules υ ε) (depth : Nat) : Prop where
  /-- The settings of a run go through the deeds of its parts. Of these the tries to install a policy are
  of policies that the program or its watches install. -/
  accounts : ∀ given : ReleasePolicy → Prop, (∀ k e, (rules k e).Uses (Call.Installs given) True) →
    ∀ {α : Type} (p : Program υ ε α), p.Uses (Call.Installs given) True →
      ∃ deeds, Act.Account (p.act (rules.deliver depth)) deeds ∧ deeds.Install given ∧
        ∀ ctx w, Lives w.settings (deeds ctx w) (p.act (rules.deliver depth) ctx w).2.settings
  /-- Every program installs some policies or none. -/
  every : ∀ {α : Type} (p : Program υ ε α), p.Uses (Call.Installs fun _ => True) True
  decided : ∀ s ds s', Lives s ds s' → s.Decided ds s'
  install : ∀ policy ctx (w : World (Hands υ) ε), Settings.install policy ctx w =
    (.done w.settings.answer, { w with settings := w.settings.installing policy })
  current : ∀ ctx (w : World (Hands υ) ε),
    Settings.current ctx w = (.done w.settings.policy, w.afterPolicy)
  /-- Looking at what the variable selects decides nothing. -/
  looking : ∀ ctx (w : World (Hands υ) ε), (Settings.fromVariable ctx w).2.settings = w.settings
  drop : ∀ (g : Guard) ctx w, g.AsksFirst (rules.deliver depth) ctx w
  tryOverride : ∀ {α β : Type} (discard : Except β α → Program υ ε Unit) (ofFault : Fault → β) set
    (p : Program υ ε (Except β α)) ctx w,
    Program.TriesFirst (rules.deliver depth) discard ofFault set p ctx w
  others : ∀ Q, Chains Q → (rules.deliver depth).Unasked Q

/-- Programs that are watches have accounts. -/
theorem Rules.deliver_accounts (rules : Rules υ ε) (depth : Nat) (k : WatchId) (e : Event) :
    Recounts (fun _ => True) (rules.deliver depth k e) := by
  refine Rules.deliver_recounts (fun k e => ?_) depth k e
  exact (rules k e).uses_of_forall fun op => by cases op <;> trivial

/-- The release policy of a process is decided once, in every run of any program with watches that are
programs, however it ends. If no policy was decided before, the first deed of the run that is no change
of the variable decides it: a try to install a policy, with that policy, or a question, with the policy
that the variable selects by then. A question is asked by a call, by the end of a guard that is still
acquired, and by a run of a body that may fail before the body; a release asks for nothing, and neither
does a run of overrides or of a snapshot that ends with a value or with a fault, but for what the body
and the watches ask. -/
theorem configuration_decided_once (rules : Rules υ ε) (depth : Nat) : rules.DecidesOnce depth where
  accounts given hrules α p hp := by
    have hd := Rules.deliver_recounts hrules depth
    obtain ⟨deeds, haccount, hgiven⟩ := p.recounts hd hp
    exact ⟨deeds, haccount, hgiven, haccount.lives⟩
  every p := p.uses_of_forall fun op => by cases op <;> trivial
  decided _ _ _ h := h.decided
  install := Settings.install_run
  current := Settings.current_decides
  looking ctx w := by rw [Settings.fromVariable_run]
  drop g ctx w :=
    have hkeeps := fun k e => (rules.deliver_accounts depth k e).keeps
    { acquired := fun hg => (Guard.drop_decides hkeeps hg ctx w).1
      decided := fun hg => (Guard.drop_decides hkeeps hg ctx w).2
      idle := fun hg => g.drop_of_not_acquired hg ctx w }
  tryOverride discard ofFault set p ctx w := by
    have hd := rules.deliver_accounts depth
    have hprogram {γ : Type} (q : Program υ ε γ) :
        Recounts (fun _ => True) (q.act (rules.deliver depth)) :=
      q.recounts hd (q.uses_of_forall fun op => by cases op <;> trivial)
    have henter := (Recounts.congruent hd).enter (fun a => .of (hprogram (discard a)))
      (.of (hprogram p)) set
    exact ⟨Overrides.tryRun_decides _ ofFault set henter.2.keeps ctx w,
      fun r hr other ctx => Settings.install_known (hr _ w.afterPolicy_active) other ctx⟩
  others Q hQ :=
    { release := fun hd g =>
        have h := Moves.stores hQ hd
        (h.release h.releases.message (h.pop g.cell g.frame)).2
      override := fun hd _ _ _ hdiscard hp set => Overrides.run_movesDone hQ hd hdiscard set hp
      convey := fun hd _ _ _ hdiscard hp snapshot =>
        Overrides.run_movesDone hQ hd hdiscard snapshot.bindings hp }

/-- A body that may fail and that tries to install a policy. -/
def Program.installing : Program Unit Unit (Except Unit (Except ReleasePolicy Unit)) := do
  let answer ← .call (.install .log)
  pure (.ok answer)

/-- The world after a run of that body and a later change of the variable. -/
def World.installedLate : World (Hands Unit) Unit :=
  ((do let _ ← Program.tryOverride Program.skip (fun _ => ()) [] Program.installing
       .call (.setVariable (some "log".toUTF8.toList)) : Program Unit Unit Unit).act
    (Rules.deliver (fun _ _ => pure ()) 1) ⟨⟨0⟩, false⟩ (World.start ∅ ())).2

/-- The try to install a policy comes too late, and so does the change of the variable. -/
theorem installing_is_refused :
    ((Program.tryOverride Program.skip (fun _ => ()) [] Program.installing).act
      (Rules.deliver (fun _ _ => pure ()) 1) ⟨⟨0⟩, false⟩ (World.start ∅ ())).1 =
        .done (.ok (.error .panic)) ∧
    World.installedLate.settings.content ≠ none ∧
    Settings.current ⟨⟨0⟩, false⟩ World.installedLate = (.done .panic, World.installedLate) := by
  have h := configuration_decided_once (υ := Unit) (ε := Unit) (fun _ _ => pure ()) 1
  refine ⟨?_, nofun, h.current ⟨⟨0⟩, false⟩ World.installedLate⟩
  have hrun := (h.tryOverride Program.skip (fun _ => ()) [] Program.installing ⟨⟨0⟩, false⟩
    (World.start ∅ ())).asks
  rw [hrun]
  rfl

end Runs

end ScopedBinding
