import Mathlib.Tactic.Choose
import ScopedBinding.Proofs.Closing
import ScopedBinding.Proofs.Composition

/-!
# What a process does with its settings

A process changes the environment variable, tries to install a policy, and asks for the policy that
holds. `Settings.Lives` tells how its settings go through a list of such deeds, with the answers. The
policy is decided by the first deed that is no change of the variable (`Settings.decision`), and from
then on every answer agrees with it.

The settings are touched by nothing else. `Act.Account` tells the deeds of an action by those of its
parts, in the order in which the parts run, and every program has such an account
(`Program.recounts`). `Act.Moves Q` and `Act.MovesDone Q` say where an action leaves the settings
without telling how; they are for actions that do nothing with the settings on their own.
-/

set_option autoImplicit false

namespace ScopedBinding

open Act (Changes Congruent Composes Handles Runs Same Sequences Stores)

namespace Settings

/-! ## Lists of deeds -/

/-- What a process does with its settings, with the answer that it gets. -/
inductive Deed where
  | change (content : Option (List UInt8))
  | install (policy : ReleasePolicy) (answer : Except ReleasePolicy Unit)
  | consult (policy : ReleasePolicy)

/-- What a deed does to the settings, and when its answer is right. -/
inductive Does (s : Settings) : Deed → Settings → Prop where
  | changed (content : Option (List UInt8)) : Does s (.change content) { s with content }
  | installed (h : s.active = none) (policy : ReleasePolicy) :
      Does s (.install policy (.ok ())) { s with active := some policy }
  | refused {active : ReleasePolicy} (h : s.active = some active) (policy : ReleasePolicy) :
      Does s (.install policy (.error active)) s
  | consulted : Does s (.consult s.policy) { s with active := some s.policy }

/-- The settings go through some deeds, one after another. -/
inductive Lives : Settings → List Deed → Settings → Prop where
  | nil (s : Settings) : Lives s [] s
  | cons {s r s' : Settings} {d : Deed} {ds : List Deed} (h : s.Does d r) (hrest : Lives r ds s') :
      Lives s (d :: ds) s'

/-- The policy that some deeds decide: the one that is installed first, unless the policy is asked for
before that. Then it is the one that the variable selects by then. -/
def decision : Option (List UInt8) → List Deed → Option ReleasePolicy
  | _, [] => none
  | _, .change content :: ds => decision content ds
  | _, .install policy _ :: _ => some policy
  | content, .consult _ :: _ => some (ReleasePolicy.ofVariable content).1

/-- The answer of a deed agrees with a policy. -/
def Deed.Agrees (d : Deed) (policy : ReleasePolicy) : Prop :=
  match d with
  | .change _ => True
  | .install _ (.ok ()) => False
  | .install _ (.error active) => active = policy
  | .consult found => found = policy

variable {s r s' : Settings} {d : Deed} {ds ds' : List Deed} {policy : ReleasePolicy}

/-- The policy of a process that has decided. -/
theorem policy_of_active (h : s.active = some policy) : s.policy = policy := by
  unfold Settings.policy
  rw [h]
  rfl

/-- The policy that a process would have if it decided now. -/
theorem policy_of_undecided (h : s.active = none) :
    s.policy = (ReleasePolicy.ofVariable s.content).1 := by
  unfold Settings.policy
  rw [h]
  rfl

/-- The answer to a try to install a policy. -/
def answer (s : Settings) : Except ReleasePolicy Unit :=
  match s.active with
  | none => .ok ()
  | some active => .error active

/-- The settings after a try to install a policy. -/
def installing (s : Settings) (policy : ReleasePolicy) : Settings :=
  { s with active := some (s.active.getD policy) }

/-- A try to install a policy is a deed. -/
theorem does_install (s : Settings) (policy : ReleasePolicy) :
    s.Does (.install policy s.answer) (s.installing policy) := by
  obtain ⟨content, _ | active⟩ := s
  · exact .installed rfl policy
  · exact .refused rfl policy

/-- A decided policy stays, and every answer agrees with it. -/
theorem Does.agrees (h : s.Does d s') (hp : s.active = some policy) :
    s'.active = some policy ∧ d.Agrees policy := by
  cases h with
  | changed content => exact ⟨hp, trivial⟩
  | installed hnone other => exact nomatch hp.symm.trans hnone
  | refused hactive other => exact ⟨hp, Option.some.inj (hactive.symm.trans hp)⟩
  | consulted =>
    have hsame := policy_of_active hp
    exact ⟨congrArg some hsame, hsame⟩

namespace Lives

/-- Deeds after deeds. -/
theorem append (h : Lives s ds r) (h' : Lives r ds' s') : Lives s (ds ++ ds') s' := by
  induction h with
  | nil => exact h'
  | cons hdeed _ ih => exact .cons hdeed (ih h')

/-- A list of deeds can be taken apart anywhere. -/
theorem split (h : Lives s (ds ++ ds') s') : ∃ r, Lives s ds r ∧ Lives r ds' s' := by
  induction ds generalizing s with
  | nil => exact ⟨s, .nil s, h⟩
  | cons d ds ih =>
    cases h with
    | cons hdeed hrest =>
      obtain ⟨r, hfront, hback⟩ := ih hrest
      exact ⟨r, .cons hdeed hfront, hback⟩

/-- Once the policy is decided it stays, and every later answer agrees with it. -/
theorem agrees (h : Lives s ds s') (hp : s.active = some policy) :
    s'.active = some policy ∧ ∀ d ∈ ds, d.Agrees policy := by
  induction h with
  | nil => exact ⟨hp, nofun⟩
  | cons hdeed _ ih =>
    obtain ⟨hactive, hanswer⟩ := hdeed.agrees hp
    obtain ⟨hend, hrest⟩ := ih hactive
    exact ⟨hend, List.forall_mem_cons.2 ⟨hanswer, hrest⟩⟩

/-- The policy is the one that the deeds decide. -/
theorem active (h : Lives s ds s') (hnone : s.active = none) :
    s'.active = decision s.content ds := by
  induction h with
  | nil => exact hnone
  | @cons s r s' d ds hdeed hrest ih =>
    cases hdeed with
    | changed content => exact ih hnone
    | installed _ policy => exact (hrest.agrees rfl).1
    | refused hactive _ => exact nomatch hactive.symm.trans hnone
    | consulted =>
      rw [(hrest.agrees rfl).1, policy_of_undecided hnone]
      rfl

/-- A try to install a policy succeeds exactly if no earlier deed has decided one. -/
theorem install_iff {front back : List Deed} {answer : Except ReleasePolicy Unit}
    (h : Lives s (front ++ .install policy answer :: back) s') (hnone : s.active = none) :
    answer = .ok () ↔ decision s.content front = none := by
  obtain ⟨r, hfront, hback⟩ := h.split
  rw [← hfront.active hnone]
  cases hback with
  | cons hdeed _ =>
    cases hdeed with
    | installed hundecided => exact ⟨fun _ => hundecided, fun _ => rfl⟩
    | refused hactive => exact ⟨nofun, fun h => nomatch hactive.symm.trans h⟩

/-- Every answer agrees with the policy that holds in the end, but for the one that installs it. -/
theorem answers {front back : List Deed} (h : Lives s (front ++ d :: back) s') :
    (∃ policy, d = .install policy (.ok ()) ∧ s'.active = some policy) ∨
      (∃ content, d = .change content) ∨ ∃ policy, s'.active = some policy ∧ d.Agrees policy := by
  obtain ⟨r, -, hback⟩ := h.split
  cases hback with
  | cons hdeed hrest =>
    cases hdeed with
    | changed content => exact .inr (.inl ⟨content, rfl⟩)
    | installed _ policy => exact .inl ⟨policy, rfl, (hrest.agrees rfl).1⟩
    | refused hactive _ => exact .inr (.inr ⟨_, (hrest.agrees hactive).1, rfl⟩)
    | consulted => exact .inr (.inr ⟨_, (hrest.agrees rfl).1, rfl⟩)

end Lives

/-- A decided policy stays. -/
def Keeps (s s' : Settings) : Prop :=
  ∀ policy, s.active = some policy → s'.active = some policy

/-- A relation between settings that can be put together. -/
structure Chains (Q : Settings → Settings → Prop) : Prop where
  refl : ∀ s, Q s s
  trans : ∀ {s r s'}, Q s r → Q r s' → Q s s'

/-- Staying decided can be put together. -/
theorem Keeps.chains : Chains Keeps where
  refl _ _ h := h
  trans h h' policy hp := h' policy (h policy hp)

end Settings

open Settings (Chains Deed Keeps Lives)

/-! ## Looking at the settings -/

section Operations

variable {η ε : Type}

/-- The policy that the variable selects may be looked at without deciding it. -/
theorem Settings.fromVariable_run (ctx : Context) (w : World η ε) :
    Settings.fromVariable ctx w = (.done (ReleasePolicy.ofVariable w.settings.content).1,
      { w with journal :=
          ((ReleasePolicy.ofVariable w.settings.content).2.map .logged).reverse ++ w.journal }) := by
  have hlog := Act.forM_log_run (ReleasePolicy.ofVariable w.settings.content).2 ctx w
  unfold Settings.fromVariable
  simp only [bind, Act.bind, Act.settings, hlog]
  rfl

/-- A policy can be installed while there is none, and otherwise the policy that holds is the
answer. -/
theorem Settings.install_run (policy : ReleasePolicy) (ctx : Context) (w : World η ε) :
    Settings.install policy ctx w =
      (.done w.settings.answer, { w with settings := w.settings.installing policy }) := by
  obtain ⟨s, ⟨content, _ | _⟩, journal, host⟩ := w <;> rfl

end Operations

/-! ## The deeds of an action -/

/-- The deeds of an action, by where it runs. -/
abbrev Deeds (η ε : Type) : Type :=
  Context → World η ε → List Deed

namespace Deeds

variable {η ε α : Type}

/-- The deeds of what goes on with the value of an action. -/
def onValue (m : Act η ε α) (later : α → Deeds η ε) : Deeds η ε :=
  fun ctx w =>
    match m ctx w with
    | (.done a, v) => later a ctx v
    | _ => []

/-- The deeds of what runs on the way of the panic of an action. -/
def onPanic (m : Act η ε α) (later : Deeds η ε) : Deeds η ε :=
  fun ctx w =>
    match m ctx w with
    | (.panicked _, v) => later { ctx with unwinding := true } v
    | _ => []

/-- Deeds that install none but the given policies. -/
def Install (given : ReleasePolicy → Prop) (deeds : Deeds η ε) : Prop :=
  ∀ ctx w policy answer, .install policy answer ∈ deeds ctx w → given policy

end Deeds

/-- The deeds of an action are those of its parts, one after another as far as they run. The only parts
with a deed of their own are changes of the variable, tries to install a policy, and questions for it. -/
inductive Act.Account {η ε : Type} : {α : Type} → Act η ε α → Deeds η ε → Prop where
  | still {α : Type} {m : Act η ε α} (h : ∀ ctx w, (m ctx w).2.settings = w.settings) :
      Account m fun _ _ => []
  | change (content : Option (List UInt8)) :
      Account (Settings.setVariable content) fun _ _ => [.change content]
  | install (policy : ReleasePolicy) :
      Account (Settings.install policy) fun _ w => [.install policy w.settings.answer]
  | consult : Account Settings.current fun _ w => [.consult w.settings.policy]
  | bind {α β : Type} {m : Act η ε α} {next : α → Act η ε β} {first : Deeds η ε}
      {later : α → Deeds η ε} (hm : Account m first) (hnext : ∀ a, Account (next a) (later a)) :
      Account (m >>= next) fun ctx w => first ctx w ++ Deeds.onValue m later ctx w
  | onUnwind {α : Type} {m : Act η ε α} {cleanup : Act η ε Unit} {first later : Deeds η ε}
      (hm : Account m first) (hcleanup : Account cleanup later) :
      Account (Act.onUnwind m cleanup) fun ctx w => first ctx w ++ Deeds.onPanic m later ctx w
  | attempt {α : Type} {m : Act η ε α} {deeds : Deeds η ε} (hm : Account m deeds) :
      Account (Act.attempt m) deeds
  | onThread {α : Type} {m : Act η ε α} {deeds : Deeds η ε} (t : ThreadId) (hm : Account m deeds) :
      Account (Act.onThread t m) fun _ w => deeds ⟨t, false⟩ w

/-- The settings go through the deeds of an action. -/
theorem Act.Account.lives {η ε α : Type} {m : Act η ε α} {deeds : Deeds η ε} (h : Account m deeds)
    (ctx : Context) (w : World η ε) :
    Lives w.settings (deeds ctx w) (m ctx w).2.settings := by
  induction h generalizing ctx w with
  | still h =>
    rw [h]
    exact .nil _
  | change content => exact .cons (.changed content) (.nil _)
  | install policy =>
    rw [Settings.install_run]
    exact .cons (w.settings.does_install policy) (.nil _)
  | consult =>
    rw [Settings.current_decides]
    exact .cons .consulted (.nil _)
  | @bind _ _ m next _ _ _ _ ihFirst ihLater =>
    have hfirst := ihFirst ctx w
    show Lives _ (_ ++ _) (Act.bind m next ctx w).2.settings
    unfold Act.bind Deeds.onValue
    generalize m ctx w = result at hfirst ⊢
    obtain ⟨a | message | _, v⟩ := result
    · exact hfirst.append (ihLater a ctx v)
    · exact hfirst.append (.nil _)
    · exact hfirst.append (.nil _)
  | @onUnwind _ m cleanup _ _ _ _ ihFirst ihLater =>
    have hfirst := ihFirst ctx w
    show Lives _ (_ ++ _) (Act.onUnwind m cleanup ctx w).2.settings
    unfold Act.onUnwind Deeds.onPanic
    generalize m ctx w = result at hfirst ⊢
    obtain ⟨a | message | _, v⟩ := result
    · exact hfirst.append (.nil _)
    · have hlater := ihLater { ctx with unwinding := true } v
      dsimp only
      generalize cleanup { ctx with unwinding := true } v = result at hlater ⊢
      obtain ⟨_ | _ | _, v'⟩ := result <;> exact hfirst.append hlater
    · exact hfirst.append (.nil _)
  | @attempt _ m _ _ ih =>
    have hbody := ih ctx w
    unfold Act.attempt
    generalize m ctx w = result at hbody ⊢
    obtain ⟨a | message | _, v⟩ := result <;> exact hbody
  | onThread t _ ih => exact ih ⟨t, false⟩ w

/-- An action has an account in which none but the given policies are installed. -/
def Act.Recounts {η ε α : Type} (given : ReleasePolicy → Prop) (m : Act η ε α) : Prop :=
  ∃ deeds, Account m deeds ∧ deeds.Install given

namespace Act.Recounts

variable {η ε α β : Type} {given : ReleasePolicy → Prop} {deliver : Delivery η ε}

/-- An action that leaves the settings alone. -/
theorem still {m : Act η ε α} (h : ∀ ctx w, (m ctx w).2.settings = w.settings) : Recounts given m :=
  ⟨_, .still h, nofun⟩

/-- Asking for the policy. -/
theorem consult : Recounts given (Settings.current : Act η ε ReleasePolicy) :=
  ⟨_, .consult, fun _ _ _ _ h => nomatch List.mem_singleton.1 h⟩

/-- One action after another. -/
theorem bind {m : Act η ε α} {next : α → Act η ε β} (hm : Recounts given m)
    (hnext : ∀ a, Recounts given (next a)) : Recounts given (m >>= next) := by
  obtain ⟨first, hfirst, hgiven⟩ := hm
  choose later hlater hgiven' using hnext
  refine ⟨_, .bind hfirst hlater, fun ctx w policy answer hmem => ?_⟩
  rcases List.mem_append.1 hmem with hmem | hmem
  · exact hgiven ctx w policy answer hmem
  · unfold Deeds.onValue at hmem
    generalize m ctx w = result at hmem
    obtain ⟨a | message | _, v⟩ := result
    · exact hgiven' a ctx v policy answer hmem
    · cases hmem
    · cases hmem

/-- An action with its cleanup. -/
theorem onUnwind {m : Act η ε α} {cleanup : Act η ε Unit} (hm : Recounts given m)
    (hcleanup : Recounts given cleanup) : Recounts given (Act.onUnwind m cleanup) := by
  obtain ⟨first, hfirst, hgiven⟩ := hm
  obtain ⟨later, hlater, hgiven'⟩ := hcleanup
  refine ⟨_, .onUnwind hfirst hlater, fun ctx w policy answer hmem => ?_⟩
  rcases List.mem_append.1 hmem with hmem | hmem
  · exact hgiven ctx w policy answer hmem
  · unfold Deeds.onPanic at hmem
    generalize m ctx w = result at hmem
    obtain ⟨a | message | _, v⟩ := result
    · cases hmem
    · exact hgiven' { ctx with unwinding := true } v policy answer hmem
    · cases hmem

/-- An action whose panic is stopped. -/
theorem attempt {m : Act η ε α} (hm : Recounts given m) : Recounts given (Act.attempt m) := by
  obtain ⟨deeds, hdeeds, hgiven⟩ := hm
  exact ⟨deeds, .attempt hdeeds, hgiven⟩

/-- Work on another thread. -/
theorem onThread {m : Act η ε α} (t : ThreadId) (hm : Recounts given m) :
    Recounts given (Act.onThread t m) := by
  obtain ⟨deeds, hdeeds, hgiven⟩ := hm
  exact ⟨_, .onThread t hdeeds, fun _ w => hgiven ⟨t, false⟩ w⟩

/-- Every change of the store is no deed, and neither is its note. -/
theorem changes (hd : ∀ k e, Recounts given (deliver k e)) :
    Changes (Same fun {α} (m : Act η ε α) => Recounts given m)
      (Same fun {α} (m : Act η ε α) => Recounts given m) deliver deliver where
  pure _ := .of (still fun _ _ => rfl)
  thread := .of (still fun _ _ => rfl)
  store := .of (still fun _ _ => rfl)
  settings := .of (still fun _ _ => rfl)
  log _ := .of (still fun _ _ => rfl)
  bind := by
    rintro _ _ m _ next next' ⟨rfl, hm⟩ hnext
    obtain rfl : next' = next := funext fun a => (hnext a).1
    exact .of (hm.bind fun a => (hnext a).2)
  failRelease policy fault := .of (still fun ctx w => by rw [Guard.failRelease_run])
  onUnwind := by
    rintro _ m _ cleanup _ ⟨rfl, hm⟩ ⟨rfl, hcleanup⟩
    exact .of (hm.onUnwind hcleanup)
  onStore _ := .of (still fun _ _ => rfl)
  note _ := .of (still fun _ _ => rfl)
  told k e := .of (hd k e)
  current := .of consult

/-- What programs are put together by. -/
theorem congruent (hd : ∀ k e, Recounts given (deliver k e)) :
    Congruent (Same fun {α} (m : Act η ε α) => Recounts given m) deliver deliver := by
  refine (changes hd).congruent (.of (still fun _ _ => rfl)) ?_ ?_
  · rintro _ _ _ ⟨rfl, hm⟩
    exact .of hm.attempt
  · rintro _ _ _ t ⟨rfl, hm⟩
    exact .of (hm.onThread t)

end Act.Recounts

open Act (Recounts)

section Programs

variable {υ ε : Type} {given : ReleasePolicy → Prop} {deliver : Delivery (Hands υ) ε}

/-- The guards that a program has in its hands are no part of the settings. -/
theorem Act.Recounts.handles (hd : ∀ k e, Recounts given (deliver k e)) :
    Handles (Same fun {α} (m : Act (Hands υ) ε α) => Recounts given m)
      (Same fun {α} (m : Act (Hands υ) ε α) => Recounts given m) deliver deliver where
  toCloses := (changes hd).closes
  find _ := .of (still fun _ _ => rfl)
  take _ := .of (still fun _ _ => rfl)
  put _ _ := .of (still fun _ _ => rfl)
  puts _ _ := .of (still fun _ _ => rfl)

/-- A call that installs none but the given policies. -/
def Call.Installs (given : ReleasePolicy → Prop) {α : Type} : Call υ ε α → Prop
  | .install decided => given decided
  | _ => True

/-- Every call has an account. -/
theorem Call.recounts (hd : ∀ k e, Recounts given (deliver k e)) {α : Type} (op : Call υ ε α)
    (hop : op.Installs given) : Recounts given (op.act deliver) := by
  have h := Recounts.changes hd
  have hands := Recounts.handles hd
  cases op with
  | write c v => exact (h.write c v).2
  | setRoot c v => exact (h.setRoot c v).2
  | pop c f => exact (h.pop c f).2
  | release n => exact (hands.releaseHeld n).2
  | drop n => exact (hands.dropHeld n).2
  | forget n => exact (hands.forgetHeld n).2
  | policy => exact .consult
  | policyFromVariable => exact .still fun ctx w => by rw [Call.act, Settings.fromVariable_run]
  | install decided =>
    refine ⟨_, .install decided, fun _ w policy answer hmem => ?_⟩
    obtain ⟨rfl, -⟩ := Deed.install.inj (List.mem_singleton.1 hmem)
    exact hop
  | setVariable content => exact ⟨_, .change content, fun _ _ _ _ h => nomatch List.mem_singleton.1 h⟩
  | look | own | panic | halt | push | issueFrame | watch | unwatch | acquire | capture =>
    exact .still fun _ _ => rfl

/-- Every program has an account, by those of its calls and of the watches. -/
theorem Program.recounts (hd : ∀ k e, Recounts given (deliver k e)) {α : Type} (p : Program υ ε α)
    (hp : p.Uses (Call.Installs given) True) : Recounts given (p.act deliver) :=
  (p.related (Recounts.congruent hd) (fun op hop => .of (op.recounts hd hop)) hp).2

/-- Watches that are programs have accounts. -/
theorem Rules.deliver_recounts {rules : Rules υ ε}
    (hrules : ∀ k e, (rules k e).Uses (Call.Installs given) True) (depth : Nat) (k : WatchId)
    (e : Event) : Recounts given (rules.deliver depth k e) := by
  induction depth generalizing k e with
  | zero => exact .still fun _ _ => rfl
  | succ depth ih => exact (rules k e).recounts ih (hrules k e)

end Programs

/-! ## Where an action leaves the settings -/

/-- An action takes the settings of every world to those that a relation holds of, however it ends. -/
def Act.Moves {η ε α : Type} (Q : Settings → Settings → Prop) (m : Act η ε α) : Prop :=
  ∀ ctx w, Q w.settings (m ctx w).2.settings

/-- An action takes the settings to those that a relation holds of whenever it ends with a value. -/
def Act.MovesDone {η ε α : Type} (Q : Settings → Settings → Prop) (m : Act η ε α) : Prop :=
  ∀ ctx w a w', m ctx w = (.done a, w') → Q w.settings w'.settings

open Act (Moves MovesDone)

section Moves

variable {η ε α : Type} {given : ReleasePolicy → Prop} {Q : Settings → Settings → Prop}
  {deliver : Delivery η ε}

/-- No deed changes a policy that is decided. -/
theorem Act.Recounts.keeps {m : Act η ε α} (h : Recounts given m) : Moves Keeps m := by
  obtain ⟨deeds, haccount, -⟩ := h
  exact fun ctx w policy hp => ((haccount.lives ctx w).agrees hp).1

/-- Where an action leaves the settings follows from its parts. -/
theorem Act.Moves.stores (hQ : Chains Q) (hd : ∀ k e, Moves Q (deliver k e)) :
    Stores (Same fun {α} (m : Act η ε α) => Moves Q m) (Same fun {α} (m : Act η ε α) => Moves Q m)
      deliver deliver where
  toComposes :=
    have hstill : ∀ (_ : Context) (w : World η ε), Q w.settings w.settings := fun _ _ => hQ.refl _
    (Runs.sequences (Q := fun _ w _ w' => Q w.settings w'.settings) hstill
      (fun _ w _ => hQ.refl w.settings) hQ.trans).composes
      (D := fun _ w _ w' => Q w.settings w'.settings) hstill (fun _ w _ => hQ.refl w.settings) hQ.trans
  onStore _ := .of fun _ w => hQ.refl w.settings
  note _ := .of fun _ w => hQ.refl w.settings
  told k e := .of (hd k e)

/-- Ending with a value is a way of ending. -/
theorem Act.movesDone_iff_runs {m : Act η ε α} :
    MovesDone Q m ↔ Runs (fun _ w e w' => e = .done → Q w.settings w'.settings) m := by
  constructor
  · intro h ctx w hend
    obtain ⟨a, hrun⟩ := Outcome.done_of_ending hend
    exact h ctx w a _ hrun
  · intro h ctx w a w' hrun
    have hmoved := h ctx w
    rw [hrun] at hmoved
    exact hmoved rfl

/-- The same for runs that end with a value, in which no cleanup has a part. -/
theorem Act.MovesDone.stores (hQ : Chains Q) (hd : ∀ k e, MovesDone Q (deliver k e)) :
    Stores (Same fun {α} (m : Act η ε α) => MovesDone Q m)
      (Same fun {α} (m : Act η ε α) => Runs (fun _ _ _ _ => True) m) deliver deliver where
  toComposes := by
    simp only [movesDone_iff_runs]
    let R (_ : Context) (w : World η ε) (e : Ending) (w' : World η ε) : Prop :=
      e = .done → Q w.settings w'.settings
    have hstill : ∀ ctx w, R ctx w .done w := fun _ w _ => hQ.refl w.settings
    refine (Runs.sequences (Q := R) hstill (fun _ w _ _ => hQ.refl w.settings)
      fun h h' hend => hQ.trans (h rfl) (h' hend)).composes hstill (fun _ _ _ => nofun) ?_
    rintro _ _ _ (_ | _ | _) _ _ - <;> exact nofun
  onStore _ := .of (movesDone_iff_runs.2 fun _ w _ => hQ.refl w.settings)
  note _ := .of (movesDone_iff_runs.2 fun _ w _ => hQ.refl w.settings)
  told k e := .of (hd k e)

end Moves

end ScopedBinding
