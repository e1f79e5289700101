import ScopedBinding.Proofs.Mirrors

/-!
# The operations side by side

Every operation of a thread on variables that nobody watches mirrors itself, and the operations that
take several steps mirror what they are amid other threads. A frame that is opened in one run stands
for the one that is opened in the other.
-/

set_option autoImplicit false

namespace ScopedBinding

open Act (Leads)

section Unwatched

variable {η ε : Type} {deliver : Delivery η ε} {ctx : Context} {w : World η ε}

/-- An event of a variable that nobody watches is delivered to nobody. -/
theorem Event.deliver_unwatched {e : Event} (h : (w.store.watches e.cell).values = []) :
    e.deliver deliver ctx w = (.done (), w) := by
  unfold Event.deliver
  show ((w.store.watches e.cell).values.forM fun k => deliver k e) ctx w = _
  rw [h]
  rfl

/-- A change of a variable that nobody watches is only noted. -/
theorem CellId.announce_unwatched {c : CellId} (h : (w.store.watches c).values = [])
    (change : Change) (r : Replaced) : c.announce deliver change r ctx w =
      (.done (), w.changed ctx.thread c change r w.store) := by
  rw [announce_run]
  exact Event.deliver_unwatched h

/-- Setting a variable that nobody watches changes the store and is noted. -/
theorem CellId.write_unwatched {c : CellId} {v : Value}
    (h : ((w.store.write ctx.thread c v).2.watches c).values = []) :
    c.write deliver v ctx w = (.done (), w.changed ctx.thread c .write
      (w.store.write ctx.thread c v).1 (w.store.write ctx.thread c v).2) :=
  announce_unwatched (w := { w with store := (w.store.write ctx.thread c v).2 }) h .write _

/-- Setting the root of a variable that nobody watches changes the store and is noted. -/
theorem CellId.setRoot_unwatched {c : CellId} {v : Value}
    (h : ((w.store.setRoot c v).2.watches c).values = []) :
    c.setRoot deliver v ctx w = (.done (), w.changed ctx.thread c .write
      (w.store.setRoot c v).1 (w.store.setRoot c v).2) :=
  announce_unwatched (w := { w with store := (w.store.setRoot c v).2 }) h .write _

/-- Closing a frame of a variable that nobody watches changes the store and is noted. -/
theorem CellId.pop_unwatched {c : CellId} {f : FrameId} {r : Replaced} {s : Store}
    (hp : w.store.pop ctx.thread c f = .ok (r, s)) (h : (s.watches c).values = []) :
    c.pop deliver f ctx w =
      (.done (.ok ()), (w.closed ctx.thread c f s).changed ctx.thread c .restore r s) := by
  have hannounce : c.announce deliver .restore r ctx (w.closed ctx.thread c f s) =
      (.done (), (w.closed ctx.thread c f s).changed ctx.thread c .restore r s) :=
    CellId.announce_unwatched h .restore r
  rw [CellId.pop_of_ok hp, Act.bind_of_done hannounce]
  rfl

/-- Releasing a guard of a variable that nobody watches closes its frame. -/
theorem Guard.release_unwatched {g : Guard} (hg : g.state = .acquired) {r : Replaced} {s : Store}
    (hp : w.store.pop ctx.thread g.cell g.frame = .ok (r, s))
    (h : (s.watches g.cell).values = []) : ∃ J, g.release deliver ctx w =
      (.done (.ok { g with state := .released }), { w with store := s, journal := J }) := by
  have hannounce : g.cell.announce deliver .restore r ctx
      (w.closed ctx.thread g.cell g.frame s) = (.done (), (w.closed ctx.thread g.cell g.frame
        s).changed ctx.thread g.cell .restore r s) :=
    CellId.announce_unwatched h .restore r
  rw [Guard.release_of_ok hg hp, Act.bind_of_done hannounce]
  exact ⟨_, rfl⟩

end Unwatched

section Operations

variable {σ ε : Type} {t : ThreadId} {V : CellId → Prop} {ρ : Renaming}
  {deliver : Delivery (Hands (Known σ)) ε}

namespace CellId

variable {c : CellId}

/-- Setting a variable. -/
theorem write_mirrors (hc : V c) (v : Value) :
    Mirrors t V ρ (fun _ _ _ => True) (c.write deliver v) (c.write deliver v) := by
  apply Mirrors.of_done
  intro unwinding ρ₁ w w' hρ hw hn
  have hs := hw.store.write hc v
  exact ⟨ρ₁, (), (), _, _, le_rfl, write_unwatched (hs.unwatched c hc),
    write_unwatched (hs.unwatched' hc), trivial, hw.with_store le_rfl hs _ _⟩

/-- Setting a root. -/
theorem setRoot_mirrors (hc : V c) (v : Value) :
    Mirrors t V ρ (fun _ _ _ => True) (c.setRoot deliver v) (c.setRoot deliver v) := by
  apply Mirrors.of_done
  intro unwinding ρ₁ w w' hρ hw hn
  have hs := hw.store.updateRoot c v
  exact ⟨ρ₁, (), (), _, _, le_rfl, setRoot_unwatched (hs.unwatched c hc),
    setRoot_unwatched (hs.unwatched' hc), trivial, hw.with_store le_rfl hs _ _⟩

/-- Closing frames that stand for each other. -/
theorem pop_mirrors (hc : V c) {f g : FrameId} (hf : ρ f g) :
    Mirrors t V ρ (fun ρ₁ => Except.Matches (Fault.Matches ρ₁) fun _ _ => True)
      (c.pop deliver f) (c.pop deliver g) := by
  apply Mirrors.of_done
  intro unwinding ρ₁ w w' hρ hw hn
  rcases hw.store.pop hc (hρ _ _ hf) with ⟨fault, fault', hp, hp', hfault⟩ |
    ⟨r, r', s, s', hp, hp', hs⟩
  · exact ⟨ρ₁, _, _, w, w', le_rfl, pop_of_error hp, pop_of_error hp', .error hfault, hw⟩
  · exact ⟨ρ₁, _, _, _, _, le_rfl, pop_unwatched hp (hs.unwatched c hc),
      pop_unwatched hp' (hs.unwatched' hc), .ok trivial, hw.with_store le_rfl hs _ _⟩

end CellId

namespace CellId

variable {c : CellId}

/-- Making a change known to nobody. -/
theorem announce_mirrors (hc : V c) (change : Change) (r r' : Replaced) :
    Mirrors t V ρ (fun _ _ _ => True) (c.announce deliver change r) (c.announce deliver change r') := by
  apply Mirrors.of_done
  intro unwinding ρ₁ w w' hρ hw hn
  exact ⟨ρ₁, (), (), _, _, le_rfl, announce_unwatched (hw.store.unwatched c hc) change r,
    announce_unwatched (hw.store.unwatched' hc) change r', trivial,
    hw.with_store le_rfl hw.store _ _⟩

/-- Both runs take the lock of a variable, or both wait for it. -/
theorem lock_mirrors (hc : V c) : Mirrors t V ρ (fun _ _ _ => True)
    (c.lock : Act (Hands (Known σ)) ε Unit) c.lock := by
  intro unwinding ρ₁ w w' hρ hw hn
  rw [lock_run, lock_run, hw.store.altering hc]
  split
  · exact ⟨ρ₁, le_rfl, .halted, hw⟩
  · exact ⟨ρ₁, le_rfl, .done trivial, hw.with_store le_rfl (hw.store.lock c) _ _⟩

/-- Both runs give back the lock of a variable. -/
theorem unlock_mirrors (c : CellId) : Mirrors t V ρ (fun _ _ _ => True)
    (c.unlock : Act (Hands (Known σ)) ε Unit) c.unlock :=
  .of_done fun _ ρ₁ _ _ _ hw _ =>
    ⟨ρ₁, (), (), _, _, le_rfl, rfl, rfl, trivial, hw.with_store le_rfl (hw.store.unlock c) _ _⟩

end CellId

namespace Guard

variable {c : CellId} {g g' : Guard}

/-- Acquiring a guard. -/
theorem acquire_mirrors (hc : V c) : Mirrors t V ρ (fun ρ₁ => Guard.Matches V ρ₁)
    (Guard.acquire c : Act (Hands (Known σ)) ε Guard) (Guard.acquire c) := by
  apply Mirrors.of_done
  intro unwinding ρ₁ w w' hρ hw hn
  have hissued : w'.store.framesIssued + 1 < 2 ^ 64 := by
    rw [acquire_run] at hn
    have hpush := w'.store.framesIssued_push t c
    have hlast : (w'.store.push t c).2.framesIssued < 2 ^ 64 := hn
    omega
  have hs := hw.store.push hc hissued
  refine ⟨_, _, _, _, _, ρ₁.le_insert _ _, acquire_run c _ w, acquire_run c _ w', ?_,
    hw.with_store (ρ₁.le_insert _ _) hs _ _⟩
  exact ⟨hc, rfl, ρ₁.insert_self _ _, rfl⟩

/-- Both releases are rejected with faults that match, or both close their frames. -/
theorem release_runs {w w' : World (Hands (Known σ)) ε} (hg : g.Matches V ρ g')
    (hw : World.Matches t V ρ w w') (unwinding : Bool) :
    ∃ x y v v', g.release deliver ⟨t, unwinding⟩ w = (.done x, v) ∧
      g'.release deliver ⟨t, unwinding⟩ w' = (.done y, v') ∧
      Except.Matches (Fault.Matches ρ) (Guard.Matches V ρ) x y ∧ World.Matches t V ρ v v' := by
  obtain ⟨_, f, _⟩ := g
  obtain ⟨c, f', state⟩ := g'
  obtain ⟨hc, hcell, hf, hstate⟩ := hg
  dsimp only at hc hcell hf hstate
  subst hcell
  subst hstate
  have hsymbol := hw.store.symbol hc
  cases state with
  | acquired =>
    rcases hw.store.pop hc hf with ⟨fault, fault', hp, hp', hfault⟩ | ⟨r, r', s, s', hp, hp', hs⟩
    · exact ⟨_, _, _, _, release_of_error rfl hp, release_of_error rfl hp', .error hfault,
        hw.with_journal _ _⟩
    · have hrun : ∃ J, release deliver ⟨c, f, .acquired⟩ ⟨t, unwinding⟩ w =
          (.done (.ok ⟨c, f, .released⟩), { w with store := s, journal := J }) :=
        release_unwatched rfl hp (hs.unwatched c hc)
      have hrun' : ∃ J, release deliver ⟨c, f', .acquired⟩ ⟨t, unwinding⟩ w' =
          (.done (.ok ⟨c, f', .released⟩), { w' with store := s', journal := J }) :=
        release_unwatched rfl hp' (hs.unwatched' hc)
      obtain ⟨J, hrun⟩ := hrun
      obtain ⟨J', hrun'⟩ := hrun'
      exact ⟨_, _, _, _, hrun, hrun', .ok ⟨hc, rfl, hf, rfl⟩, hw.with_store le_rfl hs J J'⟩
  | released =>
    refine ⟨_, _, _, _, release_of_released rfl, release_of_released rfl, ?_, hw.with_journal _ _⟩
    dsimp only
    rw [hsymbol]
    exact .error (.doubleRelease _)
  | abandoned =>
    refine ⟨.error (.abandoned (w.store.symbol c).display f),
      .error (.abandoned (w'.store.symbol c).display f'), _, _, rfl, rfl, ?_, hw.with_journal _ _⟩
    rw [hsymbol]
    exact .error (.abandoned _ hf)

/-- Releasing guards that match. -/
theorem release_mirrors (hg : g.Matches V ρ g') :
    Mirrors t V ρ (fun ρ₁ => Except.Matches (Fault.Matches ρ₁) (Guard.Matches V ρ₁))
      (g.release deliver) (g'.release deliver) := by
  apply Mirrors.of_done
  intro unwinding ρ₁ w w' hρ hw hn
  obtain ⟨x, y, v, v', hrun, hrun', hxy, hv⟩ := release_runs (hg.mono hρ) hw unwinding
  exact ⟨ρ₁, x, y, v, v', le_rfl, hrun, hrun', hxy, hv⟩

/-- Asking for the policy, which is decided. -/
theorem current_mirrors : Mirrors t V ρ (fun _ a b => b = a)
    (Settings.current : Act (Hands (Known σ)) ε ReleasePolicy) Settings.current := by
  apply Mirrors.of_done
  intro unwinding ρ₁ w w' hρ hw hn
  obtain ⟨policy, hactive⟩ := hw.active
  have hactive' : w'.settings.active = some policy := by
    rw [hw.settings]
    exact hactive
  exact ⟨ρ₁, policy, policy, w, w', le_rfl, Settings.current_of_active hactive,
    Settings.current_of_active hactive', rfl, hw⟩

/-- What the policy makes of faults that match. -/
theorem failRelease_mirrors (policy : ReleasePolicy) {fault fault' : Fault}
    (h : fault.Matches ρ fault') : Mirrors t V ρ (fun _ _ _ => True)
      (failRelease policy fault : Act (Hands (Known σ)) ε Unit) (failRelease policy fault') := by
  intro unwinding ρ₁ w w' hρ hw hn
  rw [failRelease_run, failRelease_run]
  refine ⟨ρ₁, le_rfl, ?_, hw⟩
  dsimp only
  split
  · exact .panicked (.inr ⟨fault, fault', h.mono hρ, rfl, rfl⟩)
  · exact .done trivial

variable (hd : ∀ k e, Leads EvolvesStore (deliver k e))
include hd

/-- Dropping guards that match. -/
theorem drop_mirrors (hg : g.Matches V ρ g') :
    Mirrors t V ρ (fun _ _ _ => True) (g.drop deliver) (g'.drop deliver) := by
  have h := EvolvesStore.stepwise hd
  have hC := h.toCalm
  unfold drop
  rw [hg.state]
  cases g.state with
  | acquired =>
    apply Mirrors.bind current_mirrors
    · intro policy
      apply Leads.bind hC (g'.release_leads hC (h.pop _ _))
      intro result
      cases result with
      | ok _ => exact .pure hC _
      | error fault => exact failRelease_leads hC policy fault
    · intro ρ₁ hρ₁ policy policy' hpolicy
      subst hpolicy
      apply Mirrors.bind (release_mirrors (hg.mono hρ₁))
      · intro result
        cases result with
        | ok _ => exact .pure hC _
        | error fault => exact failRelease_leads hC policy' fault
      · intro ρ₂ hρ₂ x y hxy
        cases hxy with
        | ok _ => exact .pure fun _ _ => trivial
        | error hfault => exact failRelease_mirrors policy' hfault
  | released => exact .pure fun _ _ => trivial
  | abandoned => exact .pure fun _ _ => trivial

end Guard

/-- Giving up guards that match. -/
theorem Guard.abandon_mirrors {g g' : Guard} (hg : g.Matches V ρ g') :
    Mirrors t V ρ (fun _ _ _ => True) (g.abandon : Act (Hands (Known σ)) ε Guard) g'.abandon := by
  apply Mirrors.of_done
  intro unwinding ρ₁ w w' hρ hw hn
  unfold abandon
  rw [hg.state]
  cases g.state with
  | acquired => exact ⟨ρ₁, _, _, _, _, le_rfl, rfl, rfl, trivial, hw.with_journal _ _⟩
  | released => exact ⟨ρ₁, _, _, w, w', le_rfl, rfl, rfl, trivial, hw⟩
  | abandoned => exact ⟨ρ₁, _, _, w, w', le_rfl, rfl, rfl, trivial, hw⟩

/-! ## Operations amid other threads -/

variable {others : World (Hands (Known σ)) ε → World (Hands (Known σ)) ε} {α β : Type}

/-- Values that are the same in both runs and have a property. -/
def Same (post : α → Prop) : Renaming → α → α → Prop :=
  fun _ a b => b = a ∧ post a

/-- Values that are the same in both runs beside faults that match. -/
def Beside (post : α → Prop) : Renaming → α × Option Fault → α × Option Fault → Prop :=
  fun ρ x y => Same post ρ x.1 y.1 ∧ Option.Rel (Fault.Matches ρ) x.2 y.2

section Others

variable (ho : Intrudes t V others)
include ho

/-- Running an action that has the lock of a variable. -/
theorem CellId.aloneAmid_mirrors {c : CellId} (hc : V c) {R : Renaming → α → β → Prop}
    (hR : ∀ {ρ₁ ρ₂ a b}, ρ₁ ≤ ρ₂ → R ρ₁ a b → R ρ₂ a b) {m : Act (Hands (Known σ)) ε α}
    {m' : Act (Hands (Known σ)) ε β} (hgrows : Leads EvolvesStore m') (hm : Mirrors t V ρ R m m') :
    Mirrors t V ρ R (c.aloneAmid id m) (c.aloneAmid others m') := by
  have hC := EvolvesStore.calm (η := Hands (Known σ)) (ε := ε)
  have hfree : Leads EvolvesStore (Act.after others c.unlock) :=
    Act.after_evolves ho.evolves fun _ _ => EvolvesStore.revised (.unlock c)
  have hunlock {ρ₁ : Renaming} : Mirrors t V ρ₁ (fun _ _ _ => True)
      (Act.after id c.unlock : Act (Hands (Known σ)) ε Unit) (Act.after others c.unlock) :=
    .after ho (c.unlock_mirrors)
  have hlast (b : β) : Leads EvolvesStore
      (do Act.after others c.unlock; pure b : Act (Hands (Known σ)) ε β) :=
    .bind hC hfree fun _ => .pure hC b
  apply Mirrors.bind (.after ho (lock_mirrors hc))
  · intro _
    exact .bind hC (.onUnwind hC hgrows hfree) hlast
  · intro ρ₁ hρ₁ _ _ _
    apply Mirrors.bind (.onUnwind (hm.mono hρ₁) hfree hunlock) hlast
    intro ρ₂ hρ₂ a b hab
    exact .bind hunlock (fun _ => .pure hC b) fun ρ₃ hρ₃ _ _ _ => .pure fun _ hρ₄ =>
      hR (hρ₃.trans hρ₄) hab

section Told

variable (hd : ∀ k e, Leads EvolvesStore (deliver k e))
include hd

/-- Setting a root to what a function makes of it. -/
theorem CellId.alterRootAmid_mirrors {c : CellId} (hc : V c) {post : Value → Prop}
    {f f' : Value → Act (Hands (Known σ)) ε Value} (hgrows : ∀ v, Leads EvolvesStore (f' v))
    (hf : ∀ v, Mirrors t V ρ (Same post) (f v) (f' v)) :
    Mirrors t V ρ (Same post) (c.alterRootAmid deliver id f)
      (c.alterRootAmid deliver others f') := by
  have hC := EvolvesStore.calm (η := Hands (Known σ)) (ε := ε)
  have hset (v : Value) : Leads EvolvesStore
      (do return (v, ← Act.after others (Act.onStore fun s => s.setRoot c v)) :
        Act (Hands (Known σ)) ε (Value × Replaced)) :=
    .bind hC (Act.after_evolves ho.evolves fun _ _ => EvolvesStore.revised (.setRoot c v))
      fun _ => .pure hC _
  have hannounce (r : Replaced) := Act.after_evolves ho.evolves
    (c.announce_leads EvolvesStore.revising.toPlain hd .write r)
  have hroot : Mirrors t V ρ (fun _ a b => b = a)
      (do return (← Act.store).root c : Act (Hands (Known σ)) ε Value)
      (do return (← Act.store).root c) := by
    apply Mirrors.of_done
    intro unwinding ρ₁ w w' hρ hw hn
    exact ⟨ρ₁, _, _, w, w', le_rfl, rfl, rfl, hw.store.root hc, hw⟩
  have hchange {ρ₁ : Renaming} (v : Value) : Mirrors t V ρ₁ (fun _ _ _ => True)
      (Act.onStore fun s => s.setRoot c v : Act (Hands (Known σ)) ε Replaced)
      (Act.onStore fun s => s.setRoot c v) :=
    .of_done fun _ ρ₂ _ _ _ hw _ => ⟨ρ₂, _, _, _, _, le_rfl, rfl, rfl, trivial,
      hw.with_store le_rfl (hw.store.updateRoot c v) _ _⟩
  -- The function runs with the lock and the new root is set with it; then the change is made known.
  apply Mirrors.bind (R := fun ρ₁ x y => Same post ρ₁ x.1 y.1)
    (c.aloneAmid_mirrors ho hc (fun _ hab => hab) ?_ ?_)
  · intro result
    exact .bind hC (hannounce result.2) fun _ => .pure hC _
  · intro ρ₁ hρ₁ x y hxy
    apply Mirrors.bind (.after ho (c.announce_mirrors hc .write x.2 y.2))
    · intro _
      exact .pure hC _
    · intro _ _ _ _ _
      exact .pure fun _ _ => hxy
  · exact .bind hC (Act.after_still ho.evolves fun _ _ => rfl) fun old =>
      .bind hC (hgrows old) hset
  · apply Mirrors.bind (.after ho hroot)
    · intro old
      exact .bind hC (hgrows old) hset
    · intro ρ₁ hρ₁ v v' hv
      subst hv
      apply Mirrors.bind ((hf v').mono hρ₁) hset
      intro ρ₂ hρ₂ new new' hnew
      obtain ⟨rfl, hpost⟩ := hnew
      apply Mirrors.bind (.after ho (hchange new'))
      · intro _
        exact .pure hC _
      · intro _ _ _ _ _
        exact .pure fun _ _ => ⟨rfl, hpost⟩

/-- Holding a guard around a body. -/
theorem Guard.holdAmid_mirrors {c : CellId} (hc : V c) {post : α → Prop}
    {body body' : Act (Hands (Known σ)) ε α} (hgrows : Leads EvolvesStore body')
    (hbody : Mirrors t V ρ (Same post) body body') :
    Mirrors t V ρ (Same post) (holdAmid deliver id c body) (holdAmid deliver others c body') := by
  have hC := EvolvesStore.calm (η := Hands (Known σ)) (ε := ε)
  have hdrops := dropAmid_evolves ho.evolves hd
  have hlast (g : Guard) (a : α) : Leads EvolvesStore
      (do Act.after others (g.drop deliver); pure a : Act (Hands (Known σ)) ε α) :=
    .bind hC (hdrops g) fun _ => .pure hC a
  apply Mirrors.bind (.after ho (acquire_mirrors hc))
  · intro g
    exact .bind hC (.onUnwind hC hgrows (hdrops g)) (hlast g)
  · intro ρ₁ hρ₁ g g' hg
    have hdrop : Mirrors t V ρ₁ (fun _ _ _ => True) (Act.after id (g.drop deliver))
        (Act.after others (g'.drop deliver)) := .after ho (drop_mirrors hd hg)
    apply Mirrors.bind (.onUnwind (hbody.mono hρ₁) (hdrops g') hdrop) (hlast g')
    intro ρ₂ hρ₂ a a' ha
    apply Mirrors.bind (hdrop.mono hρ₂)
    · intro _
      exact .pure hC a'
    · intro _ _ _ _ _
      exact .pure fun _ _ => ha

namespace Overrides

omit ho in
/-- Ending overrides whose guards match. -/
theorem finish_mirrors {g g' : Guard} (hg : g.Matches V ρ g') :
    Mirrors t V ρ (fun ρ₁ => Option.Rel (Fault.Matches ρ₁)) (finish deliver g)
      (finish deliver g') := by
  have h := EvolvesStore.stepwise hd
  have hC := h.toCalm
  have hdrop := g'.drop_leads hC (h.pop g'.cell g'.frame)
  unfold finish
  apply Mirrors.bind (.onUnwind (Guard.release_mirrors hg) hdrop (Guard.drop_mirrors hd hg))
  · intro x
    split
    · exact .pure hC _
    · exact .bind hC (g'.abandon_leads hC) fun _ => .pure hC _
  · intro ρ₁ hρ₁ x y hxy
    cases hxy with
    | ok _ => exact .pure fun _ _ => .none
    | error hfault =>
      apply Mirrors.bind (Guard.abandon_mirrors (hg.mono hρ₁))
      · intro _
        exact .pure hC _
      · intro ρ₂ hρ₂ _ _ _
        exact .pure fun _ hρ₃ => .some (hfault.mono (hρ₂.trans hρ₃))

variable {discard discard' : α → Act (Hands (Known σ)) ε Unit} {post : α → Prop}
  (hgone : ∀ a, Leads EvolvesStore (discard' a))
include hgone

/-- One override around the rest of them. -/
theorem insideAmid_mirrors {c : CellId} (hc : V c) (v : Value) {g g' : Guard}
    (hg : g.Matches V ρ g') {rest rest' : Act (Hands (Known σ)) ε (α × Option Fault)}
    (hdiscard : ∀ a, post a → Mirrors t V ρ (fun _ _ _ => True) (discard a) (discard' a))
    (hgrows : Leads EvolvesStore rest') (hrest : Mirrors t V ρ (Beside post) rest rest') :
    Mirrors t V ρ (Beside post) (insideAmid deliver id discard c v g rest)
      (insideAmid deliver others discard' c v g' rest') := by
  have hC := EvolvesStore.calm (η := Hands (Known σ)) (ε := ε)
  have hfinish : Leads EvolvesStore (Act.after others (finish deliver g')) :=
    Act.after_evolves ho.evolves (finish_leads (EvolvesStore.stepwise hd).scopes g')
  have hwrite : Mirrors t V ρ (fun _ _ _ => True) (Act.after id (c.write deliver v))
      (Act.after others (c.write deliver v)) := .after ho (c.write_mirrors hc v)
  have hinside : Mirrors t V ρ (Beside post) (do Act.after id (c.write deliver v); rest)
      (do Act.after others (c.write deliver v); rest') :=
    .bind hwrite (fun _ => hgrows) fun _ hρ₁ _ _ _ => hrest.mono hρ₁
  have hscope : Mirrors t V ρ (Beside post)
      (Act.onUnwind (do Act.after id (c.write deliver v); rest) (Act.after id (g.drop deliver)))
      (Act.onUnwind (do Act.after others (c.write deliver v); rest')
        (Act.after others (g'.drop deliver))) :=
    .onUnwind hinside (g'.dropAmid_evolves ho.evolves hd) (.after ho (Guard.drop_mirrors hd hg))
  apply Mirrors.bind hscope
  · intro ends
    exact .bind hC (.onUnwind hC hfinish (hgone ends.1)) fun _ => .pure hC _
  · intro ρ₁ hρ₁ x y hxy
    obtain ⟨x, inner⟩ := x
    obtain ⟨y, inner'⟩ := y
    obtain ⟨⟨rfl, hpost⟩, hinner⟩ := hxy
    have hend := Mirrors.onUnwind (.after ho (finish_mirrors hd (hg.mono hρ₁))) (hgone y)
      ((hdiscard y hpost).mono hρ₁)
    apply Mirrors.bind hend
    · intro _
      exact .pure hC _
    · intro ρ₂ hρ₂ a b hab
      -- The fault of an inner scope comes first.
      refine .pure fun ρ₃ hρ₃ => ⟨⟨rfl, hpost⟩, ?_⟩
      dsimp only at hinner ⊢
      cases hinner with
      | some hfault => exact .some (hfault.mono (hρ₂.trans hρ₃))
      | none => exact Option.Rel.imp (fun _ _ hfault => hfault.mono hρ₃) hab

/-- Overriding variables around a body. -/
theorem aroundAmid_mirrors (set : Overrides) (hset : ∀ p ∈ set, V p.1)
    (hdiscard : ∀ a, post a → Mirrors t V ρ (fun _ _ _ => True) (discard a) (discard' a))
    {body body' : Act (Hands (Known σ)) ε α} (hgrows : Leads EvolvesStore body')
    (hbody : Mirrors t V ρ (Same post) body body') :
    Mirrors t V ρ (Beside post) (aroundAmid deliver id discard set body)
      (aroundAmid deliver others discard' set body') := by
  have hC := EvolvesStore.calm (η := Hands (Known σ)) (ε := ε)
  induction set generalizing ρ with
  | nil =>
    exact .bind hbody (fun a => .pure hC _) fun _ _ _ _ ha => .pure fun _ _ => ⟨ha, .none⟩
  | cons pair rest ih =>
    obtain ⟨c, v⟩ := pair
    have hc : V c := hset (c, v) List.mem_cons_self
    have hrest := aroundAmid_evolves ho.evolves hd hgone rest hgrows
    apply Mirrors.bind (.after ho (Guard.acquire_mirrors hc))
    · intro g
      exact insideAmid_evolves ho.evolves hd hgone c v g hrest
    · intro ρ₁ hρ₁ g g' hg
      have hdiscard' := fun a ha => (hdiscard a ha).mono hρ₁
      apply insideAmid_mirrors ho hd hgone hc v hg hdiscard' hrest
      exact ih (fun p hp => hset p (List.mem_cons_of_mem _ hp)) hdiscard' (hbody.mono hρ₁)

/-- Overriding variables around a body, with the message that it is entered. -/
theorem enterAmid_mirrors (set : Overrides) (hset : ∀ p ∈ set, V p.1)
    (hdiscard : ∀ a, post a → Mirrors t V ρ (fun _ _ _ => True) (discard a) (discard' a))
    {body body' : Act (Hands (Known σ)) ε α} (hgrows : Leads EvolvesStore body')
    (hbody : Mirrors t V ρ (Same post) body body') :
    Mirrors t V ρ (Beside post) (enterAmid deliver id discard set body)
      (enterAmid deliver others discard' set body') := by
  have hC := EvolvesStore.calm (η := Hands (Known σ)) (ε := ε)
  refine aroundAmid_mirrors ho hd hgone set hset hdiscard (.bind hC (.log hC _) fun _ => hgrows) ?_
  exact .bind (.log _ _) (fun _ => hgrows) fun _ hρ₁ _ _ _ => hbody.mono hρ₁

/-- The result of overrides in the terms of a routine, which sees the kind of a fault. -/
theorem runAmid_mirrors (set : Overrides) (hset : ∀ p ∈ set, V p.1)
    {want : Except String α → Prop} {body body' : Act (Hands (Known σ)) ε α}
    (hgrows : Leads EvolvesStore body') (hfault : ∀ kind, want (.error kind))
    (hok : ∀ a, post a → want (.ok a))
    (hdiscard : ∀ a, post a → Mirrors t V ρ (fun _ _ _ => True) (discard a) (discard' a))
    (hbody : Mirrors t V ρ (Same post) body body') :
    Mirrors t V ρ (Same want)
      (do return (← runAmid deliver id discard set body).mapError Fault.kindName)
      (do return (← runAmid deliver others discard' set body').mapError Fault.kindName) := by
  have hC := EvolvesStore.calm (η := Hands (Known σ)) (ε := ε)
  have hsettle (ends : α × Option Fault) : Leads EvolvesStore (settle discard' ends) :=
    ((Leads.composes hC).settle (fun a => .of (hgone a)) ends).2
  unfold runAmid
  rw [bind_assoc, bind_assoc]
  apply Mirrors.bind (enterAmid_mirrors ho hd hgone set hset hdiscard hgrows hbody)
  · intro ends
    exact .bind hC (hsettle ends) fun _ => .pure hC _
  · intro ρ₁ hρ₁ x y hxy
    obtain ⟨a, fault⟩ := x
    obtain ⟨b, fault'⟩ := y
    obtain ⟨⟨rfl, hpost⟩, hfaults⟩ := hxy
    cases hfaults with
    | none => exact .pure fun _ _ => ⟨rfl, hok _ hpost⟩
    | @some fault fault' hmatch =>
      unfold settle
      dsimp only
      rw [bind_assoc, bind_assoc]
      apply Mirrors.bind ((hdiscard b hpost).mono hρ₁)
      · intro _
        exact .pure hC _
      · intro _ _ _ _ _
        exact .pure fun _ _ => ⟨congrArg Except.error hmatch.kindName, hfault _⟩

omit hgone ho hd in
/-- What is made of the result of a body that may fail. -/
theorem trySettle_mirrors {discard discard' : Except β α → Act (Hands (Known σ)) ε Unit}
    {ofKind : String → β} {post want : Except β α → Prop}
    (hgone : ∀ a, Leads EvolvesStore (discard' a)) (policy : ReleasePolicy)
    (hfault : ∀ kind, want (.error (ofKind kind))) (hok : ∀ a, post a → want a)
    (hdiscard : ∀ a, post a → Mirrors t V ρ (fun _ _ _ => True) (discard a) (discard' a))
    {x y : Except β α × Option Fault} (hxy : Beside post ρ x y) :
    Mirrors t V ρ (Same want)
      (trySettle discard (fun fault => ofKind fault.kindName) policy x)
      (trySettle discard' (fun fault => ofKind fault.kindName) policy y) := by
  have hC := EvolvesStore.calm (η := Hands (Known σ)) (ε := ε)
  obtain ⟨a, fault⟩ := x
  obtain ⟨b, fault'⟩ := y
  obtain ⟨⟨rfl, hpost⟩, hfaults⟩ := hxy
  cases hfaults with
  | none =>
    cases b with
    | ok a => exact .pure fun _ _ => ⟨rfl, hok _ hpost⟩
    | error failure => exact .pure fun _ _ => ⟨rfl, hok _ hpost⟩
  | @some fault fault' hmatch =>
    cases b with
    | ok a =>
      apply Mirrors.bind (hdiscard _ hpost)
      · intro _
        exact .pure hC _
      · intro _ _ _ _ _
        refine .pure fun _ _ => ⟨?_, hfault _⟩
        dsimp only
        rw [hmatch.kindName]
    | error failure =>
      have hfail := Guard.failRelease_leads (η := Hands (Known σ)) (ε := ε) hC policy fault'
      apply Mirrors.bind (.log _ _)
      · intro _
        exact .bind hC (.onUnwind hC hfail (hgone _)) fun _ => .pure hC _
      · intro ρ₁ hρ₁ _ _ _
        apply Mirrors.bind (.onUnwind (Guard.failRelease_mirrors policy (hmatch.mono hρ₁)) (hgone _)
          ((hdiscard _ hpost).mono hρ₁))
        · intro _
          exact .pure hC _
        · intro _ _ _ _ _
          exact .pure fun _ _ => ⟨rfl, hok _ hpost⟩

omit hgone in
/-- The result of overrides around a body that may fail. -/
theorem tryRunAmid_mirrors {discard discard' : Except β α → Act (Hands (Known σ)) ε Unit}
    {post want : Except β α → Prop} (hgone : ∀ a, Leads EvolvesStore (discard' a))
    (ofKind : String → β) (set : Overrides) (hset : ∀ p ∈ set, V p.1)
    {body body' : Act (Hands (Known σ)) ε (Except β α)} (hgrows : Leads EvolvesStore body')
    (hfault : ∀ kind, want (.error (ofKind kind))) (hok : ∀ a, post a → want a)
    (hdiscard : ∀ a, post a → Mirrors t V ρ (fun _ _ _ => True) (discard a) (discard' a))
    (hbody : Mirrors t V ρ (Same post) body body') :
    Mirrors t V ρ (Same want)
      (tryRunAmid deliver id discard (fun fault => ofKind fault.kindName) set body)
      (tryRunAmid deliver others discard' (fun fault => ofKind fault.kindName) set body') := by
  have hC := EvolvesStore.calm (η := Hands (Known σ)) (ε := ε)
  have hsettle (policy : ReleasePolicy) (ends : Except β α × Option Fault) : Leads EvolvesStore
      (trySettle discard' (fun fault => ofKind fault.kindName) policy ends) :=
    ((Leads.composes hC).trySettle (fun a => .of (hgone a)) (fun a => .of (hgone a)) _ policy
      ends).2
  apply Mirrors.bind Guard.current_mirrors
  · intro policy
    exact .bind hC (enterAmid_evolves ho.evolves hd hgone set hgrows) (hsettle policy)
  · intro ρ₁ hρ₁ policy policy' hpolicy
    subst hpolicy
    have hdiscard' := fun a ha => (hdiscard a ha).mono hρ₁
    apply Mirrors.bind (enterAmid_mirrors ho hd hgone set hset hdiscard' hgrows (hbody.mono hρ₁))
      (hsettle policy')
    intro ρ₂ hρ₂ x y hxy
    exact trySettle_mirrors hgone policy' hfault hok
      (fun a ha => (hdiscard' a ha).mono hρ₂) hxy

end Overrides

end Told

namespace Snapshot

/-- Taking bindings one by one. -/
theorem collectAmid_mirrors (cells : List CellId) (hcells : ∀ c ∈ cells, V c) :
    Mirrors t V ρ (Same fun bindings => ∀ p ∈ bindings, V p.1) (collectAmid id cells)
      (collectAmid others cells : Act (Hands (Known σ)) ε Overrides) := by
  have hC := EvolvesStore.calm (η := Hands (Known σ)) (ε := ε)
  induction cells generalizing ρ with
  | nil => exact .pure fun _ _ => ⟨rfl, fun _ hp => nomatch hp⟩
  | cons c rest ih =>
    have hc : V c := hcells c List.mem_cons_self
    have hrest : ∀ c ∈ rest, V c := fun c hc => hcells c (List.mem_cons_of_mem _ hc)
    have hgrows := collectAmid_evolves ho.evolves rest
    have hbound : Mirrors t V ρ (fun _ a b => b = a)
        (do return (← Act.store).isBound (← Act.thread) c : Act (Hands (Known σ)) ε Bool)
        (do return (← Act.store).isBound (← Act.thread) c) := by
      apply Mirrors.of_done
      intro unwinding ρ₁ w w' hρ hw hn
      exact ⟨ρ₁, _, _, w, w', le_rfl, rfl, rfl, hw.store.isBound hc, hw⟩
    have hread : Mirrors t V ρ (fun _ a b => b = a)
        (c.read : Act (Hands (Known σ)) ε Value) c.read := by
      apply Mirrors.of_done
      intro unwinding ρ₁ w w' hρ hw hn
      exact ⟨ρ₁, _, _, w, w', le_rfl, rfl, rfl, hw.store.read hc, hw⟩
    have hmore : ∀ v, Leads EvolvesStore
        (do return (c, v) :: (← collectAmid others rest) : Act (Hands (Known σ)) ε Overrides) :=
      fun v => .bind hC hgrows fun _ => .pure hC _
    apply Mirrors.bind (.after ho hbound)
    · intro bound
      split
      · exact .bind hC (Act.after_still ho.evolves fun _ _ => rfl) hmore
      · exact hgrows
    · intro ρ₁ hρ₁ bound bound' heq
      subst heq
      cases bound' with
      | false => exact ih hrest
      | true =>
        apply Mirrors.bind (.after ho (hread.mono hρ₁)) hmore
        intro ρ₂ hρ₂ v v' hv
        subst hv
        apply Mirrors.bind (ih hrest)
        · intro _
          exact .pure hC _
        · intro _ _ more more' hsame
          obtain ⟨rfl, hall⟩ := hsame
          refine .pure fun _ _ => ⟨rfl, fun p hp => ?_⟩
          rcases List.mem_cons.1 hp with rfl | hp
          · exact hc
          · exact hall p hp

/-- Capturing bindings. -/
theorem captureAmid_mirrors (cells : List CellId) (hcells : ∀ c ∈ cells, V c) :
    Mirrors t V ρ (Same fun s : Snapshot => ∀ p ∈ s.bindings, V p.1) (captureAmid id cells)
      (captureAmid others cells : Act (Hands (Known σ)) ε Snapshot) := by
  have hC := EvolvesStore.calm (η := Hands (Known σ)) (ε := ε)
  refine .bind (collectAmid_mirrors ho cells hcells)
    (fun _ => .bind hC (.log hC _) fun _ => .pure hC _) fun ρ₁ hρ₁ bindings bindings' hsame => ?_
  obtain ⟨rfl, hall⟩ := hsame
  refine .bind (.log _ _) (fun _ => .pure hC _) fun _ _ _ _ _ => ?_
  exact .pure fun _ _ => ⟨rfl, hall⟩

end Snapshot

end Others

end Operations

end ScopedBinding
