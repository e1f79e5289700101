import ScopedBinding.Proofs.GuardStates
import ScopedBinding.Proofs.Journal
import ScopedBinding.Proofs.LeakingBody
import ScopedBinding.Proofs.Steps

/-!
# The life of a guard

A guard is called again and again, in whatever worlds it finds itself, and each call is answered: it
was released, it was refused, the call was cut short by a panic, or it was given up. Which answers are
possible depends on its state alone (`GuardState.after`), and so does the state in which a call leaves
it. Run through a whole history of calls this says that a guard is released at most once and that
released and abandoned guards stay so (`Guard.History.lives`).

In a run of a program nothing else happens to a guard. Its number in the program's hands stands for
nothing first, then for a guard that its calls lead from state to state, and then for nothing again
(`GuardStatus.Becomes`), whatever the program, the threads and the watches do (`Program.ages`).
-/

set_option autoImplicit false

namespace ScopedBinding

open Act (Leads Ends)

/-! ## Calls and their answers -/

/-- What a call of a guard came to. -/
inductive Guard.Answer where
  /-- It was released. -/
  | released
  /-- The release was refused. -/
  | refused (fault : Fault)
  /-- The release was cut short by a panic. -/
  | cutShort
  /-- It was given up. -/
  | abandoned
  deriving DecidableEq

/-- The state after a call with this answer, if there is such an answer in a state. -/
def GuardState.after : GuardState → Guard.Answer → Option GuardState
  | .acquired, .released => some .released
  | .acquired, .refused (.outOfOrder _ _ _) => some .acquired
  | .acquired, .cutShort => some .acquired
  | .acquired, .abandoned => some .abandoned
  | .released, .refused (.doubleRelease _) => some .released
  | .released, .abandoned => some .released
  | .abandoned, .refused (.abandoned _ _) => some .abandoned
  | .abandoned, .abandoned => some .abandoned
  | _, _ => none

namespace GuardState

variable {s s' : GuardState} {answer : Guard.Answer} {answers : List Guard.Answer}

/-- A guard that is not acquired keeps its state and is not released. -/
theorem after_settled (hs : s ≠ .acquired) (h : s.after answer = some s') :
    s' = s ∧ answer ≠ .released := by
  unfold after at h
  split at h <;> cases h
  all_goals first | exact absurd rfl hs | exact ⟨rfl, nofun⟩

/-- The first of some answers leads to a state, and the rest go on from it. -/
theorem run_cons (h : (answer :: answers).foldlM after s = some s') :
    ∃ s₁, s.after answer = some s₁ ∧ answers.foldlM after s₁ = some s' := by
  rw [List.foldlM_cons] at h
  exact Option.bind_eq_some_iff.1 h

/-- A guard that is not acquired any more stays what it is, and is never released. -/
theorem run_settled (hs : s ≠ .acquired) (h : answers.foldlM after s = some s') :
    s' = s ∧ .released ∉ answers := by
  induction answers with
  | nil => exact ⟨(Option.some.inj h).symm, List.not_mem_nil⟩
  | cons answer answers ih =>
    obtain ⟨s₁, hfirst, hrest⟩ := run_cons h
    obtain ⟨rfl, hnot⟩ := after_settled hs hfirst
    obtain ⟨rfl, hnone⟩ := ih hrest
    exact ⟨rfl, fun hmem => (List.mem_cons.1 hmem).elim (fun heq => hnot heq.symm) hnone⟩

/-- An acquired guard is released by the answer that says so and by no other. -/
theorem after_acquired (h : acquired.after answer = some s') :
    s' = .released ↔ answer = .released := by
  cases answer with
  | refused fault =>
    cases fault with
    | outOfOrder =>
      cases h
      simp
    | doubleRelease | abandoned | undefined | notDynamic | conflict => cases h
  | released | cutShort | abandoned =>
    cases h
    simp

/-- Along a history a guard is released at most once, and is released then and not before. -/
theorem run_once (h : answers.foldlM after s = some s') :
    answers.count .released ≤ 1 ∧ (s' = .released ↔ s = .released ∨ .released ∈ answers) := by
  induction answers generalizing s with
  | nil =>
    obtain rfl := Option.some.inj h
    simp
  | cons answer answers ih =>
    obtain ⟨s₁, hfirst, hrest⟩ := run_cons h
    cases s with
    | acquired =>
      by_cases hanswer : answer = .released
      · -- From here on the guard is settled.
        subst hanswer
        obtain rfl := (after_acquired hfirst).2 rfl
        obtain ⟨rfl, hnone⟩ := run_settled (s := .released) nofun hrest
        simp [List.count_eq_zero_of_not_mem hnone]
      · obtain ⟨hcount, hiff⟩ := ih hrest
        have hnot : s₁ ≠ .released := fun heq => hanswer ((after_acquired hfirst).1 heq)
        rw [List.count_cons_of_ne hanswer, hiff]
        simp [hcount, hnot, Ne.symm hanswer]
    | released =>
      obtain ⟨rfl, hnone⟩ := run_settled (s := .released) nofun h
      simp [List.count_eq_zero_of_not_mem hnone]
    | abandoned =>
      obtain ⟨rfl, hnone⟩ := run_settled (s := .abandoned) nofun h
      simp [List.count_eq_zero_of_not_mem hnone, hnone]

end GuardState

namespace Guard

variable {η ε : Type}

/-- A call of a guard in some world, its answer, and the guard after it. -/
inductive Answers (η ε : Type) (g : Guard) : Answer → Guard → Prop where
  | released {deliver : Delivery η ε} {ctx : Context} {w w' : World η ε} {g' : Guard}
      (h : g.release deliver ctx w = (.done (.ok g'), w')) : Answers η ε g .released g'
  | refused {deliver : Delivery η ε} {ctx : Context} {w w' : World η ε} {fault : Fault}
      (h : g.release deliver ctx w = (.done (.error fault), w')) : Answers η ε g (.refused fault) g
  | cutShort {deliver : Delivery η ε} {ctx : Context} {w w' : World η ε} {message : String}
      (h : g.release deliver ctx w = (.panicked message, w')) : Answers η ε g .cutShort g
  | abandoned {ctx : Context} {w w' : World η ε} {g' : Guard}
      (h : g.abandon ctx w = (.done g', w')) : Answers η ε g .abandoned g'

/-- Calls of a guard one after another, each in whatever world there is then. -/
inductive History (η ε : Type) : Guard → List Answer → Guard → Prop where
  | nil (g : Guard) : History η ε g [] g
  | cons {g g' g'' : Guard} {answer : Answer} {answers : List Answer}
      (first : g.Answers η ε answer g') (rest : History η ε g' answers g'') :
      History η ε g (answer :: answers) g''

/-- What a history of calls makes of a guard. -/
structure Lives (g : Guard) (answers : List Answer) (g' : Guard) : Prop where
  cell : g'.cell = g.cell
  frame : g'.frame = g.frame
  states : answers.foldlM GuardState.after g.state = some g'.state
  settled : g.state ≠ .acquired → g'.state = g.state
  once : answers.count .released ≤ 1
  released : g'.state = .released ↔ g.state = .released ∨ .released ∈ answers

section Calls

variable {deliver : Delivery η ε} {ctx : Context} {w w' : World η ε} {g g' : Guard}

/-- A guard is released only if it was acquired and its frame was innermost, and then its frame is
closed before anything else happens. -/
theorem of_released (h : g.release deliver ctx w = (.done (.ok g'), w')) :
    g.state = .acquired ∧ g' = { g with state := .released } ∧
      ∃ r s, w.store.pop ctx.thread g.cell g.frame = .ok (r, s) := by
  have hg' := g.release_yields ctx w _ (congrArg Prod.fst h) g' rfl
  rcases release_cases deliver g ctx w with ⟨fault, message, hrefused⟩ | ⟨hstate, hpop⟩
  · cases hrefused.symm.trans h
  · exact ⟨hstate, hg', hpop⟩

/-- A guard is refused because its frame is not innermost or because of its state. The refusal is
logged, and nothing else happens. -/
theorem of_refused {fault : Fault} (h : g.release deliver ctx w = (.done (.error fault), w')) :
    (g.state = .acquired ∧ fault = .outOfOrder (w.store.symbol g.cell).display g.frame
          ((w.store.stack ctx.thread g.cell).top?.map Frame.id) ∨
      g.state = .released ∧ fault = .doubleRelease (w.store.symbol g.cell).display ∨
      g.state = .abandoned ∧ fault = .abandoned (w.store.symbol g.cell).display g.frame) ∧
    w' = w.reported g (some fault) := by
  cases hstate : g.state with
  | acquired =>
    have htop : (w.store.stack ctx.thread g.cell).top?.map Frame.id ≠ some g.frame := by
      intro htop
      obtain ⟨frame, below, hid, hstack⟩ := FrameStack.eq_push_of_top htop
      obtain ⟨r, s, hpop⟩ := Store.pop_of_top hstack
      rw [hid] at hpop
      exact release_not_refused hstate hpop fault (congrArg Prod.fst h)
    have hrefused : g.release deliver ctx w = _ :=
      release_of_error hstate (Store.pop_of_not_top htop)
    cases hrefused.symm.trans h
    exact ⟨.inl ⟨rfl, rfl⟩, rfl⟩
  | released =>
    cases (release_of_released hstate).symm.trans h
    exact ⟨.inr (.inl ⟨rfl, rfl⟩), rfl⟩
  | abandoned =>
    cases (release_of_abandoned hstate).symm.trans h
    exact ⟨.inr (.inr ⟨rfl, rfl⟩), rfl⟩

/-- Only the release of an acquired guard can be cut short. -/
theorem of_cutShort {message : String} (h : g.release deliver ctx w = (.panicked message, w')) :
    g.state = .acquired := by
  rcases release_cases deliver g ctx w with ⟨fault, note, hrefused⟩ | ⟨hstate, -⟩
  · cases hrefused.symm.trans h
  · exact hstate

/-- Giving up a guard changes its state only if it is acquired. -/
theorem abandon_run (g : Guard) (ctx : Context) (w : World η ε) :
    (g.abandon ctx w).1 =
      .done (if g.state = .acquired then { g with state := .abandoned } else g) := by
  obtain ⟨c, f, _ | _ | _⟩ := g <;> rfl

end Calls

variable {g g' g'' : Guard} {answer : Answer} {answers : List Answer}

/-- A call leaves a guard its variable and its frame, and its state is the one that goes with the
answer. -/
theorem Answers.step (h : g.Answers η ε answer g') :
    g'.cell = g.cell ∧ g'.frame = g.frame ∧ g.state.after answer = some g'.state := by
  cases h with
  | released h =>
    obtain ⟨hstate, rfl, -⟩ := of_released h
    rw [hstate]
    exact ⟨rfl, rfl, rfl⟩
  | refused h =>
    obtain ⟨⟨hstate, rfl⟩ | ⟨hstate, rfl⟩ | ⟨hstate, rfl⟩, -⟩ := of_refused h
    all_goals
      rw [hstate]
      exact ⟨rfl, rfl, rfl⟩
  | cutShort h =>
    rw [of_cutShort h]
    exact ⟨rfl, rfl, rfl⟩
  | @abandoned ctx w w' _ h =>
    have hrun := g.abandon_run ctx w
    rw [h] at hrun
    cases hrun
    obtain ⟨c, f, _ | _ | _⟩ := g <;> exact ⟨rfl, rfl, rfl⟩

namespace History

/-- One answer is a history. -/
theorem single (h : g.Answers η ε answer g') : g.History η ε [answer] g' :=
  .cons h (.nil g')

/-- Histories go on from each other. -/
theorem append {more : List Answer} (h : g.History η ε answers g')
    (h' : g'.History η ε more g'') : g.History η ε (answers ++ more) g'' := by
  induction h with
  | nil g => exact h'
  | cons first rest ih => exact .cons first (ih h')

/-- Every step of a history is one of its states. -/
theorem run (h : g.History η ε answers g') :
    g'.cell = g.cell ∧ g'.frame = g.frame ∧
      answers.foldlM GuardState.after g.state = some g'.state := by
  induction h with
  | nil g => exact ⟨rfl, rfl, rfl⟩
  | cons first rest ih =>
    obtain ⟨hcell, hframe, hstate⟩ := first.step
    obtain ⟨hcell', hframe', hrest⟩ := ih
    refine ⟨hcell'.trans hcell, hframe'.trans hframe, ?_⟩
    rw [List.foldlM_cons, hstate]
    exact hrest

/-- A guard lives through its history as the states say. -/
theorem lives (h : g.History η ε answers g') : g.Lives answers g' := by
  obtain ⟨hcell, hframe, hstates⟩ := h.run
  obtain ⟨honce, hreleased⟩ := GuardState.run_once hstates
  exact ⟨hcell, hframe, hstates, fun hs => (GuardState.run_settled hs hstates).1, honce, hreleased⟩

end History

end Guard

/-! ## Guards in the hands of programs -/

/-- What a number stands for in the program's hands. -/
inductive GuardStatus where
  /-- It was not given out yet. -/
  | unborn
  /-- It is that of a guard. -/
  | held (thread : ThreadId) (guard : Guard)
  /-- Its guard is gone. -/
  | gone

/-- What can become of a number. -/
inductive GuardStatus.Becomes (η ε : Type) : GuardStatus → GuardStatus → Prop where
  | unborn : Becomes η ε .unborn .unborn
  | acquired {t : ThreadId} {new g : Guard} {answers : List Guard.Answer}
      (hnew : new.state = .acquired) (h : new.History η ε answers g) :
      Becomes η ε .unborn (.held t g)
  | held {t : ThreadId} {g g' : Guard} {answers : List Guard.Answer}
      (h : g.History η ε answers g') : Becomes η ε (.held t g) (.held t g')
  | gone (status : GuardStatus) : Becomes η ε status .gone

namespace GuardStatus.Becomes

variable {η ε : Type} {a b c : GuardStatus}

/-- A guard becomes what it is. -/
theorem refl (a : GuardStatus) : a.Becomes η ε a := by
  cases a with
  | unborn => exact .unborn
  | held t g => exact .held (.nil g)
  | gone => exact .gone _

/-- A guard that is gone stays gone. -/
theorem of_gone (h : GuardStatus.gone.Becomes η ε a) : a = .gone := by
  cases h
  rfl

/-- A guard that is still there has changed by calls of it only. -/
theorem of_held {t u : ThreadId} {g g' : Guard}
    (h : (GuardStatus.held t g).Becomes η ε (.held u g')) :
    u = t ∧ ∃ answers, g.History η ε answers g' := by
  cases h with
  | held hcalls => exact ⟨rfl, _, hcalls⟩

/-- What a guard becomes goes on from what it became before. -/
theorem trans (h : a.Becomes η ε b) (h' : b.Becomes η ε c) : a.Becomes η ε c := by
  cases h with
  | unborn => exact h'
  | acquired hnew h =>
    cases h' with
    | held h' => exact .acquired hnew (h.append h')
    | gone => exact .gone _
  | held h =>
    cases h' with
    | held h' => exact .held (h.append h')
    | gone => exact .gone _
  | gone =>
    rw [of_gone h']
    exact .gone _

end GuardStatus.Becomes

namespace Hands

variable {υ : Type}

/-- What a number stands for. -/
def status (hands : Hands υ) (n : Nat) : GuardStatus :=
  match hands.guards.get? n with
  | some h => .held h.thread h.guard
  | none => if n < hands.issued then .gone else .unborn

/-- The numbers of the guards were given out. -/
def Counted (hands : Hands υ) : Prop :=
  ∀ n h, hands.guards.get? n = some h → n < hands.issued

variable {hands : Hands υ} {n m : Nat} {h : HeldGuard}

/-- A guard in hand is held. -/
theorem status_of_get? (hget : hands.guards.get? n = some h) :
    hands.status n = .held h.thread h.guard := by
  unfold status
  rw [hget]

/-- A number whose guard is gone was given out. -/
theorem lt_of_gone (hs : hands.status n = .gone) : n < hands.issued := by
  unfold status at hs
  split at hs
  · cases hs
  · split at hs
    · assumption
    · cases hs

/-- Taking one guard out of the hands leaves the others. -/
theorem status_erase (hm : m ≠ n) :
    Hands.status { hands with guards := hands.guards.erase n } m = hands.status m := by
  unfold status
  rw [Table.get?_erase, if_neg hm]

/-- A guard taken out of the hands is gone. -/
theorem status_erase_self (hn : n < hands.issued) :
    Hands.status { hands with guards := hands.guards.erase n } n = .gone := by
  unfold status
  rw [Table.get?_erase, if_pos rfl]
  exact if_pos hn

/-- Putting one guard into the hands leaves the others. -/
theorem status_insert (hm : m ≠ n) :
    Hands.status { hands with guards := hands.guards.insert n h } m = hands.status m := by
  unfold status
  rw [Table.get?_insert, if_neg hm]

/-- A guard put into the hands is held. -/
theorem status_insert_self :
    Hands.status { hands with guards := hands.guards.insert n h } n = .held h.thread h.guard := by
  unfold status
  rw [Table.get?_insert, if_pos rfl]

end Hands

/-- Every number becomes what it can become, if those of the guards were given out. -/
structure Ages {υ ε : Type} (w w' : World (Hands υ) ε) : Prop where
  counted : w.host.Counted → w'.host.Counted
  status : w.host.Counted →
    ∀ n, (w.host.status n).Becomes (Hands υ) ε (w'.host.status n)

namespace Ages

variable {υ ε : Type} {w v w' : World (Hands υ) ε} {n : Nat} {h k : HeldGuard}

/-- What leaves the guards alone, such as everything the library does on its own. -/
theorem of_guards (hguards : w'.host.guards = w.host.guards)
    (hissued : w'.host.issued = w.host.issued) : Ages w w' := by
  refine ⟨fun hc m k hget => ?_, fun _ m => ?_⟩
  · rw [hguards] at hget
    rw [hissued]
    exact hc m k hget
  · have hsame : w'.host.status m = w.host.status m := by
      unfold Hands.status
      rw [hguards, hissued]
    rw [hsame]
    exact .refl _

/-- Guards age step by step. -/
theorem trans (h : Ages w v) (h' : Ages v w') : Ages w w' where
  counted hc := h'.counted (h.counted hc)
  status hc n := (h.status hc n).trans (h'.status (h.counted hc) n)

/-- Changes that touch no guard let none age. -/
theorem revising : Revising (@Ages υ ε) where
  refl _ := of_guards rfl rfl
  trans := trans
  settings _ _ := of_guards rfl rfl
  note _ _ _ := of_guards rfl rfl
  store _ _ _ := of_guards rfl rfl

/-- The guards of scopes are not in the program's hands. -/
theorem scoping : Scoping (@Ages υ ε) fun _ => Ages where
  toRevising := revising
  revising_held _ := revising
  weaken _ _ _ h := h
  opened w t c _ h := trans (of_guards rfl rfl : Ages w (w.opened t c)) h
  closed _ _ _ _ _ _ := of_guards rfl rfl

/-- A new guard gets the next number. -/
theorem acquired (w : World (Hands υ) ε) (t : ThreadId) {g : Guard} (hg : g.state = .acquired)
    (hguards : w'.host.guards = w.host.guards.insert w.host.issued ⟨t, g, false⟩)
    (hissued : w'.host.issued = w.host.issued + 1) : Ages w w' := by
  refine ⟨fun hc m k hget => ?_, fun hc m => ?_⟩
  · rw [hguards, Table.get?_insert] at hget
    rw [hissued]
    split at hget
    · omega
    · have := hc m k hget
      omega
  · by_cases hm : m = w.host.issued
    · have hnone : w.host.guards.get? m = none := by
        cases hget : w.host.guards.get? m with
        | none => rfl
        | some k => exact absurd (hc m k hget) (by omega)
      have hbefore : w.host.status m = .unborn := by
        unfold Hands.status
        rw [hnone]
        exact if_neg (by omega)
      have hafter : w'.host.status m = .held t g := by
        unfold Hands.status
        rw [hguards, Table.get?_insert, if_pos hm]
      rw [hbefore, hafter]
      exact .acquired hg (.nil g)
    · have hsame : w'.host.status m = w.host.status m := by
        have hlt : m < w.host.issued + 1 ↔ m < w.host.issued := by omega
        unfold Hands.status
        rw [hguards, hissued, Table.get?_insert, if_neg hm]
        simp only [hlt]
      rw [hsame]
      exact .refl _

/-- A guard that is taken out of the program's hands is gone. -/
theorem taken (hget : w.host.guards.get? n = some h) : Ages w (w.without n) := by
  refine ⟨fun hc m k hk => hc m k (World.of_get?_without hk).2, fun hc m => ?_⟩
  by_cases hm : m = n
  · subst hm
    rw [show (w.without m).host.status m = .gone from Hands.status_erase_self (hc m h hget)]
    exact .gone _
  · rw [show (w.without n).host.status m = w.host.status m from Hands.status_erase hm]
    exact .refl _

/-- A guard that comes back after calls of it. Meanwhile its number was that of a guard that is gone,
so nobody else got it. -/
theorem returned (hget : w.host.guards.get? n = some h) (hin : Ages (w.without n) v)
    (hthread : k.thread = h.thread) {answers : List Guard.Answer}
    (hcalls : h.guard.History (Hands υ) ε answers k.guard) : Ages w (v.withGuard n k) := by
  have hgone : w.host.Counted → v.host.status n = .gone := by
    intro hc
    have hstatus := hin.status ((taken hget).counted hc) n
    rw [show (w.without n).host.status n = .gone from Hands.status_erase_self (hc n h hget)]
      at hstatus
    exact hstatus.of_gone
  have hrest := (taken hget).trans hin
  refine ⟨fun hc m j hj => ?_, fun hc m => ?_⟩
  · have hlt : n < v.host.issued := Hands.lt_of_gone (hgone hc)
    rcases World.of_get?_withGuard hj with ⟨rfl, -⟩ | ⟨-, hold⟩
    · exact hlt
    · exact hrest.counted hc m j hold
  · by_cases hm : m = n
    · subst hm
      rw [Hands.status_of_get? hget,
        show (v.withGuard m k).host.status m = .held k.thread k.guard from Hands.status_insert_self,
        hthread]
      exact .held hcalls
    · rw [show (v.withGuard n k).host.status m = v.host.status m from Hands.status_insert hm]
      exact hrest.status hc m

end Ages

namespace Hands

variable {υ ε : Type} {deliver : Delivery (Hands υ) ε}

/-- Acquiring a guard adds one and lets no other age. -/
theorem acquire_ages (c : CellId) : Leads Ages (acquire c : Act (Hands υ) ε Nat) :=
  fun ctx w => Ages.acquired w ctx.thread (g := .next w.store ctx.thread c) rfl rfl rfl

/-- However a release ends, the guard comes back after one call, or the run is over. -/
theorem release_ages (hd : ∀ w e, Leads Ages (deliver w e)) (n : Nat) :
    Leads Ages (release deliver n) := by
  have hscopes : Scopes deliver (@Ages υ ε) fun _ => Ages := Ages.scoping.scopes hd
  intro ctx w
  rcases release_cases deliver n ctx w with hnone | ⟨h, hget, hthread⟩
  · rw [hnone]
    exact Ages.revising.refl w
  have hrun := h.guard.release_leads hscopes.toCalm (hscopes.pop h.guard) ctx (w.without n)
  rcases hrelease : h.guard.release deliver ctx (w.without n) with
    ⟨⟨fault | guard⟩ | message | _, w'⟩
  all_goals rw [hrelease] at hrun
  · rw [release_of_refused hget hthread hrelease]
    exact .returned hget hrun rfl (.single (.refused hrelease))
  · rw [release_of_returned hget hthread hrelease]
    exact .returned hget hrun rfl (.single (.released hrelease))
  · rw [release_of_panicked hget hthread hrelease]
    exact .returned hget hrun rfl (.single (.cutShort hrelease))
  · rw [release_of_halted hget hthread hrelease]
    exact .trans (.taken hget) hrun

/-- A guard that goes out of scope is gone. -/
theorem drop_ages (hd : ∀ w e, Leads Ages (deliver w e)) (n : Nat) :
    Leads Ages (drop deliver n) := by
  have hscopes : Scopes deliver (@Ages υ ε) fun _ => Ages := Ages.scoping.scopes hd
  intro ctx w
  rcases drop_cases deliver n ctx w with hnone | ⟨h, hget, -, hdrop⟩
  · rw [hnone]
    exact Ages.revising.refl w
  · rw [hdrop]
    exact .trans (.taken hget) (h.guard.drop_leads hscopes.toCalm (hscopes.pop h.guard) ctx _)

/-- A guard that is forgotten is gone. -/
theorem forget_ages (n : Nat) : Leads Ages (forget n : Act (Hands υ) ε Unit) := by
  intro ctx w
  rcases forget_cases n ctx w with hnone | ⟨h, hget, hforget⟩
  · rw [hnone]
    exact Ages.revising.refl w
  · rw [hforget]
    exact .taken hget

end Hands

section Programs

variable {υ ε : Type} {deliver : Delivery (Hands υ) ε}

/-- Every call lets guards age. -/
theorem Call.ages (hd : ∀ w e, Leads Ages (deliver w e)) {α : Type} (op : Call υ ε α) :
    Leads Ages (op.act deliver) := by
  cases op with
  | own change => exact fun ctx w => .of_guards rfl rfl
  | push c => exact fun ctx w => .of_guards rfl rfl
  | pop c f =>
    exact c.pop_leads Ages.revising.toPlain.calm hd f fun _ _ _ _ _ => .of_guards rfl rfl
  | acquire c => exact Hands.acquire_ages c
  | release n => exact Hands.release_ages hd n
  | drop n => exact Hands.drop_ages hd n
  | forget n => exact Hands.forget_ages n
  | look | panic | halt | write | setRoot | issueFrame | watch | unwatch | capture | policy
  | policyFromVariable | install | setVariable =>
    exact leads_of_isPlain (Ages.revising.altering hd) trivial

/-- So do the runs of watches. -/
theorem Rules.deliver_ages (rules : Rules υ ε) (depth : Nat) (w : WatchId) (e : Event) :
    Leads Ages (rules.deliver depth w e) :=
  rules.deliver_leads Ages.revising.toPlain.calm (fun _ hd => Ages.scoping.scopes hd)
    (fun _ hd _ op _ => op.ages hd) (fun w e => (rules w e).uses_any) depth w e

/-- Whatever a program does, its guards are led from state to state by calls of them only. -/
theorem Program.ages (hd : ∀ w e, Leads Ages (deliver w e)) {α : Type} (p : Program υ ε α) :
    Leads Ages (p.act deliver) :=
  p.leads (Ages.scoping.scopes hd) (fun op _ => op.ages hd) p.uses_any

end Programs

/-! ## What a call and the end of a guard do -/

/-- The store after a thread closed the top frame of its stack of a variable. The frame is gone from the
stack of everybody who sees that stack, and nothing else has changed of any stack and any other
variable. The saved value is back, unless the binding of the thread is gone with its last frame; then
the thread sees the root. -/
structure Store.Returned (s s' : Store) (t : ThreadId) (c : CellId) (frame : Frame)
    (below : FrameStack) : Prop where
  stack : ∀ u d, s'.stack u d = if d = c ∧ s.SameStack c t u then below else s.stack u d
  others : ∀ d, d ≠ c → Store.SameAt d s s'
  value : s.kind c = .root ∨ below.isEmpty = false → s'.read t c = frame.saved
  unbound : s.kind c = .dynamic → below.isEmpty = true →
    s'.isBound t c = false ∧ s'.read t c = s.root c

/-- The variable stays well formed when its innermost frame is closed. -/
theorem Store.WellFormedAt.returned {s s' : Store} {t : ThreadId} {c : CellId} {frame : Frame}
    {below : FrameStack} {r : Replaced} (hs : s.WellFormedAt c)
    (htop : s.stack t c = below.push frame) (hpop : s.pop t c frame.id = .ok (r, s')) :
    s.Returned s' t c frame below := by
  obtain ⟨frame', rest, -, hstack, hafter⟩ := stack_pop hpop
  obtain ⟨rfl, rfl⟩ := FrameStack.push_inj (hstack.symm.trans htop)
  obtain ⟨hvalue, hunbound⟩ := hs.read_pop htop hpop
  refine ⟨hafter, fun d hd => sameAt_pop hd hpop, hvalue, fun hk hempty => ?_⟩
  obtain ⟨hbound, hroot⟩ := hunbound hk hempty
  exact ⟨hbound, (read_of_not_bound hbound).trans hroot⟩

namespace Guard

variable {η ε : Type} {deliver : Delivery η ε} {ctx : Context} {w : World η ε} {g : Guard}

/-- Dropping an acquired guard whose frame is innermost closes the frame and comes through, when the
watches only observe and do not panic. -/
theorem drop_of_top (hg : g.state = .acquired) (hd : deliver.Still)
    (hreturns : ∀ k e, Ends Ending.Returns (deliver k e)) {r : Replaced} {s : Store}
    (hpop : w.store.pop ctx.thread g.cell g.frame = .ok (r, s)) :
    ∃ w', g.drop deliver ctx w = (.done (), w') ∧ w'.store = s := by
  have hends := g.release_ends Ending.done_returns hreturns
  obtain ⟨result, hrelease⟩ := Outcome.done_of_ending (hends ctx w.afterPolicy)
  have hstore := drop_store hd hg ctx w
  unfold Store.close at hstore
  rw [hpop] at hstore
  refine ⟨(g.drop deliver ctx w).2, Prod.ext ?_ rfl, hstore⟩
  unfold drop
  rw [hg]
  dsimp only
  rw [Act.bind_of_done (Settings.current_decides ctx w), Act.bind_of_done hrelease]
  cases result with
  | ok _ => rfl
  | error fault =>
    have hpop' : w.afterPolicy.store.pop ctx.thread g.cell g.frame = .ok (r, s) := hpop
    exact absurd (congrArg Prod.fst hrelease) (release_not_refused hg hpop' fault)

/-- What calls of a guard do, in any world and with any watches, and what becomes of a guard that is
dropped. A refusal is the only note that a refused call leaves, and nothing else has changed. -/
structure Lifecycle (η ε : Type) (g : Guard) : Prop where
  lives : ∀ answers g', g.History η ε answers g' → g.Lives answers g'
  /-- The frame that is closed is its own, before any watch is told. -/
  released : ∀ (deliver : Delivery η ε) ctx w g' w',
    g.release deliver ctx w = (.done (.ok g'), w') → g.state = .acquired ∧
      ∃ frame below r s, frame.id = g.frame ∧
        w.store.stack ctx.thread g.cell = FrameStack.push below frame ∧
        w.store.pop ctx.thread g.cell g.frame = .ok (r, s) ∧
        s.stack ctx.thread g.cell = below ∧
        g.release deliver ctx w =
          (do g.cell.announce deliver .restore r
              Act.log (g.report w.store none)
              pure (.ok g') : Act η ε (Except Fault Guard)) ctx
            (w.closed ctx.thread g.cell g.frame s)
  releasedAgain : g.state = .released → ∀ (deliver : Delivery η ε) ctx w,
    ∃ fault, fault = .doubleRelease (w.store.symbol g.cell).display ∧
      g.release deliver ctx w = (.done (.error fault), w.reported g (some fault))
  outOfOrder : g.state = .acquired → ∀ (deliver : Delivery η ε) ctx w,
    (w.store.stack ctx.thread g.cell).top?.map Frame.id ≠ some g.frame →
      ∃ fault, fault = .outOfOrder (w.store.symbol g.cell).display g.frame
          ((w.store.stack ctx.thread g.cell).top?.map Frame.id) ∧
        g.release deliver ctx w = (.done (.error fault), w.reported g (some fault))
  dropReleased : g.state = .released → ∀ (deliver : Delivery η ε) ctx w,
    g.drop deliver ctx w = (.done (), w)
  dropTop : g.state = .acquired → ∀ deliver : Delivery η ε, deliver.Still →
    (∀ k e, Ends Ending.Returns (deliver k e)) → ∀ ctx w, w.store.WellFormedAt g.cell →
      (w.store.stack ctx.thread g.cell).top?.map Frame.id = some g.frame →
        ∃ frame below w', frame.id = g.frame ∧
          w.store.stack ctx.thread g.cell = FrameStack.push below frame ∧
          g.drop deliver ctx w = (.done (), w') ∧
          w.store.Returned w'.store ctx.thread g.cell frame below
  /-- Deciding the policy, if it was not before, may log warnings first. -/
  dropInner : g.state = .acquired → ∀ (deliver : Delivery η ε) ctx w,
    (w.store.stack ctx.thread g.cell).top?.map Frame.id ≠ some g.frame →
      ∃ (fault : Fault) (w' : World η ε), fault = .outOfOrder (w.store.symbol g.cell).display g.frame
          ((w.store.stack ctx.thread g.cell).top?.map Frame.id) ∧
        g.drop deliver ctx w =
          (if w.settings.policy = .panic ∧ ctx.unwinding = false then .panicked fault.message
            else .done (), w') ∧
        w'.store = w.store ∧ w'.host = w.host ∧
        w'.journal = .logged ⟨.error, source, fault.message, [("frame", g.frame.display)]⟩ ::
          ((w.settings.warnings.map .logged).reverse ++ w.journal) ∧
        ∀ message ∈ w.settings.warnings, message.level = .warn

/-- Every guard has this life. -/
theorem lifecycle (η ε : Type) (g : Guard) : g.Lifecycle η ε where
  lives answers g' h := h.lives
  released deliver ctx w g' w' h := by
    obtain ⟨hstate, rfl, r, s, hpop⟩ := of_released h
    obtain ⟨frame, below, hid, hstack, hafter⟩ := Store.stack_pop hpop
    refine ⟨hstate, frame, below, r, s, hid, hstack, hpop, ?_, release_of_ok hstate hpop⟩
    rw [hafter, if_pos ⟨rfl, .inr rfl⟩]
  releasedAgain hg deliver ctx w := ⟨_, rfl, release_of_released hg⟩
  outOfOrder hg deliver ctx w htop :=
    ⟨_, rfl, release_of_error hg (Store.pop_of_not_top htop)⟩
  dropReleased hg deliver ctx w := drop_of_released hg
  dropTop hg deliver hd hreturns ctx w hw htop := by
    obtain ⟨frame, below, hid, hstack⟩ := FrameStack.eq_push_of_top htop
    obtain ⟨r, s, hpop⟩ := Store.pop_of_top hstack
    have hreturned := hw.returned hstack hpop
    rw [hid] at hpop
    obtain ⟨w', hdrop, rfl⟩ := drop_of_top hg hd hreturns hpop
    exact ⟨frame, below, w', hid, hstack, hdrop, hreturned⟩
  dropInner hg deliver ctx w htop :=
    ⟨_, _, rfl, drop_refused hg (Store.pop_of_not_top htop), rfl, rfl, rfl,
      w.settings.warnings_level⟩

end Guard

namespace Hands

variable {υ ε : Type} {deliver : Delivery (Hands υ) ε} {n : Nat} {ctx : Context}
  {w w' : World (Hands υ) ε}

/-- A release that returned found the guard acquired and left it released. -/
theorem of_release_ok (h : release deliver n ctx w = (.done (some (.ok ())), w')) :
    ∃ (held : HeldGuard) (g : Guard), w.host.status n = .held held.thread held.guard ∧
      held.guard.state = .acquired ∧ w'.host.status n = .held held.thread g ∧
        g.state = .released := by
  rcases release_cases deliver n ctx w with hnone | ⟨held, hget, hthread⟩
  · cases hnone.symm.trans h
  rcases hrelease : held.guard.release deliver ctx (w.without n) with
    ⟨⟨fault | g⟩ | message | _, v⟩
  · cases (release_of_refused hget hthread hrelease).symm.trans h
  · cases (release_of_returned hget hthread hrelease).symm.trans h
    obtain ⟨hstate, rfl, -⟩ := Guard.of_released hrelease
    exact ⟨held, _, status_of_get? hget, hstate, status_insert_self, rfl⟩
  · cases (release_of_panicked hget hthread hrelease).symm.trans h
  · cases (release_of_halted hget hthread hrelease).symm.trans h

/-- A release that was refused found a guard and left it as it was. -/
theorem of_release_error {fault : Fault}
    (h : release deliver n ctx w = (.done (some (.error fault)), w')) :
    ∃ held, w.host.guards.get? n = some held ∧
      w' = ((w.without n).reported held.guard (some fault)).withGuard n held := by
  rcases release_cases deliver n ctx w with hnone | ⟨held, hget, hthread⟩
  · cases hnone.symm.trans h
  rcases hrelease : held.guard.release deliver ctx (w.without n) with
    ⟨⟨fault' | g⟩ | message | _, v⟩
  · cases (release_of_refused hget hthread hrelease).symm.trans h
    obtain rfl := (Guard.of_refused hrelease).2
    exact ⟨held, hget, rfl⟩
  · cases (release_of_returned hget hthread hrelease).symm.trans h
  · cases (release_of_panicked hget hthread hrelease).symm.trans h
  · cases (release_of_halted hget hthread hrelease).symm.trans h

/-- A guard that was released and has aged since is not released again. -/
theorem not_released_again (h : release deliver n ctx w = (.done (some (.ok ())), w'))
    (hcounted : w'.host.Counted) {u : World (Hands υ) ε} (hages : Ages w' u)
    (deliver' : Delivery (Hands υ) ε) (later : Context) :
    (release deliver' n later u).1 ≠ .done (some (.ok ())) := by
  intro hagain
  obtain ⟨old, g, -, -, hreleased, hg⟩ := of_release_ok h
  obtain ⟨held, -, hheld, hstate, -, -⟩ := of_release_ok (Prod.ext hagain rfl)
  -- It would be acquired again, but its calls have left it released.
  have hbecomes := hages.status hcounted n
  rw [hreleased, hheld] at hbecomes
  obtain ⟨-, answers, hcalls⟩ := hbecomes.of_held
  have hsettled := hcalls.lives.settled (by rw [hg]; exact nofun)
  rw [hstate, hg] at hsettled
  cases hsettled

end Hands

/-- The life of guards, in every run and with any watches.

* Whatever a program does on whatever threads, a number in its hands stands for nothing, then for a
  guard that was acquired and that only its own calls have changed since, and then for nothing again.
  The store stays well formed.
* Once a release of a guard has returned, none will, whatever programs run in between.
* A release that is refused leaves the guard and the store as they are, and adds the log of an error
  to the journal and nothing else.
* The calls of a guard, in any worlds one after another, lead it from acquired to released or abandoned
  and no further (`Guard.Lives`). `Guard.Lifecycle` says what each of them does and what becomes of a
  guard that is dropped. -/
theorem guard_lifecycle {υ ε : Type} (rules : Rules υ ε) :
    (∀ (depth : Nat) {α : Type} (p : Program υ ε α) (ctx : Context) (w : World (Hands υ) ε),
      Ages w (p.act (rules.deliver depth) ctx w).2 ∧
      (w.store.WellFormed → (p.act (rules.deliver depth) ctx w).2.store.WellFormed)) ∧
    (∀ (depth n : Nat) (ctx : Context) (w w' : World (Hands υ) ε), w.host.Counted →
      Hands.release (rules.deliver depth) n ctx w = (.done (some (.ok ())), w') →
      ∀ (depth' : Nat) {α : Type} (q : Program υ ε α) (ctx' : Context)
        (deliver : Delivery (Hands υ) ε) (later : Context),
        (Hands.release deliver n later (q.act (rules.deliver depth') ctx' w').2).1 ≠
          .done (some (.ok ()))) ∧
    (∀ (deliver : Delivery (Hands υ) ε) (n : Nat) (ctx : Context) (w w' : World (Hands υ) ε)
      (fault : Fault), Hands.release deliver n ctx w = (.done (some (.error fault)), w') →
      w'.host.status n = w.host.status n ∧ w'.store = w.store ∧
        ∃ message, message.level = .error ∧ w'.journal = .logged message :: w.journal) ∧
    ∀ (η : Type) (g : Guard), g.Lifecycle η ε := by
  have hd := rules.deliver_ages
  refine ⟨fun depth α p ctx w => ⟨p.ages (hd depth) ctx w, fun hw => ?_⟩, ?_, ?_,
    fun η g => g.lifecycle η ε⟩
  · obtain ⟨J, -, hfollows⟩ := p.recorded rules depth ctx w
    exact hfollows.wellFormed hw
  · intro depth n ctx w w' hcounted hrelease depth' α q ctx' deliver later
    have hages := Hands.release_ages (hd depth) n ctx w
    rw [hrelease] at hages
    exact Hands.not_released_again hrelease (hages.counted hcounted)
      (q.ages (hd depth') ctx' w') deliver later
  · intro deliver n ctx w w' fault hrelease
    obtain ⟨held, hget, rfl⟩ := Hands.of_release_error hrelease
    refine ⟨?_, rfl, held.guard.report w.store (some fault), rfl, rfl⟩
    rw [Hands.status_of_get? hget]
    exact Hands.status_insert_self

/-- A world in which a guard of the dynamic variable was acquired. -/
def World.holding : World (Hands Unit) Unit :=
  ((Program.call (.acquire ⟨0⟩)).act (Rules.panicOnRestore.deliver 1) ⟨⟨0⟩, false⟩
    (.start Store.sample ())).2

/-- Its guard is released once, and dropping it panics if another frame was opened inside. -/
theorem holding_releases_once :
    (∃ w', Hands.release (Rules.panicOnRestore.deliver 1) 0 ⟨⟨0⟩, false⟩ .holding =
        (.done (some (.ok ())), w') ∧
      (Hands.release (Rules.panicOnRestore.deliver 1) 0 ⟨⟨0⟩, false⟩ w').1 ≠
        .done (some (.ok ()))) ∧
    ∃ fault w', Guard.drop .silent (.next Store.sample ⟨0⟩ ⟨0⟩) ⟨⟨0⟩, false⟩
      (World.holding.opened ⟨0⟩ ⟨0⟩) = (.panicked (Fault.message fault), w') := by
  obtain ⟨hruns, honce, -, hlives⟩ := guard_lifecycle Rules.panicOnRestore
  refine ⟨?_, ?_⟩
  · have hcounted : World.holding.host.Counted :=
      (hruns 1 (.call (.acquire ⟨0⟩)) ⟨⟨0⟩, false⟩ (.start Store.sample ())).1.counted nofun
    have hrelease : Hands.release (Rules.panicOnRestore.deliver 1) 0 ⟨⟨0⟩, false⟩ .holding =
        (.done (some (.ok ())),
          (Hands.release (Rules.panicOnRestore.deliver 1) 0 ⟨⟨0⟩, false⟩ .holding).2) := rfl
    exact ⟨_, hrelease, honce 1 0 _ _ _ hcounted hrelease 1 (.call (.look fun _ _ => ()))
      ⟨⟨0⟩, false⟩ _ _⟩
  · have hinner := (hlives (Hands Unit) (.next Store.sample ⟨0⟩ ⟨0⟩)).dropInner rfl .silent
      ⟨⟨0⟩, false⟩ (World.holding.opened ⟨0⟩ ⟨0⟩)
    obtain ⟨fault, w', -, hdrop, -⟩ := hinner (by decide +kernel)
    exact ⟨fault, w', hdrop⟩

end ScopedBinding
