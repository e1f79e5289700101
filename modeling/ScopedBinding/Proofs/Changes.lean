import ScopedBinding.Proofs.Leads

/-!
# Elementary changes and their events

Three operations change a value: setting what a thread sees, setting a root, and closing a frame.
`World.Altered` says that a world has come about from another by one of them, at which place, and with
which event noted. The event tells the change (`World.Altered.replaces`): it has the content of the
place before the change and what is visible there after it, no other place has changed, and whoever
sees another value than before has seen just this change.

`World.Aside` says that a step changed no value. Such steps open frames, take numbers, register
watches, log, or concern the settings and the program itself.
-/

set_option autoImplicit false

namespace ScopedBinding

/-- A place where a variable keeps a value: its root, or the binding of a thread. -/
inductive Place where
  | root
  | binding (t : ThreadId)
  deriving DecidableEq

namespace Place

/-- The value that is kept at a place. A thread that has not bound the variable keeps none. -/
def content (s : Store) (c : CellId) : Place → Option Value
  | .root => some (s.root c)
  | .binding t => (s.binding? t c).map Binding.value

/-- What is visible at a place. Where a thread has no binding it is the root. -/
def visible (s : Store) (c : CellId) : Place → Value
  | .root => s.root c
  | .binding t => s.read t c

variable (s : Store) (t : ThreadId) (c : CellId)

/-- Every variable has a root. -/
@[simp]
theorem content_root : Place.root.content s c = some (s.root c) :=
  rfl

/-- A binding is there if the thread has bound the variable. -/
@[simp]
theorem content_binding : (Place.binding t).content s c = (s.binding? t c).map Binding.value :=
  rfl

/-- What is visible at the root is the root. -/
@[simp]
theorem visible_root : Place.root.visible s c = s.root c :=
  rfl

/-- What is visible in a binding is what the thread reads. -/
@[simp]
theorem visible_binding : (Place.binding t).visible s c = s.read t c :=
  rfl

end Place

namespace Store

variable {s s' : Store} {t u : ThreadId} {c d : CellId}

/-- The place where setting the value that a thread sees puts it. -/
def writtenPlace (s : Store) (t : ThreadId) (c : CellId) : Place :=
  if s.isBound t c then .binding t else .root

/-- The place that closing a frame gives a value back to. -/
def returnedPlace (s : Store) (t : ThreadId) (c : CellId) : Place :=
  match s.kind c with
  | .root => .root
  | .dynamic => .binding t

/-- A thread reads its binding, or the root if it has none. -/
theorem read_eq_content (s : Store) (t : ThreadId) (c : CellId) :
    s.read t c = (Place.content s c (.binding t)).getD (s.root c) := by
  unfold read
  cases hb : s.binding? t c <;> simp [hb]

/-- A thread has bound a variable if there is a binding. -/
theorem isBound_eq_content (s : Store) (t : ThreadId) (c : CellId) :
    s.isBound t c = (Place.content s c (.binding t)).isSome := by
  unfold isBound
  cases hb : s.binding? t c <;> simp [hb]

/-- A change of a variable at a place: what was kept there, what is visible there now, and that no
other place has changed. -/
structure Replaces (c : CellId) (p : Place) (old new : Value) (s s' : Store) : Prop where
  old : p.content s c = some old
  new : (s.cell? c).isSome = true → p.visible s' c = new
  elsewhere : ∀ q d, ¬(d = c ∧ q = p) → q.content s' d = q.content s d

namespace Replaces

variable {p : Place} {old new : Value}

/-- No change is silent: whoever sees another value of some variable than before saw the old value
and sees the new one. -/
theorem read (h : Replaces c p old new s s') (hd : (s.cell? d).isSome = true)
    (hchanged : s'.read u d ≠ s.read u d) :
    d = c ∧ s.read u d = old ∧ s'.read u d = new := by
  have hsame : ∀ q, (d = c → q ≠ p) → q.content s' d = q.content s d := by
    intro q hq
    exact h.elsewhere q d fun ⟨hd, hqp⟩ => hq hd hqp
  have hroot : (d = c → Place.root ≠ p) → s'.root d = s.root d := by
    intro hq
    exact Option.some.inj (hsame .root hq)
  rw [read_eq_content s' u d, read_eq_content s u d] at hchanged
  by_cases hdc : d = c
  · subst hdc
    refine ⟨rfl, ?_⟩
    cases p with
    | root =>
      -- The root has changed, and is seen by the threads that have not bound the variable.
      have hown := hsame (.binding u) fun _ => nofun
      rw [hown] at hchanged
      rw [read_eq_content s' u d, read_eq_content s u d, hown]
      cases hb : Place.content s d (.binding u) with
      | some b =>
        rw [hb] at hchanged
        exact absurd rfl hchanged
      | none => exact ⟨Option.some.inj h.old, h.new hd⟩
    | binding t =>
      by_cases hu : u = t
      · subst hu
        refine ⟨?_, h.new hd⟩
        rw [read_eq_content s u d, h.old]
        rfl
      · have hown := hsame (.binding u) fun _ heq => hu (Place.binding.inj heq)
        rw [hown, hroot fun _ => nofun] at hchanged
        exact absurd rfl hchanged
  · have hown := hsame (.binding u) fun heq => absurd heq hdc
    rw [hown, hroot fun heq => absurd heq hdc] at hchanged
    exact absurd rfl hchanged

/-- The thread that made the change sees the new value, unless it has set a root behind its own
binding. -/
theorem acting (h : Replaces c p old new s s') (hc : (s.cell? c).isSome = true)
    (hp : p = .root ∨ p = .binding t) :
    s'.read t c = new ∨
      p = .root ∧ s.isBound t c = true ∧ s'.root c = new ∧ s'.read t c = s.read t c := by
  rcases hp with rfl | rfl
  · have hown : Place.content s' c (.binding t) = Place.content s c (.binding t) :=
      h.elsewhere (.binding t) c fun hsame => nomatch hsame.2
    have hnew : s'.root c = new := h.new hc
    cases hb : s.isBound t c with
    | false =>
      left
      have hb' : s'.isBound t c = false := by
        rw [isBound_eq_content, hown, ← isBound_eq_content]
        exact hb
      rw [read_of_not_bound hb', hnew]
    | true =>
      right
      refine ⟨rfl, rfl, hnew, ?_⟩
      rw [isBound_eq_content] at hb
      obtain ⟨b, hb⟩ := Option.isSome_iff_exists.1 hb
      rw [read_eq_content, read_eq_content, hown, hb]
      rfl
  · exact .inl (h.new hc)

end Replaces

/-- A change of a cell that sets its root. -/
theorem root_updateCell_self {change : Cell → Cell} {v : Value} (hc : (s.cell? c).isSome = true)
    (h : ∀ cell, (change cell).root = v) : (s.updateCell c change).root c = v := by
  obtain ⟨cell, hcell⟩ := Option.isSome_iff_exists.1 hc
  unfold root
  rw [cell?_updateCell, if_pos rfl, hcell]
  exact h cell

/-- A change of a cell leaves the roots of the others. -/
theorem root_updateCell_ne (s : Store) (h : d ≠ c) (change : Cell → Cell) :
    (s.updateCell c change).root d = s.root d :=
  (s.sameAt_updateCell h change).root

/-- Changing the root of a variable, and nothing else that is a value. -/
theorem replaces_updateCell {change : Cell → Cell} {v : Value}
    (h : ∀ cell, (change cell).root = v) :
    Replaces c .root (s.root c) v s (s.updateCell c change) := by
  refine ⟨rfl, fun hc => root_updateCell_self hc h, fun q d hq => ?_⟩
  cases q with
  | root =>
    have hd : d ≠ c := fun heq => hq ⟨heq, rfl⟩
    exact congrArg some (s.root_updateCell_ne hd change)
  | binding u => rfl

/-- Changing the value of a binding that is there. -/
theorem replaces_putBinding {b : Binding} (hb : s.binding? t c = some b) (b' : Binding) :
    Replaces c (.binding t) b.value b'.value s (s.putBinding t c b') := by
  refine ⟨?_, fun _ => ?_, fun q d hq => ?_⟩
  · rw [Place.content_binding, hb]
    rfl
  · rw [Place.visible_binding, read_putBinding, if_pos rfl]
  · cases q with
    | root => rfl
    | binding u =>
      have hne : (u, d) ≠ (t, c) := by
        intro heq
        obtain ⟨hu, hd⟩ := Prod.mk.inj heq
        exact hq ⟨hd, congrArg Place.binding hu⟩
      rw [Place.content_binding, Place.content_binding, binding?_putBinding, if_neg hne]

/-- Removing a binding, so that the root is seen. -/
theorem replaces_eraseBinding {b : Binding} (hb : s.binding? t c = some b) :
    Replaces c (.binding t) b.value (s.root c) s (s.eraseBinding t c) := by
  refine ⟨?_, fun _ => ?_, fun q d hq => ?_⟩
  · rw [Place.content_binding, hb]
    rfl
  · rw [Place.visible_binding]
    unfold read
    rw [binding?_eraseBinding, if_pos rfl]
    rfl
  · cases q with
    | root => rfl
    | binding u =>
      have hne : (u, d) ≠ (t, c) := by
        intro heq
        obtain ⟨hu, hd⟩ := Prod.mk.inj heq
        exact hq ⟨hd, congrArg Place.binding hu⟩
      rw [Place.content_binding, Place.content_binding, binding?_eraseBinding, if_neg hne]

/-- Setting a root replaces the root. -/
theorem replaces_setRoot (s : Store) (c : CellId) (v : Value) :
    Replaces c .root (s.setRoot c v).1.old (s.setRoot c v).1.new s (s.setRoot c v).2 :=
  replaces_updateCell fun _ => rfl

/-- Setting a variable replaces the value at the place where the thread sees it. -/
theorem replaces_write (s : Store) (t : ThreadId) (c : CellId) (v : Value) :
    Replaces c (s.writtenPlace t c) (s.write t c v).1.old (s.write t c v).1.new s
      (s.write t c v).2 := by
  unfold writtenPlace write isBound
  cases hb : s.binding? t c with
  | some b => exact replaces_putBinding hb { b with value := v }
  | none => exact s.replaces_setRoot c v

/-- The new value is the one that was given. -/
theorem write_new (s : Store) (t : ThreadId) (c : CellId) (v : Value) :
    (s.write t c v).1.new = v := by
  unfold write
  split <;> rfl

/-- Closing a frame replaces the value at the place where the saved one belongs. -/
theorem replaces_pop (hs : s.WellFormed) {f : FrameId} {r : Replaced}
    (h : s.pop t c f = .ok (r, s')) :
    Replaces c (s.returnedPlace t c) r.old r.new s s' := by
  obtain ⟨frame, rest, -, htop, hcases⟩ := pop_ok_cases h
  unfold returnedPlace
  obtain ⟨hk, rfl, rfl⟩ | ⟨hk, -, rfl, rfl⟩ | ⟨hk, -, rfl, rfl⟩ := hcases
  · rw [hk]
    exact replaces_updateCell fun _ => rfl
  all_goals
    -- A dynamic variable with an open frame is bound.
    have hbound : s.isBound t c = true := by
      rw [hs.isBound_iff hk, htop]
      rfl
    obtain ⟨b, hb⟩ := Option.isSome_iff_exists.1 hbound
    have hread : s.read t c = b.value := by
      unfold read
      rw [hb]
    rw [hk, hread]
  · exact replaces_eraseBinding hb
  · exact replaces_putBinding hb ⟨frame.saved, rest⟩

end Store

namespace Store

variable {s s' : Store}

/-- Opening a frame leaves all roots. -/
theorem root_push (s : Store) (t : ThreadId) (c d : CellId) :
    (s.push t c).2.root d = s.root d := by
  cases hk : s.kind c with
  | root =>
    rw [push_of_root hk t]
    exact root_updateCell s.issueFrame.2 c d fun _ => rfl
  | dynamic =>
    rw [push_of_dynamic hk t]
    rfl

/-- A rearrangement leaves what threads read. -/
theorem Rearranges.read (h : s.Rearranges s') (t : ThreadId) (d : CellId) :
    s'.read t d = s.read t d := by
  cases h with
  | watch c key w => exact s.read_updateCell t c d fun _ => rfl
  | unwatch c key => exact s.read_updateCell t c d fun _ => rfl
  | lock c => exact s.read_updateCell t c d fun _ => rfl
  | unlock c => exact s.read_updateCell t c d fun _ => rfl
  | issueFrame => rfl

/-- A rearrangement leaves all roots. -/
theorem Rearranges.root (h : s.Rearranges s') (d : CellId) : s'.root d = s.root d := by
  cases h with
  | watch c key w => exact s.root_updateCell c d fun _ => rfl
  | unwatch c key => exact s.root_updateCell c d fun _ => rfl
  | lock c => exact s.root_updateCell c d fun _ => rfl
  | unlock c => exact s.root_updateCell c d fun _ => rfl
  | issueFrame => rfl

end Store

/-- What an event tells of a change of its variable at a place, by a thread. It tells what every thread
sees that sees another value than before. The acting thread sees the new value, unless it has set the
root of a dynamic variable that it has bound. -/
structure Event.Describes (e : Event) (t : ThreadId) (p : Place) (s s' : Store) : Prop
    extends Store.Replaces e.cell p e.old e.new s s' where
  place : p = .root ∨ p = .binding t
  read : ∀ u d, (s.cell? d).isSome = true → s'.read u d ≠ s.read u d →
    d = e.cell ∧ s.read u d = e.old ∧ s'.read u d = e.new
  acting : (s.cell? e.cell).isSome = true → s'.read t e.cell = e.new ∨
    p = .root ∧ s.kind e.cell = .dynamic ∧ s.isBound t e.cell = true ∧ s'.root e.cell = e.new ∧
      s'.read t e.cell = s.read t e.cell

/-! ## Steps of a world -/

namespace World

variable {η ε : Type}

/-- A step that changes no value. -/
inductive Aside (w : World η ε) : World η ε → Prop where
  | settings (s : Settings) : Aside w { w with settings := s }
  | host (a : η) : Aside w { w with host := a }
  | logged (message : LogMessage) : Aside w { w with journal := .logged message :: w.journal }
  | rearranged {s : Store} (h : w.store.Rearranges s) : Aside w { w with store := s }
  | opened (t : ThreadId) (c : CellId) : Aside w (w.opened t c)

/-- An elementary change by a thread, at a place, with the event that is noted of it. -/
inductive Altered (w : World η ε) (t : ThreadId) : Place → Event → World η ε → Prop where
  | written (c : CellId) (v : Value) : Altered w t (w.store.writtenPlace t c)
      ⟨c, (w.store.write t c v).2.symbol c, (w.store.write t c v).1.old, (w.store.write t c v).1.new,
        .write⟩ (w.changed t c .write (w.store.write t c v).1 (w.store.write t c v).2)
  | rootSet (c : CellId) (v : Value) : Altered w t .root
      ⟨c, (w.store.setRoot c v).2.symbol c, (w.store.setRoot c v).1.old, (w.store.setRoot c v).1.new,
        .write⟩ (w.changed t c .write (w.store.setRoot c v).1 (w.store.setRoot c v).2)
  | returned (c : CellId) (f : FrameId) {r : Replaced} {s : Store}
      (h : w.store.pop t c f = .ok (r, s)) : Altered w t (w.store.returnedPlace t c)
      ⟨c, s.symbol c, r.old, r.new, .restore⟩ ((w.closed t c f s).changed t c .restore r s)

variable {w w' : World η ε} {t : ThreadId} {p : Place} {e : Event}

/-- The place of a change is the root, or the binding of the thread that makes it. -/
theorem Altered.place (h : w.Altered t p e w') : p = .root ∨ p = .binding t := by
  cases h with
  | written c v =>
    unfold Store.writtenPlace
    split
    · exact .inr rfl
    · exact .inl rfl
  | rootSet c v => exact .inl rfl
  | returned c f hp =>
    unfold Store.returnedPlace
    split
    · exact .inl rfl
    · exact .inr rfl

/-- The event of a change tells the change. -/
theorem Altered.replaces (h : w.Altered t p e w') (hw : w.store.WellFormed) :
    Store.Replaces e.cell p e.old e.new w.store w'.store := by
  cases h with
  | written c v => exact w.store.replaces_write t c v
  | rootSet c v => exact w.store.replaces_setRoot c v
  | returned c f hp => exact Store.replaces_pop hw hp

/-- The event of a change describes the change. -/
theorem Altered.describes (h : w.Altered t p e w') (hw : w.store.WellFormed) :
    e.Describes t p w.store w'.store := by
  have hreplaces := h.replaces hw
  refine ⟨hreplaces, h.place, fun u d hd hchanged => hreplaces.read hd hchanged, fun hc => ?_⟩
  rcases hreplaces.acting hc h.place with hnew | ⟨hroot, hbound, hnew, hsame⟩
  · exact .inl hnew
  · refine .inr ⟨hroot, ?_, hbound, hnew, hsame⟩
    cases hk : w.store.kind e.cell with
    | dynamic => rfl
    | root =>
      have hnone := (hw e.cell).unbound t hk
      unfold Store.isBound at hbound
      rw [hnone] at hbound
      cases hbound

/-- A step aside changes nothing that is visible anywhere. -/
theorem Aside.visible (h : w.Aside w') (q : Place) (d : CellId) :
    q.visible w'.store d = q.visible w.store d := by
  cases h with
  | settings | host | logged => rfl
  | rearranged hs =>
    cases q with
    | root => exact hs.root d
    | binding u => exact hs.read u d
  | opened t c =>
    cases q with
    | root => exact w.store.root_push t c d
    | binding u => exact w.store.read_push t u c d

end World

end ScopedBinding
