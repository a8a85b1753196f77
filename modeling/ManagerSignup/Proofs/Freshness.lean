import ManagerSignup.Proofs.Tracking

/-!
# Fresh Verdicts

A verdict that is not about to be reached anew is the one that would be reached
now.

A field keeps the verdict on the text it judged last, and it does not judge that
text again. This saves work and is sound only if nothing else a verdict hangs on
has changed in the meantime. Most checks hang on nothing but the text. One that
looks at another input needs to be told when that one changes, and `Attentive`
is the demand on the wiring that comes of it: a field hears of changes of its
own input, and of every other input that its check does not ignore.

The invariant has to survive the moment between a change and the last listener's
being told, when some fields are out of date. `FreshBut owed` is what holds
then. It asks nothing of a field that a listener in `owed` will see to, telling
a listener takes it off, and with nothing owed every field is fresh. So an edit
owes the listeners of its widget, a ringing timer owes its own field, and judging
everything at once owes everybody, which is why no history is needed for that.

What is remembered is a verdict on a text as if the input held it, since the
input may by now hold another one. It may even hold the first one again, and
then the verdict has to be right without anybody having looked at it since.

## Main definitions

* `Check.Ignores`, `Check.Steady`: What a check does not look at.
* `Plan.verdictOn`: The verdict on a text as if the input held it.
* `Wiring.Attentive`: Every field hears of what its verdict hangs on.
* `Tracker.FreshBut`: Every field is fresh but for what is owed.

## Theorems

* `Tracker.FreshBut.change`: An operation on one field is the others' business
  only by their timers.
* `Tracker.FreshBut.validate`, `Tracker.FreshBut.recheck`,
  `Tracker.FreshBut.schedule`: What pays a debt.
* `Tracker.FreshBut.foldl_tell`: Telling everybody pays all of them.
* `Tracker.FreshBut.act`, `Tracker.FreshBut.advance`: Edits and time.
* `Tracker.freshBut_recheckAll`: Judging everything at once.
* `Tracker.FreshBut.isPending_or_verdict_of_check`: What freshness means.
-/

namespace ManagerSignup

variable {κ ω : Type}

/-- The verdicts of a check do not hang on what an input holds. -/
def Check.Ignores (c : Check ω) (w : ω) : Prop :=
  ∀ (required : Bool) (s s' : Surroundings ω) (value : Text),
    (∀ v, v ≠ w → s.texts v = s'.texts v) →
      c.verdict required s value = c.verdict required s' value

/-- The verdicts of a check do not hang on how many there were before. -/
def Check.Steady (c : Check ω) : Prop :=
  ∀ (required : Bool) (s s' : Surroundings ω) (value : Text),
    s.texts = s'.texts → c.verdict required s value = c.verdict required s' value

/-- The verdict a field has. -/
def Tracked.verdict (field : Tracked ω) : Verdict :=
  { valid := field.valid, message := field.message }

/-- Every field hears of all changes its verdict hangs on: before long of those
    of its own input, and at once of those of any other that its check does not
    ignore. -/
def Wiring.Attentive [DecidableEq κ] (x : Wiring κ ω) : Prop :=
  ∀ key plan, Table.find? key x.plans = some plan →
    plan.check.Steady ∧ .recheckSoon key ∈ (x.links plan.widget).onChange ∧
      ∀ w, w ≠ plan.widget → .recheckNow key ∈ (x.links w).onChange ∨ plan.check.Ignores w

section

variable [DecidableEq ω]

/-- The verdict on a text as if the field's input held it. -/
def Plan.verdictOn (plan : Plan ω) (texts : ω → Text) (value : Text) : Verdict :=
  plan.check.verdict plan.required
    { texts := Function.update texts plan.widget value, judged := 0 } value

/-- On the text the input holds, that is the verdict of the check. -/
theorem Plan.verdictOn_self (plan : Plan ω) (hsteady : plan.check.Steady) (s : Surroundings ω) :
    plan.verdictOn s.texts (s.texts plan.widget) =
      plan.check.verdict plan.required s (s.texts plan.widget) :=
  hsteady _ _ _ _ (Function.update_eq_self plan.widget s.texts)

/-- A change of the input itself does not change the verdict on a given text,
    nor does one of an input that the check ignores. -/
theorem Plan.verdictOn_update (plan : Plan ω) (hsteady : plan.check.Steady)
    (texts : ω → Text) (w : ω) (new value : Text) (h : w = plan.widget ∨ plan.check.Ignores w) :
    plan.verdictOn (Function.update texts w new) value = plan.verdictOn texts value := by
  rcases h with rfl | hignores
  · refine hsteady _ _ _ _ ?_
    simp only [Function.update_idem]
  · refine hignores _ _ _ _ (fun v hv => ?_)
    by_cases hwidget : v = plan.widget
    · simp only [hwidget, Function.update_self]
    · simp only [Function.update_of_ne hwidget, Function.update_of_ne hv]

end

namespace Tracker

/-- A listener that heads the list is paid by seeing to its field. -/
theorem paid_of_cons {owed : List (Listener κ)} {l : Listener κ} {key : κ}
    (hl : l = .recheckSoon key ∨ l = .recheckNow key) :
    ∀ l' ∈ l :: owed, l' = .recheckSoon key ∨ l' = .recheckNow key ∨ l' ∈ owed := by
  intro l' hl'
  rcases List.mem_cons.mp hl' with rfl | hmem
  · exact hl.imp_right Or.inl
  · exact Or.inr (Or.inr hmem)

variable [DecidableEq κ] [DecidableEq ω]

/-- Every field is fresh but for what telling some listeners would see to: the
    verdict it has is the one on the text judged last, and that is the text it
    holds unless its timer runs. -/
structure FreshBut (owed : List (Listener κ)) (t : Tracker κ ω) : Prop where
  attentive : t.wiring.Attentive
  remembers : ∀ key field, t.field? key = some field → .recheckNow key ∉ owed →
    ∀ value, field.lastValue = some value →
      field.verdict = field.plan.verdictOn t.text value
  current : ∀ key field, t.field? key = some field →
    .recheckSoon key ∉ owed → .recheckNow key ∉ owed →
      t.agenda.isPending (timer key field) ∨ field.lastValue = some (t.text field.widget)

variable {owed : List (Listener κ)} {t : Tracker κ ω}

theorem FreshBut.mono (h : FreshBut owed t) {owed' : List (Listener κ)}
    (hsub : ∀ l ∈ owed, l ∈ owed') : FreshBut owed' t where
  attentive := h.attentive
  remembers key field hfield hnow :=
    h.remembers key field hfield (fun hmem => hnow (hsub _ hmem))
  current key field hfield hsoon hnow :=
    h.current key field hfield (fun hmem => hsoon (hsub _ hmem)) (fun hmem => hnow (hsub _ hmem))

/-- What disturbs neither inputs nor timers nor fields leaves them fresh. -/
theorem FreshBut.of_undisturbed {t' : Tracker κ ω} (h : FreshBut owed t)
    (hsame : Undisturbed t t') (hfields : t'.fields = t.fields) : FreshBut owed t' := by
  have hfield? : ∀ key, t'.field? key = t.field? key := fun key => by
    rw [field?, field?, hfields]
  refine ⟨?_, fun key field hfield => ?_, fun key field hfield => ?_⟩
  · rw [hsame.wiring]
    exact h.attentive
  · rw [hfield?] at hfield
    rw [hsame.text]
    exact h.remembers key field hfield
  · rw [hfield?] at hfield
    rw [hsame.text, hsame.agenda]
    exact h.current key field hfield

theorem FreshBut.record (h : FreshBut owed t) (e : Event κ ω) : FreshBut owed (t.record e) :=
  h.of_undisturbed (t.record_undisturbed e) rfl

/-- An operation on one field, which may pay what is owed to its listeners. The
    other fields are as they were, and their timers run that ran; what is left to
    say is that the field itself is right. -/
theorem FreshBut.change {t' : Tracker κ ω} {owed' : List (Listener κ)} (key : κ)
    (h : FreshBut owed t) (hsame : SameInputs t t')
    (hpaid : ∀ l ∈ owed, l = .recheckSoon key ∨ l = .recheckNow key ∨ l ∈ owed')
    (hothers : ∀ k, k ≠ key → t'.field? k = t.field? k)
    (htimers : ∀ k, k ≠ key → ∀ n, t.agenda.isPending (.recheck k n) →
      t'.agenda.isPending (.recheck k n))
    (hremembers : ∀ field, t'.field? key = some field → .recheckNow key ∉ owed' →
      ∀ value, field.lastValue = some value → field.verdict = field.plan.verdictOn t.text value)
    (hcurrent : ∀ field, t'.field? key = some field → .recheckSoon key ∉ owed' →
      .recheckNow key ∉ owed' → t'.agenda.isPending (timer key field) ∨
        field.lastValue = some (t.text field.widget)) : FreshBut owed' t' := by
  -- What another key's listeners are not owed now they were not owed before.
  have hsoon : ∀ k, k ≠ key → .recheckSoon k ∉ owed' → .recheckSoon k ∉ owed := by
    intro k hk hnot hmem
    rcases hpaid _ hmem with heq | heq | hmem'
    · exact hk (Listener.recheckSoon.inj heq)
    · cases heq
    · exact hnot hmem'
  have hnow : ∀ k, k ≠ key → .recheckNow k ∉ owed' → .recheckNow k ∉ owed := by
    intro k hk hnot hmem
    rcases hpaid _ hmem with heq | heq | hmem'
    · cases heq
    · exact hk (Listener.recheckNow.inj heq)
    · exact hnot hmem'
  refine ⟨?_, fun k field hfield hnot => ?_, fun k field hfield hnot hnot' => ?_⟩
  · rw [hsame.wiring]
    exact h.attentive
  · rw [hsame.text]
    by_cases hk : k = key
    · rw [hk] at hfield hnot
      exact hremembers field hfield hnot
    · rw [hothers k hk] at hfield
      exact h.remembers k field hfield (hnow k hk hnot)
  · rw [hsame.text]
    by_cases hk : k = key
    · rw [hk] at hfield hnot hnot' ⊢
      exact hcurrent field hfield hnot hnot'
    · rw [hothers k hk] at hfield
      refine (h.current k field hfield (hsoon k hk hnot) (hnow k hk hnot')).imp_left ?_
      exact htimers k hk field.registration

/-- Nobody has to be told about a field that is not there. -/
theorem FreshBut.of_cons {l : Listener κ} {key : κ} (h : FreshBut (l :: owed) t)
    (hl : l = .recheckSoon key ∨ l = .recheckNow key) (hnone : t.field? key = none) :
    FreshBut owed t := by
  refine h.change key (SameInputs.refl t) (paid_of_cons hl) (fun _ _ => rfl)
    (fun _ _ _ hpending => hpending) (fun field hfield => ?_) (fun field hfield => ?_)
  · rw [hnone] at hfield
    cases hfield
  · rw [hnone] at hfield
    cases hfield

/-- Starting the timer of a field excuses it for the time being. -/
theorem FreshBut.schedule {key : κ} (h : FreshBut (.recheckSoon key :: owed) t) :
    FreshBut owed (t.schedule key) := by
  cases hkey : t.field? key with
  | none =>
      rw [Tracker.schedule, hkey]
      exact h.of_cons (Or.inl rfl) hkey
  | some field =>
      rw [Tracker.schedule, hkey]
      refine h.change key ⟨rfl, rfl, rfl⟩ (paid_of_cons (Or.inl rfl)) (fun _ _ => rfl)
        (fun k _ n hpending => ?_) (fun f hf hnow => ?_) (fun f hf _ _ => Or.inl ?_)
      · exact (t.agenda.isPending_start _ _ _).mpr (Or.inr hpending)
      · exact h.remembers key f hf (by simp [hnow])
      · refine (t.agenda.isPending_start _ _ _).mpr (Or.inl ?_)
        rw [Option.some.inj (hf.symm.trans hkey)]

/-- A field that forgot what it judged is at least not wrong about it. -/
theorem FreshBut.forget {key : κ} {field : Tracked ω} (h : FreshBut (.recheckNow key :: owed) t)
    (hkey : t.field? key = some field) :
    FreshBut (.recheckSoon key :: owed) (t.forget key field) := by
  refine h.change key (t.forget_sameInputs key field hkey) (fun l hl => ?_) (fun k hk => ?_)
    (fun k hk n hpending => ?_) (fun f hf _ value hvalue => ?_) (fun f _ hsoon _ => ?_)
  · exact (paid_of_cons (Or.inr rfl) l hl).imp_right (Or.imp_right (List.mem_cons_of_mem _))
  · rw [field?_forget, if_neg hk]
  · exact (t.agenda.isPending_stop _ _).mpr ⟨recheck_ne_timer field n hk, hpending⟩
  · rw [field?_forget, if_pos rfl, Option.some.injEq] at hf
    rw [← hf] at hvalue
    cases hvalue
  · exact absurd (List.mem_cons_self ..) hsoon

/-- An edit owes the listeners of its widget, and nobody else. -/
theorem FreshBut.edited (h : FreshBut [] t) (w : ω) (e : LineEdit) :
    FreshBut (t.wiring.links w).onChange (t.edited w e) := by
  have htext : (t.edited w e).text = Function.update t.text w e.text := by
    ext1 v
    rw [text_edited, Function.update_apply]
  refine ⟨?_, fun key field hfield hnow value hvalue => ?_, fun key field hfield hsoon _ => ?_⟩
  · rw [wiring_edited]
    exact h.attentive
  · have hplan := h.attentive key field.plan (find?_plans hfield)
    have hw : w = field.plan.widget ∨ field.plan.check.Ignores w := by
      by_cases hw : w = field.plan.widget
      · exact Or.inl hw
      · exact Or.inr ((hplan.2.2 w hw).resolve_left hnow)
    rw [htext, field.plan.verdictOn_update hplan.1 _ _ _ _ hw]
    exact h.remembers key field hfield (List.not_mem_nil) value hvalue
  · -- The field listens to its own input, so what changed was another one.
    have hplan := h.attentive key field.plan (find?_plans hfield)
    have hw : field.widget ≠ w := by
      rintro rfl
      exact hsoon hplan.2.1
    rw [text_edited, if_neg hw]
    exact h.current key field hfield (List.not_mem_nil) (List.not_mem_nil)

/-- An edit that leaves the text as it was owes nobody. -/
theorem FreshBut.edited_of_text_eq (h : FreshBut [] t) (w : ω) (e : LineEdit)
    (htext : e.text = t.text w) : FreshBut [] (t.edited w e) := by
  refine h.of_undisturbed (t.update_undisturbed w _ rfl ?_) rfl
  exact htext

/-- Starting the pause is nothing to the fields. -/
theorem FreshBut.startPause (h : FreshBut owed t) (due : Nat) :
    FreshBut owed { t with agenda := t.agenda.start .pause due } := by
  refine ⟨h.attentive, h.remembers, fun k f hf hsoon hnow => ?_⟩
  rcases h.current k f hf hsoon hnow with hpending | hlast
  · exact Or.inl ((t.agenda.isPending_start _ _ _).mpr (Or.inr hpending))
  · exact Or.inr hlast

/-- A field whose timer does not run has the verdict that its check would give
    now. -/
theorem FreshBut.isPending_or_verdict_of_check (h : FreshBut [] t) {key : κ} {field : Tracked ω}
    (hfield : t.field? key = some field) :
    t.isPending key ∨ field.verdict =
      field.check.verdict field.required t.surroundings (t.text field.widget) := by
  rw [isPending, hfield]
  rcases h.current key field hfield (List.not_mem_nil) (List.not_mem_nil) with hpending | hlast
  · exact Or.inl hpending
  · have hplan := h.attentive key field.plan (find?_plans hfield)
    refine Or.inr ?_
    rw [h.remembers key field hfield (List.not_mem_nil) _ hlast]
    exact field.plan.verdictOn_self hplan.1 t.surroundings

variable [Named κ]

/-- Judging a field brings it up to date. -/
theorem FreshBut.validate {key : κ} (h : FreshBut (.recheckSoon key :: owed) t) :
    FreshBut owed (t.validate key) := by
  cases hkey : t.field? key with
  | none =>
      rw [Tracker.validate, hkey]
      exact h.of_cons (Or.inl rfl) hkey
  | some field =>
      rw [Tracker.validate, hkey]
      simp only
      split
      · -- The text was judged before, and what is remembered of it is right.
        next hlast =>
        refine h.change key (SameInputs.refl t) (paid_of_cons (Or.inl rfl)) (fun _ _ => rfl)
          (fun _ _ _ hpending => hpending) (fun f hf hnow => ?_) (fun f hf _ _ => Or.inr ?_)
        · exact h.remembers key f hf (by simp [hnow])
        · rw [hkey, Option.some.injEq] at hf
          rw [← hf, hlast]
      · -- The text is judged now, which changes this field and no other.
        have hsame := t.judge_undisturbed key field (t.text field.widget) hkey
        have hplan := h.attentive key field.plan (find?_plans hkey)
        refine h.change key hsame.toSameInputs (paid_of_cons (Or.inl rfl)) (fun k hk => ?_)
          (fun k _ n hpending => ?_) (fun f hf _ value hvalue => ?_) (fun f hf _ _ => Or.inr ?_)
        · rw [field?_judge, if_neg hk]
        · rw [hsame.agenda]
          exact hpending
        · rw [field?_judge, if_pos rfl, Option.some.injEq] at hf
          rw [← hf] at hvalue ⊢
          rw [← Option.some.inj hvalue]
          exact (field.plan.verdictOn_self hplan.1 t.surroundings).symm
        · rw [field?_judge, if_pos rfl, Option.some.injEq] at hf
          rw [← hf]
          rfl

/-- Judging a field at once brings it up to date whatever was amiss with it. -/
theorem FreshBut.recheck {key : κ} (h : FreshBut (.recheckNow key :: owed) t) :
    FreshBut owed (t.recheck key) := by
  cases hkey : t.field? key with
  | none =>
      rw [Tracker.recheck, hkey]
      exact h.of_cons (Or.inr rfl) hkey
  | some field =>
      rw [recheck_eq_validate_forget t key field hkey]
      exact (h.forget hkey).validate

/-- Telling a listener pays what was owed to it. -/
theorem FreshBut.tell {l : Listener κ} (h : FreshBut (l :: owed) t) :
    FreshBut owed (t.tell l) := by
  cases l with
  | recheckSoon key => exact h.schedule
  | recheckNow key => exact h.recheck

/-- Telling everybody who is owed leaves nothing owed. -/
theorem FreshBut.foldl_tell (h : FreshBut owed t) : FreshBut [] (owed.foldl Tracker.tell t) := by
  induction owed generalizing t with
  | nil => exact h
  | cons l rest ih => exact ih h.tell

/-- What pays a debt does no harm where there is none. -/
theorem FreshBut.recheck_of_fresh (h : FreshBut owed t) (key : κ) :
    FreshBut owed (t.recheck key) :=
  (h.mono (fun _ hl => List.mem_cons_of_mem _ hl)).recheck

theorem FreshBut.tell_of_fresh (h : FreshBut owed t) (l : Listener κ) :
    FreshBut owed (t.tell l) :=
  (h.mono (fun _ hl => List.mem_cons_of_mem _ hl)).tell

/-- Passing something on makes nothing worse. -/
theorem FreshBut.notice (h : FreshBut owed t) (w : ω) (e : Effect) :
    FreshBut owed (t.notice w e) := by
  cases e with
  | changed value =>
      exact List.foldlRecOn _ _ (h.record _) (fun t ht l _ => FreshBut.tell_of_fresh ht l)
  | finished =>
      exact List.foldlRecOn _ _ h (fun t ht key _ => FreshBut.recheck_of_fresh ht key)
  | noted entry => exact h.record _
  | refused _ => exact h
  | platform => exact h

/-- Passing on that a widget changed pays what is owed to its listeners. -/
theorem FreshBut.notice_changed {w : ω} (h : FreshBut (t.wiring.links w).onChange t)
    (value : Text) : FreshBut [] (t.notice w (.changed value)) :=
  (h.record (.changed w value)).foldl_tell

/-- If a change is among what is passed on, nothing is owed in the end. -/
theorem FreshBut.foldl_notice {w : ω} (effects : List Effect)
    (h : FreshBut (t.wiring.links w).onChange t)
    (htold : ∃ value, .changed value ∈ effects) :
    FreshBut [] (effects.foldl (fun t effect => t.notice w effect) t) := by
  induction effects generalizing t with
  | nil =>
      rcases htold with ⟨value, hmem⟩
      cases hmem
  | cons e rest ih =>
      rcases htold with ⟨value, hmem⟩
      rcases List.mem_cons.mp hmem with hhere | hlater
      · -- The debt is paid here, and what follows makes none.
        rw [← hhere]
        exact List.foldlRecOn rest _ (h.notice_changed value)
          (fun t ht e _ => FreshBut.notice ht w e)
      · -- Something else comes first, and the listeners are still the same.
        refine ih ?_ ⟨value, hlater⟩
        rw [(t.notice_sameInputs w e).wiring]
        exact h.notice w e

/-- Whatever is done to a widget, everybody who has to know of it is told. -/
theorem FreshBut.act (h : FreshBut [] t) (w : ω) (a : Action) : FreshBut [] (t.act w a).1 := by
  rw [act_eq_foldl_notice]
  rcases LineEdit.act_tells (t.widgets w).edit (t.widgets w).guard a with hsame | htold
  · exact List.foldlRecOn _ _ (h.edited_of_text_eq w _ hsame)
      (fun t ht e _ => FreshBut.notice ht w e)
  · refine FreshBut.foldl_notice _ ?_ htold
    rw [wiring_edited]
    exact h.edited w _

/-- A timer that rings owes its field a verdict and pays at once. -/
theorem FreshBut.fire (h : FreshBut [] t) (s : Shot (Timer κ)) : FreshBut [] (t.fire s) := by
  unfold Tracker.fire ring
  cases htimer : s.timer with
  | recheck key registration =>
      refine FreshBut.validate (FreshBut.record ?_ _)
      -- A timer that is off the agenda excuses no field, so its own is owed.
      refine h.change key ⟨rfl, rfl, rfl⟩ nofun (fun _ _ => rfl) (fun k hk n hpending => ?_)
        (fun f hf _ => h.remembers key f hf List.not_mem_nil) (fun f _ hsoon _ => ?_)
      · refine (t.agenda.isPending_stop _ _).mpr ⟨fun htimer => ?_, hpending⟩
        rw [Timer.recheck.injEq] at htimer
        exact hk htimer.1
      · exact absurd (List.mem_singleton_self _) hsoon
  | pause =>
      refine FreshBut.record ?_ _
      refine ⟨h.attentive, h.remembers, fun k f hf hsoon hnow => ?_⟩
      rcases h.current k f hf hsoon hnow with hpending | hlast
      · exact Or.inl ((t.agenda.isPending_stop _ _).mpr ⟨by simp [timer], hpending⟩)
      · exact Or.inr hlast

theorem FreshBut.advance (h : FreshBut [] t) (ms : Nat) : FreshBut [] (t.advance ms) := by
  have hfired : FreshBut [] ((t.agenda.dueBy (t.clock + ms)).foldl Tracker.fire t) :=
    List.foldlRecOn _ _ h (fun _ ht s _ => FreshBut.fire ht s)
  exact ⟨hfired.attentive, hfired.remembers, hfired.current⟩

theorem FreshBut.recheckAll (h : FreshBut owed t) : FreshBut owed t.recheckAll :=
  List.foldlRecOn _ _ h (fun _ ht key _ => FreshBut.recheck_of_fresh ht key)

/-- Judging everything at once makes everything fresh, whatever it was before. -/
theorem freshBut_recheckAll (t : Tracker κ ω) (h : t.wiring.Attentive) :
    FreshBut [] t.recheckAll := by
  have howed : FreshBut (t.fields.keys.map .recheckNow) t := by
    have hmem : ∀ key field, t.field? key = some field →
        .recheckNow key ∈ t.fields.keys.map Listener.recheckNow := fun key field hfield =>
      List.mem_map_of_mem (Table.mem_keys_of_find? key field t.fields hfield)
    refine ⟨h, fun key field hfield hnow => ?_, fun key field hfield _ hnow => ?_⟩
    · exact absurd (hmem key field hfield) hnow
    · exact absurd (hmem key field hfield) hnow
  have hpaid := howed.foldl_tell
  rwa [List.foldl_map] at hpaid

end Tracker

end ManagerSignup
