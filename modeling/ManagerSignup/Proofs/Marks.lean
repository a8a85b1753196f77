import ManagerSignup.Proofs.TrackerRuns
import Mathlib.Data.List.Induction

/-!
# What a Widget Wears

A widget is marked by the verdict that was told last about its field, and that
need not be the verdict its field has.

A judgement takes over whether a field is valid in any case, but it compares the
messages and touches the widget only if they differ. So what a widget shows is
exact about the history: it wears the mark of the last verdict that was told since
its field was registered, and the original tool tip where none was. About the field
it is exact only as far as the message goes. The message of the field and the one
on the widget are always the same.

Whether the mark is right then hangs on the check alone. If its messages tell good
verdicts from bad ones, and it keeps silent about nothing but good ones, the mark
is right at every moment. The grammars are such checks. A rule that explains itself
with the same words whatever it finds is not, and an input that was wrong once
keeps its mark when it has become right.

A widget belongs to one field here, and nobody else changes its tool tip once it
does. `Step.Apart` asks for that and for no more: a key may be registered again
with another widget, and everything may be forgotten in between.

## Main definitions

* `Look`, `Widget.look`: What a widget shows besides its text.
* `Tracker.shown`: What was last told about a field since it was registered.
* `Check.Telling`: Messages tell good verdicts from bad ones.
* `Tracker.Step.Apart`: A step leaves the widget alone that another registered.
* `Tracker.tipAfter`: What the tool tip of a widget was set to.
* `Tracker.Marked`: Every widget wears what was told last.
* `Tracker.Reasoned`: Every field has a verdict that its check gave.

## Theorems

* `Check.telling_grammar`: Grammars are telling.
* `Tracker.shown_judge`, `Tracker.widgets_judge`: What a judgement tells and marks.
* `Tracker.timeless_marked`, `Tracker.Marked.step`, `Tracker.marked_run`: Every run
  leaves the widgets marked.
* `Tracker.marked_by_last_told`: What every widget wears, and when it is right.
* `Tracker.flagged_although_valid`: A rule that always says the same.
-/

namespace ManagerSignup

variable {κ ω : Type}

/-- What a widget shows besides its text, and what its tool tip says at rest. -/
structure Look where
  flagged : Option Bool
  toolTip : String
  restingTip : String

/-- What the widget shows besides its text. -/
def Widget.look (w : Widget κ) : Look :=
  { flagged := w.flagged, toolTip := w.toolTip, restingTip := w.restingTip }

/-- The tool tip that goes with a verdict. -/
def Verdict.toolTip (v : Verdict) (tip : String) : String :=
  if v.valid then tip else "Error: " ++ v.message

/-- What a widget with a certain tool tip shows after a verdict was told, or before
    any was. -/
def Look.after (tip : String) (told : Option Verdict) : Look :=
  { flagged := told.map fun v => !v.valid
    toolTip := told.elim tip fun v => v.toolTip tip
    restingTip := tip }

/-- The check gives this verdict on some text. -/
def Plan.Gives (plan : Plan ω) (v : Verdict) : Prop :=
  ∃ s value, v = plan.check.verdict plan.required s value

/-- The message of a verdict tells whether it is a good one, and nothing is said
    only if nothing is wrong. -/
structure Check.Telling (c : Check ω) (required : Bool) : Prop where
  told : ∀ s s' value value',
    (c.verdict required s value).message = (c.verdict required s' value').message →
      (c.verdict required s value).valid = (c.verdict required s' value').valid
  silent : ∀ s value, (c.verdict required s value).message = "" →
    (c.verdict required s value).valid = true

/-- A grammar says nothing about the texts it accepts, and something about all
    others. -/
theorem Check.valid_grammar_iff (f : Field) (required : Bool) (s : Surroundings ω)
    (value : Text) :
    ((Check.grammar f).verdict required s value).valid = true ↔
      ((Check.grammar f).verdict required s value).message = "" := by
  by_cases hblank : Text.allBlank value
  · rw [verdict, if_pos hblank]
    cases required with
    | true => decide
    | false => decide
  · rw [verdict, if_neg hblank]
    simp only [Field.verdict]
    cases f.judge value with
    | acceptable => exact iff_of_true rfl rfl
    | intermediate => exact iff_of_false Bool.false_ne_true (show incompleteMessage ≠ "" by decide)
    | invalid => exact iff_of_false Bool.false_ne_true (by cases f <;> decide)

theorem Check.telling_grammar (f : Field) (required : Bool) :
    (Check.grammar f : Check ω).Telling required where
  told s s' value value' h := by
    rw [Bool.eq_iff_iff, valid_grammar_iff, valid_grammar_iff, h]
  silent s value h := (valid_grammar_iff f required s value).mpr h

/-- What is told about a field after an event, if this was told before it. A new
    field has had nothing told about it. -/
def Event.shows [DecidableEq κ] (key : κ) (before : Option Verdict) :
    Event κ ω → Option Verdict
  | .registered k => if k = key then none else before
  | .judged k valid message => if k = key then some ⟨valid, message⟩ else before
  | _ => before

namespace Tracker

/-- The widget that a step has a field watch. -/
def Step.claimed? : Step κ ω → Option ω
  | .register _ w _ _ => some w
  | _ => none

/-- The widget whose tool tip a step changes from outside. -/
def Step.dressed? : Step κ ω → Option ω
  | .setToolTip w _ => some w
  | _ => none

/-- The later step neither has another field watch a widget that the earlier one
    has a field watch, nor changes its tool tip. -/
def Step.Apart (s s' : Step κ ω) : Prop :=
  ∀ w, s.claimed? = some w → s'.claimed? ≠ some w ∧ s'.dressed? ≠ some w

/-- What the tool tip of a widget is set to by a step, if it said this before. -/
def Step.tip [DecidableEq ω] (w : ω) (before : String) : Step κ ω → String
  | .setToolTip v tip => if v = w then tip else before
  | _ => before

/-- What the tool tip of a widget was last set to from outside. -/
def tipAfter [DecidableEq ω] (toolTips : ω → String) (steps : List (Step κ ω)) (w : ω) :
    String :=
  steps.foldl (fun before s => s.tip w before) (toolTips w)

theorem widgets_announce (t : Tracker κ ω) : t.announce.widgets = t.widgets := by
  unfold announce
  split <;> rfl

/-- An edit changes nothing but the text. -/
theorem look_edited [DecidableEq ω] (t : Tracker κ ω) (w v : ω) (e : LineEdit) :
    ((t.edited w e).widgets v).look = (t.widgets v).look := by
  unfold edited update
  by_cases hv : v = w
  · simp only [if_pos hv]
    rfl
  · simp only [if_neg hv]

variable [DecidableEq κ]

/-- What was last told about a field since it was registered. -/
def shown (t : Tracker κ ω) (key : κ) : Option Verdict :=
  t.history.foldl (fun before s => s.event.shows key before) none

theorem shown_record (t : Tracker κ ω) (e : Event κ ω) (key : κ) :
    (t.record e).shown key = e.shows key (t.shown key) :=
  List.foldl_append

theorem shown_recordAll (t : Tracker κ ω) (es : List (Event κ ω)) (key : κ)
    (h : ∀ e ∈ es, ∀ before, e.shows key before = before) :
    (t.recordAll es).shown key = t.shown key := by
  rw [shown, recordAll, List.foldl_append, List.foldl_map]
  exact List.foldlRecOn (motive := fun told => told = t.shown key) es _ rfl
    fun told htold e he => (h e he told).trans htold

theorem shown_announce (t : Tracker κ ω) (key : κ) : t.announce.shown key = t.shown key := by
  unfold announce
  split
  · rfl
  · exact shown_record _ _ key

/-- Every widget of a field wears what was told last about the field, under the
    tool tip it had; a widget of no field wears nothing. Fields do not share
    widgets. -/
structure Marked (tips : ω → String) (claimed : ω → Prop) (t : Tracker κ ω) : Prop where
  apart : ∀ k k' f f', t.field? k = some f → t.field? k' = some f' →
    f.widget = f'.widget → k = k'
  owned : ∀ k f, t.field? k = some f → claimed f.widget
  bare : ∀ w, ¬claimed w → (t.widgets w).flagged = none ∧ (t.widgets w).toolTip = tips w
  wears : ∀ k f, t.field? k = some f →
    (t.widgets f.widget).look = .after (tips f.widget) (t.shown k)
  message : ∀ k f, t.field? k = some f → f.message = (t.shown k).elim "" Verdict.message
  given : ∀ k f v, t.field? k = some f → t.shown k = some v → f.plan.Gives v

/-- Every field has a verdict that its check gave. -/
def Reasoned (t : Tracker κ ω) : Prop :=
  ∀ key field, t.field? key = some field → field.plan.Gives field.verdict

variable {tips : ω → String} {claimed : ω → Prop} {t t' : Tracker κ ω}

/-- What tells nothing, marks nothing and keeps what the fields say keeps the
    widgets marked. -/
theorem Marked.of_same (h : Marked tips claimed t)
    (hfield : ∀ k f', t'.field? k = some f' →
      ∃ f, t.field? k = some f ∧ f'.plan = f.plan ∧ f'.message = f.message)
    (hshown : ∀ k, t'.shown k = t.shown k)
    (hlook : ∀ w, (t'.widgets w).look = (t.widgets w).look) : Marked tips claimed t' := by
  have hwidget : ∀ {f f' : Tracked ω}, f'.plan = f.plan → f'.widget = f.widget :=
    fun hplan => congrArg Plan.widget hplan
  refine ⟨fun k k' f f' hf hf' heq => ?_, fun k f hf => ?_, fun w hw => ?_, fun k f hf => ?_,
    fun k f hf => ?_, fun k f v hf hv => ?_⟩
  · rcases hfield k f hf with ⟨g, hg, hplan, -⟩
    rcases hfield k' f' hf' with ⟨g', hg', hplan', -⟩
    exact h.apart k k' g g' hg hg' ((hwidget hplan).symm.trans (heq.trans (hwidget hplan')))
  · rcases hfield k f hf with ⟨g, hg, hplan, -⟩
    rw [hwidget hplan]
    exact h.owned k g hg
  · rcases h.bare w hw with ⟨hflagged, htip⟩
    exact ⟨(congrArg Look.flagged (hlook w)).trans hflagged,
      (congrArg Look.toolTip (hlook w)).trans htip⟩
  · rcases hfield k f hf with ⟨g, hg, hplan, -⟩
    rw [hwidget hplan, hlook, hshown]
    exact h.wears k g hg
  · rcases hfield k f hf with ⟨g, hg, -, hmessage⟩
    rw [hmessage, hshown]
    exact h.message k g hg
  · rcases hfield k f hf with ⟨g, hg, hplan, -⟩
    rw [hplan]
    exact h.given k g v hg ((hshown k).symm.trans hv)

/-- Where there are no fields, the widgets that nobody watches are all there is to
    see. -/
theorem Marked.of_none (hbare : ∀ w, ¬claimed w →
    (t.widgets w).flagged = none ∧ (t.widgets w).toolTip = tips w)
    (hnone : ∀ k, t.field? k = none) : Marked tips claimed t := by
  have hnot : ∀ {P : Prop} k f, t.field? k = some f → P := by
    intro P k f hf
    rw [hnone] at hf
    cases hf
  exact ⟨fun k _ f _ hf _ _ => hnot k f hf, fun k f hf => hnot k f hf, hbare,
    fun k f hf => hnot k f hf, fun k f hf => hnot k f hf, fun k f _ hf _ => hnot k f hf⟩

theorem Marked.congr {claimed' : ω → Prop} (h : Marked tips claimed t)
    (hiff : ∀ w, claimed' w ↔ claimed w) : Marked tips claimed' t := by
  have hsame : claimed' = claimed := funext fun w => propext (hiff w)
  rw [hsame]
  exact h

theorem Marked.forget (h : Marked tips claimed t) (key : κ) (field : Tracked ω)
    (hkey : t.field? key = some field) : Marked tips claimed (t.forget key field) := by
  refine h.of_same (fun k f' hf' => ?_) (fun k => shown_record _ _ k) fun _ => rfl
  rcases field_cases (t.field?_forget key k field) _ hf' with ⟨rfl, rfl⟩ | ⟨-, hold⟩
  · exact ⟨field, hkey, rfl, rfl⟩
  · exact ⟨f', hold, rfl, rfl⟩

/-- If the messages of a check are telling, what was told about a field is as good
    or bad as its verdict. -/
theorem Marked.valid_eq (h : Marked tips claimed t) (hreasoned : Reasoned t) {key : κ}
    {field : Tracked ω} (hfield : t.field? key = some field)
    (htelling : field.check.Telling field.required) :
    field.valid = (t.shown key).elim true Verdict.valid := by
  rcases hreasoned key field hfield with ⟨s, value, hverdict⟩
  have hmessage := h.message key field hfield
  have hvalid : field.valid = (field.check.verdict field.required s value).valid :=
    congrArg Verdict.valid hverdict
  have hsays : field.message = (field.check.verdict field.required s value).message :=
    congrArg Verdict.message hverdict
  cases hshown : t.shown key with
  | none =>
      rw [hshown, hsays] at hmessage
      exact hvalid.trans (htelling.silent s value hmessage)
  | some v =>
      rcases h.given key field v hfield hshown with ⟨s', value', hgiven⟩
      rw [hshown, hsays, Option.elim_some, hgiven] at hmessage
      rw [hvalid, Option.elim_some, hgiven]
      exact htelling.told s s' value value' hmessage

variable [DecidableEq ω]

/-- Telling about a verdict is what taking it over does if its message is new. -/
theorem shown_settle (t : Tracker κ ω) (key k : κ) (field : Tracked ω) (value : Text)
    (v : Verdict) :
    (t.settle key field value v).shown k =
      if k = key ∧ v.message ≠ field.message then some v else t.shown k := by
  unfold settle
  simp only
  rw [shown_announce]
  by_cases hsame : v.message = field.message
  · rw [if_pos hsame, if_neg fun h => h.2 hsame]
    rfl
  · rw [if_neg hsame, showVerdict, shown_record]
    by_cases hk : k = key
    · rw [if_pos ⟨hk, hsame⟩]
      exact if_pos hk.symm
    · rw [if_neg fun h => hk h.1]
      exact if_neg (Ne.symm hk)

theorem widgets_settle (t : Tracker κ ω) (key : κ) (w : ω) (field : Tracked ω) (value : Text)
    (v : Verdict) :
    (t.settle key field value v).widgets w =
      if w = field.widget ∧ v.message ≠ field.message then
        (t.widgets w).mark v.valid v.message
      else t.widgets w := by
  unfold settle
  simp only
  rw [widgets_announce]
  by_cases hsame : v.message = field.message
  · rw [if_pos hsame, if_neg fun h => h.2 hsame]
    rfl
  · rw [if_neg hsame]
    by_cases hw : w = field.widget
    · rw [if_pos ⟨hw, hsame⟩]
      exact if_pos hw
    · rw [if_neg fun h => hw h.1]
      exact if_neg hw

/-- A tool tip may be changed as long as no field watches the widget. -/
theorem Marked.setToolTip (h : Marked tips claimed t) (w : ω) (tip : String)
    (hw : ¬claimed w) :
    Marked (fun v => if w = v then tip else tips v) claimed (t.setToolTip w tip) := by
  have hold : ∀ k f, t.field? k = some f → w ≠ f.widget := by
    rintro k f hf rfl
    exact hw (h.owned k f hf)
  have hwidgets : ∀ v, (t.setToolTip w tip).widgets v =
      if v = w then { t.widgets v with toolTip := tip } else t.widgets v := fun _ => rfl
  refine ⟨h.apart, h.owned, fun v hv => ?_, fun k f hf => ?_, h.message, h.given⟩
  · rw [hwidgets]
    by_cases hvw : v = w
    · rw [if_pos hvw, if_pos hvw.symm]
      exact ⟨(h.bare v hv).1, rfl⟩
    · rw [if_neg hvw, if_neg (Ne.symm hvw)]
      exact h.bare v hv
  · rw [hwidgets, if_neg (hold k f hf).symm, if_neg (hold k f hf)]
    exact h.wears k f hf

variable [Named κ]

theorem shown_judge (t : Tracker κ ω) (key k : κ) (field : Tracked ω) (value : Text) :
    (t.judge key field value).shown k =
      if k = key ∧
          (field.check.verdict field.required t.surroundings value).message ≠ field.message then
        some (field.check.verdict field.required t.surroundings value)
      else t.shown k := by
  have htold : (t.recordAll (field.check.consequences key value)).shown k = t.shown k := by
    refine t.shown_recordAll _ k fun e he before => ?_
    rcases field.check.noted_or_reported_of_mem_consequences key value e he with
      ⟨_, rfl⟩ | ⟨_, rfl⟩
    · rfl
    · rfl
  rw [← htold]
  exact shown_settle _ key k field value _

theorem widgets_judge (t : Tracker κ ω) (key : κ) (w : ω) (field : Tracked ω) (value : Text) :
    (t.judge key field value).widgets w =
      if w = field.widget ∧
          (field.check.verdict field.required t.surroundings value).message ≠ field.message then
        (t.widgets w).mark (field.check.verdict field.required t.surroundings value).valid
          (field.check.verdict field.required t.surroundings value).message
      else t.widgets w :=
  widgets_settle _ key w field value _

/-- A judgement marks the widget of its field as it tells about it, and no other
    widget. -/
theorem Marked.judge (h : Marked tips claimed t) (key : κ) (field : Tracked ω) (value : Text)
    (hkey : t.field? key = some field) : Marked tips claimed (t.judge key field value) := by
  let v := field.check.verdict field.required t.surroundings value
  by_cases hsame : v.message = field.message
  · -- Nothing is told, and the message is the one there was.
    refine h.of_same (fun k f' hf' => ?_) (fun k => ?_) fun w => ?_
    · rcases field_cases (t.field?_judge key k field value) _ hf' with ⟨rfl, rfl⟩ | ⟨-, hold⟩
      · exact ⟨field, hkey, rfl, hsame⟩
      · exact ⟨f', hold, rfl, rfl⟩
    · rw [shown_judge, if_neg fun hnew => hnew.2 hsame]
    · rw [widgets_judge, if_neg fun hnew => hnew.2 hsame]
  · -- Every field has the widget it had, and only one widget is touched.
    have hfield := fun k => field_cases (t.field?_judge key k field value)
    have hbefore : ∀ k f', (t.judge key field value).field? k = some f' →
        ∃ f, t.field? k = some f ∧ f'.widget = f.widget := by
      intro k f' hf'
      rcases hfield k f' hf' with ⟨rfl, rfl⟩ | ⟨-, hold⟩
      · exact ⟨field, hkey, rfl⟩
      · exact ⟨f', hold, rfl⟩
    refine ⟨fun k k' f f' hf hf' heq => ?_, fun k f hf => ?_, fun w hw => ?_, fun k f hf => ?_,
      fun k f hf => ?_, fun k f u hf hu => ?_⟩
    · rcases hbefore k f hf with ⟨g, hg, hwidget⟩
      rcases hbefore k' f' hf' with ⟨g', hg', hwidget'⟩
      exact h.apart k k' g g' hg hg' (hwidget.symm.trans (heq.trans hwidget'))
    · rcases hbefore k f hf with ⟨g, hg, hwidget⟩
      rw [hwidget]
      exact h.owned k g hg
    · have hne : w ≠ field.widget := by
        rintro rfl
        exact hw (h.owned key field hkey)
      rw [widgets_judge, if_neg fun hnew => hne hnew.1]
      exact h.bare w hw
    · rcases hfield k f hf with ⟨rfl, rfl⟩ | ⟨hk, hold⟩
      · have hresting : (t.widgets field.widget).restingTip = tips field.widget :=
          congrArg Look.restingTip (h.wears k field hkey)
        rw [shown_judge, widgets_judge, if_pos ⟨rfl, hsame⟩, if_pos ⟨rfl, hsame⟩]
        change Look.after (t.widgets field.widget).restingTip (some v) = _
        rw [hresting]
        rfl
      · have hne : f.widget ≠ field.widget := fun heq => hk (h.apart k key f field hold hkey heq)
        rw [shown_judge, widgets_judge, if_neg fun hnew => hne hnew.1,
          if_neg fun hnew => hk hnew.1]
        exact h.wears k f hold
    · rcases hfield k f hf with ⟨rfl, rfl⟩ | ⟨hk, hold⟩
      · rw [shown_judge, if_pos ⟨rfl, hsame⟩]
        rfl
      · rw [shown_judge, if_neg fun hnew => hk hnew.1]
        exact h.message k f hold
    · rcases hfield k f hf with ⟨rfl, rfl⟩ | ⟨hk, hold⟩
      · rw [shown_judge, if_pos ⟨rfl, hsame⟩, Option.some.injEq] at hu
        exact ⟨t.surroundings, value, hu.symm⟩
      · rw [shown_judge, if_neg fun hnew => hk hnew.1] at hu
        exact h.given k f u hold hu

theorem Marked.validate (h : Marked tips claimed t) (key : κ) :
    Marked tips claimed (t.validate key) :=
  t.validate_of_judge key h fun field hkey => h.judge key field _ hkey

/-- The widgets are marked whatever happens at once. -/
theorem timeless_marked (tips : ω → String) (claimed : ω → Prop) :
    Timeless (Marked (κ := κ) tips claimed) where
  record t e he h := by
    refine h.of_same (fun _ f hf => ⟨f, hf, rfl, rfl⟩) (fun k => ?_) fun _ => rfl
    rw [shown_record]
    cases e with
    | registered key => cases he
    | judged key valid message => cases he
    | _ => rfl
  schedule t key h := t.schedule_of_agenda key h fun _ =>
    h.of_same (fun _ f hf => ⟨f, hf, rfl, rfl⟩) (fun _ => rfl) fun _ => rfl
  validate t key h := h.validate key
  recheck t key h := t.recheck_of_forget key h fun field hkey =>
    (h.forget key field hkey).validate key

/-- A new field takes over a widget that no field had, and nothing has been told
    about it. -/
theorem Marked.register (h : Marked tips claimed t) (key : κ) (w : ω) (check : Check ω)
    (required : Bool) (hw : ¬claimed w) :
    Marked tips (fun v => claimed v ∨ v = w) (t.register key w check required) := by
  rw [register_eq_validate_joined]
  refine Marked.validate ?_ key
  have hfield := fun k => field_cases (t.field?_joined key k w check required)
  have hold : ∀ k f, t.field? k = some f → f.widget ≠ w := by
    rintro k f hf rfl
    exact hw (h.owned k f hf)
  have hshown : ∀ k, (t.joined key w check required).shown k =
      if key = k then none else t.shown k := shown_record _ _
  have hwidgets : ∀ v, (t.joined key w check required).widgets v =
      if v = w then (t.widgets v).join key else t.widgets v := fun _ => rfl
  refine ⟨fun k k' f f' hf hf' heq => ?_, fun k f hf => ?_, fun v hv => ?_, fun k f hf => ?_,
    fun k f hf => ?_, fun k f u hf hu => ?_⟩
  · rcases hfield k f hf with ⟨hk, hnew⟩ | ⟨hk, hf⟩
    · rcases hfield k' f' hf' with ⟨hk', hnew'⟩ | ⟨hk', hf'⟩
      · exact hk.trans hk'.symm
      · rw [hnew] at heq
        exact absurd heq.symm (hold k' f' hf')
    · rcases hfield k' f' hf' with ⟨hk', hnew'⟩ | ⟨hk', hf'⟩
      · rw [hnew'] at heq
        exact absurd heq (hold k f hf)
      · exact h.apart k k' f f' hf hf' heq
  · rcases hfield k f hf with ⟨rfl, rfl⟩ | ⟨hk, hf⟩
    · exact Or.inr rfl
    · exact Or.inl (h.owned k f hf)
  · rw [not_or] at hv
    rw [hwidgets, if_neg hv.2]
    exact h.bare v hv.1
  · rcases hfield k f hf with ⟨rfl, rfl⟩ | ⟨hk, hf⟩
    · rcases h.bare w hw with ⟨hflagged, htip⟩
      rw [hwidgets, hshown, if_pos rfl, if_pos (show Tracked.widget _ = w from rfl)]
      change Look.mk (t.widgets w).flagged (t.widgets w).toolTip (t.widgets w).toolTip =
        Look.after (tips w) none
      rw [hflagged, htip]
      rfl
    · rw [hwidgets, hshown, if_neg (hold k f hf), if_neg (Ne.symm hk)]
      exact h.wears k f hf
  · rcases hfield k f hf with ⟨rfl, rfl⟩ | ⟨hk, hf⟩
    · rw [hshown, if_pos rfl]
      rfl
    · rw [hshown, if_neg (Ne.symm hk)]
      exact h.message k f hf
  · rcases hfield k f hf with ⟨rfl, rfl⟩ | ⟨hk, hf⟩
    · rw [hshown, if_pos rfl] at hu
      cases hu
    · rw [hshown, if_neg (Ne.symm hk)] at hu
      exact h.given k f u hf hu

/-- Every step leaves the widgets marked, if it leaves alone those that fields
    watch already. -/
theorem Marked.step (h : Marked tips claimed t) (s : Step κ ω)
    (hclaimed : ∀ w, claimed w → s.claimed? ≠ some w ∧ s.dressed? ≠ some w) :
    Marked (fun w => s.tip w (tips w)) (fun w => claimed w ∨ s.claimed? = some w)
      (t.step s).1 := by
  -- All steps but one have no field watch anything.
  have hnone : ∀ {t' : Tracker κ ω} {tips' : ω → String}, s.claimed? = none →
      Marked tips' claimed t' →
        Marked tips' (fun w => claimed w ∨ s.claimed? = some w) t' := by
    intro t' tips' hs ht'
    refine ht'.congr fun w => ?_
    rw [hs]
    exact or_iff_left (Option.some_ne_none w).symm
  cases s with
  | register key w check required =>
      have hw : ¬claimed w := fun hmine => (hclaimed w hmine).1 rfl
      refine (h.register key w check required hw).congr fun v => ?_
      rw [Step.claimed?, Option.some.injEq, eq_comm (a := v)]
  | act w a =>
      refine hnone rfl ((timeless_marked tips claimed).act t w a ?_)
      refine h.of_same (fun _ f hf => ⟨f, hf, rfl, rfl⟩) (fun _ => rfl) fun v => ?_
      exact t.look_edited w v _
  | recheck key => exact hnone rfl ((timeless_marked tips claimed).recheck t key h)
  | recheckAll => exact hnone rfl ((timeless_marked tips claimed).recheckAll t h)
  | advance ms =>
      refine hnone rfl ((timeless_marked tips claimed).advance (fun _ _ _ ht => ?_) t ms h)
      exact ht.of_same (fun _ f hf => ⟨f, hf, rfl, rfl⟩) (fun _ => rfl) fun _ => rfl
  | cleanup => exact hnone rfl (Marked.of_none h.bare fun _ => rfl)
  | setToolTip w tip => exact hnone rfl (h.setToolTip w tip fun hmine => (hclaimed w hmine).2 rfl)

theorem marked_run (delay : Nat) (guards : ω → Option Field) (toolTips : ω → String)
    (steps : List (Step κ ω)) (hapart : steps.Pairwise Step.Apart) :
    Marked (tipAfter toolTips steps) (fun w => ∃ s ∈ steps, s.claimed? = some w)
      ((new delay guards toolTips).run steps) := by
  induction steps using List.reverseRecOn with
  | nil => exact Marked.of_none (fun _ _ => ⟨rfl, rfl⟩) fun _ => rfl
  | append_singleton steps s ih =>
      rcases List.pairwise_append.mp hapart with ⟨hbefore, -, hlast⟩
      have hrun : (new delay guards toolTips : Tracker κ ω).run (steps ++ [s]) =
          (((new delay guards toolTips).run steps).step s).1 := List.foldl_append
      have htips : tipAfter toolTips (steps ++ [s]) =
          fun w => s.tip w (tipAfter toolTips steps w) := funext fun _ => List.foldl_append
      rw [hrun, htips]
      refine ((ih hbefore).step s ?_).congr fun w => ?_
      · rintro w ⟨s', hs', hw⟩
        exact hlast s' hs' s (List.mem_singleton_self s) w hw
      · simp only [List.mem_append, List.mem_singleton, or_and_right, exists_or, exists_eq_left]

/-- A verdict is only ever taken over from the check, and the one that a field
    begins with is gone before anyone can see it. -/
theorem reasoned_run (delay : Nat) (guards : ω → Option Field) (toolTips : ω → String)
    (steps : List (Step κ ω)) : Reasoned ((new delay guards toolTips).run steps) :=
  forall_field_run (fun _ s value => ⟨s, value, rfl⟩) delay guards toolTips steps

/-- Whatever is done with a tracker whose fields each have a widget of their own,
    every widget shows the verdict that was told last about its field, and its
    original tool tip if that was a good one or none was told; the message of the
    field is the one that was told. If the check is a grammar, or one whose messages
    are telling, the widget is marked exactly if the field is invalid, and the tool
    tip is the original one or says what is wrong. -/
theorem marked_by_last_told (delay : Nat) (guards : ω → Option Field) (toolTips : ω → String)
    (steps : List (Step κ ω)) (hapart : steps.Pairwise Step.Apart) (key : κ)
    (field : Tracked ω)
    (hfield : ((new delay guards toolTips : Tracker κ ω).run steps).field? key = some field) :
    let t := (new delay guards toolTips : Tracker κ ω).run steps
    let tip := tipAfter toolTips steps field.widget
    (t.widgets field.widget).look = .after tip (t.shown key) ∧
      field.message = (t.shown key).elim "" Verdict.message ∧
      ((∃ f, field.check = .grammar f) ∨ field.check.Telling field.required →
        ((t.widgets field.widget).flagged = some true ↔ field.valid = false) ∧
          (t.widgets field.widget).toolTip =
            if field.valid then tip else "Error: " ++ field.message) := by
  intro t tip
  have hmarked := marked_run delay guards toolTips steps hapart
  have hlook : (t.widgets field.widget).look = .after tip (t.shown key) :=
    hmarked.wears key field hfield
  have hmessage := hmarked.message key field hfield
  refine ⟨hlook, hmessage, fun hcheck => ?_⟩
  have htelling : field.check.Telling field.required := by
    rcases hcheck with ⟨f, hf⟩ | htelling
    · rw [hf]
      exact Check.telling_grammar f field.required
    · exact htelling
  have hvalid := hmarked.valid_eq (reasoned_run delay guards toolTips steps) hfield htelling
  have hflagged : (t.widgets field.widget).flagged = (t.shown key).map fun v => !v.valid :=
    congrArg Look.flagged hlook
  have htip : (t.widgets field.widget).toolTip = (t.shown key).elim tip fun v => v.toolTip tip :=
    congrArg Look.toolTip hlook
  change field.valid = (t.shown key).elim true Verdict.valid at hvalid
  change field.message = (t.shown key).elim "" Verdict.message at hmessage
  rw [hflagged, htip, hvalid, hmessage]
  cases t.shown key with
  | none => exact ⟨by decide, rfl⟩
  | some v =>
      refine ⟨?_, rfl⟩
      rw [Option.map_some, Option.some.injEq, Bool.not_eq_true']
      rfl

/-- A field that is registered under a tool tip of its own and gets a text that can
    still be completed. -/
def hintedRun : List (Step String Nat) :=
  [.setToolTip 0 "Ten digits",
    .register "phone" 0 (.grammar .phoneNumber) true,
    .act 0 (.setText ['3']),
    .recheck "phone"]

/-- The widget is marked, and the tool tip says that something is missing. -/
theorem marked_by_last_told_hintedRun :
    let t := (new 200 (fun _ => none) fun _ => "" : Tracker String Nat).run hintedRun
    hintedRun.Pairwise Step.Apart ∧ ∃ field, t.field? "phone" = some field ∧
      (t.widgets field.widget).flagged = some true ∧
      (t.widgets field.widget).toolTip = "Error: Input is incomplete" := by
  intro t
  have hapart : hintedRun.Pairwise Step.Apart := by
    simp [hintedRun, Step.Apart, Step.claimed?, Step.dressed?]
  have hthere : (t.field? "phone").isSome := by decide +kernel
  have hcheck : (t.field? "phone").map Tracked.terms =
      some { widget := 0, check := .grammar .phoneNumber, required := true } := terms_run _ _ _
  rcases Option.isSome_iff_exists.mp hthere with ⟨field, hfield⟩
  rw [hfield, Option.map_some, Option.some.injEq] at hcheck
  have hinvalid : field.valid = false := by
    have hanswer : t.isValid "phone" = false := by decide +kernel
    rw [isValid, hfield] at hanswer
    exact hanswer
  have hmessage : field.message = "Input is incomplete" := by
    have hanswer : t.message "phone" = "Input is incomplete" := by decide +kernel
    rw [message, hfield] at hanswer
    exact hanswer
  have hgrammar : field.check = .grammar .phoneNumber := congrArg Terms.check hcheck
  have hmarks := (marked_by_last_told 200 (fun _ => none) (fun _ => "") hintedRun hapart "phone"
    field hfield).2.2 (Or.inl ⟨_, hgrammar⟩)
  refine ⟨hapart, field, hfield, hmarks.1.mpr hinvalid, hmarks.2.trans ?_⟩
  rw [hinvalid, hmessage, if_neg Bool.false_ne_true]
  decide

/-- A rule that says the same about the text it accepts and all others is asked about
    one of the others and then about the one it accepts. -/
def repetitiveRun : List (Step String Nat) :=
  [.register "code" 0 (.rule fun _ value => ⟨value = ['o', 'k'], "Must be ok"⟩) true,
    .act 0 (.setText ['n', 'o']),
    .recheck "code",
    .act 0 (.setText ['o', 'k']),
    .recheck "code"]

/-- The field is valid, and its widget is marked as wrong all the same. -/
theorem flagged_although_valid :
    let t := (new 200 (fun _ => none) fun _ => "" : Tracker String Nat).run repetitiveRun
    t.fields.keys = ["code"] ∧ t.isValid "code" = true ∧ (t.widgets 0).flagged = some true ∧
      (t.widgets 0).toolTip = "Error: Must be ok" := by
  decide +kernel

end Tracker

end ManagerSignup
