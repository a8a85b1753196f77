import ManagerSignup.Proofs.Agendas
import ManagerSignup.Proofs.Editing
import ManagerSignup.Proofs.Tables
import ManagerSignup.Tracker

/-!
# What Tracking Leaves Alone

Each operation of a tracker by what it changes, so that nobody has to open one
again.

A tracker is many things at once, and most operations touch few of them. What
never changes once the fields are registered is the `wiring`: which field was
registered with what, and who listens to which widget. Judging leaves more alone
than that. It neither types nor starts a timer, so the texts and the agenda are
as they were, and all that is new is one verdict; `Undisturbed` says the former
and `field?_judge` the latter.

Since the wiring is one value, that an operation keeps it is one equation, and a
fact about it holds for good once it holds.

Judging a field, forgetting what was judged, writing something down and setting
the timers are all that any operation consists of once the edit is made. So a
property that these four keep is kept by all of them, and `Kept` is where that
is said once. Some properties fail between forgetting and judging and hold again
afterwards, and some hold only because a tracker does not write down what is none
of its business. `Stable` asks for no more than those can give. A property of the
clock or of the announcements survives less than that, and `Timeless` is what can
be asked of it.

## Main definitions

* `Plan`: What a field was registered with.
* `Links`: Who guards a widget and who listens to it.
* `Wiring`: What registrations leave behind.
* `Tracker.SameInputs`: The wiring and the texts are as they were.
* `Tracker.Undisturbed`: The timers are as well.
* `Event.ofTracking`: An event that a tracker writes down by itself.
* `Event.isOccasion`: An event that it may write down without judging anything.
* `Tracker.Kept`: A property that judging and the passing of time keep.
* `Tracker.Stable`: A property that holds again after each operation.
* `Tracker.Timeless`: A property that what happens at once keeps.
* `Tracked.unjudged`, `Tracked.judgedOn`: A new field, and a field with the verdict
  on a text.

## Theorems

* `Wiring.find?_register`, `Wiring.mem_onChange_register_iff`: The plans and the listeners
  after a registration.
* `Tracker.judge_undisturbed`, `Tracker.validate_undisturbed`: Judging.
* `Tracker.field?_judge`, `Tracker.field?_validate`, `Tracker.field?_recheck`: The
  verdict that judging leaves.
* `Tracker.validate_of_judge`, `Tracker.recheck_of_forget`: What it takes to show
  something of a tracker that judged a field.
* `Tracker.Kept.stable`: What judging and forgetting keep is stable.
* `Tracker.Timeless.recheckAll`, `Tracker.Timeless.notice`, `Tracker.Timeless.act`,
  `Tracker.Timeless.advance`: What such a property survives.
* `Tracker.kept_sameInputs`: One such property is that the inputs are as they
  were.
* `Tracker.wiring_register`, `Tracker.wiring_act`: What a registration makes of the
  wiring, and that doing something to a widget keeps it.
* `Tracker.isPending_recheckAll`: Judging everything stops every timer.
-/

namespace ManagerSignup

variable {κ ω : Type}

/-- An event that a tracker writes down by itself. The others are what a
    submission leaves. -/
def Event.ofTracking : Event κ ω → Bool
  | .handedOver .. => false
  | .accepted _ => false
  | _ => true

/-- An event that tracking may write down without judging anything. -/
def Event.isOccasion : Event κ ω → Bool
  | .changed .. => true
  | .rang _ => true
  | .noted _ => true
  | _ => false

theorem Event.ofTracking_of_isOccasion (e : Event κ ω) (h : e.isOccasion) : e.ofTracking := by
  cases e with
  | handedOver record result => cases h
  | accepted reply => cases h
  | _ => rfl

/-- What comes of judging a text is in the journal or among the errors. -/
theorem Check.noted_or_reported_of_mem_consequences [Named κ] (c : Check ω) (key : κ)
    (value : Text) (e : Event κ ω) (he : e ∈ c.consequences key value) :
    (∃ entry, e = .noted entry) ∨ ∃ error, e = .reported error := by
  have hnoted : ∀ log : List Entry, e ∈ log.map .noted → ∃ entry, e = .noted entry := by
    intro log hmem
    rcases List.mem_map.mp hmem with ⟨entry, -, rfl⟩
    exact ⟨entry, rfl⟩
  unfold consequences at he
  split at he
  · cases he
  · cases c with
    | rule answer => cases he
    | grammar f =>
        rcases List.mem_append.mp he with hlog | hrest
        · exact Or.inl (hnoted _ hlog)
        · cases hjudge : f.judge value with
          | acceptable =>
              rw [hjudge] at hrest
              cases hrest
          | intermediate =>
              rw [hjudge] at hrest
              cases hrest
          | invalid =>
              -- Only a text that nobody can have typed is reported as well.
              rw [hjudge] at hrest
              rcases List.mem_append.mp hrest with hlog | hreport
              · exact Or.inl (hnoted _ hlog)
              · exact Or.inr ⟨_, List.mem_singleton.mp hreport⟩

/-- The field with the verdict on a text. -/
def Tracked.judgedOn (field : Tracked ω) (s : Surroundings ω) (value : Text) : Tracked ω :=
  { field with
    lastValue := some value
    valid := (field.check.verdict field.required s value).valid
    message := (field.check.verdict field.required s value).message }

/-- A field that was registered and has judged nothing yet. -/
def Tracked.unjudged (w : ω) (check : Check ω) (required : Bool) (registration : Nat) :
    Tracked ω :=
  { widget := w
    check
    required
    registration
    lastValue := none
    valid := !required
    message := "" }

/-- What a field was registered with. -/
structure Plan (ω : Type) where
  widget : ω
  check : Check ω
  required : Bool
  registration : Nat

/-- What the field was registered with. -/
def Tracked.plan (field : Tracked ω) : Plan ω :=
  { widget := field.widget
    check := field.check
    required := field.required
    registration := field.registration }

/-- Who guards a widget and who listens to it. -/
structure Links (κ : Type) where
  guard : Option Field
  onChange : List (Listener κ)
  onFinish : List κ

/-- Who guards the widget and who listens to it. -/
def Widget.links (w : Widget κ) : Links κ :=
  { guard := w.guard, onChange := w.onChange, onFinish := w.onFinish }

/-- What registrations leave behind: which field was registered with what, and
    who listens to which widget. -/
@[ext]
structure Wiring (κ ω : Type) where
  plans : Table κ (Plan ω)
  links : ω → Links κ

/-- What registering a field makes of the wiring: its plan is assigned, and it
    listens to its widget. -/
def Wiring.register [DecidableEq κ] [DecidableEq ω] (x : Wiring κ ω) (key : κ) (plan : Plan ω) :
    Wiring κ ω :=
  { plans := Table.put key plan x.plans
    links := fun w =>
      if w = plan.widget then
        { guard := (x.links w).guard
          onChange := (x.links w).onChange ++ [.recheckSoon key]
          onFinish := (x.links w).onFinish ++ [key] }
      else x.links w }

/-- What one more listener to a widget makes of the wiring. -/
def Wiring.listen [DecidableEq ω] (x : Wiring κ ω) (w : ω) (l : Listener κ) : Wiring κ ω :=
  { plans := x.plans
    links := fun v =>
      if v = w then { x.links v with onChange := (x.links v).onChange ++ [l] } else x.links v }

section Register

variable [DecidableEq κ] [DecidableEq ω]

theorem Wiring.find?_register (x : Wiring κ ω) (key k : κ) (plan : Plan ω) :
    Table.find? k (x.register key plan).plans =
      if k = key then some plan else Table.find? k x.plans :=
  Table.find?_put key k plan x.plans

/-- A field that is registered listens to its widget, and whoever listened to one before
    does so still. -/
theorem Wiring.mem_onChange_register_iff (x : Wiring κ ω) (key : κ) (plan : Plan ω) (w : ω)
    (l : Listener κ) :
    l ∈ ((x.register key plan).links w).onChange ↔
      l ∈ (x.links w).onChange ∨ w = plan.widget ∧ l = .recheckSoon key := by
  by_cases hw : w = plan.widget
  · have hlisteners : ((x.register key plan).links w).onChange =
        (x.links w).onChange ++ [.recheckSoon key] := by
      simp only [register, if_pos hw]
    rw [hlisteners, List.mem_append, List.mem_singleton, and_iff_right hw]
  · have hlisteners : ((x.register key plan).links w).onChange = (x.links w).onChange := by
      simp only [register, if_neg hw]
    rw [hlisteners, or_iff_left fun hnew => hw hnew.1]

end Register

namespace Tracker

/-- The wiring of a tracker. -/
def wiring (t : Tracker κ ω) : Wiring κ ω :=
  { plans := Table.view Tracked.plan t.fields
    links := fun w => (t.widgets w).links }

/-- The wiring and the texts are as they were, and no field was registered. -/
structure SameInputs (t t' : Tracker κ ω) : Prop where
  wiring : t'.wiring = t.wiring
  text : t'.text = t.text
  registrations : t'.registrations = t.registrations

/-- The wiring, the texts and the timers are as they were. -/
structure Undisturbed (t t' : Tracker κ ω) : Prop extends SameInputs t t' where
  agenda : t'.agenda = t.agenda
  clock : t'.clock = t.clock
  delay : t'.delay = t.delay

theorem SameInputs.refl (t : Tracker κ ω) : SameInputs t t :=
  ⟨rfl, rfl, rfl⟩

theorem SameInputs.trans {t t' t'' : Tracker κ ω} (h : SameInputs t t')
    (h' : SameInputs t' t'') : SameInputs t t'' :=
  ⟨h'.wiring.trans h.wiring, h'.text.trans h.text, h'.registrations.trans h.registrations⟩

theorem Undisturbed.refl (t : Tracker κ ω) : Undisturbed t t :=
  ⟨SameInputs.refl t, rfl, rfl, rfl⟩

theorem Undisturbed.trans {t t' t'' : Tracker κ ω} (h : Undisturbed t t')
    (h' : Undisturbed t' t'') : Undisturbed t t'' :=
  ⟨h.toSameInputs.trans h'.toSameInputs, h'.agenda.trans h.agenda, h'.clock.trans h.clock,
    h'.delay.trans h.delay⟩

theorem record_undisturbed (t : Tracker κ ω) (e : Event κ ω) : Undisturbed t (t.record e) :=
  ⟨⟨rfl, rfl, rfl⟩, rfl, rfl, rfl⟩

theorem recordAll_undisturbed (t : Tracker κ ω) (es : List (Event κ ω)) :
    Undisturbed t (t.recordAll es) :=
  ⟨⟨rfl, rfl, rfl⟩, rfl, rfl, rfl⟩

theorem setButton_undisturbed (t : Tracker κ ω) (b : Bool) : Undisturbed t (t.setButton b) :=
  ⟨⟨rfl, rfl, rfl⟩, rfl, rfl, rfl⟩

theorem fields_announce (t : Tracker κ ω) : t.announce.fields = t.fields := by
  unfold announce
  split <;> rfl

theorem announce_undisturbed (t : Tracker κ ω) : Undisturbed t t.announce := by
  unfold announce
  split
  · exact Undisturbed.refl t
  · exact ⟨⟨rfl, rfl, rfl⟩, rfl, rfl, rfl⟩

/-- What an action does to the widget it is done to. -/
def reaction (t : Tracker κ ω) (w : ω) (a : Action) : Reaction :=
  ((t.widgets w).edit.act (t.widgets w).guard a).1

/-- The timer of a field is none of another key's. -/
theorem recheck_ne_timer {key k : κ} (field : Tracked ω) (registration : Nat) (h : k ≠ key) :
    .recheck k registration ≠ timer key field := by
  intro htimer
  rw [timer, Timer.recheck.injEq] at htimer
  exact h htimer.1

section Fields

variable [DecidableEq κ]

theorem field?_putField (t : Tracker κ ω) (key k : κ) (field : Tracked ω) :
    (t.putField key field).field? k = if k = key then some field else t.field? k :=
  Table.find?_put key k field t.fields

theorem find?_plans {t : Tracker κ ω} {key : κ} {field : Tracked ω}
    (h : t.field? key = some field) : Table.find? key t.wiring.plans = some field.plan := by
  rw [wiring, Table.find?_view, show Table.find? key t.fields = some field from h]
  rfl

/-- The timer of a field is known by its plan. -/
theorem isPending_iff_plan (t : Tracker κ ω) (key : κ) :
    t.isPending key ↔ ∃ plan, Table.find? key t.wiring.plans = some plan ∧
      t.agenda.isPending (.recheck key plan.registration) := by
  rw [isPending]
  cases hfield : t.field? key with
  | none =>
      have hplan : Table.find? key t.wiring.plans = none := by
        rw [wiring, Table.find?_view, show Table.find? key t.fields = none from hfield]
        rfl
      rw [hplan]
      constructor
      · nofun
      · rintro ⟨plan, hnone, -⟩
        cases hnone
  | some field =>
      rw [find?_plans hfield]
      constructor
      · intro h
        exact ⟨field.plan, rfl, h⟩
      · rintro ⟨plan, hplan, h⟩
        cases hplan
        exact h

/-- A field may be put in the place of one with the same plan. -/
theorem putField_undisturbed (t : Tracker κ ω) (key : κ) (field field' : Tracked ω)
    (h : t.field? key = some field) (hplan : field'.plan = field.plan) :
    Undisturbed t (t.putField key field') := by
  refine ⟨⟨?_, rfl, rfl⟩, rfl, rfl, rfl⟩
  -- In the table of plans the same plan is assigned again.
  simp only [wiring, putField, Wiring.mk.injEq, and_true]
  rw [Table.view_put, hplan]
  exact Table.put_eq_self _ _ _ (find?_plans h)

/-- A field without the text that was judged last, its timer stopped. -/
def forget (t : Tracker κ ω) (key : κ) (field : Tracked ω) : Tracker κ ω :=
  ({ t with agenda := t.agenda.stop (timer key field) }.putField key
    { field with lastValue := none }).record (.rechecked key)

theorem forget_sameInputs (t : Tracker κ ω) (key : κ) (field : Tracked ω)
    (h : t.field? key = some field) : SameInputs t (t.forget key field) := by
  have hstopped : SameInputs t { t with agenda := t.agenda.stop (timer key field) } :=
    ⟨rfl, rfl, rfl⟩
  have hput := putField_undisturbed { t with agenda := t.agenda.stop (timer key field) } key field
    { field with lastValue := none } h rfl
  exact hstopped.trans (hput.trans (record_undisturbed _ _)).toSameInputs

theorem field?_forget (t : Tracker κ ω) (key k : κ) (field : Tracked ω) :
    (t.forget key field).field? k =
      if k = key then some { field with lastValue := none } else t.field? k :=
  field?_putField { t with agenda := t.agenda.stop (timer key field) } key k _

/-- Where one field was put in its place, a field is that one or was there before. -/
theorem field_cases {t t' : Tracker κ ω} {key k : κ} {new : Tracked ω}
    (h : t'.field? k = if k = key then some new else t.field? k) (field : Tracked ω)
    (hfield : t'.field? k = some field) :
    k = key ∧ field = new ∨ k ≠ key ∧ t.field? k = some field := by
  rw [h] at hfield
  by_cases hk : k = key
  · rw [if_pos hk, Option.some.injEq] at hfield
    exact Or.inl ⟨hk, hfield.symm⟩
  · rw [if_neg hk] at hfield
    exact Or.inr ⟨hk, hfield⟩

/-- Starting the timer of a field changes nothing but the agenda. -/
theorem schedule_of_agenda {P : Tracker κ ω → Prop} (t : Tracker κ ω) (key : κ) (h : P t)
    (hagenda : ∀ agenda, P { t with agenda }) : P (t.schedule key) := by
  unfold schedule
  split
  · exact h
  · exact hagenda _

/-- Forgetting all fields leaves the listeners. -/
theorem wiring_cleanup (t : Tracker κ ω) :
    t.cleanup.wiring = { plans := [], links := t.wiring.links } := rfl

end Fields

section Widgets

variable [DecidableEq ω]

theorem text_update (t : Tracker κ ω) (w v : ω) (change : Widget κ → Widget κ) :
    (t.update w change).text v = if v = w then (change (t.widgets v)).text else t.text v := by
  by_cases h : v = w
  · simp only [text, update, if_pos h]
  · simp only [text, update, if_neg h]

theorem links_update (t : Tracker κ ω) (w v : ω) (change : Widget κ → Widget κ) :
    (t.update w change).wiring.links v =
      if v = w then (change (t.widgets v)).links else t.wiring.links v := by
  by_cases h : v = w
  · simp only [wiring, update, if_pos h]
  · simp only [wiring, update, if_neg h]

theorem wiring_update (t : Tracker κ ω) (w : ω) (change : Widget κ → Widget κ)
    (h : (change (t.widgets w)).links = (t.widgets w).links) :
    (t.update w change).wiring = t.wiring := by
  have hlinks : (t.update w change).wiring.links = t.wiring.links := by
    funext v
    rw [links_update]
    by_cases hv : v = w
    · rw [if_pos hv, hv, h]
      rfl
    · rw [if_neg hv]
  exact congrArg (Wiring.mk t.wiring.plans) hlinks

theorem wiring_listen (t : Tracker κ ω) (w : ω) (l : Listener κ) :
    (t.update w fun widget => { widget with onChange := widget.onChange ++ [l] }).wiring =
      t.wiring.listen w l := by
  ext1
  · rfl
  · funext v
    exact t.links_update w v _

/-- A change to a widget that keeps its text and whoever listens to it. -/
theorem update_undisturbed (t : Tracker κ ω) (w : ω) (change : Widget κ → Widget κ)
    (hlinks : (change (t.widgets w)).links = (t.widgets w).links)
    (htext : (change (t.widgets w)).text = (t.widgets w).text) :
    Undisturbed t (t.update w change) := by
  refine ⟨⟨t.wiring_update w change hlinks, ?_, rfl⟩, rfl, rfl, rfl⟩
  funext v
  rw [text_update]
  by_cases hv : v = w
  · rw [if_pos hv, hv, htext]
    rfl
  · rw [if_neg hv]

theorem showVerdict_undisturbed (t : Tracker κ ω) (key : κ) (w : ω) (v : Verdict) :
    Undisturbed t (t.showVerdict key w v) :=
  (t.update_undisturbed w _ rfl rfl).trans (record_undisturbed _ _)

theorem setToolTip_undisturbed (t : Tracker κ ω) (w : ω) (tip : String) :
    Undisturbed t (t.setToolTip w tip) :=
  t.update_undisturbed w _ rfl rfl

/-- The tracker after a widget was edited and before anyone was told. -/
def edited (t : Tracker κ ω) (w : ω) (e : LineEdit) : Tracker κ ω :=
  t.update w fun widget => { widget with edit := e }

theorem wiring_edited (t : Tracker κ ω) (w : ω) (e : LineEdit) :
    (t.edited w e).wiring = t.wiring :=
  t.wiring_update w _ rfl

theorem text_edited (t : Tracker κ ω) (w v : ω) (e : LineEdit) :
    (t.edited w e).text v = if v = w then e.text else t.text v :=
  t.text_update w v _

end Widgets

variable [DecidableEq κ] [DecidableEq ω]

theorem settle_undisturbed (t : Tracker κ ω) (key : κ) (field : Tracked ω) (value : Text)
    (v : Verdict) (h : t.field? key = some field) :
    Undisturbed t (t.settle key field value v) := by
  have hput := t.putField_undisturbed key field
    { field with lastValue := some value, valid := v.valid, message := v.message } h rfl
  unfold settle
  simp only
  split
  · exact hput.trans (announce_undisturbed _)
  · exact (hput.trans (showVerdict_undisturbed _ _ _ _)).trans (announce_undisturbed _)

theorem field?_settle (t : Tracker κ ω) (key k : κ) (field : Tracked ω) (value : Text)
    (v : Verdict) :
    (t.settle key field value v).field? k =
      if k = key then
        some { field with lastValue := some value, valid := v.valid, message := v.message }
      else t.field? k := by
  unfold settle field?
  simp only [fields_announce]
  split
  · exact t.field?_putField key k _
  · exact t.field?_putField key k _

/-- Judging disturbs neither the inputs nor the timers. -/
theorem judge_undisturbed [Named κ] (t : Tracker κ ω) (key : κ) (field : Tracked ω)
    (value : Text) (h : t.field? key = some field) :
    Undisturbed t (t.judge key field value) := by
  have htold : Undisturbed t { t.recordAll (field.check.consequences key value) with
      judged := (t.recordAll (field.check.consequences key value)).judged + 1 } :=
    ⟨⟨rfl, rfl, rfl⟩, rfl, rfl, rfl⟩
  exact htold.trans (settle_undisturbed _ key field value _ h)

/-- Judging leaves the verdict on the text in the field, and no other field
    changes. -/
theorem field?_judge [Named κ] (t : Tracker κ ω) (key k : κ) (field : Tracked ω)
    (value : Text) :
    (t.judge key field value).field? k =
      if k = key then some (field.judgedOn t.surroundings value) else t.field? k := by
  unfold judge
  simp only [field?_settle]
  rfl

/-- The tracker after a field was put in its place and joined with its widget, and
    before it was judged. -/
def joined (t : Tracker κ ω) (key : κ) (w : ω) (check : Check ω) (required : Bool) :
    Tracker κ ω :=
  (({ t with registrations := t.registrations + 1 }.putField key
    (.unjudged w check required t.registrations)).update w
      fun widget => widget.join key).record (.registered key)

theorem wiring_joined (t : Tracker κ ω) (key : κ) (w : ω) (check : Check ω) (required : Bool) :
    (t.joined key w check required).wiring =
      t.wiring.register key
        { widget := w, check, required, registration := t.registrations } := by
  refine congr (congrArg Wiring.mk (Table.view_put _ _ _ _)) ?_
  funext v
  change (if v = w then (t.widgets v).join key else t.widgets v).links = _
  by_cases hv : v = w
  · simp only [if_pos hv]
    rfl
  · simp only [if_neg hv]
    rfl

theorem text_joined (t : Tracker κ ω) (key : κ) (w : ω) (check : Check ω) (required : Bool) :
    (t.joined key w check required).text = t.text := by
  funext v
  change (if v = w then (t.widgets v).join key else t.widgets v).text = (t.widgets v).text
  split
  · rfl
  · rfl

theorem field?_joined (t : Tracker κ ω) (key k : κ) (w : ω) (check : Check ω)
    (required : Bool) :
    (t.joined key w check required).field? k =
      if k = key then some (.unjudged w check required t.registrations) else t.field? k :=
  field?_putField { t with registrations := t.registrations + 1 } key k _

variable [Named κ]

theorem validate_undisturbed (t : Tracker κ ω) (key : κ) : Undisturbed t (t.validate key) := by
  unfold validate
  cases h : t.field? key with
  | none => exact Undisturbed.refl t
  | some field =>
      simp only
      split
      · exact Undisturbed.refl t
      · exact t.judge_undisturbed key field _ h

theorem register_eq_validate_joined (t : Tracker κ ω) (key : κ) (w : ω) (check : Check ω)
    (required : Bool) :
    t.register key w check required = (t.joined key w check required).validate key := rfl

/-- Registering a field assigns its plan and joins it with its widget. The
    judgement at the end is none of the wiring's business. -/
theorem wiring_register (t : Tracker κ ω) (key : κ) (w : ω) (check : Check ω) (required : Bool) :
    (t.register key w check required).wiring =
      t.wiring.register key
        { widget := w, check, required, registration := t.registrations } := by
  rw [register_eq_validate_joined, (validate_undisturbed _ key).wiring, wiring_joined]

theorem text_register (t : Tracker κ ω) (key : κ) (w : ω) (check : Check ω) (required : Bool) :
    (t.register key w check required).text = t.text := by
  rw [register_eq_validate_joined, (validate_undisturbed _ key).text, text_joined]

theorem registrations_register (t : Tracker κ ω) (key : κ) (w : ω) (check : Check ω)
    (required : Bool) : (t.register key w check required).registrations = t.registrations + 1 :=
  (validate_undisturbed _ key).registrations

/-- Judging at once is forgetting the text judged last and judging. -/
theorem recheck_eq_validate_forget (t : Tracker κ ω) (key : κ) (field : Tracked ω)
    (h : t.field? key = some field) : t.recheck key = (t.forget key field).validate key := by
  rw [recheck, h]
  rfl

/-- Judging a field if its text is not the one judged last leaves the verdict on
    that text, and no other field changes. -/
theorem field?_validate (t : Tracker κ ω) (key k : κ) :
    (t.validate key).field? k =
      if k = key then
        (t.field? key).map fun field =>
          if field.lastValue = some (t.text field.widget) then field
          else field.judgedOn t.surroundings (t.text field.widget)
      else t.field? k := by
  unfold validate
  cases hkey : t.field? key with
  | none =>
      by_cases hk : k = key
      · rw [if_pos hk, hk]
        exact hkey
      · rw [if_neg hk]
  | some field =>
      simp only [Option.map_some]
      by_cases hlast : field.lastValue = some (t.text field.widget)
      · rw [if_pos hlast, if_pos hlast]
        by_cases hk : k = key
        · rw [if_pos hk, hk, hkey]
        · rw [if_neg hk]
      · rw [if_neg hlast, if_neg hlast, field?_judge]

/-- Judging a field at once leaves the verdict on its text, and no other field
    changes. -/
theorem field?_recheck (t : Tracker κ ω) (key k : κ) :
    (t.recheck key).field? k =
      if k = key then
        (t.field? key).map fun field => field.judgedOn t.surroundings (t.text field.widget)
      else t.field? k := by
  cases hkey : t.field? key with
  | none =>
      rw [recheck, hkey]
      by_cases hk : k = key
      · rw [if_pos hk, hk]
        exact hkey
      · rw [if_neg hk]
  | some field =>
      -- What was forgotten is not the text it has now, so there is something to judge.
      have hsurroundings : (t.forget key field).surroundings = t.surroundings :=
        congrArg (Surroundings.mk · t.judged) (t.forget_sameInputs key field hkey).text
      rw [recheck_eq_validate_forget t key field hkey, field?_validate, field?_forget,
        field?_forget, if_pos rfl]
      by_cases hk : k = key
      · rw [if_pos hk, if_pos hk, hsurroundings, (t.forget_sameInputs key field hkey).text]
        rfl
      · rw [if_neg hk, if_neg hk, if_neg hk]

/-- A property that judging and forgetting keep, whatever happens to the history
    and the timers. -/
structure Kept (P : Tracker κ ω → Prop) : Prop where
  record : ∀ t e, P t → P (t.record e)
  timers : ∀ (t : Tracker κ ω) clock agenda, P t → P { t with clock, agenda }
  forget : ∀ (t : Tracker κ ω) key field, t.field? key = some field →
    P t → P (t.forget key field)
  judge : ∀ (t : Tracker κ ω) key field value, t.field? key = some field →
    P t → P (t.judge key field value)

/-- A property that holds again once a field was judged, whatever held meanwhile,
    and that no event of tracking can hurt. -/
structure Stable (P : Tracker κ ω → Prop) : Prop where
  record : ∀ (t : Tracker κ ω) e, e.ofTracking → P t → P (t.record e)
  timers : ∀ (t : Tracker κ ω) clock agenda, P t → P { t with clock, agenda }
  validate : ∀ t key, P t → P (t.validate key)
  recheck : ∀ t key, P t → P (t.recheck key)

/-- A property that everything keeps that happens at once: starting the timer of a
    field, judging a field, and writing down what led to it. It may speak of the
    clock, and of what judging alone writes down. -/
structure Timeless (P : Tracker κ ω → Prop) : Prop where
  record : ∀ (t : Tracker κ ω) e, e.isOccasion → P t → P (t.record e)
  schedule : ∀ t key, P t → P (t.schedule key)
  validate : ∀ t key, P t → P (t.validate key)
  recheck : ∀ t key, P t → P (t.recheck key)

section Stable

variable {P : Tracker κ ω → Prop}

/-- A field is judged on the text its widget holds, or not at all. -/
theorem validate_of_judge (t : Tracker κ ω) (key : κ) (h : P t)
    (hjudge : ∀ field, t.field? key = some field →
      P (t.judge key field (t.text field.widget))) : P (t.validate key) := by
  unfold validate
  cases hkey : t.field? key with
  | none => exact h
  | some field =>
      simp only
      split
      · exact h
      · exact hjudge field hkey

/-- What is judged at once has forgotten before what it judged. -/
theorem recheck_of_forget (t : Tracker κ ω) (key : κ) (h : P t)
    (hforget : ∀ field, t.field? key = some field → P ((t.forget key field).validate key)) :
    P (t.recheck key) := by
  cases hkey : t.field? key with
  | none =>
      rw [recheck, hkey]
      exact h
  | some field =>
      rw [recheck_eq_validate_forget t key field hkey]
      exact hforget field hkey

theorem Kept.validate (hP : Kept P) (t : Tracker κ ω) (key : κ) (h : P t) :
    P (t.validate key) :=
  t.validate_of_judge key h fun field hkey => hP.judge t key field _ hkey h

theorem Kept.recheck (hP : Kept P) (t : Tracker κ ω) (key : κ) (h : P t) :
    P (t.recheck key) :=
  t.recheck_of_forget key h fun field hkey =>
    hP.validate _ key (hP.forget t key field hkey h)

/-- What judging and forgetting keep holds after both. -/
theorem Kept.stable (hP : Kept P) : Stable P where
  record t e _ h := hP.record t e h
  timers := hP.timers
  validate := hP.validate
  recheck := hP.recheck

theorem Stable.timeless (hP : Stable P) : Timeless P where
  record t e he h := hP.record t e (e.ofTracking_of_isOccasion he) h
  schedule t key h := t.schedule_of_agenda key h fun agenda => hP.timers t t.clock agenda h
  validate := hP.validate
  recheck := hP.recheck

theorem Timeless.recheckAll (hP : Timeless P) (t : Tracker κ ω) (h : P t) : P t.recheckAll :=
  List.foldlRecOn _ _ h (fun t ht key _ => hP.recheck t key ht)

theorem Timeless.tell (hP : Timeless P) (t : Tracker κ ω) (l : Listener κ) (h : P t) :
    P (t.tell l) := by
  cases l with
  | recheckSoon key => exact hP.schedule t key h
  | recheckNow key => exact hP.recheck t key h

theorem Timeless.notice (hP : Timeless P) (t : Tracker κ ω) (w : ω) (e : Effect) (h : P t) :
    P (t.notice w e) := by
  cases e with
  | changed value =>
      exact List.foldlRecOn _ _ (hP.record t _ rfl h) (fun t ht l _ => hP.tell t l ht)
  | finished => exact List.foldlRecOn _ _ h (fun t ht key _ => hP.recheck t key ht)
  | noted entry => exact hP.record t _ rfl h
  | refused _ => exact h
  | platform => exact h

/-- Doing something to a widget is editing it and passing on what was noticed. -/
theorem act_eq_foldl_notice (t : Tracker κ ω) (w : ω) (a : Action) :
    (t.act w a).1 = (t.reaction w a).effects.foldl (fun t effect => t.notice w effect)
      (t.edited w (t.reaction w a).edit) := rfl

/-- If the edit keeps the property, what comes of it does. -/
theorem Timeless.act (hP : Timeless P) (t : Tracker κ ω) (w : ω) (a : Action)
    (h : P (t.edited w (t.reaction w a).edit)) : P (t.act w a).1 := by
  rw [act_eq_foldl_notice]
  exact List.foldlRecOn _ _ h (fun t ht effect _ => hP.notice t w effect ht)

/-- A timer that rings only has its field judged, so if the timers are none of the
    property's business, time is not either. -/
theorem Timeless.advance (hP : Timeless P)
    (htimers : ∀ (t : Tracker κ ω) clock agenda, P t → P { t with clock, agenda })
    (t : Tracker κ ω) (ms : Nat) (h : P t) : P (t.advance ms) := by
  refine htimers _ _ _ (List.foldlRecOn _ _ h fun t ht s _ => ?_)
  have hrung := hP.record _ (.rang s.timer) rfl (htimers t s.due (t.agenda.stop s.timer) ht)
  unfold fire ring
  cases htimer : s.timer with
  | recheck key registration =>
      rw [htimer] at hrung
      exact hP.validate _ key hrung
  | pause =>
      rw [htimer] at hrung
      exact hrung

theorem Stable.recheckAll (hP : Stable P) (t : Tracker κ ω) (h : P t) : P t.recheckAll :=
  hP.timeless.recheckAll t h

theorem Stable.notice (hP : Stable P) (t : Tracker κ ω) (w : ω) (e : Effect) (h : P t) :
    P (t.notice w e) :=
  hP.timeless.notice t w e h

theorem Stable.act (hP : Stable P) (t : Tracker κ ω) (w : ω) (a : Action)
    (h : P (t.edited w (t.reaction w a).edit)) : P (t.act w a).1 :=
  hP.timeless.act t w a h

theorem Stable.advance (hP : Stable P) (t : Tracker κ ω) (ms : Nat) (h : P t) :
    P (t.advance ms) :=
  hP.timeless.advance hP.timers t ms h

end Stable

/-- Whatever inputs a tracker had, neither judging nor time changes them. -/
theorem kept_sameInputs (t : Tracker κ ω) : Kept (SameInputs t) where
  record t' e h := h.trans (t'.record_undisturbed e).toSameInputs
  timers _ _ _ h := ⟨h.wiring, h.text, h.registrations⟩
  forget t' key field hkey h := h.trans (t'.forget_sameInputs key field hkey)
  judge t' key field value hkey h :=
    h.trans (t'.judge_undisturbed key field value hkey).toSameInputs

theorem recheckAll_sameInputs (t : Tracker κ ω) : SameInputs t t.recheckAll :=
  (kept_sameInputs t).stable.recheckAll t (SameInputs.refl t)

theorem recheck_sameInputs (t : Tracker κ ω) (key : κ) : SameInputs t (t.recheck key) :=
  (kept_sameInputs t).recheck t key (SameInputs.refl t)

theorem notice_sameInputs (t : Tracker κ ω) (w : ω) (e : Effect) :
    SameInputs t (t.notice w e) :=
  (kept_sameInputs t).stable.notice t w e (SameInputs.refl t)

theorem advance_sameInputs (t : Tracker κ ω) (ms : Nat) : SameInputs t (t.advance ms) :=
  (kept_sameInputs t).stable.advance t ms (SameInputs.refl t)

theorem act_sameInputs_edited (t : Tracker κ ω) (w : ω) (a : Action) :
    SameInputs (t.edited w (t.reaction w a).edit) (t.act w a).1 :=
  (kept_sameInputs _).stable.act t w a (SameInputs.refl _)

theorem wiring_act (t : Tracker κ ω) (w : ω) (a : Action) : (t.act w a).1.wiring = t.wiring := by
  rw [(t.act_sameInputs_edited w a).wiring, wiring_edited]

theorem text_act (t : Tracker κ ω) (w v : ω) (a : Action) :
    (t.act w a).1.text v = if v = w then (t.reaction w a).edit.text else t.text v := by
  rw [(t.act_sameInputs_edited w a).text, text_edited]

/-- A text that is set is the text there is, whether or not a guard stands
    there. -/
theorem text_act_setText (t : Tracker κ ω) (w v : ω) (value : Text) :
    (t.act w (.setText value)).1.text v = if v = w then value else t.text v := by
  rw [text_act, reaction]
  cases (t.widgets w).guard with
  | none => rfl
  | some f => rfl

/-- Being done with a widget is no edit. -/
theorem text_act_finish (t : Tracker κ ω) (w : ω) : (t.act w .finish).1.text = t.text := by
  funext v
  have hsame : (t.reaction w .finish).edit.text = t.text w := by
    rw [reaction]
    cases (t.widgets w).guard with
    | none => rfl
    | some f => rfl
  rw [text_act, hsame]
  by_cases hv : v = w
  · rw [if_pos hv, hv]
  · rw [if_neg hv]

/-- Judging a field at once stops its timer and no other. -/
theorem isPending_recheck (t : Tracker κ ω) (key k : κ) :
    (t.recheck key).isPending k ↔ k ≠ key ∧ t.isPending k := by
  cases hkey : t.field? key with
  | none =>
      rw [recheck, hkey]
      refine ⟨fun h => ⟨?_, h⟩, fun h => h.2⟩
      rintro rfl
      rw [isPending, hkey] at h
      cases h
  | some field =>
      -- Forgetting stops the timer, and the judgement after it starts none.
      have hagenda : (t.recheck key).agenda = t.agenda.stop (timer key field) := by
        rw [recheck_eq_validate_forget t key field hkey, (validate_undisturbed _ key).agenda]
        rfl
      rw [isPending_iff_plan, isPending_iff_plan, (t.recheck_sameInputs key).wiring, hagenda]
      simp only [Agenda.isPending_stop]
      by_cases hk : k = key
      · -- The timer that was stopped is the one that is asked about.
        rw [hk, find?_plans hkey]
        constructor
        · rintro ⟨plan, hplan, hne, -⟩
          cases hplan
          exact absurd rfl hne
        · rintro ⟨hne, -⟩
          exact absurd rfl hne
      · constructor
        · rintro ⟨plan, hplan, -, hpending⟩
          exact ⟨hk, plan, hplan, hpending⟩
        · rintro ⟨-, plan, hplan, hpending⟩
          exact ⟨plan, hplan, recheck_ne_timer field plan.registration hk, hpending⟩

theorem isPending_foldl_recheck (keys : List κ) (t : Tracker κ ω) (k : κ) :
    (keys.foldl recheck t).isPending k ↔ k ∉ keys ∧ t.isPending k := by
  induction keys generalizing t with
  | nil => exact ⟨fun h => ⟨List.not_mem_nil, h⟩, fun h => h.2⟩
  | cons key rest ih =>
      rw [List.foldl_cons, ih, isPending_recheck, List.mem_cons, not_or, ← and_assoc,
        and_comm (a := k ∉ rest)]

/-- Judging everything at once stops every timer. -/
theorem isPending_recheckAll (t : Tracker κ ω) (key : κ) :
    t.recheckAll.isPending key = false := by
  rw [← Bool.not_eq_true, recheckAll, isPending_foldl_recheck]
  rintro ⟨hkey, hpending⟩
  rw [isPending] at hpending
  cases hfield : t.field? key with
  | none =>
      rw [hfield] at hpending
      cases hpending
  | some field => exact hkey (Table.mem_keys_of_find? key field t.fields hfield)

end Tracker

end ManagerSignup
