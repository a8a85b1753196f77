import ManagerSignup.Proofs.Announcing
import ManagerSignup.Proofs.TrackerRuns
import Mathlib.Data.List.Chain

/-!
# Announcements Alternate

No two announcements in a row say the same, and the last of them is how the
fields stand.

A tracker remembers what it announced last and says nothing that it said
already. That alone would let the announcements lag behind the fields, which
change one at a time and for several reasons. They do not lag because nothing
but a judgement changes whether a field is valid, and every judgement ends with
the question whether there is something to announce. A field that is replaced
brings a verdict of its own with it, and it is judged before anyone can ask.

Forgetting all fields is the exception. Nothing is announced then, although the
conjunction of no fields is true, and what was announced before stands until
there are fields again. The first registration after that compares with it, so
the announcements go on alternating as if nothing had been forgotten.

That what is remembered is the last announcement, and that announcements
alternate, are facts about the history. They survive everything that writes no
announcement, and this is what `Timeless` asks.

## Main definitions

* `Tracker.announcements`: What was announced about the fields as a whole.
* `Tracker.Announced`: The announcements alternate and end with how the fields
  stand.

## Theorems

* `Tracker.announced_announce`: Announcing keeps the announcements in order.
* `Tracker.timeless_announced`: So does everything that happens at once.
* `Tracker.Announced.step`, `Tracker.announced_run`: Steps and runs.
* `Tracker.announcements_alternate`: What holds of the announcements after every
  run.
-/

namespace ManagerSignup

variable {κ ω : Type}

/-- What was announced about the fields as a whole, if that is what happened. -/
def Event.announcement? : Event κ ω → Option Bool
  | .overall valid => some valid
  | _ => none

namespace Tracker

/-- What was announced about the fields as a whole, in order. -/
def announcements (t : Tracker κ ω) : List Bool :=
  t.history.filterMap fun s => s.event.announcement?

theorem announcements_recordAll (t : Tracker κ ω) (es : List (Event κ ω))
    (h : ∀ e ∈ es, e.announcement? = none) : (t.recordAll es).announcements = t.announcements := by
  have hnone : (es.map fun e => (⟨t.clock, e⟩ : Stamped κ ω)).filterMap
      (fun s => s.event.announcement?) = [] := by
    rw [List.filterMap_map, List.filterMap_eq_nil_iff]
    exact h
  simp only [announcements, recordAll, List.filterMap_append, hnone, List.append_nil]

theorem announcements_record (t : Tracker κ ω) (e : Event κ ω) (h : e.announcement? = none) :
    (t.record e).announcements = t.announcements := by
  refine t.announcements_recordAll [e] fun e' he' => ?_
  rw [List.mem_singleton.mp he']
  exact h

/-- The announcements alternate, the last one is remembered, and if there are
    fields, that is how they stand. -/
structure Announced (t : Tracker κ ω) : Prop where
  alternate : t.announcements.IsChain (· ≠ ·)
  last : t.announcements.getLast? = t.overall
  settled : t.fields ≠ [] → t.overall = some t.allValid

/-- Whatever happened to the fields, announcing settles it. -/
theorem announced_announce (t : Tracker κ ω) (halternate : t.announcements.IsChain (· ≠ ·))
    (hlast : t.announcements.getLast? = t.overall) : Announced t.announce := by
  have hsettled := t.overall_announce
  by_cases hsaid : t.overall = some t.allValid
  · -- It was said already, and nothing happens.
    have hsame : t.announce = t := by
      rw [announce, if_pos hsaid]
    rw [hsame] at hsettled ⊢
    exact ⟨halternate, hlast, fun _ => hsettled⟩
  · have hsaying : t.announce.announcements = t.announcements ++ [t.allValid] := by
      rw [announce, if_neg hsaid]
      exact List.filterMap_append
    have hoverall : t.announce.overall = some t.allValid := by
      rw [announce, if_neg hsaid]
      rfl
    refine ⟨?_, ?_, fun _ => hsettled⟩
    · -- What is new differs from what was remembered, and that was the last one.
      rw [hsaying, List.isChain_append]
      refine ⟨halternate, List.isChain_singleton _, fun before hbefore new hnew => ?_⟩
      rw [hlast, Option.mem_def] at hbefore
      rw [List.head?_cons, Option.mem_def, Option.some.injEq] at hnew
      rintro rfl
      exact hsaid (hbefore.trans (congrArg some hnew.symm))
    · rw [hsaying, hoverall, List.getLast?_concat]

-- What changes neither the fields nor the announcements is none of our business.
theorem Announced.of_eq {t t' : Tracker κ ω} (h : Announced t)
    (hannouncements : t'.announcements = t.announcements) (hoverall : t'.overall = t.overall)
    (hfields : t'.fields = t.fields) : Announced t' := by
  have hvalid : t'.allValid = t.allValid := by
    rw [allValid, allValid, hfields]
  refine ⟨?_, ?_, ?_⟩
  · rw [hannouncements]
    exact h.alternate
  · rw [hannouncements, hoverall]
    exact h.last
  · rw [hfields, hoverall, hvalid]
    exact h.settled

theorem Announced.record {t : Tracker κ ω} (h : Announced t) (e : Event κ ω)
    (he : e.announcement? = none) : Announced (t.record e) :=
  h.of_eq (t.announcements_record e he) rfl rfl

variable [DecidableEq κ]

theorem Announced.forget {t : Tracker κ ω} (h : Announced t) (key : κ) (field : Tracked ω)
    (hkey : t.field? key = some field) : Announced (t.forget key field) := by
  have hannouncements : (t.forget key field).announcements = t.announcements :=
    announcements_record _ _ rfl
  refine ⟨?_, ?_, fun _ => ?_⟩
  · rw [hannouncements]
    exact h.alternate
  · rw [hannouncements]
    exact h.last
  · -- There is a field to forget the verdict of, so there were fields before.
    have hfields : t.fields ≠ [] :=
      List.ne_nil_of_mem (Table.mem_of_find? key field t.fields hkey)
    rw [allValid_forget t key field hkey]
    exact h.settled hfields

variable [DecidableEq ω]

-- The conjunction may be wrong before this, and the announcement at the end sets it
-- right. So nothing is asked here of how the fields stood.
theorem announced_settle (t : Tracker κ ω) (key : κ) (field : Tracked ω) (value : Text)
    (v : Verdict) (halternate : t.announcements.IsChain (· ≠ ·))
    (hlast : t.announcements.getLast? = t.overall) :
    Announced (t.settle key field value v) := by
  unfold settle
  simp only
  split
  · exact announced_announce _ halternate hlast
  · -- Showing the verdict writes it down, which is no announcement.
    have hshown : ∀ t' : Tracker κ ω,
        (t'.showVerdict key field.widget v).announcements = t'.announcements :=
      fun t' => announcements_record _ _ rfl
    refine announced_announce _ ?_ ?_
    · rw [hshown]
      exact halternate
    · rw [hshown]
      exact hlast

variable [Named κ]

theorem announced_judge (t : Tracker κ ω) (key : κ) (field : Tracked ω) (value : Text)
    (halternate : t.announcements.IsChain (· ≠ ·))
    (hlast : t.announcements.getLast? = t.overall) : Announced (t.judge key field value) := by
  have htold : (t.recordAll (field.check.consequences key value)).announcements =
      t.announcements := by
    refine t.announcements_recordAll _ fun e he => ?_
    rcases field.check.noted_or_reported_of_mem_consequences key value e he with
      ⟨_, rfl⟩ | ⟨_, rfl⟩
    · rfl
    · rfl
  refine announced_settle _ key field value _ ?_ ?_
  · exact (congrArg (List.IsChain (· ≠ ·)) htold).mpr halternate
  · exact (congrArg List.getLast? htold).trans hlast

theorem Announced.validate {t : Tracker κ ω} (h : Announced t) (key : κ) :
    Announced (t.validate key) :=
  t.validate_of_judge key h fun _ _ => t.announced_judge key _ _ h.alternate h.last

/-- The announcements are in order whatever happens at once. -/
theorem timeless_announced : Timeless (Announced (κ := κ) (ω := ω)) where
  record t e he h := by
    refine h.record e ?_
    cases e with
    | overall valid => cases he
    | _ => rfl
  schedule t key h := t.schedule_of_agenda key h fun _ => h.of_eq rfl rfl rfl
  validate t key h := h.validate key
  recheck t key h := t.recheck_of_forget key h fun field hkey =>
    (h.forget key field hkey).validate key

-- A new field may be invalid where all others are valid, but it is judged before
-- anything else happens.
theorem Announced.register {t : Tracker κ ω} (h : Announced t) (key : κ) (w : ω)
    (check : Check ω) (required : Bool) : Announced (t.register key w check required) := by
  have hannouncements : (t.joined key w check required).announcements = t.announcements :=
    announcements_record _ _ rfl
  have hnew := t.field?_joined key key w check required
  rw [if_pos rfl] at hnew
  rw [register_eq_validate_joined, Tracker.validate, hnew]
  refine announced_judge _ key _ _ ?_ ?_
  · rw [hannouncements]
    exact h.alternate
  · rw [hannouncements]
    exact h.last

theorem Announced.step {t : Tracker κ ω} (h : Announced t) (s : Step κ ω) :
    Announced (t.step s).1 := by
  cases s with
  | register key w check required => exact h.register key w check required
  | act w a => exact timeless_announced.act t w a (h.of_eq rfl rfl rfl)
  | recheck key => exact timeless_announced.recheck t key h
  | recheckAll => exact timeless_announced.recheckAll t h
  | advance ms =>
      exact timeless_announced.advance (fun _ _ _ ht => ht.of_eq rfl rfl rfl) t ms h
  | cleanup => exact ⟨h.alternate, h.last, fun hfields => absurd rfl hfields⟩
  | setToolTip w tip => exact h.of_eq rfl rfl rfl

theorem announced_run (delay : Nat) (guards : ω → Option Field) (toolTips : ω → String)
    (steps : List (Step κ ω)) : Announced ((new delay guards toolTips).run steps) := by
  have hnew : Announced (new delay guards toolTips : Tracker κ ω) :=
    ⟨List.IsChain.nil, rfl, fun hfields => absurd rfl hfields⟩
  exact List.foldlRecOn _ _ hnew fun _ ht s _ => Announced.step ht s

-- Which keys there are is part of the wiring, and only two steps change that.
theorem nodup_keys_run (delay : Nat) (guards : ω → Option Field) (toolTips : ω → String)
    (steps : List (Step κ ω)) :
    ((new delay guards toolTips : Tracker κ ω).run steps).fields.keys.Nodup := by
  have hplans : ((new delay guards toolTips : Tracker κ ω).run steps).wiring.plans.keys.Nodup := by
    refine List.foldlRecOn (motive := fun t : Tracker κ ω => t.wiring.plans.keys.Nodup)
      steps _ List.nodup_nil fun t ht s _ => ?_
    rw [wiring_step]
    cases s with
    | register key w check required => exact Table.nodup_keys_put _ _ _ ht
    | cleanup => exact List.nodup_nil
    | _ => exact ht
  rwa [wiring, Table.keys_view] at hplans

/-- Whatever is done with a tracker, no two announcements in a row say the same,
    and as long as there are fields the last one says whether each of them is
    valid. -/
theorem announcements_alternate (delay : Nat) (guards : ω → Option Field)
    (toolTips : ω → String) (steps : List (Step κ ω)) :
    let t := (new delay guards toolTips : Tracker κ ω).run steps
    t.announcements.IsChain (· ≠ ·) ∧
      (t.fields ≠ [] → t.announcements.getLast? = some (t.fields.keys.all t.isValid)) := by
  intro t
  have hannounced : Announced t := announced_run delay guards toolTips steps
  refine ⟨hannounced.alternate, fun hfields => ?_⟩
  rw [hannounced.last, hannounced.settled hfields,
    t.allValid_eq_all_isValid (nodup_keys_run delay guards toolTips steps)]

/-- Two keys share a widget, one of them is registered again with a check that
    the text passes, everything is forgotten, and an optional field comes after
    that. -/
def forgetfulRun : List (Step String Nat) :=
  [.register "code" 0 (.grammar .dialCode) false,
    .register "note" 0 (.rule fun _ _ => .fine) true,
    .act 0 (.setText ['+', '5']),
    .advance 200,
    .register "code" 0 (.rule fun _ value => ⟨value = ['+', '5'], "Not this one"⟩) true,
    .act 0 .finish,
    .cleanup,
    .register "rest" 1 (.grammar .name) false,
    .act 1 (.setText ['1']),
    .recheck "rest"]

/-- Nothing is announced when everything is forgotten, nor when a valid field comes
    after that. -/
theorem announcements_alternate_forgetfulRun :
    let t := (new 200 (fun _ => none) fun _ => "" : Tracker String Nat).run forgetfulRun
    t.announcements = [true, false, true, false] ∧ t.fields.keys = ["rest"] ∧
      t.announcements.getLast? = some (t.isValid "rest") := by
  intro t
  have hkeys : t.fields.keys = ["rest"] := by decide +kernel
  have hfields : t.fields ≠ [] := by
    intro hnone
    rw [hnone] at hkeys
    cases hkeys
  have hlast := (announcements_alternate 200 (fun _ => none) (fun _ => "") forgetfulRun).2 hfields
  refine ⟨by decide +kernel, hkeys, hlast.trans ?_⟩
  change some (t.fields.keys.all t.isValid) = _
  rw [hkeys, List.all_cons, List.all_nil, Bool.and_true]

end Tracker

end ManagerSignup
