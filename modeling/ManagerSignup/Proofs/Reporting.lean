import ManagerSignup.Failure.Casebook
import ManagerSignup.Proofs.Tables
import Mathlib.Data.List.Induction

/-!
# Reporting an Error Again

What an application error looks like after it was reported any number of times.

A report changes the error it is about. Whoever reports it adds what is known at
that place, and the error is handed on and reported again by somebody who knows
other things, or the same things differently. None of this may cost anything. The
error stays the one it is, and says the same to the user; what was known first is
what counts, and the order in which it became known is kept.

`Gained` says this of the details and mentions no merging. What was there stays in
front, untouched. Behind it come the names that were told and are new, each at the
place where it was told first, with the value it was told with then. Between the
reports nothing is lost, so it does not matter where one of them ends: the details
of several reports are one list, and the induction is on that list, a detail at a
time.

A casebook adds who the error is. Reports are made under names, and a report may
give the error another one, under which the next report finds it. So a call is on
an error if its name stood for it from the start or was given to it by then, and
what such a call answers is always the number of the same case.

## Main definitions

* `Gained`: What details that were told make of those that were there.
* `AppError.explanation`: The technical message, or another if there is none.
* `AppError.Retold`: What several reports make of an error.
* `Casebook.Call`: A report under a name.
* `Casebook.perform`, `Casebook.performAll`: Making a report, and several.
* `Casebook.Concern`: All calls are on one error.
* `Casebook.Call.Answered`: What a call on an error answers.
* `Casebook.Reported`: What several calls on an error answer and leave.

## Theorems

* `Gained.append_known`, `Gained.append_new`: A name that is told again, and one that
  is told first.
* `Gained.putNew`, `Gained.mergeDetails`: One more detail, and several.
* `capture_eq`: What capturing makes of a failure.
* `AppError.Retold.capture`: One more report.
* `Casebook.perform_of_app`: What one call on an application error does.
* `Casebook.Reported.perform`: One more call.
* `Casebook.reported_performAll`: What any number of calls do.
-/

namespace ManagerSignup

/-! ### Details -/

/-- What details that were told, one after the other, make of those that were
    there. -/
structure Gained (context told context' : Members) : Prop where
  /-- What was there stays as it is, and where it is. -/
  kept : context <+: context'
  /-- What is new comes behind it, in the order in which it was told first. -/
  keys : Table.keys context' = Table.keys context ++
    ((Table.keys told).filter fun name => name ∉ Table.keys context).eraseDups
  /-- A name that is new has the value it was told with first. -/
  found : ∀ name, Table.find? name context' =
    (Table.find? name context).or ((Table.find? name told).map (redactValue name))

theorem eraseDups_append_singleton (names : List String) (name : String) :
    (names ++ [name]).eraseDups =
      if name ∈ names then names.eraseDups else names.eraseDups ++ [name] := by
  rw [List.eraseDups_append]
  by_cases h : name ∈ names
  · simp only [List.removeAll, List.filter_cons, List.elem_eq_mem, h, decide_true, Bool.not_true,
      Bool.false_eq_true, if_false, List.filter_nil, List.eraseDups_nil, List.append_nil, if_true]
  · simp only [List.removeAll, List.filter_cons, List.elem_eq_mem, h, decide_false, Bool.not_false,
      if_true, List.filter_nil, List.eraseDups_cons, List.eraseDups_nil, if_false]

namespace Gained

variable {context told context' : Members}

theorem nil (context : Members) : Gained context [] context where
  kept := List.prefix_rfl
  keys := by
    simp only [Table.keys, List.map_nil, List.filter_nil, List.eraseDups_nil, List.append_nil]
  found name := by
    simp only [Table.find?, Option.map_none, Option.or_none]

/-- There is nothing but what was there or was told. -/
theorem mem_keys (h : Gained context told context') (name : String) :
    name ∈ Table.keys context' ↔ name ∈ Table.keys context ∨ name ∈ Table.keys told := by
  rw [h.keys, List.mem_append, List.mem_eraseDups, List.mem_filter, decide_eq_true_eq]
  by_cases hthere : name ∈ Table.keys context
  · simp only [hthere, true_or]
  · simp only [hthere, false_or, not_false_eq_true, and_true]

/-- A name that is known is told again, and everything stays. -/
theorem append_known (h : Gained context told context') (name : String) (value : Value)
    (hknown : name ∈ Table.keys context') :
    Gained context (told ++ [(name, value)]) context' := by
  have hwhere := (h.mem_keys name).mp hknown
  refine ⟨h.kept, ?_, fun key => ?_⟩
  · rw [h.keys, Table.keys_append_singleton, List.filter_append]
    by_cases hthere : name ∈ Table.keys context
    · simp only [List.filter_cons, hthere, not_true_eq_false, decide_false, Bool.false_eq_true,
        if_false, List.filter_nil, List.append_nil]
    · have hfirst : name ∈ (Table.keys told).filter fun n => n ∉ Table.keys context :=
        List.mem_filter.mpr ⟨hwhere.resolve_left hthere, decide_eq_true hthere⟩
      simp only [List.filter_cons, hthere, not_false_eq_true, decide_true, if_true,
        List.filter_nil]
      rw [eraseDups_append_singleton, if_pos hfirst]
  · rw [h.found key, Table.find?_append]
    by_cases hkey : key = name
    · -- Whatever is told of it now, it was there or was told before.
      rw [hkey]
      rcases hwhere with hthere | hbefore
      · rcases Table.exists_find?_of_mem_keys name context hthere with ⟨there, hfound⟩
        rw [hfound, Option.some_or, Option.some_or]
      · rcases Table.exists_find?_of_mem_keys name told hbefore with ⟨first, hfound⟩
        rw [hfound, Option.some_or]
    · simp only [Table.find?, if_neg (Ne.symm hkey), Option.or_none]

/-- A name that is new is told, and comes last. -/
theorem append_new (h : Gained context told context') (name : String) (value : Value)
    (hnew : name ∉ Table.keys context') :
    Gained context (told ++ [(name, value)]) (context' ++ [(name, redactValue name value)]) := by
  have hthere : name ∉ Table.keys context := fun hmem => hnew ((h.mem_keys name).mpr (.inl hmem))
  have hbefore : name ∉ Table.keys told := fun hmem => hnew ((h.mem_keys name).mpr (.inr hmem))
  refine ⟨List.prefix_append_of_prefix h.kept, ?_, fun key => ?_⟩
  · have hfirst : name ∉ (Table.keys told).filter fun n => n ∉ Table.keys context := fun hmem =>
      hbefore (List.mem_filter.mp hmem).1
    rw [Table.keys_append_singleton, h.keys, Table.keys_append_singleton, List.filter_append,
      List.append_assoc]
    simp only [List.filter_cons, hthere, not_false_eq_true, decide_true, if_true,
      List.filter_nil]
    rw [eraseDups_append_singleton, if_neg hfirst]
  · rw [Table.find?_append, h.found key, Table.find?_append]
    by_cases hkey : key = name
    · rw [hkey, Table.find?_eq_none name context hthere, Table.find?_eq_none name told hbefore]
      simp only [Table.find?, if_true, Option.none_or, Option.map_none, Option.map_some]
    · simp only [Table.find?, if_neg (Ne.symm hkey), Option.or_none]

/-- One more detail is told. -/
theorem putNew (h : Gained context told context') (name : String) (value : Value) :
    Gained context (told ++ [(name, value)])
      (Table.putNew name (redactValue name value) context') := by
  by_cases hknown : name ∈ Table.keys context'
  · rw [Table.putNew_of_mem_keys _ _ _ hknown]
    exact h.append_known name value hknown
  · rw [Table.putNew_of_notMem_keys _ _ _ hknown]
    exact h.append_new name value hknown

/-- Several more details are told. -/
theorem mergeDetails (h : Gained context told context') (details : Members) :
    Gained context (told ++ details) (AppError.mergeDetails context' (redact details)) := by
  induction details generalizing told context' with
  | nil =>
      rw [List.append_nil]
      exact h
  | cons entry rest ih =>
      have hrest := ih (h.putNew entry.1 entry.2)
      rw [List.append_assoc, List.singleton_append] at hrest
      exact hrest

end Gained

/-! ### One error -/

/-- The technical message of an error, or another one if it has none. -/
def AppError.explanation (e : AppError) (otherwise : String) : String :=
  match e.technicalMessage with
  | some s => if s.isEmpty then otherwise else s
  | none => otherwise

/-- Capturing changes the details and the technical message, and nothing else. -/
theorem capture_eq (x : Failure) (details : Members) :
    capture x details =
      { x.normalize with
        technicalMessage := some (x.normalize.explanation x.technical)
        context := AppError.mergeDetails x.normalize.context (redact details) } := by
  unfold capture AppError.fillTechnical AppError.explanation AppError.absorb
  cases htechnical : x.normalize.technicalMessage with
  | none => rfl
  | some s =>
      change (if s.isEmpty then _ else _) = _
      by_cases hempty : s.isEmpty
      · simp only [if_pos hempty]
      · simp only [if_neg hempty]

theorem context_capture (x : Failure) (details : Members) :
    (capture x details).context =
      AppError.mergeDetails x.normalize.context (redact details) := by
  rw [capture_eq]

/-- What a failure is told by is never empty. -/
theorem Failure.technical_ne_empty (x : Failure) : x.technical ≠ "" := by
  intro h
  rw [Failure.technical, String.append_eq_empty_iff, String.append_eq_empty_iff] at h
  exact absurd h.1.2 (by decide)

theorem AppError.explanation_ne_empty (e : AppError) (otherwise : String) (h : otherwise ≠ "") :
    e.explanation otherwise ≠ "" := by
  unfold explanation
  cases e.technicalMessage with
  | none => exact h
  | some s =>
      by_cases hempty : s.isEmpty
      · simp only [hempty, if_true]
        exact h
      · simp only [hempty]
        exact fun hs => hempty (String.isEmpty_iff.mpr hs)

theorem AppError.explanation_of_some (e : AppError) (otherwise s : String)
    (h : e.technicalMessage = some s) (hs : s ≠ "") : e.explanation otherwise = s := by
  have hempty : s.isEmpty = false := by
    rw [← Bool.not_eq_true, String.isEmpty_iff]
    exact hs
  simp only [explanation, h, hempty, Bool.false_eq_true, if_false]

/-- What an error is after it was reported several times, each time with some
    details. -/
structure AppError.Retold (e : AppError) (told : List Members) (e' : AppError) : Prop where
  kind : e'.kind = e.kind
  code : e'.code = e.code
  userMessage : e'.userMessage = e.userMessage
  severity : e'.severity = e.severity
  retriable : e'.retriable = e.retriable
  /-- A technical message stays, if there is one. -/
  technical : ∀ s, e.technicalMessage = some s → s ≠ "" → e'.technicalMessage = some s
  /-- There is one after the first report. -/
  explained : told ≠ [] → ∃ s, e'.technicalMessage = some s ∧ s ≠ ""
  context : Gained e.context told.flatten e'.context

theorem AppError.Retold.nil (e : AppError) : e.Retold [] e where
  kind := rfl
  code := rfl
  userMessage := rfl
  severity := rfl
  retriable := rfl
  technical _ hs _ := hs
  explained h := absurd rfl h
  context := .nil e.context

/-- One more report. -/
theorem AppError.Retold.capture {e e' : AppError} {told : List Members} (h : e.Retold told e')
    (details : Members) :
    e.Retold (told ++ [details]) (ManagerSignup.capture (.app e') details) := by
  rw [capture_eq]
  refine ⟨h.kind, h.code, h.userMessage, h.severity, h.retriable, fun s hs hne => ?_,
    fun _ => ?_, ?_⟩
  · exact congrArg some (e'.explanation_of_some _ s (h.technical s hs hne) hne)
  · exact ⟨_, rfl, e'.explanation_ne_empty _ (Failure.technical_ne_empty _)⟩
  · have hcontext := h.context.mergeDetails details
    rw [List.flatten_append, List.flatten_singleton]
    exact hcontext

/-! ### Calls on an error -/

namespace Casebook

/-- A report of what goes by a name, with details, announced or not. The error it
    is about goes by `target` afterwards. -/
structure Call where
  announces : Bool
  name : String
  details : Members
  target : String

/-- Making a report. -/
def perform (book : Casebook) (call : Call) : Option (Casebook × Captured) :=
  if call.announces then book.handle call.name call.details call.target
  else book.capture call.name call.details call.target

/-- What a call on the error with a number and a code answers: that error, which is
    announced once and written down once under its code, if it was to be. -/
structure Call.Answered (call : Call) (i : Nat) (code : ErrorCode) (raised : Bool)
    (answer : Captured) : Prop where
  number : answer.number = i
  isSame : answer.isSame
  announced : answer.announced = if call.announces then [i] else []
  log : if call.announces then
      ∃ message, answer.log = [⟨.error, .reports, message, some ⟨code.name, raised⟩⟩]
    else answer.log = []

/-- What several calls on the error with a number answer, and what they make of it:
    the error was `e` at first and is `e'` in the end. -/
structure Reported (book : Casebook) (i : Nat) (raised : Bool) (e : AppError)
    (calls : List Call) (after : Casebook) (e' : AppError) (answers : List Captured) : Prop where
  held : after.cases[i]? = some ⟨.app e', raised⟩
  retold : e.Retold (calls.map Call.details) e'
  /-- Each call answers with the error on its way from what it was to what it is. -/
  answered : ∀ before call later, calls = before ++ call :: later →
    ∃ answer, answers[before.length]? = some answer ∧ call.Answered i e.code raised answer ∧
      e.Retold (before.map Call.details ++ [call.details]) answer.error ∧
      answer.error.Retold (later.map Call.details) e'
  /-- It goes by the names that were given to it. -/
  named : ∀ call ∈ calls, after.number? call.target = some i
  /-- It still goes by the names it had. -/
  known : ∀ name, book.number? name = some i → after.number? name = some i
  length : answers.length = calls.length

/-- The casebook in which an error has become another and goes by one more name. -/
def amend (book : Casebook) (i : Nat) (e : AppError) (raised : Bool) (target : String) :
    Casebook :=
  { cases := book.cases.set i ⟨.app e, raised⟩, names := Table.put target i book.names }

theorem number?_amend (book : Casebook) (i : Nat) (e : AppError) (raised : Bool)
    (target name : String) :
    (book.amend i e raised target).number? name =
      if name = target then some i else book.number? name :=
  Table.find?_put target name i book.names

theorem cases_amend (book : Casebook) (i : Nat) (e e' : AppError) (raised : Bool)
    (target : String) (h : book.cases[i]? = some ⟨.app e, raised⟩) :
    (book.amend i e' raised target).cases[i]? = some ⟨.app e', raised⟩ := by
  have hlength := (List.getElem?_eq_some_iff.mp h).1
  exact List.getElem?_set_self hlength

section

variable (book : Casebook) (i : Nat) (e : AppError) (raised : Bool)

/-- Capturing an application error amends its case. -/
theorem capture_of_app (name : String) (details : Members) (target : String)
    (hname : book.number? name = some i) (hcase : book.cases[i]? = some ⟨.app e, raised⟩) :
    book.capture name details target =
      some (book.amend i (ManagerSignup.capture (.app e) details) raised target,
        ⟨i, ManagerSignup.capture (.app e) details, true, [], []⟩) := by
  simp only [capture, hname, hcase, Option.bind_eq_bind, Option.bind_some, settle, decide_true]
  rfl

/-- Handling it does the same, announces it and writes it down. -/
theorem handle_of_app (name : String) (details : Members) (target : String)
    (hname : book.number? name = some i) (hcase : book.cases[i]? = some ⟨.app e, raised⟩) :
    book.handle name details target =
      some (book.amend i (ManagerSignup.capture (.app e) details) raised target,
        ⟨i, ManagerSignup.capture (.app e) details, true, [i],
          [(ManagerSignup.capture (.app e) details).reportEntry raised]⟩) := by
  simp only [handle, hname, hcase, Option.bind_eq_bind, Option.bind_some, settle, decide_true]
  rfl

/-- A call on an application error returns, and answers with that error. -/
theorem perform_of_app (call : Call) (hname : book.number? call.name = some i)
    (hcase : book.cases[i]? = some ⟨.app e, raised⟩) :
    ∃ answer,
      book.perform call = some (book.amend i answer.error raised call.target, answer) ∧
      answer.error = ManagerSignup.capture (.app e) call.details ∧
      call.Answered i e.code raised answer := by
  have hcode : (ManagerSignup.capture (.app e) call.details).code = e.code := by
    rw [capture_eq]
    rfl
  unfold perform
  by_cases hannounces : call.announces
  · rw [if_pos hannounces, book.handle_of_app i e raised _ _ _ hname hcase]
    refine ⟨⟨i, _, true, [i], _⟩, rfl, rfl, ?_⟩
    constructor
    case number => rfl
    case isSame => rfl
    case announced => rw [if_pos hannounces]
    case log =>
      rw [if_pos hannounces, ← hcode]
      exact ⟨_, rfl⟩
  · rw [if_neg hannounces, book.capture_of_app i e raised _ _ _ hname hcase]
    refine ⟨⟨i, _, true, [], _⟩, rfl, rfl, ?_⟩
    constructor
    case number => rfl
    case isSame => rfl
    case announced => rw [if_neg hannounces]
    case log => rw [if_neg hannounces]

end

/-- An element of a list with one more element behind it is that element, or is in
    the list. -/
theorem split_append_singleton {calls before later : List Call} {call other : Call}
    (h : calls ++ [call] = before ++ other :: later) :
    (before = calls ∧ other = call ∧ later = []) ∨
      ∃ rest, later = rest ++ [call] ∧ calls = before ++ other :: rest := by
  cases later using List.reverseRecOn with
  | nil =>
      rcases List.append_inj' h rfl with ⟨hbefore, hother⟩
      exact Or.inl ⟨hbefore.symm, (List.cons.inj hother).1.symm, rfl⟩
  | append_singleton rest last =>
      rw [← List.cons_append, ← List.append_assoc] at h
      rcases List.append_inj' h rfl with ⟨hcalls, hlast⟩
      rw [(List.cons.inj hlast).1]
      exact Or.inr ⟨rest, rfl, hcalls⟩

theorem Reported.nil (book : Casebook) (i : Nat) (raised : Bool) (e : AppError)
    (hcase : book.cases[i]? = some ⟨.app e, raised⟩) :
    Reported book i raised e [] book e [] where
  held := hcase
  retold := .nil e
  answered before call later h := by
    have hlength := congrArg List.length h
    rw [List.length_nil, List.length_append, List.length_cons] at hlength
    omega
  named := nofun
  known _ h := h
  length := rfl

/-- One more call on the error. -/
theorem Reported.perform {book after : Casebook} {i : Nat} {raised : Bool} {e e' : AppError}
    {calls : List Call} {answers : List Captured}
    (h : Reported book i raised e calls after e' answers) (call : Call)
    (hname : after.number? call.name = some i) :
    ∃ last e'' answer, after.perform call = some (last, answer) ∧
      Reported book i raised e (calls ++ [call]) last e'' (answers ++ [answer]) := by
  rcases after.perform_of_app i e' raised call hname h.held with
    ⟨answer, hperform, herror, hanswered⟩
  have hretold := h.retold.capture call.details
  rw [← herror] at hretold
  rw [h.retold.code] at hanswered
  refine ⟨_, answer.error, answer, hperform, ?_⟩
  constructor
  case held => exact cases_amend after i e' answer.error raised call.target h.held
  case retold =>
    rw [List.map_append, List.map_singleton]
    exact hretold
  case answered =>
    intro before other later hcalls
    rcases split_append_singleton hcalls with ⟨rfl, rfl, rfl⟩ | ⟨rest, rfl, hearlier⟩
    · -- The last call answers with what was held before it, reported once more.
      refine ⟨answer, ?_, hanswered, hretold, .nil answer.error⟩
      rw [← h.length, List.getElem?_concat_length]
    · -- What an earlier one answered has one report more to go.
      rcases h.answered before other rest hearlier with
        ⟨earlier, hget, hcode, hfrom, honward⟩
      have hlength := (List.getElem?_eq_some_iff.mp hget).1
      refine ⟨earlier, ?_, hcode, hfrom, ?_⟩
      · rw [List.getElem?_append_left hlength, hget]
      · rw [List.map_append, List.map_singleton, herror]
        exact honward.capture call.details
  case named =>
    intro other hother
    rw [number?_amend]
    by_cases htarget : other.target = call.target
    · rw [if_pos htarget]
    · rw [if_neg htarget]
      rcases List.mem_append.mp hother with hbefore | hlast
      · exact h.named other hbefore
      · rw [List.mem_singleton.mp hlast] at htarget
        exact absurd rfl htarget
  case known =>
    intro name hknown
    rw [number?_amend, h.known name hknown, ite_self]
  case length => rw [List.length_append, List.length_append, h.length]; rfl

end Casebook

end ManagerSignup
