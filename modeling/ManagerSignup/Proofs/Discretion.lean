import ManagerSignup.Proofs.HandedRecords

/-!
# What Is Told of the Passwords

Of a password and its confirmation nothing is told but whether they are the same.

A submission leaves traces in many places. A fault names a field and quotes its
value, the journal names the user, the reply repeats what the backend made of the
record. Whether a password is in any of them cannot be seen from one run, since
every text in a trace might have come from there. It is seen from two. If the
passwords of every submission are exchanged for others and no trace changes, no
trace holds a password.

Two runs are compared submission by submission. That is possible because they
never part: a submission is refused in both or in neither, and when it is not, both
hand over a record, so that the backend has been handed equally many before the
next. Whether the passwords match is the one thing the user is told about them, so
it is what the two runs have to have in common.

What a backend replies is its own affair. One that answers without looking at the
password is called discreet here, and the backend that sends nothing is.

## Main definitions

* `Entries.Alike`: Entries that differ in their passwords at most.
* `Record.masked`: A record without its password.
* `Outcome.Alike`: Outcomes that tell the same.
* `Backend.Discreet`: A backend that does not look at passwords.

## Theorems

* `checkEntries_of_alike`: The same fault is found in either.
* `Record.masked_ofEntries_of_alike`: The same record is made, but for its
  password.
* `Backend.discreet_dryRun`: The backend that sends nothing is discreet.
* `alike_submit`, `alike_submitAll`: One submission and several, to any discreet
  backend.
* `told_submitAll_of_alike`: What several submissions tell.
-/

namespace ManagerSignup

/-- Entries that differ in the password and its confirmation at most, and in which
    the two match or do not match alike. -/
structure Entries.Alike (e e' : Entries) : Prop where
  text : ∀ i : Input, i ≠ .password → i ≠ .confirmation → e.text i = e'.text i
  matching : e.text .password = e.text .confirmation ↔ e'.text .password = e'.text .confirmation

/-- A record without its password. -/
def Record.masked (r : Record) : Record :=
  { r with password := [] }

/-- Outcomes that tell the same, and hand over the same but for a password. -/
structure Outcome.Alike (o o' : Outcome) : Prop where
  result : o.result = o'.result
  log : o.log = o'.log
  sent : o.sent.map Record.masked = o'.sent.map Record.masked

/-- A backend that does not look at passwords: its answer would be the same with
    another. -/
def Backend.Discreet (backend : Backend) : Prop :=
  ∀ calls r r', r.masked = r'.masked → backend.answer calls r = backend.answer calls r'

/-! ### One submission -/

theorem Entries.Alike.guarded {e e' : Entries} (h : e.Alike e') (f : Field) :
    e.text (.guarded f) = e'.text (.guarded f) :=
  h.text (.guarded f) nofun nofun

theorem Entries.Alike.passwordsMatch {e e' : Entries} (h : e.Alike e') :
    e.passwordsMatch = e'.passwordsMatch :=
  decide_eq_decide.mpr h.matching

/-- The checks of the fields see no password. -/
theorem checkFields_of_alike {e e' : Entries} (h : e.Alike e') (fields : List Field) :
    checkFields e fields = checkFields e' fields := by
  induction fields with
  | nil => rfl
  | cons f rest ih => rw [checkFields, checkFields, h.guarded f, ih]

/-- The same fault is found, with the same message and the same details, or none. -/
theorem checkEntries_of_alike {e e' : Entries} (h : e.Alike e') :
    checkEntries e = checkEntries e' := by
  rw [checkEntries, checkEntries, h.passwordsMatch, checkFields_of_alike h]

theorem Record.masked_ofEntries_of_alike {e e' : Entries} (h : e.Alike e')
    (organization : String) :
    (Record.ofEntries e organization).masked = (Record.ofEntries e' organization).masked := by
  have htype : e.text .documentType = e'.text .documentType := h.text _ nofun nofun
  simp only [masked, ofEntries, h.guarded, htype]

/-- The user's name is not the password, so it may be told. -/
theorem Record.username_eq_of_masked {r r' : Record} (h : r.masked = r'.masked) :
    r.username = r'.username := by
  have hname := congrArg Record.username h
  exact hname

/-- The backend that sends nothing writes down the user's name, and replies with it. -/
theorem Backend.discreet_dryRun : Backend.dryRun.Discreet := by
  intro calls r r' h
  change dryAnswer r = dryAnswer r'
  rw [dryAnswer, dryAnswer, Record.username_eq_of_masked h]

/-- One submission tells the same whatever the passwords are. -/
theorem alike_submit {e e' : Entries} (h : e.Alike e') (organization : String)
    (backend : Backend) (hdiscreet : backend.Discreet) (calls : Nat) :
    (submit e organization backend calls).Alike (submit e' organization backend calls) := by
  cases hcheck : checkEntries e with
  | error fault =>
      have hcheck' : checkEntries e' = .error fault := (checkEntries_of_alike h).symm.trans hcheck
      rw [submit_of_error e organization backend calls hcheck,
        submit_of_error e' organization backend calls hcheck']
      exact ⟨rfl, rfl, rfl⟩
  | ok u =>
      have hcheck' : checkEntries e' = .ok u := (checkEntries_of_alike h).symm.trans hcheck
      have hrecord := Record.masked_ofEntries_of_alike h organization
      have hname := Record.username_eq_of_masked hrecord
      have hanswer := hdiscreet calls _ _ hrecord
      -- Both hand a record over, get the same answer, and log it under the same name.
      unfold submit
      rw [hcheck, hcheck']
      simp only [hanswer, hname]
      cases backend.answer calls (Record.ofEntries e' organization) with
      | reply message log => exact ⟨rfl, rfl, congrArg some hrecord⟩
      | fail x => exact ⟨rfl, rfl, congrArg some hrecord⟩

/-! ### Several submissions -/

/-- Alike outcomes bother the backend equally often. -/
theorem Outcome.Alike.length_sent {o o' : Outcome} (h : o.Alike o') :
    o.sent.toList.length = o'.sent.toList.length := by
  have hsome := congrArg Option.isSome h.sent
  rw [Option.isSome_map, Option.isSome_map] at hsome
  rw [Option.length_toList, Option.length_toList, hsome]

/-- Submissions whose passwords are exchanged for others that match or do not match
    alike have alike outcomes, one by one. -/
theorem alike_submitAll (organization : String) (backend : Backend)
    (hdiscreet : backend.Discreet) {es es' : List Entries}
    (h : List.Forall₂ Entries.Alike es es') (calls : Nat) :
    List.Forall₂ Outcome.Alike (submitAll organization backend calls es)
      (submitAll organization backend calls es') := by
  induction h generalizing calls with
  | nil => exact .nil
  | cons hfirst _ ih =>
      have houtcome := alike_submit hfirst organization backend hdiscreet calls
      -- The backend was handed equally many records before the rest, so the runs stay together.
      rw [submitAll, submitAll, houtcome.length_sent]
      exact .cons houtcome (ih _)

/-- What is the same of alike things one by one is the same of all of them. -/
theorem map_eq_map_of_forall₂ {α β : Type} {R : α → α → Prop} (view : α → β)
    (hview : ∀ a a', R a a' → view a = view a') {l l' : List α} (h : List.Forall₂ R l l') :
    l.map view = l'.map view := by
  induction h with
  | nil => rfl
  | cons hfirst _ ih => rw [List.map_cons, List.map_cons, hview _ _ hfirst, ih]

theorem map_masked_received (os : List Outcome) :
    (received os).map Record.masked = (os.map fun o => o.sent.map Record.masked).filterMap id := by
  rw [received, List.map_filterMap, List.filterMap_map]
  rfl

/-- A run of submissions to the backend that sends nothing tells the same whatever
    the passwords are: the same replies and faults, with all their details, the
    same lines in the journal, and records that are the same but for their
    password. -/
theorem told_submitAll_of_alike (organization : String) (calls : Nat) (es es' : List Entries)
    (h : List.Forall₂ Entries.Alike es es') :
    (submitAll organization .dryRun calls es).map Outcome.result =
        (submitAll organization .dryRun calls es').map Outcome.result ∧
      (submitAll organization .dryRun calls es).map Outcome.log =
        (submitAll organization .dryRun calls es').map Outcome.log ∧
      (received (submitAll organization .dryRun calls es)).map Record.masked =
        (received (submitAll organization .dryRun calls es')).map Record.masked := by
  have halike := alike_submitAll organization .dryRun Backend.discreet_dryRun h calls
  refine ⟨?_, ?_, ?_⟩
  · exact map_eq_map_of_forall₂ Outcome.result (fun _ _ ho => ho.result) halike
  · exact map_eq_map_of_forall₂ Outcome.log (fun _ _ ho => ho.log) halike
  · rw [map_masked_received, map_masked_received,
      map_eq_map_of_forall₂ (fun o => o.sent.map Record.masked) (fun _ _ ho => ho.sent) halike]

/-- What was entered under a name, with a password and its confirmation. -/
def enteredBy (name password confirmation : Text) : Entries :=
  ⟨fun
    | .guarded .name => some name
    | .guarded .username => some ['a', '.', 'b']
    | .guarded .documentNumber => some ['1', '0', '5']
    | .guarded .dialCode => some ['+', '5', '7']
    | .guarded .phoneNumber => some ['3', '0', '0', '1', '2', '3', '4', '5', '6', '7']
    | .password => some password
    | .confirmation => some confirmation
    | .documentType => none⟩

/-- A sound submission, one that does not repeat its password, and one without a
    name. -/
def submissionsWith (password other : Text) : List Entries :=
  [enteredBy ['A', 'n', 'a'] password password, enteredBy ['A', 'n', 'a'] password other,
    enteredBy [] password password]

theorem alike_enteredBy (name password confirmation password' confirmation' : Text)
    (h : password = confirmation ↔ password' = confirmation') :
    (enteredBy name password confirmation).Alike (enteredBy name password' confirmation') where
  text i hpassword hconfirmation := by
    cases i with
    | guarded f => cases f <;> rfl
    | password => exact absurd rfl hpassword
    | confirmation => exact absurd rfl hconfirmation
    | documentType => rfl
  matching := h

/-- Two runs with different passwords, in which one submission of three is sound. -/
theorem told_submitAll_of_alike_submissionsWith :
    List.Forall₂ Entries.Alike (submissionsWith ['o', 'n', 'e'] ['t', 'w', 'o'])
        (submissionsWith ['s', 'e', 'c', 'r', 'e', 't'] []) ∧
      (submitAll "Acme" .dryRun 0 (submissionsWith ['o', 'n', 'e'] ['t', 'w', 'o'])).map
          Outcome.log =
        (submitAll "Acme" .dryRun 0 (submissionsWith ['s', 'e', 'c', 'r', 'e', 't'] [])).map
          Outcome.log ∧
      (received (submitAll "Acme" .dryRun 0
        (submissionsWith ['o', 'n', 'e'] ['t', 'w', 'o']))).map Record.password =
          [['o', 'n', 'e']] := by
  have halike : List.Forall₂ Entries.Alike (submissionsWith ['o', 'n', 'e'] ['t', 'w', 'o'])
      (submissionsWith ['s', 'e', 'c', 'r', 'e', 't'] []) :=
    .cons (alike_enteredBy _ _ _ _ _ (by decide))
      (.cons (alike_enteredBy _ _ _ _ _ (by decide))
        (.cons (alike_enteredBy _ _ _ _ _ (by decide)) .nil))
  exact ⟨halike, (told_submitAll_of_alike "Acme" 0 _ _ halike).2.1, by decide +kernel⟩

end ManagerSignup
