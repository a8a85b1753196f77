import ManagerSignup.Proofs.Redacting
import ManagerSignup.Proofs.Reporting

/-!
# What Is Told of a Secret

Of a detail whose name speaks of a secret nothing is told but that it was there.

That the value is replaced can be seen in one report. That nothing of it is left can
not: a text in the error, in the journal or in what is announced may have come from
anywhere. It takes two reports. They are of the same failure, and their details have
the same names in the same order and the same values, except that under the names that
speak of a secret anything may stand in the one and anything else in the other. If
nobody can tell the reports apart, nothing comes from there.

And nobody can, because both are the same after the first thing that is done to them.
What is done later sees the details only as they were written down, so it does not
matter what the failure is, what the error already knows, or whether its own details
have some of the same names. What the error knew stays, and where it knew nothing the
mark of a secret is put.

A value under such a name may be of any kind, not only of the kinds that can be written
into a record. So the details here have values of a type that is not looked at, and a
text for each. That is all a report can use of them (`handle_eq_handleBy`).

## Main definitions

* `AlikeButSecrets`: Details that differ in what is secret at most.
* `handleBy`, `Casebook.handleBy`: Reporting with details of any kind.
* `staleSession`, `lastDetails`, `otherSecrets`: An error that knows a secret of its own,
  and two ways to report it.

## Theorems

* `redactBy_of_alike`: The same is written down.
* `handle_of_redact`, `Casebook.handle_of_redact`: A report sees what was written down.
* `handle_eq_handleBy`: The details of an error are a case of details of any kind.
* `find?_handleBy_of_speaksOfSecret`: What a report shows where a secret was told.
* `secrets_are_not_told`: No report tells a secret.
-/

namespace ManagerSignup

section

variable {α : Type} {details others : Table String α}

/-- Details with the same names in the same order, the values of which differ at most
    under names that speak of a secret. -/
def AlikeButSecrets (details others : Table String α) : Prop :=
  List.Forall₂
    (fun detail other => other.1 = detail.1 ∧
      (¬SpeaksOfSecret detail.1 → other.2 = detail.2))
    details others

/-! ### What is written down -/

theorem redactBy_of_alike (textOf : α → Text) (h : AlikeButSecrets details others) :
    redactBy textOf others = redactBy textOf details := by
  induction h with
  | nil => rfl
  | @cons detail other details others hfirst _ ih =>
      rcases hfirst with ⟨hname, hvalue⟩
      have hwritten : redactText other.1 (textOf other.2) =
          redactText detail.1 (textOf detail.2) := by
        rw [hname]
        by_cases hsecret : SpeaksOfSecret detail.1
        · rw [redactText_of_speaksOfSecret hsecret, redactText_of_speaksOfSecret hsecret]
        · rw [hvalue hsecret]
      change (other.1, redactText other.1 (textOf other.2)) :: redactBy textOf others =
        (detail.1, redactText detail.1 (textOf detail.2)) :: redactBy textOf details
      rw [ih, hwritten, hname]

/-- What was written down of details of any kind is written down of it again. -/
theorem redact_asMembers_redactBy (textOf : α → Text) (details : Table String α) :
    redact (asMembers (redactBy textOf details)) = asMembers (redactBy textOf details) := by
  rw [redact_eq_redactBy, redactBy_asMembers, redactBy_redactBy]

/-! ### What a report sees -/

theorem capture_of_redact {details others : Members} (h : redact others = redact details)
    (x : Failure) : capture x others = capture x details := by
  rw [capture, capture, h]

theorem handle_of_redact {details others : Members} (h : redact others = redact details)
    (x : Failure) (raised : Bool) : handle x raised others = handle x raised details := by
  rw [handle, handle, capture_of_redact h]

theorem Casebook.handle_of_redact {details others : Members} (h : redact others = redact details)
    (book : Casebook) (name target : String) :
    book.handle name others target = book.handle name details target := by
  simp only [handle, ManagerSignup.handle_of_redact h]

/-- Reporting with details of any kind, each of which has a text. -/
def handleBy (textOf : α → Text) (x : Failure) (raised : Bool) (details : Table String α) :
    Report :=
  handle x raised (asMembers (redactBy textOf details))

/-- The same for a failure that goes by a name. -/
def Casebook.handleBy (book : Casebook) (textOf : α → Text) (name : String)
    (details : Table String α) (target : String) : Option (Casebook × Captured) :=
  book.handle name (asMembers (redactBy textOf details)) target

/-- The details of an error are a case of details of any kind. -/
theorem handle_eq_handleBy (x : Failure) (raised : Bool) (details : Members) :
    handle x raised details = handleBy Value.plain x raised details := by
  refine (handle_of_redact ?_ x raised).symm
  rw [redact_asMembers_redactBy, redact_eq_redactBy]

theorem Casebook.handle_eq_handleBy (book : Casebook) (name : String) (details : Members)
    (target : String) :
    book.handle name details target = book.handleBy Value.plain name details target := by
  refine (Casebook.handle_of_redact ?_ book name target).symm
  rw [redact_asMembers_redactBy, redact_eq_redactBy]

/-! ### What a report shows -/

theorem keys_asMembers_redactBy (textOf : α → Text) (details : Table String α) :
    Table.keys (asMembers (redactBy textOf details)) = Table.keys details := by
  rw [Table.keys, Table.keys, asMembers, redactBy, List.map_map, List.map_map]
  rfl

/-- Where a secret was told, a report shows what the error knew before, and if it knew
    nothing, that there is a secret. -/
theorem find?_handleBy_of_speaksOfSecret (textOf : α → Text) (x : Failure) (raised : Bool)
    (details : Table String α) {key : String} (h : SpeaksOfSecret key) :
    Table.find? key (handleBy textOf x raised details).error.context =
      (Table.find? key x.normalize.context).or
        (if key ∈ Table.keys details then some (.text redactedMark) else none) := by
  -- What the error knew comes first, and what was told is only found where it knew nothing.
  have hgained := (Gained.nil x.normalize.context).mergeDetails
    (asMembers (redactBy textOf details))
  rw [← context_capture, List.nil_append] at hgained
  change Table.find? key (capture x (asMembers (redactBy textOf details))).context = _
  rw [hgained.found key]
  congr 1
  rw [← keys_asMembers_redactBy textOf]
  by_cases htold : key ∈ Table.keys (asMembers (redactBy textOf details))
  · rcases Table.exists_find?_of_mem_keys key _ htold with ⟨value, hvalue⟩
    rw [hvalue, if_pos htold, Option.map_some, redactValue,
      if_pos ((isSecretName_iff key).mpr h)]
  · rw [Table.find?_eq_none key _ htold, if_neg htold, Option.map_none]

/-- Two reports of a failure with details that differ in what is secret at most are the
    same: the error, the lines in the journal, and what is announced and goes by which
    name afterwards. In either, the mark of a secret is all that stands under a name that
    speaks of one, unless the error had such a detail before. The details of an error are
    reported in this way. -/
theorem secrets_are_not_told (textOf : α → Text) {details others : Table String α}
    (h : AlikeButSecrets details others) (x : Failure) (raised : Bool) (book : Casebook)
    (name target : String) :
    handleBy textOf x raised others = handleBy textOf x raised details ∧
      book.handleBy textOf name others target = book.handleBy textOf name details target ∧
      (∀ key, SpeaksOfSecret key →
        Table.find? key (handleBy textOf x raised details).error.context =
          (Table.find? key x.normalize.context).or
            (if key ∈ Table.keys details then some (.text redactedMark) else none)) ∧
      ∀ members : Members, handle x raised members = handleBy Value.plain x raised members ∧
        book.handle name members target = book.handleBy Value.plain name members target := by
  have hwritten := redactBy_of_alike textOf h
  refine ⟨?_, ?_, fun key hkey => find?_handleBy_of_speaksOfSecret textOf x raised details hkey,
    fun members => ⟨handle_eq_handleBy x raised members,
      book.handle_eq_handleBy name members target⟩⟩
  · rw [handleBy, handleBy, hwritten]
  · rw [Casebook.handleBy, Casebook.handleBy, hwritten]

end

/-- A failed check that already knows a secret under one name. -/
def staleSession : Failure :=
  .app { (AppError.ofCheck .passwordMismatch "Passwords do not match." "confirm_password") with
    context := [("session_token", .text "seen before")] }

/-- What is told of a session that has ended. -/
def lastDetails : Members :=
  [("session_token", .text "abc"), ("attempt", .int 2), ("API-Key", .list [.null, .int 4])]

/-- The same with other secrets: an object, and a text that is too long. -/
def otherSecrets : Members :=
  [("session_token", .object [("key", .null)]), ("attempt", .int 2),
    ("API-Key", .text (Text.toString (List.replicate 300 'k')))]

theorem alikeButSecrets_otherSecrets : AlikeButSecrets lastDetails otherSecrets := by
  have hsession : SpeaksOfSecret "session_token" := by
    rw [← isSecretName_iff]
    decide +kernel
  have hkey : SpeaksOfSecret "API-Key" := by
    rw [← isSecretName_iff]
    decide +kernel
  exact .cons ⟨rfl, fun h => absurd hsession h⟩ (.cons ⟨rfl, fun _ => rfl⟩
    (.cons ⟨rfl, fun h => absurd hkey h⟩ .nil))

/-- Nobody can tell which of them were told. What the error knew of its session stays, and
    of the other secret there is the mark. -/
theorem secrets_are_not_told_otherSecrets :
    AlikeButSecrets lastDetails otherSecrets ∧
      handle staleSession true otherSecrets = handle staleSession true lastDetails ∧
      Table.find? "session_token" (handle staleSession true lastDetails).error.context =
        some (.text "seen before") ∧
      Table.find? "API-Key" (handle staleSession true lastDetails).error.context =
        some (.text redactedMark) := by
  rcases secrets_are_not_told Value.plain alikeButSecrets_otherSecrets staleSession true .empty
    "mismatch" "mismatch" with ⟨hsame, -, hshown, -⟩
  rw [← handle_eq_handleBy, ← handle_eq_handleBy] at hsame
  rw [← handle_eq_handleBy] at hshown
  refine ⟨alikeButSecrets_otherSecrets, hsame, ?_, ?_⟩
  · rw [hshown _ ((isSecretName_iff _).mp (by decide +kernel))]
    rfl
  · rw [hshown _ ((isSecretName_iff _).mp (by decide +kernel))]
    rfl

end ManagerSignup
