import ManagerSignup.Proofs.Capitals
import ManagerSignup.Proofs.HandedRecords

/-!
# Submitting a Record Again

A record that is entered the way it was handed over passes the checks again and
makes the same record.

What is handed over is not what was entered. The texts were trimmed, and the type of
document was put in capitals on top of that. Whoever enters what a server was handed
finds all of this done, and if any of it had something left to do, two servers could
end up with different records for one manager. For the guarded texts that is a matter
of blanks. The type of document is anything somebody may have typed, in any script,
and it is trimmed before it is put in capitals and not after. That the order makes no
difference to what comes out is a fact about capitals.

## Main definitions

* `Record.entries`: A record as it would be entered.
* `Record.Canonical`: A record to which nothing is left to be done.

## Theorems

* `Record.canonical_ofEntries`: Nothing is left to be done to a record that was made.
* `Record.Canonical.ofEntries_entries`: Such a record makes itself.
* `Record.checkEntries_entries_iff`: What the checks ask of a record.
* `Record.remade_from_entries`: A record that was handed over, entered again.
-/

namespace ManagerSignup

namespace Record

/-- A record as it would be entered: every text into its input, and the password
    twice. -/
def entries (r : Record) : Entries where
  text?
    | .guarded f => some (r.guarded f)
    | .password => some r.password
    | .confirmation => some r.password
    | .documentType => some r.documentType

/-- Nothing is left to be done to the texts of the record. -/
structure Canonical (r : Record) : Prop where
  guarded : ∀ f : Field, Text.trim (r.guarded f) = r.guarded f
  documentType : Text.upper (Text.trim r.documentType) = r.documentType

/-- Nothing is left to be done to a record that was made, whatever was entered. -/
theorem canonical_ofEntries (e : Entries) (organization : String) :
    (ofEntries e organization).Canonical where
  guarded f := by
    rw [guarded_ofEntries]
    exact Text.trim_of_bare _ (Text.bare_trim _)
  documentType := by
    change Text.upper (Text.trim (Text.upper (Text.trim (e.text .documentType)))) =
      Text.upper (Text.trim (e.text .documentType))
    -- Trimming comes first, so the capitals have no blanks at their ends either.
    have hbare := Text.bare_upper (Text.bare_trim (e.text .documentType))
    rw [Text.trim_of_bare _ hbare, Text.upper_upper]

/-- A record to which nothing is left to be done makes itself. -/
theorem Canonical.ofEntries_entries {r : Record} (h : r.Canonical) :
    ofEntries r.entries r.organization = r := by
  have hname : Text.trim r.name = r.name := h.guarded .name
  have husername : Text.trim r.username = r.username := h.guarded .username
  have hcode : Text.trim r.countryCode = r.countryCode := h.guarded .dialCode
  have hphone : Text.trim r.phone = r.phone := h.guarded .phoneNumber
  have hnumber : Text.trim r.documentNumber = r.documentNumber := h.guarded .documentNumber
  change Record.mk (Text.trim r.name) (Text.trim r.username) r.password
    (Text.trim r.countryCode) (Text.trim r.phone) (Text.upper (Text.trim r.documentType))
    (Text.trim r.documentNumber) r.organization = r
  rw [hname, husername, hcode, hphone, hnumber, h.documentType]

/-- The checks ask of a record, as it would be entered, that its guarded texts are
    complete. The password is its own confirmation. -/
theorem checkEntries_entries_iff (r : Record) :
    checkEntries r.entries = .ok () ↔ ∀ f : Field, f.complete (Text.trim (r.guarded f)) := by
  rw [checkEntries_eq_ok_iff]
  exact and_iff_right (decide_eq_true rfl)

/-- What passed the checks, entered again as it was handed over, passes them again
    and makes the record that was handed over. -/
theorem remade_from_entries (e : Entries) (organization : String)
    (h : checkEntries e = .ok ()) :
    checkEntries (ofEntries e organization).entries = .ok () ∧
      ofEntries (ofEntries e organization).entries organization = ofEntries e organization := by
  have hcanonical := canonical_ofEntries e organization
  refine ⟨?_, hcanonical.ofEntries_entries⟩
  rw [checkEntries_entries_iff]
  intro f
  rw [hcanonical.guarded f, guarded_ofEntries]
  exact ((checkEntries_eq_ok_iff e).mp h).2 f

/-- Texts with blanks of several kinds around them, and a type of document whose
    capitals are longer than it is. -/
def paddedEntries : Entries where
  text?
    | .guarded .name => some ['\u00a0', 'A', 'n', 'a', ' ', 'B', ' ']
    | .guarded .username => some ['a', '.', 'b', '\n']
    | .guarded .documentNumber => some ['\u2003', '1', '0', '5']
    | .guarded .dialCode => some ['+', '5', '7']
    | .guarded .phoneNumber => some [' ', '3', '0', '0', '1', '2', '3', '4', '5', '6', '7', ' ']
    | .password => some [' ', 'p', 'w']
    | .confirmation => some [' ', 'p', 'w']
    | .documentType => some ['\u3000', 'ß', 'ǰ', '\u0085']

theorem remade_from_entries_paddedEntries :
    checkEntries paddedEntries = .ok () ∧
      (ofEntries paddedEntries "Acme").documentType = ['S', 'S', 'J', '\u030c'] ∧
      ofEntries (ofEntries paddedEntries "Acme").entries "Acme" =
        ofEntries paddedEntries "Acme" := by
  have hpasses : checkEntries paddedEntries = .ok () := by
    rw [checkEntries_eq_ok_iff_sound]
    decide +kernel
  exact ⟨hpasses, by decide +kernel, (remade_from_entries paddedEntries "Acme" hpasses).2⟩

end Record

end ManagerSignup
