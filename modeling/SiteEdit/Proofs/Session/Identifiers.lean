import SiteEdit.Limit.Key
import SiteEdit.Proofs.Audit.Window
import SiteEdit.Proofs.Policy.Payloads
import SiteEdit.Proofs.Policy.Words
import SiteEdit.Session.Manager
/-!
# Identifiers in the log

Sessions and snapshots are known by random identifiers, and entries name them.  What an entry carries is redacted, and
the rules for cards and phones look for digits in the middle of a word, too: an entry names what it is about exactly if
none of the identifiers in it happens to show such a number (`recorded_names_iff`).
-/
namespace SiteEdit

open Policy (Joins Redactor ShowsNumber)

/-- What an identifier is given to. -/
inductive Identified where
  | session
  | snapshot
  deriving DecidableEq, Repr

/-- The word that its identifiers begin with. -/
def Identified.word : Identified → String
  | .session => "sess"
  | .snapshot => "snap"

def hexDigits : List Char := "0123456789abcdef".toList

/-- An identifier as it is made: a word, an underscore and 32 hexadecimal digits. -/
structure Identifier where
  kind : Identified
  digits : List Char
  length_digits : digits.length = 32
  hex : digits.all hexDigits.contains = true

namespace Identifier

variable {ids : List Identifier} {v : Json}

def text (i : Identifier) : String := String.ofList (i.kind.word.toList ++ '_' :: i.digits)

/-- The text of the key that the requests of a session are counted under. -/
def keyText (i : Identifier) : String := (Limit.Key.session i.text).text

/-! ## Single identifiers -/

theorem joins (i : Identifier) {word : List Char} (hw : word.all Policy.letters.contains = true)
    (hl : word.length < 40) : Joins word i.digits where
  word_mem c hc := List.contains_iff_mem.1 (List.all_eq_true.1 hw c hc)
  digits_mem c hc := by
    have hall : hexDigits.all (Policy.decimals ++ Policy.letters).contains = true := by decide
    have hhex := List.contains_iff_mem.1 (List.all_eq_true.1 i.hex c hc)
    exact List.contains_iff_mem.1 (List.all_eq_true.1 hall c hhex)
  word_short := hl
  digits_short := by
    rw [i.length_digits]
    decide

/-- Redaction leaves an identifier as it is exactly if its digits show no number. -/
theorem redact_text_iff (i : Identifier) :
    Redactor.builtin.redact i.text = ⟨i.text, []⟩ ↔ ¬ ShowsNumber i.digits := by
  have hjoins : Joins i.kind.word.toList i.digits := by
    cases hk : i.kind <;> exact i.joins (by decide) (by decide)
  exact hjoins.redact_eq_self_iff String.toList_ofList

theorem redact_keyText_iff (i : Identifier) :
    Redactor.builtin.redact i.keyText = ⟨i.keyText, []⟩ ↔ ¬ ShowsNumber i.digits := by
  have hjoins : Joins ("session:" ++ i.kind.word).toList i.digits := by
    cases hk : i.kind <;> exact i.joins (by decide) (by decide)
  refine hjoins.redact_eq_self_iff ?_
  simp [keyText, Limit.Key.text, Limit.Key.session, Limit.Dimension.name, text, String.toList_append]

/-! ## Fields of entries -/

/-- The values that entries name something by: an identifier, the key of a session, or a list of identifiers. -/
inductive Names : List Identifier → Json → Prop where
  | one (i : Identifier) : Names [i] (.str i.text)
  | key (i : Identifier) : Names [i] (.str i.keyText)
  | many (ids : List Identifier) : Names ids (Json.ofStrings (ids.map text))

theorem Names.redactJson_eq_self_iff (h : Names ids v) :
    Redactor.builtin.redactJson v = v ↔ ∀ i ∈ ids, ¬ ShowsNumber i.digits := by
  have hkept {t : String} : Redactor.builtin.redactText t = t ↔ Redactor.builtin.redact t = ⟨t, []⟩ :=
    Redactor.redactText_eq_self_iff _ t Policy.builtin_tame
  cases h with
  | one i =>
    rw [Redactor.redactJson_str_eq_self_iff, hkept, redact_text_iff, List.forall_mem_singleton]
  | key i =>
    rw [Redactor.redactJson_str_eq_self_iff, hkept, redact_keyText_iff, List.forall_mem_singleton]
  | many ids =>
    rw [Redactor.redactJson_ofStrings_eq_self_iff, List.forall_mem_map]
    exact forall₂_congr fun i _ => hkept.trans i.redact_text_iff

/-- **Redaction leaves an identifier as it is exactly if its digits show no number.**  What was recorded of an event has
the value of a member that names something by identifiers exactly if that holds for all of them. -/
theorem recorded_names_iff (i : Identifier) :
    (Redactor.builtin.redact i.text = ⟨i.text, []⟩ ↔ ¬ ShowsNumber i.digits) ∧
      ∀ (n : Nat) (now : Millis) (e : Audit.Event) (ms : List (String × Json)), e.data = Json.object ms →
        (∀ m ∈ ms, Redactor.builtin.redactText m.1 = m.1) →
        ∀ (field : String) (ids : List Identifier) (v : Json), ms.reverse.lookup field = some v → Names ids v →
          ((Audit.Entry.recorded n (now, e)).data.get? field = some v ↔ ∀ j ∈ ids, ¬ ShowsNumber j.digits) := by
  refine ⟨i.redact_text_iff, fun n now e ms he hms field ids v hv hnames => ?_⟩
  simp only [Audit.Entry.recorded, he]
  rw [Redactor.get?_redactJson_object hms, hv, Option.map_some, Option.some.injEq,
    hnames.redactJson_eq_self_iff]

/-- A snapshot is taken, and an older one is pushed out whose identifier shows the number of a phone. -/
theorem recorded_names_iff_pushed :
    let taken : Identifier := ⟨.snapshot, "0123456789abcdef0123456789abcdef".toList, by decide, by decide⟩
    let pushed : Identifier := ⟨.snapshot, "13812345678a4aaa8aaaaaaaaaaaaaaa".toList, by decide, by decide⟩
    let ms := [("snapshot_id", Json.str taken.text), ("changes", Json.ofNat 1),
      ("evicted", Json.ofStrings [pushed.text])]
    let data := (Audit.Entry.recorded 7 (0, Session.Manager.note "snapshot_created" "sess" ms)).data
    Redactor.builtin.redact taken.text = ⟨taken.text, []⟩ ∧ (∀ m ∈ ms, Redactor.builtin.redactText m.1 = m.1) ∧
      data.get? "snapshot_id" = some (.str taken.text) ∧
      data.get? "evicted" ≠ some (Json.ofStrings [pushed.text]) := by
  intro taken pushed ms data
  have hnames : (ms.map Prod.fst).all Policy.isName = true := by decide
  have hms : ∀ m ∈ ms, Redactor.builtin.redactText m.1 = m.1 := fun m hm =>
    Policy.redactText_names hnames m.1 (List.mem_map_of_mem hm)
  have hno : ¬ ShowsNumber taken.digits := by decide
  obtain ⟨hkept, hrecorded⟩ := recorded_names_iff taken
  have hfields := hrecorded 7 0 (Session.Manager.note "snapshot_created" "sess" ms) ms rfl hms
  have htaken := hfields "snapshot_id" [taken] _ rfl (.one taken)
  have hpushed := hfields "evicted" [pushed] _ rfl (.many [pushed])
  rw [List.forall_mem_singleton] at htaken hpushed
  exact ⟨hkept.2 hno, hms, htaken.2 hno, fun h => absurd (hpushed.1 h) (by decide)⟩

/-- There are identifiers that redaction changes. -/
theorem identifier_masked : ¬ ∀ i : Identifier, Redactor.builtin.redact i.text = ⟨i.text, []⟩ := by
  intro h
  let i : Identifier := ⟨.session, "13812345678a4aaa8aaaaaaaaaaaaaaa".toList, by decide, by decide⟩
  have hshows : ShowsNumber i.digits := by decide
  exact i.redact_text_iff.1 (h i) hshows

end Identifier

end SiteEdit
