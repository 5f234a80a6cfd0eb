import SiteEdit.Proofs.Engine.Outcome
import SiteEdit.Proofs.Engine.Screening
/-!
# Stored documents are accepted again

The document of a request is checked as it is, and a value is checked as the document that it holds; on what the rules
find in a text both checks come to the same (`understand_cases`).  A request stores no document but one that it
understood, so whatever is stored in a run would be accepted as a value (`Vetted.after`).
-/
namespace SiteEdit.Engine

open Audit (Audited)
open Session (Manager)

/-- A refusal for a document, by the schema or by the policy. -/
inductive Refusal.OfDocument : Refusal → Prop where
  | malformed (report : Schema.Report) : OfDocument (.malformed report)
  | document (verdict : Policy.DocumentVerdict) : OfDocument (.document verdict)

variable {screen : Policy.Screen} {text : String} {d : Document} {refusal : Refusal}

/-! ## The two checks -/

theorem understand_of_parse? (ht : (screen.checkText text).safe = true) (hd : Request.parse? text = some d) :
    understand screen text = validateDocument screen d.toValue := by
  have htext : checkText screen text = .ok () := if_pos ht
  have hread : readText text = .ok d := by
    unfold readText
    rw [hd]
  rw [understand, htext, hread, validateDocument_toValue]
  rfl

/-- A text is refused before the rules find a document in it, or the value of that document is checked. -/
theorem understand_cases (screen : Policy.Screen) (text : String) :
    (∃ verdict, understand screen text = .error (.text verdict)) ∨ understand screen text = .error .unrecognized ∨
      ∃ d, (screen.checkText text).safe = true ∧ Request.parse? text = some d ∧
        understand screen text = validateDocument screen d.toValue := by
  by_cases ht : (screen.checkText text).safe = true
  · cases hd : Request.parse? text with
    | none =>
      rw [understand_eq, if_pos ht, hd]
      exact .inr (.inl rfl)
    | some d => exact .inr (.inr ⟨d, ht, rfl, understand_of_parse? ht hd⟩)
  · rw [understand_eq, if_neg ht]
    exact .inl ⟨_, rfl⟩

theorem understand_eq_error_iff (hr : refusal.OfDocument) : understand screen text = .error refusal ↔
    (screen.checkText text).safe = true ∧ ∃ d, Request.parse? text = some d ∧
      validateDocument screen d.toValue = .error refusal := by
  constructor
  · intro h
    rcases understand_cases screen text with ⟨verdict, ht⟩ | ht | ⟨d, hs, hd, ht⟩
    · rw [h] at ht
      cases ht
      cases hr
    · rw [h] at ht
      cases ht
      cases hr
    · exact ⟨hs, d, hd, ht.symm.trans h⟩
  · rintro ⟨hs, d, hd, h⟩
    exact (understand_of_parse? hs hd).trans h

theorem validateDocument_of_understand (h : understand screen text = .ok d) :
    validateDocument screen d.toValue = .ok d := by
  rcases understand_cases screen text with ⟨verdict, ht⟩ | ht | ⟨d', -, -, ht⟩
  · rw [h] at ht
    cases ht
  · rw [h] at ht
    cases ht
  · have hv : validateDocument screen d'.toValue = .ok d := ht.symm.trans h
    obtain rfl := eq_of_validateDocument hv
    exact hv

/-! ## The document of a request -/

theorem createSnapshot_document {m : Manager} {now : Millis} {fresh id : String} {note : Option String} {s : Snapshot}
    (h : (m.createSnapshot now fresh id d note).result = .ok s) : s.document = d := by
  unfold Manager.createSnapshot Audited.next at h
  dsimp only at h
  split at h
  · cases h
  · cases h
    rfl

namespace State

variable {s : State} {now : Millis} {fresh : FreshIds} {r : Request} {a : Accepted}

theorem record_document {id session : String} {n : Nat} (h : (s.record screen now id session text d n).result = .ok a) :
    a.snapshot.document = d := by
  rcases s.record_cases screen now id session text d n with ⟨-, ⟨e, -, he⟩ | ⟨a', hc, ha, -⟩⟩
  · rw [h] at he
    cases he
  · rw [h] at ha
    cases ha
    exact createSnapshot_document hc

/-- The document of a request that is carried out is understood in its text. -/
theorem understand_of_transform (h : (s.transform screen now fresh r).result = .ok a) :
    understand screen r.text = .ok a.snapshot.document := by
  rw [transform_result] at h
  dsimp only at h
  split at h
  · cases h
  · rw [proceed_result] at h
    dsimp only at h
    split at h
    · cases h
    · split at h
      · cases h
      · next hu => rw [hu, record_document h]

/-- A request is refused for its document exactly if it gets that far and its text is refused for the document. -/
theorem transform_eq_error_iff (s : State) (screen : Policy.Screen) (now : Millis) (fresh : FreshIds) (r : Request)
    (hr : refusal.OfDocument) :
    let ip := s.limiter.check now (.ip r.ip)
    let c := s.sessions.createOrGet now fresh.session r.session r.ip r.userAgent
    (s.transform screen now fresh r).result = .error refusal ↔
      Admitted ip.result (ip.state.check now (.session c.result.id)).result ∧
        understand screen r.text = .error refusal := by
  intro ip c
  rw [transform_result]
  cases hip : ip.result with
  | deny denial => cases hr <;> simp [Admitted]
  | allow n =>
    dsimp only
    rw [proceed_result]
    dsimp only
    cases hown : (ip.state.check now (.session c.result.id)).result with
    | deny denial => cases hr <;> simp [Admitted]
    | allow k =>
      have hadmitted : Admitted (.allow n) (.allow k) := ⟨⟨n, rfl⟩, k, rfl⟩
      cases hu : understand screen r.text with
      | error refusal' => simp [hadmitted]
      | ok d =>
        -- What is left is to record the document, which is refused for the session if at all.
        dsimp only
        rcases record_cases ⟨(ip.state.check now (.session c.result.id)).state, c.state⟩ screen now fresh.snapshot
          c.result.id r.text d (min n k) with ⟨-, ⟨e, -, he⟩ | ⟨a, -, ha, -⟩⟩
        · rw [he]
          cases hr <;> simp
        · rw [ha]
          simp

end State

/-! ## Runs -/

/-- An action that hands a document to the sessions itself. -/
def Action.bringsDocument : Action → Bool
  | .sessions (.createSnapshot ..) => true
  | _ => false

/-- Every stored document is accepted as a value. -/
def Vetted (screen : Policy.Screen) (snapshots : Store Snapshot) : Prop :=
  ∀ x s, snapshots.get? x = some s → validateDocument screen s.document.toValue = .ok s.document

namespace Vetted

variable {snapshots snapshots' : Store Snapshot}

theorem within (h : Vetted screen snapshots) (hw : snapshots'.Within snapshots) : Vetted screen snapshots' :=
  fun x s hs => h x s (hw x s hs)

theorem withoutIssued {m : Manager} (h : Vetted screen m.snapshots) (presented : Option String) (id : String) :
    Vetted screen (State.withoutIssued presented id m).snapshots := by
  unfold State.withoutIssued Manager.discardUnused
  split
  · exact h
  · split <;> exact h

theorem transform {s : State} (h : Vetted screen s.sessions.snapshots) (now : Millis) (fresh : FreshIds) (r : Request) :
    Vetted screen (s.transform screen now fresh r).state.sessions.snapshots := by
  have hopened := h.within (s.sessions.createOrGet_within now fresh.session r.session r.ip r.userAgent)
  rcases s.transform_cases screen now fresh r with ⟨_, -, ht | ht⟩ | ⟨d, note, ⟨e, he, -, ht⟩ | ⟨a, hc, ha, -, ht⟩⟩
  · rw [ht]
    exact h
  · rw [ht]
    exact hopened.withoutIssued _ _
  · rw [ht]
    refine Vetted.withoutIssued (fun x t hx => ?_) _ _
    rcases Manager.snapshot_of_createSnapshot hx with hx | ⟨-, -, hr⟩
    · exact hopened x t hx
    · rw [he] at hr
      cases hr
  · rw [ht]
    intro x t hx
    rcases Manager.snapshot_of_createSnapshot hx with hx | ⟨-, -, hr⟩
    · exact hopened x t hx
    · rw [hc] at hr
      cases hr
      exact validateDocument_of_understand (State.understand_of_transform ha)

theorem perform {e : Engine} (h : Vetted e.screen e.state.sessions.snapshots) (now : Millis) {act : Action}
    (hact : act.bringsDocument = false) : Vetted e.screen (e.perform now act).1.state.sessions.snapshots := by
  have hsessions (act : Session.Action) (hact : ∀ fresh id d note, act ≠ .createSnapshot fresh id d note) :
      Vetted e.screen (e.state.sessions.perform now act).state.snapshots := fun x s hx => by
    rcases Manager.snapshot_of_perform hx with hx | ⟨id, d, note, rfl, -⟩
    · exact h x s hx
    · exact absurd rfl (hact x id d note)
  cases act with
  | transform fresh r => exact h.transform now fresh r
  | undo id steps => exact hsessions (.undo id steps) nofun
  | reset id => exact hsessions (.reset id) nofun
  | state id => exact hsessions (.state id) nofun
  | history id => exact hsessions (.history id) nofun
  | ban key reason secs => exact h
  | unban key => exact h
  | sweep => exact hsessions .sweep nofun
  | sessions act =>
    refine hsessions act fun fresh id d note ha => ?_
    rw [ha] at hact
    cases hact
  | limits act => exact h

theorem after : ∀ (acts : Actions) {e : Engine}, Vetted e.screen e.state.sessions.snapshots →
    (∀ a ∈ acts, a.2.bringsDocument = false) → Vetted (e.after acts).screen (e.after acts).state.sessions.snapshots
  | [], _, h, _ => h
  | (now, act) :: acts, e, h, hacts => by
    rw [List.forall_mem_cons] at hacts
    have hp := h.perform now hacts.1
    rw [← e.perform_screen now act] at hp
    exact hp.after acts hacts.2

end Vetted

/-- **Stored documents are accepted again.**  After every run of an engine that is handed no document but in a request,
the value of each stored document is accepted, and read as that document.  The checks of a request and of a value agree
on everything that the rules find in a text: they accept alike, and refuse with the same report or verdict. -/
theorem stored_accepted (s : Settings) (e : Engine) (hstart : start s = .ok e) (acts : Actions)
    (hacts : ∀ a ∈ acts, a.2.bringsDocument = false) :
    let before := e.after acts
    (∀ x snapshot, before.state.sessions.snapshots.get? x = some snapshot →
      validateDocument before.screen snapshot.document.toValue = .ok snapshot.document) ∧
    (∀ text d, (before.screen.checkText text).safe = true → Request.parse? text = some d →
      understand before.screen text = validateDocument before.screen d.toValue) ∧
    ∀ (now : Millis) (fresh : FreshIds) (r : Request) (refusal : Refusal), refusal.OfDocument →
      let ip := before.state.limiter.check now (.ip r.ip)
      let session := (before.state.sessions.createOrGet now fresh.session r.session r.ip r.userAgent).result
      let own := ip.state.check now (.session session.id)
      ((before.transform now fresh r).2 = .error refusal ↔
        Admitted ip.result own.result ∧ (before.screen.checkText r.text).safe = true ∧
          ∃ d, Request.parse? r.text = some d ∧ validateDocument before.screen d.toValue = .error refusal) := by
  intro before
  have hempty : Vetted e.screen e.state.sessions.snapshots := by
    rw [(of_start hstart).2]
    nofun
  refine ⟨hempty.after acts hacts, fun text d => understand_of_parse?, fun now fresh r refusal hr => ?_⟩
  rw [← understand_eq_error_iff hr]
  exact before.state.transform_eq_error_iff before.screen now fresh r hr

/-- A request that is carried out and taken back, and whatever else can be done. -/
def undoneRun : Actions :=
  [(0, .transform ⟨"a", "u"⟩ ⟨"hide the banner", "192.0.2.1", "agent", none⟩), (2, .undo "a" 1), (3, .history "a"),
    (4, .state "a"), (5, .ban (.ip "192.0.2.2") "noise" (some 60)), (6, .unban (.ip "192.0.2.2")), (7, .reset "a"),
    (8, .sweep)]

theorem stored_accepted_undone :
    ∃ e snapshot, start {} = .ok e ∧ (∀ a ∈ undoneRun, a.2.bringsDocument = false) ∧
      (e.after undoneRun).state.sessions.snapshots.get? "u" = some snapshot ∧
      validateDocument (e.after undoneRun).screen snapshot.document.toValue = .ok snapshot.document := by
  obtain ⟨e, he⟩ := exists_start (s := {}) (by decide)
  have hstored : ((e.after undoneRun).state.sessions.snapshots.get? "u").isSome = true := by
    rw [(after_lenient he rfl undoneRun (by decide)).1]
    decide +kernel
  obtain ⟨snapshot, hsnapshot⟩ := Option.isSome_iff_exists.1 hstored
  have hacts : ∀ a ∈ undoneRun, a.2.bringsDocument = false := by decide
  exact ⟨e, snapshot, he, hacts, hsnapshot, (stored_accepted {} e he undoneRun hacts).1 "u" snapshot hsnapshot⟩

end SiteEdit.Engine
