import SiteEdit.Proofs.Engine.Atomicity
import SiteEdit.Proofs.Request.Documents
/-!
# What becomes of a request

Which refusal a request meets, or which document is accepted, is up to the two quotas, the two screens and the rules
(`Outcome`).  The schema refuses nothing that the rules find, and the session that a request gets is live when its
document is recorded, so the refusals for these are never met.
-/
namespace SiteEdit.Engine

open Audit (Audited)
open Limit (Decision)
open Session (Manager)

/-- Both quotas let a request through. -/
def Admitted (ip own : Decision) : Prop := (∃ n, ip = .allow n) ∧ ∃ n, own = .allow n

/-- **What becomes of a request**, from the decisions on its address and on its session and from its text. -/
structure Outcome (screen : Policy.Screen) (ip own : Decision) (text : String) (result : Except Refusal Accepted) :
    Prop where
  quota : ∀ denial, result = .error (.quota denial) ↔
    ip = .deny denial ∨ (∃ n, ip = .allow n) ∧ own = .deny denial
  textPolicy : ∀ verdict, result = .error (.text verdict) ↔
    Admitted ip own ∧ screen.checkText text = verdict ∧ verdict.safe = false
  unrecognized : result = .error .unrecognized ↔
    Admitted ip own ∧ (screen.checkText text).safe = true ∧ Request.parse? text = none
  documentPolicy : ∀ verdict, result = .error (.document verdict) ↔
    Admitted ip own ∧ (screen.checkText text).safe = true ∧
      ∃ d, Request.parse? text = some d ∧ screen.checkDocument d = verdict ∧ verdict.safe = false
  accepted : ∀ d, (∃ a, result = .ok a ∧ a.document = d ∧ a.snapshot.document = d) ↔
    Admitted ip own ∧ (screen.checkText text).safe = true ∧ Request.parse? text = some d ∧
      (screen.checkDocument d).safe = true
  kinds : ∀ refusal, result = .error refusal → refusal.kind ∈ ["quota", "policy_violation", "unrecognized"]

/-! ## The stages -/

/-- What is understood needs no further check by the schema. -/
theorem understand_eq (screen : Policy.Screen) (text : String) : understand screen text =
    if (screen.checkText text).safe then
      match Request.parse? text with
      | none => .error .unrecognized
      | some d => if (screen.checkDocument d).safe then .ok d else .error (.document (screen.checkDocument d))
    else .error (.text (screen.checkText text)) := by
  unfold understand checkText readText
  dsimp only
  split_ifs with htext
  · cases hd : Request.parse? text with
    | none => rfl
    | some d =>
      have hschema : checkSchema d = .ok () := if_pos (Request.valid_of_parse? hd)
      show (checkSchema d >>= fun _ => checkPolicy screen d >>= fun _ => pure d) = _
      rw [hschema]
      unfold checkPolicy
      dsimp only
      split_ifs <;> rfl
  · rfl

namespace State

variable {s : State} {screen : Policy.Screen} {now : Millis}

theorem record_of_live {session : String} {e : Session.Entry} (h : s.sessions.Live now session e) (fresh text : String)
    (d : Document) (n : Nat) :
    ∃ a, (s.record screen now fresh session text d n).result = .ok a ∧ a.document = d ∧ a.snapshot.document = d := by
  unfold record onSessions Audited.next
  dsimp only
  rw [(Manager.createSnapshot_of_live h d _).1]
  exact ⟨_, rfl, rfl, rfl⟩

theorem proceed_result (s : State) (screen : Policy.Screen) (now : Millis) (fresh session text : String) (n : Nat) :
    let own := s.limiter.check now (.session session)
    (s.proceed screen now fresh session text n).result =
      match own.result with
      | .deny denial => .error (.quota denial)
      | .allow k =>
        match understand screen text with
        | .error refusal => .error refusal
        | .ok d => (record { s with limiter := own.state } screen now fresh session text d (min n k)).result := by
  unfold proceed onLimiter Audited.next
  dsimp only
  cases (s.limiter.check now (.session session)).result with
  | deny denial => rfl
  | allow k => cases understand screen text <;> rfl

theorem transform_result (s : State) (screen : Policy.Screen) (now : Millis) (fresh : FreshIds) (r : Request) :
    let ip := s.limiter.check now (.ip r.ip)
    let c := s.sessions.createOrGet now fresh.session r.session r.ip r.userAgent
    (s.transform screen now fresh r).result =
      match ip.result with
      | .deny denial => .error (.quota denial)
      | .allow n =>
        let s' : State := { limiter := ip.state, sessions := c.state }
        (s'.proceed screen now fresh.snapshot c.result.id r.text n).result := by
  unfold transform onLimiter onSessions Audited.next
  dsimp only
  cases (s.limiter.check now (.ip r.ip)).result with
  | deny denial => rfl
  | allow n =>
    dsimp only
    split
    · next h => exact h.symm
    · next h =>
      rw [h]
      split_ifs <;> rfl

theorem transform_outcome_of_live (s : State) (screen : Policy.Screen) (now : Millis) (fresh : FreshIds) (r : Request)
    {e : Session.Entry}
    (h : let c := s.sessions.createOrGet now fresh.session r.session r.ip r.userAgent
      c.state.Live now c.result.id e) :
    let ip := s.limiter.check now (.ip r.ip)
    let c := s.sessions.createOrGet now fresh.session r.session r.ip r.userAgent
    Outcome screen ip.result (ip.state.check now (.session c.result.id)).result r.text
      (s.transform screen now fresh r).result := by
  intro ip c
  rw [transform_result]
  cases hip : ip.result with
  | deny denial => constructor <;> simp [Admitted, Refusal.kind]
  | allow n =>
    dsimp only
    rw [proceed_result]
    dsimp only
    cases hown : (ip.state.check now (.session c.result.id)).result with
    | deny denial => constructor <;> simp [Admitted, Refusal.kind]
    | allow k =>
      dsimp only
      rw [understand_eq]
      split_ifs with htext
      · cases hd : Request.parse? r.text with
        | none => constructor <;> simp [Admitted, Refusal.kind, htext, hd]
        | some d =>
          dsimp only
          split_ifs with hdoc
          · obtain ⟨a, ha, rfl, hsnap⟩ := record_of_live (s := ⟨_, c.state⟩) h fresh.snapshot r.text d (min n k)
            dsimp only
            rw [ha]
            constructor <;> simp [Admitted, Refusal.kind, htext, hd, hdoc, hsnap]
          · constructor <;> simp [Admitted, Refusal.kind, htext, hd, hdoc]
      · constructor <;> simp [Admitted, Refusal.kind, htext]

end State

/-! ## Requests of a run -/

/-- **What becomes of a request is up to the quotas, the screens and the rules.**  After every run of an engine, of the
decision on the address of a request and then on the session that it gets, of the verdicts on its text and on the
document that the rules find in it, the first that is against it says how it is refused.  Otherwise that document is
accepted.  No request is refused as malformed, or for the lack of its session. -/
theorem transform_outcome (s : Settings) (e : Engine) (hstart : start s = .ok e) (acts : Actions) (now : Millis)
    (fresh : FreshIds) (r : Request) (hf : Actions.Fresh (acts ++ [(now, .transform fresh r)])) :
    let before := (e.after acts).state
    let ip := before.limiter.check now (.ip r.ip)
    let session := (before.sessions.createOrGet now fresh.session r.session r.ip r.userAgent).result
    let own := ip.state.check now (.session session.id)
    Outcome (e.after acts).screen ip.result own.result r.text ((e.after acts).transform now fresh r).2 := by
  intro before ip session own
  obtain ⟨hm, hset, hs, -⟩ := sound_after hstart hf
  have hfree : before.sessions.sessions.get? fresh.session = none := hs fresh.session (List.mem_singleton.2 rfl)
  have httl : 0 < before.sessions.settings.ttl := hset ▸ ttl_pos (of_start hstart).1
  obtain ⟨e₁, ho⟩ := opened r now hm hfree httl
  exact before.transform_outcome_of_live (e.after acts).screen now fresh r ho.live

/-- A client that comes back with its session, after another one was refused. -/
theorem transform_outcome_returning :
    let acts : Actions :=
      [(0, .transform ⟨"a", "u"⟩ ⟨"把主标题改成：欢迎", "192.0.2.1", "agent", none⟩),
        (1, .transform ⟨"b", "v"⟩ ⟨"make it nice", "192.0.2.2", "agent", some "a"⟩), (2, .undo "a" 1)]
    let r : Request := ⟨"hide the banner", "192.0.2.1", "agent", some "a"⟩
    ∃ e, start {} = .ok e ∧ Actions.Fresh (acts ++ [(3, .transform ⟨"c", "w"⟩ r)]) ∧
      let before := (e.after acts).state
      let ip := before.limiter.check 3 (.ip r.ip)
      let session := (before.sessions.createOrGet 3 "c" r.session r.ip r.userAgent).result
      let own := ip.state.check 3 (.session session.id)
      Outcome (e.after acts).screen ip.result own.result r.text ((e.after acts).transform 3 ⟨"c", "w"⟩ r).2 := by
  intro acts r
  obtain ⟨e, he⟩ := exists_start (s := {}) (by decide)
  have hf : Actions.Fresh (acts ++ [(3, .transform ⟨"c", "w"⟩ r)]) := ⟨by decide, by decide⟩
  exact ⟨e, he, hf, transform_outcome {} e he acts 3 ⟨"c", "w"⟩ r hf⟩

end SiteEdit.Engine
