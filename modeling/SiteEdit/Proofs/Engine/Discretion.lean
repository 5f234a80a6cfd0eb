import SiteEdit.Engine.Codec
import SiteEdit.Proofs.Engine.Outcome
import SiteEdit.Proofs.Policy.Documents
/-!
# What a refusal gives away

A request is refused for what is found in its text.  Of the text itself a refusal tells nothing but its length: two
requests in whose texts the same is found (`Alike`) are told the same, reported the same, and leave the same state.
-/
namespace SiteEdit

open Audit (Audited)

/-! ## What is found in a text -/

namespace Policy

namespace Screen

variable {s : Screen} {text text' : String}

/-- The entries of each table that are found in a text. -/
def found (s : Screen) (text : String) : List (Check × List String) :=
  [(.dangerousCommand, (s.checkCommands text).detected), (.promptInjection, (s.checkInjection text).detected),
    (.prohibitedContent, (s.checkProhibited text).detected), (.unsafeMarkup, (s.checkMarkup text).detected)]

/-- The findings, from the length of a text and what is found in it. -/
theorem textFindings_eq (hl : text.length = text'.length) (hf : s.found text = s.found text') :
    s.textFindings text = s.textFindings text' := by
  simp only [found, checkCommands, checkInjection, checkProhibited, checkMarkup, Finding.ofDetected_detected,
    List.cons.injEq, Prod.mk.injEq, true_and, and_true] at hf
  obtain ⟨hcommands, hinjection, hprohibited, hmarkup⟩ := hf
  have hlength : s.checkLength text = s.checkLength text' := by rw [checkLength, checkLength, hl]
  simp only [textFindings, checkCommands, checkInjection, checkProhibited, checkMarkup, hlength, hcommands, hinjection,
    hprohibited, hmarkup]

/-- The verdict, but for the personal data in the text. -/
theorem checkText_eq (hl : text.length = text'.length) (hf : s.found text = s.found text') :
    (s.checkText text).safe = (s.checkText text').safe ∧ (s.checkText text).risk = (s.checkText text').risk ∧
      (s.checkText text).reasons = (s.checkText text').reasons ∧
        (s.checkText text).failedChecks = (s.checkText text').failedChecks := by
  have hfailures : s.textFailures text = s.textFailures text' := by
    rw [textFailures, textFailures, textFindings_eq hl hf]
  simp only [checkText, hfailures, and_self]

end Screen

end Policy

namespace Engine

/-! ## What is told -/

/-- What a client is told when a request is refused. -/
inductive Notice where
  | quota (denial : Limit.Denial)
  | policy (stage : Stage) (reasons : List String) (risk : Policy.Risk)
  | unrecognized
  | malformed (errors : List String)
  | session (error : Session.Error)
  deriving DecidableEq, Repr

/-- The notice of a refusal.  Of a verdict it has the reasons and the risk. -/
def Refusal.notice : Refusal → Notice
  | .quota denial => .quota denial
  | .text verdict => .policy .text verdict.reasons verdict.risk
  | .unrecognized => .unrecognized
  | .malformed report => .malformed report.messages
  | .document verdict => .policy .document verdict.reasons verdict.risk
  | .session error => .session error

theorem Refusal.toJson_congr {r r' : Refusal} (hk : r.kind = r'.kind) (hm : r.message = r'.message) :
    r.toJson = r'.toJson := by
  rw [toJson, toJson, hk, hm]

/-- Refusals with one notice are shown alike. -/
theorem Refusal.shown_of_notice {r r' : Refusal} (h : r.notice = r'.notice) :
    r.toJson = r'.toJson ∧ r.risk? = r'.risk? := by
  cases r with
  | quota denial => cases r' <;> cases h; exact ⟨rfl, rfl⟩
  | text verdict =>
    cases r' with
    | text verdict' =>
      obtain ⟨-, hreasons, hrisk⟩ := Notice.policy.inj h
      exact ⟨toJson_congr rfl (congrArg₂ policyMessage hrisk hreasons), congrArg some hrisk⟩
    | document verdict' => cases (Notice.policy.inj h).1
    | _ => cases h
  | unrecognized => cases r' <;> cases h; exact ⟨rfl, rfl⟩
  | malformed report =>
    cases r' with
    | malformed report' =>
      have hmessages := Notice.malformed.inj h
      exact ⟨toJson_congr rfl (congrArg (fun ms => "Malformed DSL: " ++ String.intercalate "; " ms) hmessages), rfl⟩
    | _ => cases h
  | document verdict =>
    cases r' with
    | text verdict' => cases (Notice.policy.inj h).1
    | document verdict' =>
      obtain ⟨-, hreasons, hrisk⟩ := Notice.policy.inj h
      exact ⟨toJson_congr rfl (congrArg₂ policyMessage hrisk hreasons), congrArg some hrisk⟩
    | _ => cases h
  | session error => cases r' <;> cases h; exact ⟨rfl, rfl⟩

/-! ## Requests that are refused alike -/

/-- Two texts that are refused, with the same found in both, or nothing that is known asked for in either. -/
inductive Alike (screen : Policy.Screen) (text text' : String) : Prop where
  | rejected (hl : text.length = text'.length) (hs : (screen.checkText text).safe = false)
    (hs' : (screen.checkText text').safe = false)
    (hc : (screen.checkText text).failedChecks = (screen.checkText text').failedChecks)
    (hf : screen.found text = screen.found text') : Alike screen text text'
  | unrecognized (hl : text.length = text'.length) (hs : (screen.checkText text).safe = true)
    (hs' : (screen.checkText text').safe = true) (hp : Request.parse? text = none)
    (hp' : Request.parse? text' = none) : Alike screen text text'

variable {α β : Type} {s : State} {screen : Policy.Screen} {now : Millis} {text text' : String}

/-- Both texts are refused, with one notice and one event. -/
theorem Alike.understand (h : Alike screen text text') :
    ∃ r r', Engine.understand screen text = .error r ∧ Engine.understand screen text' = .error r' ∧
      r.notice = r'.notice ∧ ∀ session, r.event? session text = r'.event? session text' := by
  cases h with
  | rejected hl hs hs' hc hf =>
    obtain ⟨-, hrisk, hreasons, -⟩ := Policy.Screen.checkText_eq hl hf
    refine ⟨.text (screen.checkText text), .text (screen.checkText text'), ?_, ?_, ?_, fun session => ?_⟩
    · rw [understand_eq, hs]
      rfl
    · rw [understand_eq, hs']
      rfl
    · simp only [Refusal.notice, hreasons, hrisk]
    · simp only [Refusal.event?, hrisk, hreasons, hc, hl]
  | unrecognized hl hs hs' hp hp' =>
    refine ⟨.unrecognized, .unrecognized, ?_, ?_, rfl, fun session => ?_⟩
    · rw [understand_eq, if_pos hs, hp]
    · rw [understand_eq, if_pos hs', hp']
    · simp only [Refusal.event?, hl]

/-- Two requests are refused, and nothing tells them apart. -/
structure RefusedAlike (a b : Audited State (Except Refusal α)) : Prop where
  result : ∃ r r', a.result = .error r ∧ b.result = .error r' ∧ r.notice = r'.notice
  state : a.state = b.state
  events : a.events = b.events

theorem RefusedAlike.of_error {a : Audited State (Except Refusal α)} {r : Refusal} (h : a.result = .error r) :
    RefusedAlike a a :=
  ⟨⟨r, r, h, h, rfl⟩, rfl, rfl⟩

/-- What comes before is the same for both. -/
theorem RefusedAlike.next {a : Audited State β} {f g : β → State → Audited State (Except Refusal α)}
    (h : RefusedAlike (f a.result a.state) (g a.result a.state)) : RefusedAlike (a.next f) (a.next g) :=
  ⟨h.result, h.state, congrArg (a.events ++ ·) h.events⟩

/-- What comes after sees no more of the refusals than that they are refusals. -/
theorem RefusedAlike.andThen {a b : Audited State (Except Refusal α)} (h : RefusedAlike a b)
    {f : Except Refusal α → State → Audited State (Except Refusal α)}
    (hf : ∀ r r' s, r.notice = r'.notice → RefusedAlike (f (.error r) s) (f (.error r') s)) :
    RefusedAlike (a.next f) (b.next f) := by
  obtain ⟨⟨r, r', ha, hb, hn⟩, hs, he⟩ := h
  have hafter : RefusedAlike (f a.result a.state) (f b.result b.state) := by
    rw [ha, hb, ← hs]
    exact hf r r' a.state hn
  exact ⟨hafter.result, hafter.state, congrArg₂ (· ++ ·) he hafter.events⟩

namespace State

theorem proceed_alike (h : Alike screen text text') (fresh session : String) (ipRemaining : Nat) :
    RefusedAlike (s.proceed screen now fresh session text ipRemaining)
      (s.proceed screen now fresh session text' ipRemaining) := by
  refine .next ?_
  split
  · -- over its quota, a request is refused before its text is looked at
    exact .of_error rfl
  · obtain ⟨r, r', hr, hr', hn, he⟩ := h.understand
    simp only [hr, hr']
    exact ⟨⟨r, r', rfl, rfl, hn⟩, rfl, congrArg Option.toList (he session)⟩

theorem transform_alike (fresh : FreshIds) (r : Request) (h : Alike screen r.text text) :
    RefusedAlike (s.transform screen now fresh r) (s.transform screen now fresh { r with text := text }) := by
  refine .next ?_
  split
  · exact .of_error rfl
  · refine .next ((proceed_alike h _ _ _).andThen fun refusal refusal' s hn => ?_)
    dsimp only
    split_ifs
    · exact ⟨⟨refusal, refusal', rfl, rfl, hn⟩, rfl, rfl⟩
    · exact ⟨⟨refusal, refusal', rfl, rfl, hn⟩, rfl, rfl⟩

end State

/-- **A refusal gives nothing of the text away but its length and what was found in it.**  Whatever state an engine is
in, two requests that differ in their texts only, and whose texts are refused alike, get the same notice and leave the
same engine: the same stores, the same counters and the same audit log. -/
theorem transform_discreet (e : Engine) (now : Millis) (fresh : FreshIds) (r : Request) (text : String)
    (h : Alike e.screen r.text text) :
    (e.transform now fresh r).1 = (e.transform now fresh { r with text := text }).1 ∧
      ∃ refusal refusal', (e.transform now fresh r).2 = .error refusal ∧
        (e.transform now fresh { r with text := text }).2 = .error refusal' ∧ refusal.notice = refusal'.notice := by
  have halike : RefusedAlike (e.state.transform e.screen now fresh r)
      (e.state.transform e.screen now fresh { r with text := text }) := State.transform_alike fresh r h
  refine ⟨?_, halike.result⟩
  unfold transform run
  dsimp only
  rw [halike.state, halike.events]

/-- An engine whose screen knows two commands and a name for what is prohibited. -/
def twoCommands : Engine where
  settings := {}
  screen :=
    { tables := .builtin
      selectors := Policy.Tables.builtinSelectors
      styleVars := Policy.Tables.builtinStyleVars
      dangerous := ["rm ", "drop table"]
      prohibited := ["casino"]
      injection := []
      markup := []
      redactor := { rules := [] }
      mem_selectors := fun _ => .rfl
      mem_styleVars := fun _ => .rfl }
  state := .empty {}
  log := .empty {}

theorem transform_discreet_commands :
    Alike twoCommands.screen "my code is 4711, RM it" "his name is bob: rm it" ∧
      Alike twoCommands.screen "my code is 4711" "his name is bob" ∧
      ∀ fresh : FreshIds, ∀ now : Millis,
        (twoCommands.transform now fresh ⟨"my code is 4711, RM it", "192.0.2.1", "agent", none⟩).1 =
            (twoCommands.transform now fresh ⟨"his name is bob: rm it", "192.0.2.1", "agent", none⟩).1 ∧
          (twoCommands.transform now fresh ⟨"my code is 4711", "192.0.2.1", "agent", none⟩).1 =
            (twoCommands.transform now fresh ⟨"his name is bob", "192.0.2.1", "agent", none⟩).1 := by
  have hcommand : Alike twoCommands.screen "my code is 4711, RM it" "his name is bob: rm it" :=
    .rejected (by decide +kernel) (by decide +kernel) (by decide +kernel) (by decide +kernel) (by decide +kernel)
  have hunknown : Alike twoCommands.screen "my code is 4711" "his name is bob" :=
    .unrecognized (by decide +kernel) (by decide +kernel) (by decide +kernel) (by decide +kernel) (by decide +kernel)
  exact ⟨hcommand, hunknown, fun fresh now =>
    ⟨(transform_discreet twoCommands now fresh ⟨_, "192.0.2.1", "agent", none⟩ _ hcommand).1,
      (transform_discreet twoCommands now fresh ⟨_, "192.0.2.1", "agent", none⟩ _ hunknown).1⟩⟩

end Engine

end SiteEdit
