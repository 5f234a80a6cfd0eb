import SiteEdit.Proofs.Engine.Effects
import Mathlib.Tactic.Common
/-!
# What a run sees of a screen

Of a screen, a request sees only what becomes of its text.  So an engine has the same run with every screen that agrees
with its own on the texts of the run (`after_withScreen`).  On texts without anything to find, the screen of the built-in
tables agrees with one that looks for nothing, and with that one a run is soon computed.
-/
namespace SiteEdit

open Policy (Screen)

namespace Engine

/-- The same becomes of a text with two screens. -/
structure AgreeOn (a b : Screen) (text : String) : Prop where
  check : a.checkText text = b.checkText text
  document : ∀ d ∈ Request.parse? text, a.checkDocument d = b.checkDocument d
  redact : a.redactor.redact text = b.redactor.redact text

instance (a b : Screen) (text : String) : Decidable (AgreeOn a b text) :=
  decidable_of_iff (a.checkText text = b.checkText text ∧
      (∀ d ∈ Request.parse? text, a.checkDocument d = b.checkDocument d) ∧
      a.redactor.redact text = b.redactor.redact text)
    ⟨fun h => ⟨h.1, h.2.1, h.2.2⟩, fun h => ⟨h.check, h.document, h.redact⟩⟩

theorem AgreeOn.understand {a b : Screen} {text : String} (h : AgreeOn a b text) :
    understand a text = understand b text := by
  unfold Engine.understand checkText readText checkPolicy
  rw [h.check]
  cases hd : Request.parse? text with
  | none => dsimp only [bind, Except.bind]
  | some d =>
    dsimp only [bind, Except.bind]
    rw [h.document d hd]

/-- The text of a request. -/
def Action.text? : Action → Option String
  | .transform _ r => some r.text
  | _ => none

/-- An engine with another screen. -/
def withScreen (e : Engine) (b : Screen) : Engine := { e with screen := b }

variable {b : Screen}

theorem transform_congr {a : Screen} {r : Request} (h : AgreeOn a b r.text) (s : State) (now : Millis)
    (fresh : FreshIds) : s.transform a now fresh r = s.transform b now fresh r := by
  unfold State.transform State.proceed State.record
  simp only [h.check, h.understand, h.redact]

theorem transform_withScreen {e : Engine} {r : Request} (h : AgreeOn e.screen b r.text) (now : Millis)
    (fresh : FreshIds) :
    (e.transform now fresh r).map (·.withScreen b) id = (e.withScreen b).transform now fresh r := by
  unfold transform run
  dsimp only
  rw [transform_congr h]
  rfl

theorem perform_withScreen {e : Engine} {act : Action} (h : ∀ text ∈ act.text?, AgreeOn e.screen b text)
    (now : Millis) : (e.perform now act).1.withScreen b = ((e.withScreen b).perform now act).1 := by
  cases act with
  | transform fresh r => exact congrArg Prod.fst (transform_withScreen (h _ rfl) now fresh)
  | _ => rfl

theorem perform_screen (e : Engine) (now : Millis) (act : Action) : (e.perform now act).1.screen = e.screen := by
  cases act <;> rfl

theorem after_screen : ∀ (acts : Actions) (e : Engine), (e.after acts).screen = e.screen
  | [], _ => rfl
  | (now, act) :: acts, e => (after_screen acts _).trans (e.perform_screen now act)

/-- An engine has the same run with every screen that agrees with its own on the texts of the run. -/
theorem after_withScreen : ∀ {acts : Actions} {e : Engine},
    (∀ a ∈ acts, ∀ text ∈ a.2.text?, AgreeOn e.screen b text) →
      (e.after acts).withScreen b = (e.withScreen b).after acts
  | [], _, _ => rfl
  | (now, act) :: acts, e, h => by
    rw [List.forall_mem_cons] at h
    have hscreen := e.perform_screen now act
    unfold after
    rw [← perform_withScreen h.1]
    exact after_withScreen fun a ha text ht => hscreen ▸ h.2 a ha text ht

/-! ## Texts without anything to find -/

/-- A screen that knows the names that are allowed, and looks for nothing else. -/
def lenient : Screen :=
  let t := Policy.Tables.builtin
  { tables := t
    selectors := Policy.nameSet t.allowedSelectors
    styleVars := Policy.nameSet t.allowedStyleVars
    dangerous := []
    prohibited := []
    injection := []
    markup := []
    redactor := { rules := [] }
    mem_selectors := fun _ => Policy.mem_nameSet
    mem_styleVars := fun _ => Policy.mem_nameSet }

/-- The engine that starts with settings and that screen. -/
def lenientEngine (s : Settings) : Engine :=
  { settings := s, screen := lenient, state := .empty s, log := .empty s.audit }

/-- A text that asks for a change, and two that ask for nothing. -/
def harmless : List String := ["hide the banner", "nice", ""]

theorem agreeOn_harmless {s : Screen} (h : Screen.ofTables ({} : Policy.Adjustment).tables = .ok s) :
    ∀ text ∈ harmless, AgreeOn s lenient text := by
  have hall : (Screen.ofTables ({} : Policy.Adjustment).tables).toOption.any
      (fun s => decide (∀ text ∈ harmless, AgreeOn s lenient text)) = true := by decide +kernel
  rw [h] at hall
  exact of_decide_eq_true hall

section

variable {s : Settings} {e : Engine}

theorem agreeOn_of_start (hstart : start s = .ok e) (hp : s.policy = {}) :
    ∀ text ∈ harmless, AgreeOn e.screen lenient text := by
  have hscreen := (start_eq_ok hstart).2.1
  rw [hp] at hscreen
  exact agreeOn_harmless hscreen

theorem withScreen_of_start (hstart : start s = .ok e) : e.withScreen lenient = lenientEngine s :=
  congrArg (·.withScreen lenient) (start_eq_ok hstart).2.2

/-- A run over harmless texts is the run of the engine that looks for nothing. -/
theorem after_lenient (hstart : start s = .ok e) (hp : s.policy = {}) (acts : Actions)
    (h : ∀ a ∈ acts, ∀ text ∈ a.2.text?, text ∈ harmless) :
    (e.after acts).state = ((lenientEngine s).after acts).state ∧
      (e.after acts).log = ((lenientEngine s).after acts).log := by
  have hafter : (e.after acts).withScreen lenient = (lenientEngine s).after acts := by
    rw [← withScreen_of_start hstart]
    exact after_withScreen fun a ha text ht => agreeOn_of_start hstart hp text (h a ha text ht)
  rw [← hafter]
  exact ⟨rfl, rfl⟩

theorem transform_lenient (hstart : start s = .ok e) (hp : s.policy = {}) (acts : Actions)
    (h : ∀ a ∈ acts, ∀ text ∈ a.2.text?, text ∈ harmless) (now : Millis) (fresh : FreshIds) {r : Request}
    (hr : r.text ∈ harmless) :
    ((e.after acts).transform now fresh r).2 = (((lenientEngine s).after acts).transform now fresh r).2 := by
  have hagree : AgreeOn (e.after acts).screen ((lenientEngine s).after acts).screen r.text := by
    rw [after_screen, after_screen]
    exact agreeOn_of_start hstart hp _ hr
  unfold transform run
  dsimp only
  rw [transform_congr hagree, (after_lenient hstart hp acts h).1]

end

end Engine

end SiteEdit
