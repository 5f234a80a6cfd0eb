import SiteEdit.Proofs.Audit.Window
import SiteEdit.Proofs.Engine.Effects
import SiteEdit.Proofs.Policy.Payloads
/-!
# No personal data in the log

The log of an engine is the end of a trail: of what its parts report (`perform_log`) and of what is recorded directly, in
the order of the calls (`afterCalls_log`).  The log redacts what it records, so in no run does an entry hold personal
data.
-/
namespace SiteEdit

open Audit (Event)
open Policy (Redactor Scrubbed)

namespace Engine

/-- What can be called: an operation of the engine, its sessions or its limiter, or the log itself. -/
inductive Call where
  | act (act : Action)
  | record (event : Event)

/-- The engine after a call. -/
def call (e : Engine) (now : Millis) : Call → Engine
  | .act act => (e.perform now act).1
  | .record event => { e with log := e.log.record now event }

/-- The engine after calls. -/
def afterCalls (e : Engine) : List (Millis × Call) → Engine
  | [] => e
  | (now, c) :: calls => (e.call now c).afterCalls calls

theorem log_of_start {s : Settings} {e : Engine} (h : start s = .ok e) : e.log = .empty s.audit :=
  congrArg Engine.log (start_eq_ok h).2.2

/-- All that an operation reports is recorded by the log. -/
theorem perform_log (e : Engine) (now : Millis) (act : Action) :
    ∃ events, (e.perform now act).1.log = e.log.recordAll now events := by
  cases act <;> exact ⟨_, rfl⟩

theorem call_log (e : Engine) (now : Millis) (c : Call) : ∃ reported, (e.call now c).log = e.log.after reported := by
  cases c with
  | act act =>
    obtain ⟨events, hlog⟩ := e.perform_log now act
    exact ⟨events.map fun event => (now, event), hlog.trans (e.log.recordAll_eq_after now events)⟩
  | record event => exact ⟨[(now, event)], rfl⟩

theorem afterCalls_log : ∀ (calls : List (Millis × Call)) (e : Engine),
    ∃ reported, (e.afterCalls calls).log = e.log.after reported
  | [], _ => ⟨[], rfl⟩
  | (now, c) :: calls, e => by
    obtain ⟨first, hfirst⟩ := e.call_log now c
    obtain ⟨rest, hrest⟩ := afterCalls_log calls (e.call now c)
    refine ⟨first ++ rest, ?_⟩
    rw [Audit.Log.after_append, ← hfirst]
    exact hrest

/-- **No personal data in the log.**  After every run of an engine, whatever its callers hand it and whatever they record
themselves, no string and no name at any depth in the data of an entry has a match of a built-in rule.  To redact a value
twice is to redact it once.  What changes are strings and names; but of the members of an object whose names become the
same, all but the last are dropped.  If the new names of an object are different, it keeps all its members. -/
theorem log_scrubbed (s : Settings) (e : Engine) (hstart : start s = .ok e) (calls : List (Millis × Call)) :
    (∀ entry ∈ (e.afterCalls calls).log.entries, Scrubbed entry.data) ∧
      (∀ j : Json, let r := Redactor.builtin
        r.redactJson (r.redactJson j) = r.redactJson j ∧ j.Relabels r.redactText (r.redactJson j)) ∧
      ∀ ms : List (String × Json), let r := Redactor.builtin
        (ms.map fun m => r.redactText m.1).Nodup → ∃ kept : List (String × Json), kept.Perm ms ∧
          r.redactJson (.obj ms) = .obj (kept.map fun m => (r.redactText m.1, r.redactJson m.2)) := by
  refine ⟨fun entry hentry => ?_, fun j => ?_, ?_⟩
  · obtain ⟨reported, hlog⟩ := e.afterCalls_log calls
    rw [hlog, log_of_start hstart] at hentry
    have htracks := (Audit.Log.tracks_empty s.audit).after reported
    obtain ⟨i, report, -, rfl⟩ := Audit.mem_trail (htracks.suffix.subset hentry)
    exact Policy.scrubbed_redactJson report.2.data
  · exact ⟨Redactor.redactJson_redactJson Policy.builtin_tame j, Redactor.relabels_redactJson _ j⟩
  · intro ms r hnames
    obtain ⟨kept, hkept, hobj⟩ := Redactor.exists_redactJson_obj r ms
    rw [Json.undisplaced_eq_self hnames] at hkept
    exact ⟨kept, hkept, hobj⟩

/-- A ban, a record and a request that have an address in them. -/
def personalCalls : List (Millis × Call) :=
  [(0, .act (.ban (.ip "192.0.2.1") "mail of ann@example.com" none)),
    (1, .record ⟨.info, "contact", none, .obj [("ann@example.com", .arr [.str "13800138000", .null])]⟩),
    (2, .act (.transform ⟨"a", "u"⟩ ⟨"write to ann@example.com", "192.0.2.2", "agent", none⟩))]

theorem log_scrubbed_names :
    ∃ e, start {} = .ok e ∧ (∃ entry ∈ (e.afterCalls personalCalls).log.entries,
        entry.data = .obj [("[EMAIL]", .arr [.str "[PHONE]", .null])]) ∧
      ∀ entry ∈ (e.afterCalls personalCalls).log.entries, Scrubbed entry.data := by
  have hrun : ((start {}).toOption.any fun e => (e.afterCalls personalCalls).log.entries.any fun entry =>
      entry.data == .obj [("[EMAIL]", .arr [.str "[PHONE]", .null])]) = true := by decide +kernel
  obtain ⟨e, he, hrun⟩ := Policy.exists_ok hrun
  obtain ⟨entry, hentry, hdata⟩ := List.any_eq_true.1 hrun
  exact ⟨e, he, ⟨entry, hentry, eq_of_beq hdata⟩, (log_scrubbed {} e he personalCalls).1⟩

/-- Two addresses get one name, and the number under the first of them is dropped. -/
theorem redaction_drops_numbers :
    ¬ ∀ (j : Json) (path : List Json.Step) (n : JsonNumber), Json.At path j (.num n) →
      ∃ path', Json.At path' (Redactor.builtin.redactJson j) (.num n) := by
  intro h
  let j : Json := .obj [("ann@example.com", .num (.int 1)), ("bob@example.com", .num (.int 2))]
  obtain ⟨path, hat⟩ := h j [.member "ann@example.com"] (.int 1) (.member List.mem_cons_self (.here _))
  have hredacted : Redactor.builtin.redactJson j = .obj [("[EMAIL]", .num (.int 2))] := by decide +kernel
  rw [hredacted] at hat
  cases hat with
  | member hm hin =>
    simp only [List.mem_singleton, Prod.mk.injEq] at hm
    obtain ⟨-, rfl⟩ := hm
    cases hin

end Engine

end SiteEdit
