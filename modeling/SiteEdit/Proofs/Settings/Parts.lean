import SiteEdit.Settings.Text
import SiteEdit.Proofs.Json.Members
/-!
# Settings that are given in part

A document may give any of the settings and leave out the others, which then have their defaults.  The exception are
the two ceilings: one that is given must be given whole, though each of its fields has a default.
-/
namespace SiteEdit

/-! ## Members that may be left out -/

namespace Json

def ofWord32 (w : UInt32) : Json := ofNat w.toNat

def ofWord64 (w : UInt64) : Json := ofNat w.toNat

theorem word32?_ofWord32 (w : UInt32) : word32? (ofWord32 w) = some w := word32?_ofNat w

theorem word64?_ofWord64 (w : UInt64) : word64? (ofWord64 w) = some w := by
  have hwithin : (0 : Int) ≤ w.toNat ∧ (w.toNat : Int) < Int.pow 2 64 :=
    ⟨Int.natCast_nonneg _, Int.ofNat_lt.2 w.toNat_lt⟩
  rw [word64?, nat64?, ofWord64, ofNat, intWithin?, if_pos hwithin]
  exact congrArg some UInt64.ofNat_toNat

variable {α β : Type} {name : String} {ms : List (String × Json)} {b : Bool} {read : Json → Option α} {write : α → Json}
  {given : Option α}

/-- A table of which something is known. -/
def Table (In : α → List (String × Json) → Prop) (j : Json) (a : α) : Prop := ∃ ms, j = .obj ms ∧ In a ms

theorem get_of_lookup (h : ms.lookup name = given.map write) (hread : ∀ a, read (write a) = some a) :
    Fields.get ⟨ms, b⟩ name read = given := by
  unfold Fields.get
  rw [h]
  cases given with
  | none => rfl
  | some a => exact hread a

/-- A value that is left out has its default. -/
theorem getD_of_lookup (h : ms.lookup name = given.map write) (hread : ∀ a, read (write a) = some a) (default : α) :
    Fields.getD ⟨ms, b⟩ name read default = some (given.getD default) := by
  unfold Fields.getD
  rw [h]
  cases given with
  | none => rfl
  | some a => exact hread a

/-- What is left out has its default; what is there is read as it is wherever it stands. -/
theorem getD_of_rel {R : Json → β → Prop} {part : Option β} {result : β → Option α}
    (h : Option.Rel R (ms.lookup name) part) (hread : ∀ {j p}, R j p → read j = result p) (default : α) :
    Fields.getD ⟨ms, b⟩ name read default = part.elim (some default) result := by
  unfold Fields.getD
  dsimp only
  generalize ms.lookup name = found at h ⊢
  cases h with
  | none => rfl
  | some hp => exact hread hp

theorem elim_some (part : Option β) (d : α) (f : β → α) :
    part.elim (some d) (fun p => some (f p)) = some (part.elim d f) := by
  cases part <;> rfl

theorem elim_ite (part : Option β) (d : α) (f : β → α) (whole : β → Bool) :
    part.elim (some d) (fun p => if whole p then some (f p) else none) =
      if part.all whole then some (part.elim d f) else none := by
  cases part <;> rfl

end Json

open Json (ofWord32 ofWord64 ofStrings Table)

variable {ms : List (String × Json)} {j : Json}

/-! ## Ceilings -/

namespace Limit

/-- The fields of a ceiling that are given. -/
structure Ceiling.Part where
  maxRequests : Option UInt32 := none
  windowSecs : Option UInt64 := none

namespace Ceiling.Part

/-- The members of a table that has just these fields of a ceiling. -/
structure In (p : Part) (ms : List (String × Json)) : Prop where
  maxRequests : ms.lookup "max_requests" = p.maxRequests.map ofWord32
  windowSecs : ms.lookup "window_secs" = p.windowSecs.map ofWord64

/-- A ceiling in which the other fields are those of `c`. -/
def overlay (p : Part) (c : Ceiling) : Ceiling :=
  { maxRequests := p.maxRequests.getD c.maxRequests, windowSecs := p.windowSecs.getD c.windowSecs }

def isWhole (p : Part) : Bool := p.maxRequests.isSome && p.windowSecs.isSome

/-- A ceiling is read only if it is given whole. -/
theorem ofJson?_eq {p : Part} (h : Table In j p) (c : Ceiling) :
    Ceiling.ofJson? j = if p.isWhole then some (p.overlay c) else none := by
  obtain ⟨ms, rfl, hp⟩ := h
  unfold Ceiling.ofJson?
  simp only [Json.fields?, Option.bind_eq_bind, Option.bind_some,
    Json.get_of_lookup hp.maxRequests Json.word32?_ofWord32, Json.get_of_lookup hp.windowSecs Json.word64?_ofWord64]
  obtain ⟨_ | maxRequests, _ | windowSecs⟩ := p <;> rfl

theorem getD_eq {name : String} {b : Bool} {part : Option Part}
    (h : Option.Rel (Table In) (ms.lookup name) part) (c : Ceiling) :
    Json.Fields.getD ⟨ms, b⟩ name Ceiling.ofJson? c =
      if part.all isWhole then some (part.elim c (·.overlay c)) else none :=
  (Json.getD_of_rel h (fun hp => ofJson?_eq hp c) c).trans (Json.elim_ite ..)

end Ceiling.Part

structure Settings.Part where
  banThreshold : Option UInt32 := none
  banDurationSecs : Option UInt64 := none
  idleRecordTtlSecs : Option UInt64 := none
  ip : Option Ceiling.Part := none
  session : Option Ceiling.Part := none

namespace Settings.Part

structure In (p : Part) (ms : List (String × Json)) : Prop where
  banThreshold : ms.lookup "ban_threshold" = p.banThreshold.map ofWord32
  banDurationSecs : ms.lookup "ban_duration_secs" = p.banDurationSecs.map ofWord64
  idleRecordTtlSecs : ms.lookup "idle_record_ttl_secs" = p.idleRecordTtlSecs.map ofWord64
  ip : Option.Rel (Table Ceiling.Part.In) (ms.lookup "ip") p.ip
  session : Option.Rel (Table Ceiling.Part.In) (ms.lookup "session") p.session

def overlay (p : Part) (s : Settings) : Settings :=
  { banThreshold := p.banThreshold.getD s.banThreshold
    banDurationSecs := p.banDurationSecs.getD s.banDurationSecs
    idleRecordTtlSecs := p.idleRecordTtlSecs.getD s.idleRecordTtlSecs
    ip := p.ip.elim s.ip (·.overlay s.ip)
    session := p.session.elim s.session (·.overlay s.session) }

/-- Whether each ceiling that is given is given whole. -/
def isWhole (p : Part) : Bool := p.ip.all Ceiling.Part.isWhole && p.session.all Ceiling.Part.isWhole

theorem ofJson?_eq {p : Part} (h : Table In j p) :
    Settings.ofJson? j = if p.isWhole then some (p.overlay {}) else none := by
  obtain ⟨ms, rfl, hp⟩ := h
  unfold Settings.ofJson?
  simp only [Json.fields?, Option.bind_eq_bind, Option.bind_some,
    Json.getD_of_lookup hp.banThreshold Json.word32?_ofWord32,
    Json.getD_of_lookup hp.banDurationSecs Json.word64?_ofWord64,
    Json.getD_of_lookup hp.idleRecordTtlSecs Json.word64?_ofWord64, Ceiling.Part.getD_eq hp.ip,
    Ceiling.Part.getD_eq hp.session]
  unfold isWhole
  cases p.ip.all Ceiling.Part.isWhole <;> cases p.session.all Ceiling.Part.isWhole <;> rfl

end Settings.Part

end Limit

/-! ## The other sections -/

structure Policy.Adjustment.Part where
  maxInputLength : Option UInt64 := none
  extraSelectors : Option (List String) := none
  extraStyleVars : Option (List String) := none
  extraKeywords : Option (List String) := none

namespace Policy.Adjustment.Part

structure In (p : Part) (ms : List (String × Json)) : Prop where
  maxInputLength : ms.lookup "max_input_length" = p.maxInputLength.map ofWord64
  extraSelectors : ms.lookup "extra_selectors" = p.extraSelectors.map ofStrings
  extraStyleVars : ms.lookup "extra_css_vars" = p.extraStyleVars.map ofStrings
  extraKeywords : ms.lookup "extra_prohibited_keywords" = p.extraKeywords.map ofStrings

def overlay (p : Part) (a : Adjustment) : Adjustment :=
  { maxInputLength := p.maxInputLength.getD a.maxInputLength
    extraSelectors := p.extraSelectors.getD a.extraSelectors
    extraStyleVars := p.extraStyleVars.getD a.extraStyleVars
    extraKeywords := p.extraKeywords.getD a.extraKeywords }

theorem ofJson?_eq {p : Part} (h : Table In j p) : Adjustment.ofJson? j = some (p.overlay {}) := by
  obtain ⟨ms, rfl, hp⟩ := h
  unfold Adjustment.ofJson?
  simp only [Json.fields?, Option.bind_eq_bind, Option.bind_some,
    Json.getD_of_lookup hp.maxInputLength Json.word64?_ofWord64,
    Json.getD_of_lookup hp.extraSelectors Json.strings?_ofStrings,
    Json.getD_of_lookup hp.extraStyleVars Json.strings?_ofStrings,
    Json.getD_of_lookup hp.extraKeywords Json.strings?_ofStrings]
  rfl

end Policy.Adjustment.Part

structure Session.Settings.Part where
  ttlSecs : Option UInt64 := none
  maxHistory : Option UInt64 := none
  maxDetached : Option UInt64 := none

namespace Session.Settings.Part

structure In (p : Part) (ms : List (String × Json)) : Prop where
  ttlSecs : ms.lookup "ttl_secs" = p.ttlSecs.map ofWord64
  maxHistory : ms.lookup "max_history" = p.maxHistory.map ofWord64
  maxDetached : ms.lookup "max_detached" = p.maxDetached.map ofWord64

def overlay (p : Part) (s : Settings) : Settings :=
  { ttlSecs := p.ttlSecs.getD s.ttlSecs
    maxHistory := p.maxHistory.getD s.maxHistory
    maxDetached := p.maxDetached.getD s.maxDetached }

theorem ofJson?_eq {p : Part} (h : Table In j p) : Settings.ofJson? j = some (p.overlay {}) := by
  obtain ⟨ms, rfl, hp⟩ := h
  unfold Settings.ofJson?
  simp only [Json.fields?, Option.bind_eq_bind, Option.bind_some,
    Json.getD_of_lookup hp.ttlSecs Json.word64?_ofWord64, Json.getD_of_lookup hp.maxHistory Json.word64?_ofWord64,
    Json.getD_of_lookup hp.maxDetached Json.word64?_ofWord64]
  rfl

end Session.Settings.Part

structure Audit.Settings.Part where
  maxEntries : Option UInt64 := none

namespace Audit.Settings.Part

structure In (p : Part) (ms : List (String × Json)) : Prop where
  maxEntries : ms.lookup "max_entries" = p.maxEntries.map ofWord64

def overlay (p : Part) (s : Settings) : Settings := { maxEntries := p.maxEntries.getD s.maxEntries }

theorem ofJson?_eq {p : Part} (h : Table In j p) : Settings.ofJson? j = some (p.overlay {}) := by
  obtain ⟨ms, rfl, hp⟩ := h
  unfold Settings.ofJson?
  simp only [Json.fields?, Option.bind_eq_bind, Option.bind_some,
    Json.getD_of_lookup hp.maxEntries Json.word64?_ofWord64]
  rfl

end Audit.Settings.Part

namespace Settings

structure Sweeper.Part where
  enabled : Option Bool := none
  intervalSecs : Option UInt64 := none

namespace Sweeper.Part

structure In (p : Part) (ms : List (String × Json)) : Prop where
  enabled : ms.lookup "enabled" = p.enabled.map .bool
  intervalSecs : ms.lookup "interval_secs" = p.intervalSecs.map ofWord64

def overlay (p : Part) (s : Sweeper) : Sweeper :=
  { enabled := p.enabled.getD s.enabled, intervalSecs := p.intervalSecs.getD s.intervalSecs }

theorem ofJson?_eq {p : Part} (h : Table In j p) : Sweeper.ofJson? j = some (p.overlay {}) := by
  obtain ⟨ms, rfl, hp⟩ := h
  have hbool : ∀ b, Json.bool? (.bool b) = some b := fun _ => rfl
  unfold Sweeper.ofJson?
  simp only [Json.fields?, Option.bind_eq_bind, Option.bind_some, Json.getD_of_lookup hp.enabled hbool,
    Json.getD_of_lookup hp.intervalSecs Json.word64?_ofWord64]
  rfl

end Sweeper.Part

/-! ## All settings -/

/-- The sections and fields that are given. -/
structure Part where
  policy : Option Policy.Adjustment.Part := none
  limits : Option Limit.Settings.Part := none
  sessions : Option Session.Settings.Part := none
  audit : Option Audit.Settings.Part := none
  sweeper : Option Sweeper.Part := none

namespace Part

/-- The members of a document that has just these sections and fields. -/
structure In (p : Part) (ms : List (String × Json)) : Prop where
  policy : Option.Rel (Table Policy.Adjustment.Part.In) (ms.lookup "policy") p.policy
  limits : Option.Rel (Table Limit.Settings.Part.In) (ms.lookup "rate_limit") p.limits
  sessions : Option.Rel (Table Session.Settings.Part.In) (ms.lookup "session") p.sessions
  audit : Option.Rel (Table Audit.Settings.Part.In) (ms.lookup "audit") p.audit
  sweeper : Option.Rel (Table Sweeper.Part.In) (ms.lookup "sweeper") p.sweeper

/-- Settings in which the other fields are those of `s`. -/
def overlay (p : Part) (s : Settings) : Settings :=
  { policy := p.policy.elim s.policy (·.overlay s.policy)
    limits := p.limits.elim s.limits (·.overlay s.limits)
    sessions := p.sessions.elim s.sessions (·.overlay s.sessions)
    audit := p.audit.elim s.audit (·.overlay s.audit)
    sweeper := p.sweeper.elim s.sweeper (·.overlay s.sweeper) }

def isWhole (p : Part) : Bool := p.limits.all Limit.Settings.Part.isWhole

/-- **The settings that are given in part are read**, unless a ceiling is not whole. -/
theorem ofJson?_eq {p : Part} (h : Table In j p) :
    Settings.ofJson? j = if p.isWhole then some (p.overlay {}) else none := by
  obtain ⟨ms, rfl, hp⟩ := h
  unfold Settings.ofJson?
  simp only [Json.fields?, Option.bind_eq_bind, Option.bind_some,
    Json.getD_of_rel hp.policy Policy.Adjustment.Part.ofJson?_eq,
    Json.getD_of_rel hp.limits Limit.Settings.Part.ofJson?_eq,
    Json.getD_of_rel hp.sessions Session.Settings.Part.ofJson?_eq,
    Json.getD_of_rel hp.audit Audit.Settings.Part.ofJson?_eq,
    Json.getD_of_rel hp.sweeper Sweeper.Part.ofJson?_eq, Json.elim_some, Json.elim_ite]
  unfold isWhole
  cases p.limits.all Limit.Settings.Part.isWhole <;> rfl

/-! ## Texts -/

section Surplus

variable {α : Type} {R : Json → α → Prop}

theorem lookup_map_member (f : String → Json → Json) (k : String) : ∀ ms : List (String × Json),
    (ms.map fun m => (m.1, f m.1 m.2)).lookup k = (ms.lookup k).map (f k)
  | [] => rfl
  | (l, v) :: ms => by
    rw [List.map_cons, Json.lookup_cons, Json.lookup_cons, lookup_map_member f k ms]
    split_ifs with h
    · rw [h]
      rfl
    · rfl

theorem rel_map {o : Option Json} {part : Option α} {f : Json → Json} (h : Option.Rel R o part)
    (hf : ∀ j p, R j p → R (f j) p) : Option.Rel R (o.map f) part := by
  cases h with
  | none => exact .none
  | some hp => exact .some (hf _ _ hp)

theorem table_firstItems {In : α → List (String × Json) → Prop} {p : α} (n : Nat) (h : Table In j p) :
    Table In (firstItems n j) p := by
  obtain ⟨ms, rfl, hp⟩ := h
  exact ⟨ms, rfl, hp⟩

/-- A member that is no list is found as it was. -/
theorem lookup_firstItems {name : String} {write : α → Json} {given : Option α} (n : Nat)
    (hwrite : ∀ a, firstItems n (write a) = write a) (h : ms.lookup name = given.map write) :
    (ms.map fun m => (m.1, firstItems n m.2)).lookup name = given.map write := by
  rw [Json.lookup_map_value, h, Option.map_map]
  exact congrArg given.map (funext hwrite)

theorem rel_firstItems {In : α → List (String × Json) → Prop} {name : String} {given : Option α} (n : Nat)
    (h : Option.Rel (Table In) (ms.lookup name) given) :
    Option.Rel (Table In) ((ms.map fun m => (m.1, firstItems n m.2)).lookup name) given := by
  rw [Json.lookup_map_value]
  exact rel_map h fun _ _ => table_firstItems n

end Surplus

/-- A section that is a table is left as it is, up to members that are no fields. -/
theorem sectionFields_limits {p : Limit.Settings.Part} (h : Table Limit.Settings.Part.In j p) :
    Table Limit.Settings.Part.In (sectionFields "rate_limit" j) p := by
  obtain ⟨ms, rfl, hp⟩ := h
  exact ⟨ms.map fun m => (m.1, firstItems 2 m.2), rfl,
    { banThreshold := lookup_firstItems 2 (fun _ => rfl) hp.banThreshold
      banDurationSecs := lookup_firstItems 2 (fun _ => rfl) hp.banDurationSecs
      idleRecordTtlSecs := lookup_firstItems 2 (fun _ => rfl) hp.idleRecordTtlSecs
      ip := rel_firstItems 2 hp.ip
      session := rel_firstItems 2 hp.session }⟩

/-- Nothing of what is given in tables is a surplus. -/
theorem table_withoutSurplus {p : Part} (h : Table In j p) : Table In (withoutSurplus j) p := by
  obtain ⟨ms, rfl, hp⟩ := h
  refine ⟨ms.map fun m => (m.1, sectionFields m.1 m.2), rfl, ?_⟩
  constructor
  all_goals rw [lookup_map_member]
  · exact rel_map hp.policy fun _ _ hs => by simpa [sectionFields] using table_firstItems 4 hs
  · exact rel_map hp.limits fun _ _ => sectionFields_limits
  · exact rel_map hp.sessions fun _ _ hs => by simpa [sectionFields] using table_firstItems 3 hs
  · exact rel_map hp.audit fun _ _ hs => by simpa [sectionFields] using table_firstItems 1 hs
  · exact rel_map hp.sweeper fun _ _ hs => by simpa [sectionFields] using table_firstItems 2 hs

/-- **A text that gives settings in part has the others at their defaults**, but one with a ceiling that is not whole
cannot be read. -/
theorem ofText?_of_part {text : String} {p : Part} (hparse : Toml.parse? text = some j) (h : Table In j p) :
    ofText? text =
      if p.isWhole then
        match (p.overlay {}).fault? with
        | some f => .error (.fault f)
        | none => .ok (p.overlay {})
      else .error .unreadable := by
  unfold ofText?
  rw [hparse, Option.bind_some, ofJson?_eq (table_withoutSurplus h)]
  cases p.isWhole <;> rfl

/-- A ceiling that is given whole, in the other order, and one other section. -/
theorem ofText?_whole_ceiling :
    ofText? "[session]\nttl_secs = 5\n\n[rate_limit.ip]\nwindow_secs = 7\nmax_requests = 2\n" =
      .ok { sessions := { ttlSecs := 5 }, limits := { ip := { maxRequests := 2, windowSecs := 7 } } } :=
  ofText?_of_part
    (p := { sessions := some { ttlSecs := some 5 },
            limits := some { ip := some { maxRequests := some 2, windowSecs := some 7 } } })
    (j := .obj
      [("session", .obj [("ttl_secs", ofWord64 5)]),
        ("rate_limit", .obj [("ip", .obj [("window_secs", ofWord64 7), ("max_requests", ofWord32 2)])])])
    (by decide +kernel)
    ⟨_, rfl,
      { policy := .none
        limits := .some ⟨_, rfl,
          { banThreshold := rfl
            banDurationSecs := rfl
            idleRecordTtlSecs := rfl
            ip := .some ⟨_, rfl, { maxRequests := rfl, windowSecs := rfl }⟩
            session := .none }⟩
        sessions := .some ⟨_, rfl, { ttlSecs := rfl, maxHistory := rfl, maxDetached := rfl }⟩
        audit := .none
        sweeper := .none }⟩

/-- Half a ceiling is not filled up with its defaults, though the settings would be in order. -/
theorem half_ceiling_unreadable :
    ∃ (text : String) (j : Json) (p : Part), Toml.parse? text = some j ∧ Table In j p ∧ (p.overlay {}).fault? = none ∧
      ofText? text = .error .unreadable := by
  refine ⟨"[rate_limit.ip]\nmax_requests = 5\n",
    .obj [("rate_limit", .obj [("ip", .obj [("max_requests", ofWord32 5)])])],
    { limits := some { ip := some { maxRequests := some 5 } } }, by decide +kernel, ⟨_, rfl, ?_⟩, by decide,
    by decide +kernel⟩
  exact
    { policy := .none
      limits := .some ⟨_, rfl,
        { banThreshold := rfl
          banDurationSecs := rfl
          idleRecordTtlSecs := rfl
          ip := .some ⟨_, rfl, { maxRequests := rfl, windowSecs := rfl }⟩
          session := .none }⟩
      sessions := .none
      audit := .none
      sweeper := .none }

end Part

end Settings

end SiteEdit
