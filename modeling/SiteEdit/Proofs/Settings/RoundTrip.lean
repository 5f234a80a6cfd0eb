import SiteEdit.Proofs.Settings.Parts
import SiteEdit.Proofs.Toml.Tables
/-!
# Settings are read back from their text

All settings are written, the values of each section before its tables, so the text of settings gives every one of
them.  TOML has no whole numbers above 63 bits, so that much is asked of them.
-/
namespace SiteEdit

open Json (ofWord32 ofWord64 ofStrings Table)
open Toml (Tabular isWritable)

/-! ## Everything is given -/

def Limit.Ceiling.Part.full (c : Ceiling) : Part :=
  { maxRequests := some c.maxRequests, windowSecs := some c.windowSecs }

theorem Limit.Ceiling.Part.table_full (c : Ceiling) : Table In c.toJson (full c) :=
  ⟨_, rfl, { maxRequests := rfl, windowSecs := rfl }⟩

namespace Settings

/-- All settings, given. -/
def Part.full (s : Settings) : Part :=
  { policy := some
      { maxInputLength := some s.policy.maxInputLength
        extraSelectors := some s.policy.extraSelectors
        extraStyleVars := some s.policy.extraStyleVars
        extraKeywords := some s.policy.extraKeywords }
    limits := some
      { banThreshold := some s.limits.banThreshold
        banDurationSecs := some s.limits.banDurationSecs
        idleRecordTtlSecs := some s.limits.idleRecordTtlSecs
        ip := some (.full s.limits.ip)
        session := some (.full s.limits.session) }
    sessions := some
      { ttlSecs := some s.sessions.ttlSecs
        maxHistory := some s.sessions.maxHistory
        maxDetached := some s.sessions.maxDetached }
    audit := some { maxEntries := some s.audit.maxEntries }
    sweeper := some { enabled := some s.sweeper.enabled, intervalSecs := some s.sweeper.intervalSecs } }

theorem Part.overlay_full (s t : Settings) : (full s).overlay t = s := rfl

theorem Part.isWhole_full (s : Settings) : (full s).isWhole = true := rfl

theorem Part.table_full (s : Settings) : Table In s.toJson (full s) :=
  ⟨_, rfl,
    { policy := .some ⟨_, rfl,
        { maxInputLength := rfl, extraSelectors := rfl, extraStyleVars := rfl, extraKeywords := rfl }⟩
      limits := .some ⟨_, rfl,
        { banThreshold := rfl
          banDurationSecs := rfl
          idleRecordTtlSecs := rfl
          ip := .some (Limit.Ceiling.Part.table_full s.limits.ip)
          session := .some (Limit.Ceiling.Part.table_full s.limits.session) }⟩
      sessions := .some ⟨_, rfl, { ttlSecs := rfl, maxHistory := rfl, maxDetached := rfl }⟩
      audit := .some ⟨_, rfl, { maxEntries := rfl }⟩
      sweeper := .some ⟨_, rfl, { enabled := rfl, intervalSecs := rfl }⟩ }⟩

theorem ofJson?_toJson (s : Settings) : ofJson? (withoutSurplus s.toJson) = some s :=
  calc ofJson? (withoutSurplus s.toJson)
    _ = if (Part.full s).isWhole then some ((Part.full s).overlay {}) else none :=
      Part.ofJson?_eq (Part.table_withoutSurplus (Part.table_full s))
    _ = some ((Part.full s).overlay {}) := if_pos (Part.isWhole_full s)
    _ = some s := congrArg some (Part.overlay_full s {})

/-! ## Everything can be written -/

/-- The whole numbers of 64 bits. -/
def words (s : Settings) : List UInt64 :=
  [s.policy.maxInputLength, s.limits.banDurationSecs, s.limits.idleRecordTtlSecs, s.limits.ip.windowSecs,
    s.limits.session.windowSecs, s.sessions.ttlSecs, s.sessions.maxHistory, s.sessions.maxDetached, s.audit.maxEntries,
    s.sweeper.intervalSecs]

theorem isWritable_ofNat {n : Nat} (h : n < Nat.pow 2 63) : isWritable (Json.ofNat n) = true := by
  have hpow : Int.pow 2 63 = (Nat.pow 2 63 : Nat) := rfl
  simp only [Json.ofNat, isWritable, Toml.isScalar, decide_eq_true_eq, hpow]
  omega

theorem isWritable_ofWord32 (w : UInt32) : isWritable (Json.ofNat w.toNat) = true :=
  isWritable_ofNat (Nat.lt_trans w.toNat_lt (by decide))

theorem isWritable_bool (b : Bool) : isWritable (.bool b) = true := rfl

theorem isWritable_ofStrings (ss : List String) : isWritable (ofStrings ss) = true := by
  refine List.all_eq_true.2 fun j hj => ?_
  obtain ⟨s, -, rfl⟩ := List.mem_map.1 hj
  rfl

theorem tabular_values {n : Nat} {values : List (String × Json)} (hvalues : ∀ m ∈ values, isWritable m.2 = true)
    (hkeys : (values.map Prod.fst).Nodup) : Tabular (n + 1) (.obj values) := by
  have h : Tabular (n + 1) (.obj (values ++ [])) :=
    .obj hvalues (fun m hm => absurd hm List.not_mem_nil) (by rwa [List.append_nil])
  rwa [List.append_nil] at h

theorem tabular_toJson {s : Settings} (h : ∀ w ∈ s.words, w.toNat < Nat.pow 2 63) : Tabular 3 s.toJson := by
  have hword : ∀ w ∈ s.words, isWritable (Json.ofNat w.toNat) = true := fun w hw => isWritable_ofNat (h w hw)
  simp only [words, List.forall_mem_cons, List.not_mem_nil] at hword
  obtain ⟨hlength, hban, hidle, hip, hsession, httl, hhistory, hdetached, hentries, hinterval, -⟩ := hword
  have hceiling : ∀ {c : Limit.Ceiling}, isWritable (Json.ofNat c.windowSecs.toNat) = true → Tabular 1 c.toJson :=
    fun {c} hw => tabular_values (by simp [isWritable_ofWord32, hw]) (by simp)
  have hlimits : Tabular 2 s.limits.toJson := by
    change Tabular 2 (.obj ([_, _, _] ++ [_, _]))
    refine .obj ?_ ?_ (by simp)
    · simp [isWritable_ofWord32, hban, hidle]
    · simp [hceiling hip, hceiling hsession]
  have hpolicy : Tabular 2 s.policy.toJson :=
    tabular_values (by simp [isWritable_ofStrings, hlength]) (by simp)
  have hsessions : Tabular 2 s.sessions.toJson :=
    tabular_values (by simp [httl, hhistory, hdetached]) (by simp)
  have haudit : Tabular 2 s.audit.toJson := tabular_values (by simp [hentries]) (by simp)
  have hsweeper : Tabular 2 s.sweeper.toJson :=
    tabular_values (by simp [hinterval, isWritable_bool]) (by simp)
  change Tabular 3 (.obj ([] ++ [_, _, _, _, _]))
  exact .obj (by simp) (by simp [hpolicy, hlimits, hsessions, haudit, hsweeper]) (by simp)

/-- **Settings without a fault are read back from their text**, whatever strings are in their lists. -/
theorem ofText?_toText {s : Settings} (hs : s.fault? = none) (hwords : ∀ w ∈ s.words, w.toNat < Nat.pow 2 63) :
    ofText? (toText s) = .ok s := by
  unfold ofText? toText
  rw [Toml.parse?_print (tabular_toJson hwords) (by decide), Option.bind_some, ofJson?_toJson]
  dsimp only
  rw [hs]

/-- Strings of all four forms, and the greatest whole number of TOML. -/
theorem ofText?_toText_odd_strings :
    let s : Settings :=
      { policy :=
          { extraSelectors := ["#a \"b\"", "", "'\'' \"\"\" \\"]
            extraStyleVars := ["\n\t\u0000", "it's", "\r\n--x: [1, 2] # no comment"]
            extraKeywords := ["[rate_limit.ip]\nmax_requests = 0"] }
        sessions := { ttlSecs := 9223372036854775807 } }
    ofText? (toText s) = .ok s :=
  ofText?_toText (by decide) (by simp [words])

end Settings

end SiteEdit
