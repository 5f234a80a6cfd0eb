import SiteEdit.Proofs.Engine.Remaining
import SiteEdit.Proofs.Limit.Enforcement
import SiteEdit.Proofs.Limit.Keys
/-!
# The bans of an engine

The limiter of an engine has made a run of its own (`limiter_after`), so what holds of the bans of a limiter after every
run holds of those of the engine: a listed ban is stored under the text of its key (`listed_ban_lifted`).  Whether a ban
for violations takes hold is up to the settings, and those with which an engine starts may say that it lasts no time
(`escalation_enforced_iff`).
-/
namespace SiteEdit.Engine

open Limit (Limiter Key Decision)

variable {s : Settings} {e : Engine}

/-! ## Lifting -/

theorem keyed_after (h : start s = .ok e) (acts : Actions) : (e.after acts).state.limiter.Keyed := by
  rw [limiter_after h]
  exact .run _ (.empty s.limits)

/-- **A ban that is listed can be lifted by the text that is listed, if its key has a value.**  After every run of an
engine a ban is listed under the text of a key, which is read back from the text unless its value is empty.  To lift the
ban of that key, at any time, finds the ban and takes it from the engine and from its lists, and nothing else. -/
theorem listed_ban_lifted (s : Settings) (e : Engine) (hstart : start s = .ok e) (acts : Actions) (now : Millis)
    (text : String) (b : Limit.Ban) (hb : (text, b) ∈ (e.after acts).bans now) :
    ∃ key : Key, key.text = text ∧ Key.ofText? text = (if key.value = "" then none else some key) ∧
      ∀ t, let before := (e.after acts).state
        let lifted := (e.after acts).unban t key
        lifted.2 = true ∧
          lifted.1.state = { before with limiter := { before.limiter with bans := before.limiter.bans.erase text } } ∧
          ∀ t', lifted.1.bans t' = ((e.after acts).bans t').filter fun listed => listed.1 ≠ text := by
  obtain ⟨key, rfl, hresult, hstate⟩ := Limiter.unban_of_mem_activeBans (keyed_after hstart acts) hb
  refine ⟨key, rfl, key.ofText?_text, fun t => ⟨hresult, ?_, fun t' => ?_⟩⟩
  · show State.mk _ _ = _
    rw [hstate]
  · exact Limiter.activeBans_unban _ key t'

/-- Two requests of an address. -/
def twiceFrom (ip : String) : Actions :=
  [(0, .transform ⟨"a", "u"⟩ ⟨"hide the banner", ip, "agent", none⟩),
    (1, .transform ⟨"b", "v"⟩ ⟨"hide the banner", ip, "agent", none⟩)]

/-- When the address is refused the second time, the limiter has decided on it twice, and once on the session. -/
theorem limiter_after_twiceFrom (hstart : start s = .ok e) (ip : String) :
    let once := (Limiter.empty s.limits).run [(0, .check (.ip ip)), (0, .check (.session "a"))]
    ((Limiter.empty s.limits).check 0 (.ip ip)).result.isAllowed = true →
      (once.check 1 (.ip ip)).result.isAllowed = false →
      (e.after (twiceFrom ip)).state.limiter = (once.check 1 (.ip ip)).state := by
  intro once hfirst hsecond
  let first : Request := ⟨"hide the banner", ip, "agent", none⟩
  have honce : (e.state.transform e.screen 0 ⟨"a", "u"⟩ first).state.limiter = once := by
    rw [State.transform_limiter, state_of_start hstart]
    exact if_pos hfirst
  show ((e.state.transform e.screen 0 ⟨"a", "u"⟩ first).state.transform e.screen 1 ⟨"b", "v"⟩ first).state.limiter = _
  rw [State.transform_limiter, honce]
  exact if_neg (by rw [hsecond]; exact Bool.false_ne_true)

/-- One request of an address in a minute; the next one bans it for an hour. -/
def strictSettings : Settings :=
  { limits := { banThreshold := 1, banDurationSecs := 3600, ip := { maxRequests := 1, windowSecs := 60 } } }

/-- The ban that the second request brings on. -/
def strictBan : Limit.Ban :=
  { reason := "1 rate-limit violations", bannedAt := 1, expiresAt := some 3600001, source := .automatic }

theorem listed_ban_lifted_colons :
    ∃ e, start strictSettings = .ok e ∧ ("ip:2001:db8::1", strictBan) ∈ (e.after (twiceFrom "2001:db8::1")).bans 2 ∧
      Key.ofText? "ip:2001:db8::1" = some (.ip "2001:db8::1") ∧
      ((e.after (twiceFrom "2001:db8::1")).unban 3 (.ip "2001:db8::1")).2 = true := by
  obtain ⟨e, hstart⟩ := exists_start (s := strictSettings) (by decide)
  have hb : ("ip:2001:db8::1", strictBan) ∈ (e.after (twiceFrom "2001:db8::1")).bans 2 := by
    refine Limiter.mem_activeBans.2 ⟨?_, by decide⟩
    rw [limiter_after_twiceFrom hstart _ (by decide +kernel) (by decide +kernel)]
    decide +kernel
  obtain ⟨key, hkey, hread, hlift⟩ := listed_ban_lifted strictSettings e hstart _ 2 _ strictBan hb
  obtain rfl : key = .ip "2001:db8::1" := Key.text_inj.1 hkey
  exact ⟨e, hstart, hb, hread, (hlift 3).1⟩

/-- The ban of an address without a value is listed under a text that no key is read from. -/
theorem empty_address_unread :
    ¬ ∀ (s : Settings) (e : Engine), start s = .ok e → ∀ (acts : Actions) (now : Millis) (text : String)
      (b : Limit.Ban), (text, b) ∈ (e.after acts).bans now →
        ∃ key, Key.ofText? text = some key ∧ key.text = text ∧ ((e.after acts).unban now key).2 = true := by
  intro h
  obtain ⟨e, hstart⟩ := exists_start (s := strictSettings) (by decide)
  have hb : ("ip:", strictBan) ∈ (e.after (twiceFrom "")).bans 2 := by
    refine Limiter.mem_activeBans.2 ⟨?_, by decide⟩
    rw [limiter_after_twiceFrom hstart _ (by decide +kernel) (by decide +kernel)]
    decide +kernel
  obtain ⟨key, hread, -⟩ := h strictSettings e hstart (twiceFrom "") 2 "ip:" strictBan hb
  exact absurd hread (by decide +revert)

/-! ## Enforcement -/

theorem banDuration_pos_iff (s : Settings) : 0 < s.limits.banDuration ↔ s.limits.banDurationSecs ≠ 0 := by
  refine ⟨fun hpos hzero => ?_, fun h => seconds_pos h⟩
  rw [Limit.Settings.banDuration, hzero] at hpos
  exact absurd hpos (by decide)

theorem banThreshold_le_one_iff (h : s.fault? = none) :
    s.limits.banThreshold.toNat ≤ 1 ↔ s.limits.banThreshold = 1 := by
  have hne : s.limits.banThreshold ≠ 0 := ne_of_beq_false (has_eq_false h .banThreshold)
  have hpos : s.limits.banThreshold.toNat ≠ 0 := fun hz => hne (UInt32.toNat_inj.1 hz)
  rw [← UInt32.toNat_inj]
  show _ ↔ s.limits.banThreshold.toNat = 1
  omega

/-- **A ban for violations takes hold exactly if bans last.**  After every run of an engine in which no sum of times
overflows, a request of a key that is not banned may be answered by a ban for its violations.  Then, at the same time, the
key is shown as banned and its next request is refused for a ban exactly if the duration of bans is not zero; the ban is
the one that was announced, and ends in range.  With a duration of zero, with which engines start too, the key is not
shown as banned; its next request is refused, but as one too many, unless one violation makes a ban. -/
theorem escalation_enforced_iff (s : Settings) (e : Engine) (hstart : start s = .ok e) (acts : Actions) (now : Millis)
    (key : Key) (hrange : e.StaysInRange (acts ++ [(now, .limits (.check key))]))
    (hfree : (e.after acts).state.limiter.activeBan? now key = none)
    (hbanned : ((e.after acts).state.limiter.check now key).result.isBanned = true) :
    let announced := ((e.after acts).state.limiter.check now key).result
    let l := (e.after (acts ++ [(now, .limits (.check key))])).state.limiter
    ((l.activeBan? now key).isSome = true ∧ (l.check now key).result.isBanned = true ↔
        s.limits.banDurationSecs ≠ 0) ∧
      (s.limits.banDurationSecs ≠ 0 → ∃ b, announced = Limiter.bannedDecision key b ∧
        (∀ t ∈ b.expiresAt, InRange t) ∧ l.activeBan? now key = some b ∧ (l.check now key).result = announced) ∧
      (s.limits.banDurationSecs = 0 → l.activeBan? now key = none ∧ (l.check now key).result.isAllowed = false ∧
        ((l.check now key).result.isBanned = true ↔ s.limits.banThreshold = 1)) := by
  intro announced l
  have hl : l = ((e.after acts).state.limiter.check now key).state := by
    show (e.after (acts ++ _)).state.limiter = _
    rw [after_append]
    rfl
  have hfault := (of_start hstart).1
  have hlimits := limits_after hstart acts
  obtain ⟨b, hp⟩ := Option.isSome_iff_exists.1 ((Limiter.isBanned_check_iff hfree).1 hbanned)
  have hannounced : announced = Limiter.bannedDecision key b := (Limiter.check_of_provoked hfree hp).1
  have hends : ∀ t ∈ b.expiresAt, InRange t := fun t ht => by
    rw [(Limiter.provoked?_eq_some hp).2] at ht
    rw [← Option.some.inj ht]
    exact Limiter.inRange_ban (staysInRange_append.1 hrange).2.limiter hfree hp
  have hholds : s.limits.banDurationSecs ≠ 0 →
      l.activeBan? now key = some b ∧ (l.check now key).result = announced := fun hne => by
    rw [hl, hannounced]
    refine Limiter.enforced_of_provoked hfree hp ?_
    rwa [hlimits, banDuration_pos_iff]
  have hlapses : s.limits.banDurationSecs = 0 → l.activeBan? now key = none ∧
      (l.check now key).result.isAllowed = false ∧
      ((l.check now key).result.isBanned = true ↔ s.limits.banThreshold = 1) := fun hzero => by
    rw [hl, ← banThreshold_le_one_iff hfault, ← hlimits]
    refine Limiter.unenforced_of_provoked (hlimits ▸ window_pos hfault key.dimension) hfree hp ?_
    rwa [hlimits, banDuration_pos_iff, not_not]
  refine ⟨⟨fun h hzero => ?_, fun hne => ?_⟩, fun hne => ⟨b, hannounced, hends, hholds hne⟩, hlapses⟩
  · rw [(hlapses hzero).1] at h
    cases h.1
  · rw [(hholds hne).1, (hholds hne).2]
    exact ⟨rfl, hbanned⟩

theorem escalation_enforced_iff_strict :
    let e := started strictSettings (by decide)
    let acts : Actions := [(0, .limits (.check (.ip "192.0.2.1")))]
    start strictSettings = .ok e ∧ e.StaysInRange (acts ++ [(1, .limits (.check (.ip "192.0.2.1")))]) ∧
      (e.after acts).state.limiter.activeBan? 1 (.ip "192.0.2.1") = none ∧
      ((e.after acts).state.limiter.check 1 (.ip "192.0.2.1")).result.isBanned = true ∧
      ((e.after (acts ++ [(1, .limits (.check (.ip "192.0.2.1")))])).state.limiter.activeBan? 1
        (.ip "192.0.2.1")).isSome = true := by
  intro e acts
  have hstart : start strictSettings = .ok e := start_eq_started _
  have hrange : e.StaysInRange (acts ++ [(1, .limits (.check (.ip "192.0.2.1")))]) :=
    ⟨by decide +kernel, by decide +kernel⟩
  have hfree : (e.after acts).state.limiter.activeBan? 1 (.ip "192.0.2.1") = none := by decide +kernel
  have hbanned : ((e.after acts).state.limiter.check 1 (.ip "192.0.2.1")).result.isBanned = true := by decide +kernel
  have hiff := (escalation_enforced_iff strictSettings e hstart acts 1 (.ip "192.0.2.1") hrange hfree hbanned).1
  exact ⟨hstart, hrange, hfree, hbanned, (hiff.2 (by decide)).1⟩

/-- Two requests too many in a minute make a ban, which lasts no time. -/
def toothlessSettings : Settings :=
  { limits := { banThreshold := 2, banDurationSecs := 0, ip := { maxRequests := 1, windowSecs := 60 } } }

/-- With such settings the ban that is announced does not hold. -/
theorem accepted_settings_disable_bans :
    ¬ ∀ (s : Settings) (e : Engine), start s = .ok e → ∀ (acts : Actions) (now : Millis) (key : Key),
      (e.after acts).state.limiter.activeBan? now key = none →
      ((e.after acts).state.limiter.check now key).result.isBanned = true →
      let l := (e.after (acts ++ [(now, .limits (.check key))])).state.limiter
      (l.activeBan? now key).isSome = true ∧ (l.check now key).result.isBanned = true := by
  intro h
  let e := started toothlessSettings (by decide)
  let acts : Actions := [(0, .limits (.check (.ip "192.0.2.1"))), (0, .limits (.check (.ip "192.0.2.1")))]
  have hfree : (e.after acts).state.limiter.activeBan? 0 (.ip "192.0.2.1") = none := by decide +kernel
  have hbanned : ((e.after acts).state.limiter.check 0 (.ip "192.0.2.1")).result.isBanned = true := by decide +kernel
  have hshown := (h toothlessSettings e (start_eq_started _) acts 0 (.ip "192.0.2.1") hfree hbanned).1
  exact absurd hshown (by decide +kernel)

end SiteEdit.Engine
