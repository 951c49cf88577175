import EventRelay.Listener.Access
import EventRelay.Proofs.Text.Trim
import EventRelay.Tenant.Mapping
import Mathlib.Data.List.Basic

/-!
# Mask-equal secrets

Two secrets are mask-equal when nothing of what tells them apart shows in
their masks: trimmed, both are empty, or both have one to eight characters,
or both have more and share the first four and the last four. Records are
alike when they differ in nothing but mask-equal secrets, and records that
are alike are listed alike.
-/

set_option autoImplicit false

namespace EventRelay

open EventRelay.Text

/-! ## Secrets -/

def secretChars (s : String) : List Char := trimChars s.toList

inductive MaskEqual (a b : String) : Prop where
  | blank (ha : secretChars a = []) (hb : secretChars b = [])
  | short (ha : 1 ≤ (secretChars a).length ∧ (secretChars a).length ≤ 8)
    (hb : 1 ≤ (secretChars b).length ∧ (secretChars b).length ≤ 8)
  | long (ha : 9 ≤ (secretChars a).length) (hb : 9 ≤ (secretChars b).length)
    (hfirst : (secretChars a).take 4 = (secretChars b).take 4)
    (hlast : (secretChars a).rtake 4 = (secretChars b).rtake 4)

theorem maskSecret_blank {s : String} (h : secretChars s = []) : maskSecret s = "" := by
  have he : trimChars s.toList = [] := h
  simp [maskSecret, he]

theorem maskSecret_short {s : String}
    (h : 1 ≤ (secretChars s).length ∧ (secretChars s).length ≤ 8) :
    maskSecret s = "****" := by
  have hne : (trimChars s.toList).isEmpty = false := by
    rw [List.isEmpty_eq_false_iff, ← List.length_pos_iff]
    exact h.1
  have hlen : (trimChars s.toList).length ≤ 8 := h.2
  simp only [maskSecret, hne, Bool.false_eq_true, if_false, hlen, if_true]

theorem maskSecret_long {s : String} (h : 9 ≤ (secretChars s).length) :
    maskSecret s =
      String.ofList ((secretChars s).take 4 ++ ['.', '.', '.'] ++ (secretChars s).rtake 4) := by
  have hlen : ¬ (trimChars s.toList).length ≤ 8 := Nat.not_le.mpr h
  have hne : (trimChars s.toList).isEmpty = false := by
    rw [List.isEmpty_eq_false_iff, ← List.length_pos_iff]
    omega
  simp only [maskSecret, hne, Bool.false_eq_true, if_false, hlen]
  rfl

theorem secretChars_cases (s : String) :
    secretChars s = [] ∨ (1 ≤ (secretChars s).length ∧ (secretChars s).length ≤ 8) ∨
      9 ≤ (secretChars s).length := by
  rw [← List.length_eq_zero_iff]
  omega

theorem length_take_four {cs : List Char} (h : 9 ≤ cs.length) : (cs.take 4).length = 4 := by
  rw [List.length_take]
  omega

theorem length_maskSecret_long {s : String} (h : 9 ≤ (secretChars s).length) :
    (maskSecret s).length = 11 := by
  rw [maskSecret_long h, String.length_ofList, List.length_append, List.length_append,
    length_take_four h, List.rtake, List.length_drop]
  show 4 + 3 + _ = 11
  omega

/-- Mask-equal secrets are those with the same mask. -/
theorem maskEqual_iff {a b : String} : MaskEqual a b ↔ maskSecret a = maskSecret b := by
  constructor
  · intro h
    cases h with
    | blank ha hb => rw [maskSecret_blank ha, maskSecret_blank hb]
    | short ha hb => rw [maskSecret_short ha, maskSecret_short hb]
    | long ha hb hfirst hlast => rw [maskSecret_long ha, maskSecret_long hb, hfirst, hlast]
  · intro h
    have hlen := congrArg String.length h
    rcases secretChars_cases a with ha | ha | ha <;> rcases secretChars_cases b with hb | hb | hb
    · exact .blank ha hb
    · rw [maskSecret_blank ha, maskSecret_short hb] at h
      exact absurd h (by decide)
    · rw [maskSecret_blank ha, length_maskSecret_long hb] at hlen
      exact absurd hlen (by decide)
    · rw [maskSecret_short ha, maskSecret_blank hb] at h
      exact absurd h (by decide)
    · exact .short ha hb
    · rw [maskSecret_short ha, length_maskSecret_long hb] at hlen
      exact absurd hlen (by decide)
    · rw [maskSecret_blank hb, length_maskSecret_long ha] at hlen
      exact absurd hlen (by decide)
    · rw [maskSecret_short hb, length_maskSecret_long ha] at hlen
      exact absurd hlen (by decide)
    · rw [maskSecret_long ha, maskSecret_long hb] at h
      have hchars := String.ofList_inj.mp h
      obtain ⟨hfront, hlast⟩ := List.append_inj hchars (by
        rw [List.length_append, List.length_append, length_take_four ha, length_take_four hb])
      exact .long ha hb (List.append_inj_left hfront (by
        rw [length_take_four ha, length_take_four hb])) hlast

namespace MaskEqual

variable {a b : String}

theorem refl (a : String) : MaskEqual a a := maskEqual_iff.mpr rfl

theorem secretChars_trimmed (a : String) : secretChars (trimmed a) = secretChars a := by
  rw [secretChars, trimmed, String.toList_ofList, trimChars_trimChars]
  rfl

theorem trimmed (h : MaskEqual a b) : MaskEqual (Text.trimmed a) (Text.trimmed b) := by
  cases h with
  | blank ha hb => exact .blank (by rwa [secretChars_trimmed]) (by rwa [secretChars_trimmed])
  | short ha hb => exact .short (by rwa [secretChars_trimmed]) (by rwa [secretChars_trimmed])
  | long ha hb hfirst hlast =>
    exact .long (by rwa [secretChars_trimmed]) (by rwa [secretChars_trimmed])
      (by rwa [secretChars_trimmed, secretChars_trimmed])
      (by rwa [secretChars_trimmed, secretChars_trimmed])

theorem trimmed_eq_empty (a : String) : Text.trimmed a = "" ↔ secretChars a = [] := by
  rw [Text.trimmed, ← String.ofList_nil, String.ofList_inj, secretChars]

theorem trimmed_empty (h : MaskEqual a b) : Text.trimmed a = "" ↔ Text.trimmed b = "" := by
  rw [trimmed_eq_empty, trimmed_eq_empty]
  cases h with
  | blank ha hb => rw [ha, hb]
  | short ha hb =>
    exact iff_of_false (List.ne_nil_of_length_pos ha.1) (List.ne_nil_of_length_pos hb.1)
  | long ha hb =>
    exact iff_of_false (List.ne_nil_of_length_pos (by omega)) (List.ne_nil_of_length_pos (by omega))

theorem isBlankText (h : MaskEqual a b) : Text.isBlankText a = Text.isBlankText b := by
  rw [Bool.eq_iff_iff, ← trimmed_eq_empty_iff, ← trimmed_eq_empty_iff]
  exact h.trimmed_empty

theorem orFallback {c d : String} (hfallback : MaskEqual c d) (h : MaskEqual a b) :
    MaskEqual (Text.orFallback c a) (Text.orFallback d b) := by
  simp only [Text.orFallback, h.trimmed_empty]
  split
  · exact hfallback
  · exact h.trimmed

end MaskEqual

/-! ## Records -/

structure PublishCredentials.Alike (c d : PublishCredentials) : Prop where
  endpoint : c.endpoint = d.endpoint
  authToken : MaskEqual c.authToken d.authToken
  webhookSecret : MaskEqual c.webhookSecret d.webhookSecret

structure TenantProfile.Alike (p q : TenantProfile) : Prop where
  organization : p.organization = q.organization
  label : p.label = q.label
  credentials : p.credentials.Alike q.credentials
  defaultEnvironment : p.defaultEnvironment = q.defaultEnvironment

structure PublishDefaults.Alike (d e : PublishDefaults) : Prop where
  credentials : d.credentials.Alike e.credentials
  defaultEnvironment : d.defaultEnvironment = e.defaultEnvironment

structure SetupIntent.Alike (i j : SetupIntent) : Prop where
  state : i.state = j.state
  profile : i.profile.Alike j.profile
  expiresAt : i.expiresAt = j.expiresAt

structure InstallationMapping.Alike (m n : InstallationMapping) : Prop where
  installation : m.installation = n.installation
  profile : m.profile.Alike n.profile
  enabled : m.enabled = n.enabled

namespace PublishCredentials.Alike

theorem of_secrets (endpoint : String) {a b a' b' : String} (htoken : MaskEqual a b)
    (hsecret : MaskEqual a' b') :
    Alike ⟨endpoint, a, a'⟩ ⟨endpoint, b, b'⟩ := ⟨rfl, htoken, hsecret⟩

variable {c d : PublishCredentials} (h : c.Alike d)

include h

theorem isComplete : c.isComplete = d.isComplete := by
  rw [PublishCredentials.isComplete, PublishCredentials.isComplete, h.endpoint,
    h.authToken.isBlankText, h.webhookSecret.isBlankText]

theorem trimmed : c.trimmed.Alike d.trimmed where
  endpoint := congrArg Text.trimmed h.endpoint
  authToken := h.authToken.trimmed
  webhookSecret := h.webhookSecret.trimmed

theorem listing : c.listing = d.listing := by
  rw [PublishCredentials.listing, PublishCredentials.listing, h.endpoint,
    maskEqual_iff.mp h.authToken, maskEqual_iff.mp h.webhookSecret]

end PublishCredentials.Alike

theorem TenantProfile.Alike.refl (p : TenantProfile) : p.Alike p :=
  ⟨rfl, rfl, ⟨rfl, .refl _, .refl _⟩, rfl⟩

theorem TenantProfile.Alike.listing {p q : TenantProfile} (h : p.Alike q) :
    p.listing = q.listing := by
  simp only [TenantProfile.listing, h.organization, h.label, h.credentials.listing,
    h.defaultEnvironment]

theorem PublishDefaults.Alike.listing {d e : PublishDefaults} (h : d.Alike e) :
    d.listing = e.listing := by
  simp only [PublishDefaults.listing, h.credentials.listing, h.defaultEnvironment]

/-- Settings of listeners may differ in a setup token as in the other secrets. -/
structure ListenerSettings.Alike (s t : ListenerSettings) : Prop where
  provider : s.provider = t.provider
  webhookPath : s.webhookPath = t.webhookPath
  webhookSecret : MaskEqual s.webhookSecret t.webhookSecret
  setupToken : Option.Rel MaskEqual s.setupToken t.setupToken
  source : s.source = t.source
  defaults : s.defaults.Alike t.defaults

theorem ListenerSettings.Alike.listing {s t : ListenerSettings} (h : s.Alike t) :
    s.listing = t.listing := by
  have htoken : (s.setupToken.map fun a => quoted (maskSecret a)) =
      t.setupToken.map fun a => quoted (maskSecret a) := by
    have hrel := h.setupToken
    generalize s.setupToken = x at hrel
    generalize t.setupToken = y at hrel
    cases hrel with
    | none => rfl
    | some hab => simp only [Option.map_some, maskEqual_iff.mp hab]
  simp only [ListenerSettings.listing, h.provider, h.webhookPath, maskEqual_iff.mp h.webhookSecret,
    htoken, h.source, h.defaults.listing]

theorem SetupIntent.Alike.isExpired {i j : SetupIntent} (h : i.Alike j) (now : Timestamp) :
    i.isExpired now = j.isExpired now := by
  rw [SetupIntent.isExpired, SetupIntent.isExpired, h.expiresAt]

theorem SetupIntent.Alike.mapping {i j : SetupIntent} (h : i.Alike j) (id : InstallationId) :
    (i.mapping id).Alike (j.mapping id) := ⟨rfl, h.profile, rfl⟩

theorem InstallationMapping.Alike.view {m n : InstallationMapping} (h : m.Alike n) :
    m.view = n.view := by
  have hc := h.profile.credentials
  simp only [InstallationMapping.view, h.installation, h.profile.organization, h.profile.label,
    hc.endpoint, maskEqual_iff.mp hc.authToken, maskEqual_iff.mp hc.webhookSecret,
    h.profile.defaultEnvironment, h.enabled]

end EventRelay
