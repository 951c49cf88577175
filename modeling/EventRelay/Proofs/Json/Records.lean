import EventRelay.Event.Canonical
import EventRelay.Proofs.Json.Shape
import EventRelay.Proofs.Time.Text
import EventRelay.Tenant.Mapping

/-!
# Records are read back

Each record is written as an object that suits its shape, and looking its
fields up gives the record again. So what is written of a record is read as
that record, whatever its texts hold. Identifiers are numbers of 64 bits, in
records as well as in documents; a deadline comes back by way of its text.
-/

set_option autoImplicit false

namespace EventRelay

open EventRelay.Json EventRelay.Json.Shape

namespace Json

/-- What holds of a type whose values are written and read as documents. -/
structure RoundTrips (α : Type) [Schema α] (Sized : α → Prop) : Prop where
  decode_encode : ∀ a, Sized a → decode α (encode a) = .ok a
  sized : ∀ bytes a, decode α bytes = .ok a → Sized a
  settled : ∀ bytes a, decode α bytes = .ok a → decode α (encode a) = .ok a

section

variable {α : Type} [Schema α]

theorem decode_encode_of_suits (hsound : Sound (Schema.shape α)) {a : α}
    (hsuits : Suits (Schema.shape α) (Schema.toJson a))
    (hback : Schema.ofJson? (Schema.toJson a) = some a) : decode α (encode a) = .ok a := by
  rw [decode, encode, Shape.read_octets hsound hsuits]
  simp only [hback]

theorem suits_of_decode (hsound : Sound (Schema.shape α)) {bytes : List UInt8} {a : α}
    (h : decode α bytes = .ok a) : ∃ v, Suits (Schema.shape α) v ∧ Schema.ofJson? v = some a := by
  unfold decode at h
  split at h
  · cases h
  · rename_i v hread
    split at h
    · rename_i hv
      cases h
      exact ⟨v, suits_of_read hsound hread, hv⟩
    · cases h

theorem RoundTrips.of_suits {Sized : α → Prop} (hsound : Sound (Schema.shape α))
    (hsuits : ∀ a, Sized a → Suits (Schema.shape α) (Schema.toJson a))
    (hback : ∀ a : α, Schema.ofJson? (Schema.toJson a) = some a)
    (hsized : ∀ v (a : α), Suits (Schema.shape α) v → Schema.ofJson? v = some a → Sized a) :
    RoundTrips α Sized := by
  have hread : ∀ bytes (a : α), decode α bytes = .ok a → Sized a := by
    intro bytes a h
    obtain ⟨v, hv, ha⟩ := suits_of_decode hsound h
    exact hsized v a hv ha
  have hwrite : ∀ a : α, Sized a → decode α (encode a) = .ok a := fun a ha =>
    decode_encode_of_suits hsound (hsuits a ha) (hback a)
  exact ⟨hwrite, hread, fun bytes a h => hwrite a (hread bytes a h)⟩

end

end Json

/-! ## Events and credentials -/

theorem CanonicalEvent.roundTrips : RoundTrips CanonicalEvent fun _ => True := by
  refine .of_suits ?_ ?_ ?_ fun _ _ _ _ => trivial
  · simp [Schema.shape, CanonicalEvent.keys, Sound, SoundFields]
  · intro e _
    simp [Schema.shape, Schema.toJson, CanonicalEvent.keys, CanonicalEvent.toJson,
      CanonicalEvent.values]
  · intro e
    rfl

namespace PublishCredentials

theorem sound_shape : Sound shape := by
  simp [shape, Sound, SoundFields]

theorem suits_toJson (c : PublishCredentials) : Suits shape c.toJson := by
  simp [shape, toJson]

theorem roundTrips : RoundTrips PublishCredentials fun _ => True :=
  .of_suits sound_shape (fun c _ => c.suits_toJson) (fun _ => rfl) fun _ _ _ _ => trivial

end PublishCredentials

/-! ## Tenants -/

namespace TenantProfile

/-- The owner, if there is one, has a number of 64 bits. -/
def OwnerSized (organization : Option OrganizationId) : Prop :=
  ∀ o ∈ organization, IsInt64 o.number

def Sized (p : TenantProfile) : Prop := OwnerSized p.organization

theorem suits_organizationJson {organization : Option OrganizationId}
    (h : OwnerSized organization) : Suits (.optional .integer) (organizationJson organization) := by
  rw [Suits]
  cases organization with
  | none => exact Or.inl rfl
  | some id =>
    rw [Suits]
    exact Or.inr ⟨id.number, rfl, fitsInt64_iff.mpr (h id rfl)⟩

theorem organizationAt_eq {path : List String} {v : Json} {organization : Option OrganizationId}
    (h : v.at? path = some (organizationJson organization)) :
    organizationAt path v = organization := by
  rw [organizationAt, h]
  cases organization <;> rfl

theorem ownerSized_organizationAt {path : List String} {v w : Json} (h : v.at? path = some w)
    (hw : Suits (.optional .integer) w) : OwnerSized (organizationAt path v) := by
  rw [Suits, Suits] at hw
  rw [organizationAt, h]
  rcases hw with rfl | ⟨n, rfl, hn⟩
  · exact fun _ ho => nomatch ho
  · rintro o ho
    cases ho
    exact fitsInt64_iff.mp hn

theorem sound_shape : Sound shape := by
  simp [shape, Sound, SoundFields, PublishCredentials.sound_shape]

theorem suits_toJson {p : TenantProfile} (h : p.Sized) : Suits shape p.toJson := by
  simp [shape, toJson, suits_organizationJson h, PublishCredentials.suits_toJson]

theorem ofJson_toJson (p : TenantProfile) : ofJson p.toJson = p := by
  have horganization : organizationAt ["organization_id"] p.toJson = p.organization :=
    organizationAt_eq rfl
  rw [ofJson, horganization]
  rfl

theorem sized_ofJson {v : Json} (h : Suits shape v) : (ofJson v).Sized := by
  obtain ⟨organization, label, more, rfl, horganization, -⟩ := exists_of_suits_record h
  exact ownerSized_organizationAt rfl horganization

theorem roundTrips : RoundTrips TenantProfile Sized :=
  .of_suits sound_shape (fun _ => suits_toJson) (fun p => congrArg some p.ofJson_toJson)
    fun _ _ hv ha => Option.some.inj ha ▸ sized_ofJson hv

end TenantProfile

/-! ## Intents and mappings -/

namespace SetupIntent

def Sized (i : SetupIntent) : Prop := i.profile.Sized

theorem sound_shape : Sound shape := by
  simp [shape, Sound, SoundFields, TenantProfile.sound_shape]

theorem suits_toJson {i : SetupIntent} (h : i.Sized) : Suits shape i.toJson := by
  simp [shape, toJson, TenantProfile.suits_toJson h, Timestamp.ofText?_text]

theorem ofJson?_toJson (i : SetupIntent) : Schema.ofJson? i.toJson = some i := by
  have htext : Json.textAt ["expires_at"] i.toJson = i.expiresAt.text := rfl
  have hprofile : (i.toJson.at? ["profile"]).getD .null = i.profile.toJson := rfl
  simp only [Schema.ofJson?, htext, hprofile, Timestamp.ofText?_text, Option.map_some,
    TenantProfile.ofJson_toJson]
  rfl

theorem sized_of_suits {v : Json} {i : SetupIntent} (hv : Suits shape v)
    (hi : Schema.ofJson? v = some i) : i.Sized := by
  obtain ⟨state, profile, more, rfl, -, hprofile⟩ := exists_of_suits_record hv
  obtain ⟨expiresAt, -, rfl⟩ := Option.map_eq_some_iff.mp hi
  exact TenantProfile.sized_ofJson hprofile

theorem roundTrips : RoundTrips SetupIntent Sized :=
  .of_suits sound_shape (fun _ => suits_toJson) ofJson?_toJson fun _ _ => sized_of_suits

end SetupIntent

namespace InstallationMapping

def Sized (m : InstallationMapping) : Prop := IsInt64 m.installation.number ∧ m.profile.Sized

theorem sound_shape : Sound shape := by
  simp [shape, Sound, SoundFields, TenantProfile.sound_shape]

theorem suits_toJson {m : InstallationMapping} (h : m.Sized) : Suits shape m.toJson := by
  simp [shape, toJson, fitsInt64_iff.mpr h.1, TenantProfile.suits_toJson h.2]

theorem ofJson?_toJson (m : InstallationMapping) : Schema.ofJson? m.toJson = some m := by
  have hprofile : (m.toJson.at? ["profile"]).getD .null = m.profile.toJson := rfl
  simp only [Schema.ofJson?, hprofile, TenantProfile.ofJson_toJson]
  rfl

theorem sized_of_suits {v : Json} {m : InstallationMapping} (hv : Suits shape v)
    (hm : Schema.ofJson? v = some m) : m.Sized := by
  obtain ⟨installation, profile, more, rfl, hinstallation, hprofile⟩ := exists_of_suits_record hv
  obtain ⟨n, rfl, hn⟩ := exists_of_suits_integer hinstallation
  obtain rfl := Option.some.inj hm
  exact ⟨hn, TenantProfile.sized_ofJson hprofile⟩

theorem roundTrips : RoundTrips InstallationMapping Sized :=
  .of_suits sound_shape (fun _ => suits_toJson) ofJson?_toJson fun _ _ => sized_of_suits

end InstallationMapping

namespace MappingView

def Sized (m : MappingView) : Prop :=
  IsInt64 m.installation.number ∧ TenantProfile.OwnerSized m.organization

theorem sound_shape : Sound shape := by
  simp [shape, Sound, SoundFields]

theorem suits_toJson {m : MappingView} (h : m.Sized) : Suits shape m.toJson := by
  simp [shape, toJson, fitsInt64_iff.mpr h.1, TenantProfile.suits_organizationJson h.2]

theorem ofJson?_toJson (m : MappingView) : Schema.ofJson? m.toJson = some m := by
  have horganization :
      TenantProfile.organizationAt ["organization_id"] m.toJson = m.organization :=
    TenantProfile.organizationAt_eq rfl
  simp only [Schema.ofJson?, horganization]
  rfl

theorem sized_of_suits {v : Json} {m : MappingView} (hv : Suits shape v)
    (hm : Schema.ofJson? v = some m) : m.Sized := by
  obtain ⟨installation, organization, more, rfl, hinstallation, horganization⟩ :=
    exists_of_suits_record hv
  obtain ⟨n, rfl, hn⟩ := exists_of_suits_integer hinstallation
  obtain rfl := Option.some.inj hm
  exact ⟨hn, TenantProfile.ownerSized_organizationAt rfl horganization⟩

theorem roundTrips : RoundTrips MappingView Sized :=
  .of_suits sound_shape (fun _ => suits_toJson) ofJson?_toJson fun _ _ => sized_of_suits

end MappingView

/-- Every record is read back from what is written of it, and what is written of a record that was
read is settled. -/
theorem records_round_trip :
    RoundTrips CanonicalEvent (fun _ => True) ∧ RoundTrips PublishCredentials (fun _ => True) ∧
      RoundTrips TenantProfile TenantProfile.Sized ∧ RoundTrips SetupIntent SetupIntent.Sized ∧
      RoundTrips InstallationMapping InstallationMapping.Sized ∧
      RoundTrips MappingView MappingView.Sized :=
  ⟨CanonicalEvent.roundTrips, PublishCredentials.roundTrips, TenantProfile.roundTrips,
    SetupIntent.roundTrips, InstallationMapping.roundTrips, MappingView.roundTrips⟩

def lastIntent : SetupIntent where
  state := ⟨" \"\\\x00\n"⟩
  profile := { organization := some ⟨-9223372036854775808⟩, label := "Ж🦀\x7f" }
  expiresAt := ⟨Time.lastSecond, 1999999999, by decide⟩

theorem last_intent_read_back :
    lastIntent.expiresAt.text = "+262142-12-31T23:59:60.999999999Z" ∧
      decode SetupIntent (encode lastIntent) = .ok lastIntent := by
  have hsized : lastIntent.Sized := by
    rintro o ho
    cases ho
    exact ⟨by decide, by decide⟩
  exact ⟨by decide, records_round_trip.2.2.2.1.decode_encode lastIntent hsized⟩

end EventRelay
