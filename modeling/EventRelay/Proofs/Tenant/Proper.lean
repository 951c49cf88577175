import EventRelay.Proofs.Text.Hex
import EventRelay.Proofs.Text.Trim
import EventRelay.Tenant.Mapping

/-!
# Proper values

A document may put any number and any text in the place of an identifier.
Proper values are those that the constructors of identifiers let through:
numbers are positive, a state is trimmed and not blank. Fresh states are
proper.
-/

set_option autoImplicit false

namespace EventRelay

open EventRelay.Text

theorem readPositive?_pos {raw : String} {n : Int} (h : readPositive? raw = some n) : 0 < n := by
  unfold readPositive? at h
  split at h
  · split at h
    · rename_i hpos
      cases h
      exact hpos
    · cases h
  · cases h

namespace InstallationId

def Proper (id : InstallationId) : Prop := 0 < id.number

theorem number_inj {a b : InstallationId} : a.number = b.number ↔ a = b := by
  cases a
  cases b
  simp

theorem ofInt?_number {id : InstallationId} (h : id.Proper) : ofInt? id.number = some id := if_pos h

theorem read?_proper {raw : String} {id : InstallationId} (h : read? raw = some id) :
    id.Proper := by
  obtain ⟨n, hn, rfl⟩ := Option.map_eq_some_iff.mp h
  exact readPositive?_pos hn

end InstallationId

namespace OrganizationId

def Proper (id : OrganizationId) : Prop := 0 < id.number

theorem ofInt?_number {id : OrganizationId} (h : id.Proper) : ofInt? id.number = some id := if_pos h

theorem ofInt?_proper {n : Int} {id : OrganizationId} (h : ofInt? n = some id) : id.Proper := by
  unfold ofInt? at h
  split at h
  · rename_i hn
    cases h
    exact hn
  · cases h

theorem read?_proper {raw : String} {id : OrganizationId} (h : read? raw = some id) :
    id.Proper := by
  obtain ⟨n, hn, rfl⟩ := Option.map_eq_some_iff.mp h
  exact readPositive?_pos hn

end OrganizationId

namespace SetupState

def Proper (state : SetupState) : Prop := ofText? state.token = some state

theorem token_inj {a b : SetupState} : a.token = b.token ↔ a = b := by
  cases a
  cases b
  simp

theorem ofText?_eq_some {raw : String} (h : trimmed raw ≠ "") :
    ofText? raw = some ⟨trimmed raw⟩ := by
  simp [ofText?, nonBlank?, h]

theorem ofOctets_proper (octets : Vector UInt8 16) : (ofOctets octets).Proper := by
  have hdigits : ("0123456789abcdef".toList.all fun c => !isBlank c) = true := by decide
  have hplain : ∀ c ∈ (ofOctets octets).token.toList, isBlank c = false := by
    intro c hc
    rw [ofOctets, Hex.text, String.toList_ofList] at hc
    have hdigit := List.all_eq_true.mp hdigits c (Hex.lower_of_mem_encode hc)
    rwa [Bool.not_eq_true'] at hdigit
  have hne : (ofOctets octets).token ≠ "" := by
    intro h
    have hl : (ofOctets octets).token.toList.length = 32 := by
      simp [ofOctets, Hex.text, Hex.encode, List.length_flatMap]
    rw [h] at hl
    cases hl
  have ht := trimmed_of_none_blank hplain
  rw [Proper, ofText?_eq_some (by rwa [ht]), ht]

end SetupState

def TenantProfile.Proper (p : TenantProfile) : Prop := ∀ o ∈ p.organization, o.Proper

def SetupIntent.Proper (i : SetupIntent) : Prop := i.state.Proper ∧ i.profile.Proper

def InstallationMapping.Proper (m : InstallationMapping) : Prop :=
  m.installation.Proper ∧ m.profile.Proper

theorem SetupIntent.mapping_proper {i : SetupIntent} {id : InstallationId} (hi : i.Proper)
    (hid : id.Proper) : (i.mapping id).Proper := ⟨hid, hi.2⟩

instance (p : TenantProfile) : Decidable p.Proper :=
  inferInstanceAs (Decidable (∀ o ∈ p.organization, 0 < o.number))

instance (i : SetupIntent) : Decidable i.Proper :=
  inferInstanceAs (Decidable (SetupState.ofText? _ = some _ ∧ i.profile.Proper))

instance (m : InstallationMapping) : Decidable m.Proper :=
  inferInstanceAs (Decidable (0 < m.installation.number ∧ m.profile.Proper))

end EventRelay
