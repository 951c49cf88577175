import EventRelay.Proofs.Listener.Authority
import EventRelay.Publish.Delivery
import Mathlib

/-!
# Secrets presented verbatim

A header may carry any octets but controls, and so any text without control
characters. It is read only when all its octets are visible ASCII, blanks and
tabs. A token that is sent octet for octet is therefore accepted exactly when
it is ASCII, whatever blanks it holds or ends in; one that is not is taken
for absent. As a parameter of the query any setup token is accepted.
-/

set_option autoImplicit false

namespace EventRelay

open EventRelay.Http EventRelay.Text

/-! ## Texts in headers -/

def Text.IsAscii (s : String) : Prop := ∀ c ∈ s.toList, c.toNat < 0x80

instance (s : String) : Decidable (IsAscii s) :=
  decidable_of_iff ((s.toList.all fun c => c.toNat < 0x80) = true) (by simp [IsAscii])

theorem Utf8.encodeChar_ascii {c : Char} (h : c.toNat < 0x80) :
    encodeChar c = [UInt8.ofNat c.toNat] := if_pos h

theorem Utf8.exists_high_octet {c : Char} (h : 0x80 ≤ c.toNat) :
    ∃ b ∈ encodeChar c, 0x80 ≤ b.toNat := by
  have hc := toNat_bounds c
  unfold encodeChar
  generalize c.toNat = n at *
  simp only
  rw [if_neg (by omega)]
  split
  · exact ⟨_, List.mem_cons_self, by rw [toNat_ofNat _ (by omega)]; omega⟩
  split
  · exact ⟨_, List.mem_cons_self, by rw [toNat_ofNat _ (by omega)]; omega⟩
  · exact ⟨_, List.mem_cons_self, by rw [toNat_ofNat _ (by omega)]; omega⟩

namespace Headers

/-- The text may stand in a header as it is. -/
def Admits (s : String) : Prop := (Utf8.octets s).all Publish.isHeaderOctet = true

instance (s : String) : Decidable (Admits s) := inferInstanceAs (Decidable (_ = true))

theorem isVisible_iff (b : UInt8) :
    isVisible b = true ↔ Publish.isHeaderOctet b = true ∧ b.toNat < 0x80 := by
  simp only [isVisible, Publish.isHeaderOctet, Bool.or_eq_true, Bool.and_eq_true, beq_iff_eq,
    bne_iff_ne, decide_eq_true_eq, ne_eq, UInt8.le_iff_toNat_le, UInt8.lt_iff_toNat_lt,
    ← UInt8.toNat_inj, UInt8.reduceToNat]
  omega

theorem chars_ascii {cs : List Char} (h : ∀ c ∈ cs, c.toNat < 0x80) :
    (Utf8.encode cs).map (fun b => Char.ofNat b.toNat) = cs := by
  induction cs with
  | nil => rfl
  | cons c cs ih =>
    have hc := h c List.mem_cons_self
    have hrest := ih fun d hd => h d (List.mem_cons_of_mem c hd)
    rw [Utf8.encode, List.flatMap_cons, Utf8.encodeChar_ascii hc, List.map_append]
    rw [Utf8.encode] at hrest
    rw [hrest, List.map_singleton, Utf8.toNat_ofNat _ (by omega), Char.ofNat_toNat]
    rfl

/-- Of the texts that a header may carry, those in ASCII are read as they were sent, and no
other is read at all. -/
theorem textOf?_octets {s : String} (h : Admits s) :
    textOf? (Utf8.octets s) = if IsAscii s then some s else none := by
  have hlegal : ∀ b ∈ Utf8.octets s, Publish.isHeaderOctet b = true := List.all_eq_true.mp h
  by_cases hs : IsAscii s
  · have hvisible : (Utf8.octets s).all isVisible = true := by
      refine List.all_eq_true.mpr fun b hb => (isVisible_iff b).mpr ⟨hlegal b hb, ?_⟩
      obtain ⟨c, hc, hbc⟩ := List.mem_flatMap.mp hb
      have hlow := hs c hc
      rw [Utf8.encodeChar_ascii hlow, List.mem_singleton] at hbc
      rw [hbc, Utf8.toNat_ofNat _ (by omega)]
      exact hlow
    rw [textOf?, if_pos hvisible, if_pos hs, Utf8.octets, chars_ascii hs, String.ofList_toList]
  · have hhidden : ¬ (Utf8.octets s).all isVisible = true := by
      intro hall
      obtain ⟨c, hc, hhigh⟩ : ∃ c ∈ s.toList, 0x80 ≤ c.toNat := by
        simpa [IsAscii] using hs
      obtain ⟨b, hb, hb'⟩ := Utf8.exists_high_octet hhigh
      have hlow := List.all_eq_true.mp hall b (List.mem_flatMap.mpr ⟨c, hc, hb⟩)
      exact absurd ((isVisible_iff b).mp hlow).2 (by omega)
    rw [textOf?, if_neg hhidden, if_neg hs]

end Headers

/-! ## Tokens -/

namespace Signature

theorem verifiesToken_verbatim {token : String} (h : trimmed token ≠ "") :
    verifiesToken (some token) token = true := by
  simp [verifiesToken, h]

theorem verifiesToken_absent (token : String) : verifiesToken none token = false := by
  simp [verifiesToken]

end Signature

namespace Authorization

def bearerHeader (token : String) : String := "Bearer " ++ token

theorem toList_bearerHeader (token : String) :
    (bearerHeader token).toList = "Bearer".toList ++ ' ' :: token.toList := by
  simp [bearerHeader]

theorem isAscii_bearerHeader_iff (token : String) :
    IsAscii (bearerHeader token) ↔ IsAscii token := by
  have hscheme : IsAscii "Bearer" := by decide
  rw [IsAscii, IsAscii, toList_bearerHeader]
  simp only [List.forall_mem_append, List.forall_mem_cons]
  exact ⟨fun h => h.2.2, fun h => ⟨hscheme, by decide, h⟩⟩

theorem admits_bearerHeader {token : String} (h : Headers.Admits token) :
    Headers.Admits (bearerHeader token) := by
  have hscheme : (Utf8.encode "Bearer ".toList).all Publish.isHeaderOctet = true := by decide
  rw [Headers.Admits, Utf8.octets, bearerHeader, String.toList_append, Utf8.encode,
    List.flatMap_append, List.all_append, Bool.and_eq_true]
  exact ⟨hscheme, h⟩

theorem isBearer_verbatim {token : String} (h : trimmed token ≠ "") :
    IsBearer token (bearerHeader token) := by
  have hend : trimEnd token.toList ≠ [] := by
    intro hend
    apply h
    rw [trimmed, ← trimChars_trimEnd, hend]
    rfl
  refine ⟨"Bearer".toList, trimEnd token.toList, ?_, by decide, by decide, ?_⟩
  · have hhead : ∀ c, (bearerHeader token).toList.head? = some c → isBlank c = false := by
      intro c hc
      rw [toList_bearerHeader] at hc
      cases hc
      decide
    rw [trimChars, dropWhile_of_head _ hhead, toList_bearerHeader]
    exact trimEnd_append_of_ne_nil ("Bearer".toList ++ [' ']) hend
  · rw [trimmed, String.toList_ofList, trimChars_trimEnd, trimmed]

end Authorization

/-- A token sent octet for octet is accepted exactly if it is ASCII: as the token of a delivery,
and as that of an operator, who may also put it into the query. -/
theorem verbatim_token_accepted_iff {token : String} (hblank : trimmed token ≠ "")
    (hadmits : Headers.Admits token) :
    (∀ (headers : Headers) (body : List UInt8),
      headers.first? "x-gitlab-token" = some (Utf8.octets token) →
      (Signature.verifies .gitlab headers body token = true ↔ IsAscii token)) ∧
    ∀ (settings : ListenerSettings) (request : Request), settings.setupToken = some token →
      request.headers.first? "authorization" = some (Utf8.octets ("Bearer " ++ token)) →
      (Operator.isAuthorized settings request = true ↔
        IsAscii token ∨ ∃ value, request.query.value? "setup_token" = some value ∧
          trimmed value = trimmed token) := by
  constructor
  · intro headers body hheader
    have hvalue : headers.value? Signature.gitlabHeader =
        if IsAscii token then some token else none := by
      rw [Headers.value?, Signature.gitlabHeader, hheader, Option.bind_some,
        Headers.textOf?_octets hadmits]
    rw [Signature.verifies, hvalue]
    by_cases hascii : IsAscii token
    · rw [if_pos hascii, Signature.verifiesToken_verbatim hblank]
      exact iff_of_true rfl hascii
    · rw [if_neg hascii, Signature.verifiesToken_absent]
      exact iff_of_false nofun hascii
  · intro settings request htoken hheader
    have hvalue : request.headers.value? "authorization" =
        if IsAscii token then some (Authorization.bearerHeader token) else none := by
      rw [Headers.value?, hheader, Option.bind_some, ← Authorization.bearerHeader,
        Headers.textOf?_octets (Authorization.admits_bearerHeader hadmits)]
      simp only [Authorization.isAscii_bearerHeader_iff]
    rw [Operator.isAuthorized, htoken, Authorization.grants_iff hblank, Authorization.Presents,
      hvalue]
    refine or_congr_left ?_
    by_cases hascii : IsAscii token
    · rw [if_pos hascii]
      exact iff_of_true ⟨_, rfl, Authorization.isBearer_verbatim hblank⟩ hascii
    · rw [if_neg hascii]
      refine iff_of_false ?_ hascii
      rintro ⟨value, hnone, -⟩
      cases hnone

def tokenSettings (token : String) : ListenerSettings where
  provider := .gitlab
  webhookPath := "/webhook/gitlab"
  webhookSecret := token
  setupToken := some token

def tokenRequest (token : String) (query : Query) : Request where
  method := "GET"
  path := "/api/mappings"
  query := query
  headers := [("X-Gitlab-Token", Utf8.octets token),
    ("Authorization", Utf8.octets ("Bearer " ++ token))]
  body := []

theorem spaced_token_accepted :
    Signature.verifies .gitlab (tokenRequest " a: b\tc " []).headers [] " a: b\tc " = true ∧
      Operator.isAuthorized (tokenSettings " a: b\tc ") (tokenRequest " a: b\tc " []) = true := by
  have hblank : trimmed " a: b\tc " ≠ "" := by decide
  have hadmits : Headers.Admits " a: b\tc " := by decide
  have hascii : IsAscii " a: b\tc " := by decide
  obtain ⟨hdelivery, hoperator⟩ := verbatim_token_accepted_iff hblank hadmits
  constructor
  · exact (hdelivery (tokenRequest " a: b\tc " []).headers [] (by decide)).mpr hascii
  · exact (hoperator (tokenSettings " a: b\tc ") (tokenRequest " a: b\tc " []) rfl
      (by decide)).mpr (Or.inl hascii)

/-- An accent in the token locks out whoever sends it in a header, but not in the query. -/
theorem accented_token_refused :
    trimmed "clé" ≠ "" ∧ Headers.Admits "clé" ∧
      (tokenRequest "clé" []).headers.first? "x-gitlab-token" = some (Utf8.octets "clé") ∧
      Signature.verifies .gitlab (tokenRequest "clé" []).headers [] "clé" = false ∧
      Operator.isAuthorized (tokenSettings "clé") (tokenRequest "clé" []) = false ∧
      Operator.isAuthorized (tokenSettings "clé") (tokenRequest "clé" [("setup_token", "clé")]) =
        true := by
  decide

end EventRelay
