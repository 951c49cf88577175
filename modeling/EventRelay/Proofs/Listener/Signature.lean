import EventRelay.Proofs.Listener.Verbatim
import EventRelay.Proofs.Text.Hex

/-!
# Which deliveries are authentic

A value of a header is a text when each of its octets is visible ASCII, a
blank or a tab. A signature is `sha256=` in any case and pairs of hexadecimal
digits, and the reader accepts no other text. From these two a delivery is
authentic when the secret is not blank and the value spells the keyed hash of
the body, or is the token itself. Both ways of signing a body have this form.
-/

set_option autoImplicit false

namespace EventRelay

open EventRelay.Text

/-! ## Values of headers -/

theorem Utf8.octets_eq_nil_iff (s : String) : octets s = [] ↔ s = "" := by
  have hchar : ∀ c, encodeChar c ≠ [] := by
    intro c
    unfold encodeChar
    intro h
    simp only at h
    split_ifs at h
  rw [octets, encode, List.flatMap_eq_nil_iff, ← String.toList_eq_nil_iff,
    List.eq_nil_iff_forall_not_mem]
  exact ⟨fun h c hc => hchar c (h c hc), fun h c hc => absurd hc (h c)⟩

namespace Headers

def IsVisibleChar (c : Char) : Prop := c = '\t' ∨ (' ' ≤ c ∧ c ≤ '~')

instance (c : Char) : Decidable (IsVisibleChar c) := inferInstanceAs (Decidable (_ ∨ _))

/-- The first value of the name is the text, and each of its characters is visible. -/
def Shows (headers : Headers) (name value : String) : Prop :=
  headers.first? name = some (Utf8.octets value) ∧ ∀ c ∈ value.toList, IsVisibleChar c

theorem isVisibleChar_iff (c : Char) :
    IsVisibleChar c ↔ c.toNat = 9 ∨ (32 ≤ c.toNat ∧ c.toNat ≤ 126) := by
  have htab : c = '\t' ↔ c.toNat = 9 := by
    rw [← Char.toNat_inj]
    rfl
  rw [IsVisibleChar, htab]
  rfl

theorem isVisible_iff_toNat (b : UInt8) :
    isVisible b = true ↔ b.toNat = 9 ∨ (32 ≤ b.toNat ∧ b.toNat ≤ 126) := by
  simp only [isVisible, Bool.or_eq_true, Bool.and_eq_true, beq_iff_eq, decide_eq_true_eq,
    UInt8.le_iff_toNat_le, UInt8.lt_iff_toNat_lt, ← UInt8.toNat_inj, UInt8.reduceToNat]
  omega

theorem char_of_isVisible {b : UInt8} (h : isVisible b = true) :
    IsVisibleChar (Char.ofNat b.toNat) ∧ Utf8.encodeChar (Char.ofNat b.toNat) = [b] := by
  rw [isVisible_iff_toNat] at h
  have hb : (Char.ofNat b.toNat).toNat = b.toNat := by
    rw [Char.toNat_ofNat, if_pos (Or.inl (by omega))]
  constructor
  · rwa [isVisibleChar_iff, hb]
  · rw [Utf8.encodeChar_ascii (by omega), hb, UInt8.ofNat_toNat]

theorem encode_of_isVisible {octets : List UInt8} (h : ∀ b ∈ octets, isVisible b = true) :
    Utf8.encode (octets.map fun b => Char.ofNat b.toNat) = octets := by
  induction octets with
  | nil => rfl
  | cons b octets ih =>
    have hb := char_of_isVisible (h b List.mem_cons_self)
    have hrest := ih fun d hd => h d (List.mem_cons_of_mem b hd)
    rw [Utf8.encode] at hrest ⊢
    rw [List.map_cons, List.flatMap_cons, hb.2, hrest, List.singleton_append]

theorem admits_of_visible {value : String} (h : ∀ c ∈ value.toList, IsVisibleChar c) :
    Admits value ∧ IsAscii value := by
  have hascii : IsAscii value := by
    intro c hc
    have hc' := (isVisibleChar_iff c).mp (h c hc)
    omega
  apply And.intro _ hascii
  apply List.all_eq_true.mpr
  intro b hb
  obtain ⟨c, hc, hbc⟩ := List.mem_flatMap.mp hb
  have hvisible := (isVisibleChar_iff c).mp (h c hc)
  rw [Utf8.encodeChar_ascii (hascii c hc), List.mem_singleton] at hbc
  apply ((isVisible_iff b).mp _).1
  rw [isVisible_iff_toNat, hbc, Utf8.toNat_ofNat _ (by omega)]
  exact hvisible

theorem textOf?_eq_some_iff {octets : List UInt8} {value : String} :
    textOf? octets = some value ↔
      octets = Utf8.octets value ∧ ∀ c ∈ value.toList, IsVisibleChar c := by
  constructor
  · intro h
    unfold textOf? at h
    split at h
    · rename_i hall
      have hvisible : ∀ b ∈ octets, isVisible b = true := List.all_eq_true.mp hall
      rw [← Option.some.inj h, Utf8.octets, String.toList_ofList]
      apply And.intro (encode_of_isVisible hvisible).symm
      intro c hc
      obtain ⟨b, hb, rfl⟩ := List.mem_map.mp hc
      exact (char_of_isVisible (hvisible b hb)).1
    · cases h
  · rintro ⟨rfl, hvalue⟩
    obtain ⟨hadmits, hascii⟩ := admits_of_visible hvalue
    rw [textOf?_octets hadmits, if_pos hascii]

theorem value?_eq_some_iff {headers : Headers} {name value : String} :
    headers.value? name = some value ↔ Shows headers name value := by
  rw [value?, Option.bind_eq_some_iff, Shows]
  constructor
  · rintro ⟨octets, hfirst, htext⟩
    obtain ⟨rfl, hvisible⟩ := textOf?_eq_some_iff.mp htext
    exact ⟨hfirst, hvisible⟩
  · rintro ⟨hfirst, hvisible⟩
    exact ⟨_, hfirst, textOf?_eq_some_iff.mpr ⟨rfl, hvisible⟩⟩

end Headers

namespace Signature

/-! ## The grammar of signatures -/

/-- The scheme in any case, and behind it digits that spell the octets; blanks around it all do
not count. -/
def IsSignature (header : String) (octets : List UInt8) : Prop :=
  ∃ front digits : List Char, (trimmed header).toList = front ++ digits ∧
    sameAscii (String.ofList front) "sha256=" = true ∧ Hex.Spells digits octets

theorem lowerAscii_scheme : lowerAscii "sha256=" = scheme := by decide

theorem length_of_sameAscii {front : List Char}
    (h : sameAscii (String.ofList front) "sha256=" = true) : front.length = 7 := by
  rw [sameAscii, beq_iff_eq] at h
  have hlength := congrArg (fun s : String => s.toList.length) h
  simpa [lowerAscii] using hlength

theorem read_eq_some_iff {header : String} {octets : List UInt8} :
    read header = some octets ↔ IsSignature header octets := by
  have htrimmed : (trimmed header).toList = trimChars header.toList := String.toList_ofList
  rw [IsSignature, htrimmed, read]
  constructor
  · intro h
    split at h
    · rename_i hfront
      refine ⟨_, _, (List.take_append_drop 7 _).symm, ?_, Hex.decode?_eq_some_iff.mp h⟩
      rw [sameAscii, hfront, lowerAscii_scheme, beq_self_eq_true]
    · cases h
  · rintro ⟨front, digits, hsplit, hfront, hspells⟩
    have hlength := length_of_sameAscii hfront
    rw [sameAscii, lowerAscii_scheme, beq_iff_eq] at hfront
    simp only [hsplit, List.take_left' hlength, List.drop_left' hlength]
    rw [if_pos hfront]
    exact hspells.decode?_eq

/-! ## Either check -/

theorem verifiesBody_iff {payload : List UInt8} {header : Option String} {secret : List UInt8} :
    verifiesBody payload header secret = true ↔
      secret ≠ [] ∧ ∃ value, header = some value ∧ IsSignature value (Hmac.mac secret payload) := by
  simp only [verifiesBody, Bool.and_eq_true, Bool.not_eq_true', List.isEmpty_eq_false_iff,
    beq_iff_eq, Option.bind_eq_some_iff, read_eq_some_iff]

theorem verifiesToken_iff {header : Option String} {token : String} :
    verifiesToken header token = true ↔
      trimmed token ≠ "" ∧ ∃ value, header = some value ∧ trimmed value = trimmed token := by
  simp only [verifiesToken, Bool.and_eq_true, bne_iff_ne, beq_iff_eq, Option.map_eq_some_iff]

/-- What a delivery has to show under a secret that is not blank. -/
def Proves : Provider → Headers → List UInt8 → String → Prop
  | .github, headers, body, secret =>
    ∃ value, headers.Shows "x-hub-signature-256" value ∧
      IsSignature value (Hmac.mac (Utf8.octets secret) body)
  | .gitlab, headers, _, secret =>
    ∃ value, headers.Shows "x-gitlab-token" value ∧ trimmed value = secret

theorem verifies_iff (p : Provider) (headers : Headers) (body : List UInt8) (secret : String) :
    verifies p headers body secret = true ↔
      trimmed secret ≠ "" ∧ Proves p headers body (trimmed secret) := by
  cases p with
  | github =>
    rw [verifies, verifiesBody_iff, Ne, Utf8.octets_eq_nil_iff]
    simp only [Headers.value?_eq_some_iff]
    rfl
  | gitlab =>
    rw [verifies, verifiesToken_iff]
    simp only [Headers.value?_eq_some_iff]
    rfl

/-! ## Signing -/

theorem of_bounds {c : Char} (h : '!' ≤ c ∧ c ≤ '~') :
    isBlank c = false ∧ Headers.IsVisibleChar c := by
  have hc : 33 ≤ c.toNat ∧ c.toNat ≤ 126 := h
  constructor
  · simp only [isBlank, Bool.or_eq_false_iff, Bool.and_eq_false_iff, decide_eq_false_iff_not,
      beq_eq_false_iff_ne]
    omega
  · rw [Headers.isVisibleChar_iff]
    omega

theorem header_bounds (payload secret : List UInt8) :
    ∀ c ∈ (header payload secret).toList, '!' ≤ c ∧ c ≤ '~' := by
  have hscheme : ("sha256=".toList.all fun c => decide ('!' ≤ c ∧ c ≤ '~')) = true := by decide
  intro c hc
  rw [header, String.toList_append, Hex.text, String.toList_ofList] at hc
  rcases List.mem_append.mp hc with hc | hc
  · exact of_decide_eq_true (List.all_eq_true.mp hscheme c hc)
  · have hdigit := (Hex.spells_encode (Hmac.mac secret payload)).bounds c hc
    exact ⟨le_trans (by decide) hdigit.1, le_trans hdigit.2 (by decide)⟩

theorem isSignature_header (payload secret : List UInt8) :
    IsSignature (header payload secret) (Hmac.mac secret payload) := by
  have htrimmed : trimmed (header payload secret) = header payload secret :=
    trimmed_of_none_blank fun c hc => (of_bounds (header_bounds payload secret c hc)).1
  refine ⟨scheme.toList, Hex.encode (Hmac.mac secret payload), ?_, by decide, Hex.spells_encode _⟩
  rw [htrimmed, header, String.toList_append, Hex.text, String.toList_ofList]

theorem shows_header {headers : Headers} {name : String} {payload secret : List UInt8}
    (h : headers.first? name = some (Utf8.octets (header payload secret))) :
    headers.Shows name (header payload secret) :=
  ⟨h, fun c hc => (of_bounds (header_bounds payload secret c hc)).2⟩

theorem scheme_append_sign (secret : String) (body : List UInt8) :
    "sha256=" ++ Publish.sign secret body = header body (Utf8.octets secret) := rfl

/-- The reader accepts the grammar of signatures and nothing else. A delivery is authentic exactly
if the secret is not blank and the one value that counts is a signature of the body, or the token.
What either signer writes for a body and the trimmed secret is such a signature. -/
theorem authentic_iff :
    (∀ (header : String) (octets : List UInt8),
      read header = some octets ↔ IsSignature header octets) ∧
    (∀ (p : Provider) (headers : Headers) (body : List UInt8) (secret : String),
      verifies p headers body secret = true ↔
        trimmed secret ≠ "" ∧ Proves p headers body (trimmed secret)) ∧
    ∀ (headers : Headers) (body : List UInt8) (secret value : String), trimmed secret ≠ "" →
      value = "sha256=" ++ Publish.sign (trimmed secret) body ∨
        value = header body (Utf8.octets (trimmed secret)) →
      headers.first? "x-hub-signature-256" = some (Utf8.octets value) →
      verifies .github headers body secret = true := by
  refine ⟨fun _ _ => read_eq_some_iff, verifies_iff, ?_⟩
  intro headers body secret value hsecret hvalue hfirst
  rw [scheme_append_sign, or_self] at hvalue
  subst hvalue
  rw [verifies_iff]
  exact ⟨hsecret, _, shows_header hfirst, isSignature_header _ _⟩

theorem padded_secret_verifies :
    trimmed " key\t" ≠ "" ∧
      verifies .github
        [("X-Hub-Signature-256", Utf8.octets ("sha256=" ++ Publish.sign "key" [123, 125]))]
        [123, 125] " key\t" = true := by
  have hsecret : trimmed " key\t" ≠ "" := by decide
  have htrimmed : trimmed " key\t" = "key" := by decide
  have hname : sameAscii "X-Hub-Signature-256" "x-hub-signature-256" = true := by decide
  refine ⟨hsecret, authentic_iff.2.2 _ _ _ _ hsecret (Or.inl rfl) ?_⟩
  simp only [Headers.first?, List.find?_cons, hname, Option.map_some, htrimmed]

end Signature

end EventRelay
