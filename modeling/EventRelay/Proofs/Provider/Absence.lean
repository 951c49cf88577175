import EventRelay.Proofs.Json.RoundTrip
import EventRelay.Proofs.Provider.Outcome

/-!
# Null counts as absent

Two payloads that come to the same once their null members are taken out, and
a null payload is read as an empty object, are converted alike and belong to
the same installation. Conversion drops the nulls itself; the installation is
looked up with the nulls in place, and there a null and no value are alike.
-/

set_option autoImplicit false

namespace EventRelay

namespace Json

/-- What a payload comes to when null counts as absent. -/
inductive ComesTo : Json → Json → Prop
  | empty : ComesTo .null (.object [])
  | left {v u : Json} (hsome : v ≠ .null) (h : Leaves v u) : ComesTo v u

variable {v u : Json}

theorem Form.read_comesTo (form : Form) (h : v.ComesTo u) : form.read v = form.read u := by
  cases h with
  | empty => rfl
  | left hsome h =>
    obtain rfl := h.eq
    cases v with
    | null => exact absurd rfl hsome
    | object members =>
      show fill (dropNulls (.object members)) form =
        fill (dropNulls (.object (dropNullsMembers members))) form
      rw [show Json.object (dropNullsMembers members) = dropNulls (.object members) from rfl,
        dropNulls_idem]
    | _ => rfl

end Json

namespace Provider

open EventRelay.Json EventRelay.Text

variable {p : Provider} {a b : List UInt8} {v w u : Json}

theorem positiveId?_at_null (path : List String) : positiveId? (Json.null.at? path) = none := by
  cases path <;> rfl

/-- Taking out null members changes no number and no text under any path, unless a key stands
twice. -/
theorem positiveId?_at_dropNulls (path : List String) (h : v.Ordered) :
    positiveId? ((dropNulls v).at? path) = positiveId? (v.at? path) := by
  induction path generalizing v with
  | nil => cases v <;> rfl
  | cons key path ih =>
    cases v with
    | object members =>
      have hlookup : (dropNulls (.object members)).member? key =
          ((members.lookup key).filter fun v => !v.isNull).map dropNulls := by
        cases h with
        | object hkeys _ => exact lookup_dropNullsMembers key hkeys
      rw [at?, hlookup, at?, member?]
      cases hfound : members.lookup key with
      | none => rfl
      | some w =>
        cases w with
        | null => exact (positiveId?_at_null path).symm
        | _ => exact ih (h.of_lookup hfound)
    | _ => rfl

theorem installationOf_comesTo (p : Provider) (hv : v.Ordered) (h : v.ComesTo u) :
    p.installationOf v = p.installationOf u := by
  cases h with
  | empty => cases p <;> rfl
  | left hsome h =>
    obtain rfl := h.eq
    cases p <;> simp only [installationOf, positiveId?_at_dropNulls _ hv]

theorem convert_comesTo (name : String) (deliveryId : Option DeliveryId)
    (settings : ConvertSettings) (ha : parse? a = some v) (hb : parse? b = some w)
    (hv : v.ComesTo u) (hw : w.ComesTo u) :
    p.convert name deliveryId a settings = p.convert name deliveryId b settings := by
  cases hhook : p.hook? (trimmed name) with
  | none =>
    have hunannounced := hook?_eq_none_iff.mp hhook
    rw [convert_of_unannounced deliveryId settings hunannounced,
      convert_of_unannounced deliveryId settings hunannounced]
  | some hook =>
    have hannounced : p.Announces name hook := hook?_eq_some_iff.mp hhook
    simp only [convert_of_announced deliveryId settings hannounced, ha, hb,
      hook.form.read_comesTo hv, hook.form.read_comesTo hw]

/-- Payloads that differ in null members only have the same events, or the same error, and the
same installation. -/
theorem null_counts_as_absent (p : Provider) (ha : parse? a = some v) (hb : parse? b = some w)
    (hv : v.ComesTo u) (hw : w.ComesTo u) :
    (∀ name deliveryId settings,
      p.convert name deliveryId a settings = p.convert name deliveryId b settings) ∧
    p.installationId? a = p.installationId? b := by
  refine ⟨fun name deliveryId settings => convert_comesTo name deliveryId settings ha hb hv hw, ?_⟩
  rw [installationId?, installationId?, ha, hb]
  show p.installationOf v = p.installationOf w
  rw [installationOf_comesTo p (ordered_of_parse? ha) hv,
    installationOf_comesTo p (ordered_of_parse? hb) hw]

def sparse : Json :=
  .object [("after", .null), ("commits", .array [.null, .object [("author", .null)]]),
    ("installation", .object [("account", .null), ("id", .number (.integer 7))]),
    ("repository", .object [("name", .text "orders"), ("owner", .null)])]

def dense : Json :=
  .object [("commits", .array [.null, .object []]),
    ("installation", .object [("id", .number (.integer 7))]),
    ("repository", .object [("name", .text "orders")])]

theorem sparse_push_as_dense :
    parse? sparse.octets = some sparse ∧ parse? dense.octets = some dense ∧
      sparse.ComesTo dense ∧
      github.convert "push" none sparse.octets {} = github.convert "push" none dense.octets {} ∧
      (github.convert "push" none sparse.octets {}).toOption.map List.length = some 1 ∧
      github.installationId? sparse.octets = github.installationId? dense.octets ∧
      github.installationId? sparse.octets = some ⟨7⟩ := by
  have hnumber : FitsNumber 7 := ⟨by decide, by decide⟩
  have hsparse : parse? sparse.octets = some sparse :=
    parse?_octets (by simp [sparse, maxDepth, Fits, FitsItems, FitsMembers, hnumber])
  have hdense : parse? dense.octets = some dense :=
    parse?_octets (by simp [dense, maxDepth, Fits, FitsItems, FitsMembers, hnumber])
  have hleft : sparse.ComesTo dense := .left nofun ((leaves_iff _ _).mpr rfl)
  have hsame : dense.ComesTo dense := .left nofun ((leaves_iff _ _).mpr rfl)
  obtain ⟨hconvert, hinstallation⟩ := null_counts_as_absent github hsparse hdense hleft hsame
  exact ⟨hsparse, hdense, hleft, hconvert "push" none {}, by decide +kernel, hinstallation,
    by decide +kernel⟩

end Provider

end EventRelay
