import EventRelay.Proofs.Json.RoundTrip
import EventRelay.Proofs.Listener.Answer
import EventRelay.Proofs.Tenant.Proper
import EventRelay.Proofs.Text.Numeral

/-!
# Identifiers of installations

The callback reads the installation from a text. A delivery has it as a number
or as a text in its payload. The same texts are taken in both places, for the
same numbers, so that an installation that was mapped is found again.
-/

set_option autoImplicit false

namespace EventRelay

open EventRelay.Json EventRelay.Text

variable {s : String} {i : InstallationId} {w : Json}

/-! ## Texts and numbers -/

/-- The text is a numeral of the identifier between blanks, positive and within 63 bits. -/
def InstallationId.SpelledBy (i : InstallationId) (s : String) : Prop :=
  ∃ n : Nat, i.number = n ∧ Numeral (trimChars s.toList) n ∧ 1 ≤ n ∧ n ≤ maxInt64

inductive InstallationId.GivenBy (i : InstallationId) : Json → Prop
  | number (hpos : 1 ≤ i.number) (hlimit : i.number ≤ maxInt64) :
    i.GivenBy (.number (.integer i.number))
  | text {s : String} (h : i.SpelledBy s) : i.GivenBy (.text s)

theorem readPositive?_eq_some_iff {k : Int} :
    readPositive? s = some k ↔
      ∃ n : Nat, k = n ∧ Numeral (trimChars s.toList) n ∧ 1 ≤ n ∧ n ≤ maxInt64 := by
  rw [← readInt64_pos_iff, readPositive?]
  cases readInt64 (trimChars s.toList) with
  | error e => exact iff_of_false nofun nofun
  | ok m =>
    by_cases hpos : 0 < m
    · simp only [if_pos hpos, Option.some.injEq, Except.ok.injEq]
      constructor
      · rintro rfl
        exact ⟨rfl, hpos⟩
      · exact And.left
    · simp only [if_neg hpos, reduceCtorEq, Except.ok.injEq, false_iff]
      rintro ⟨rfl, hk⟩
      exact hpos hk

namespace InstallationId

theorem read?_eq_some_iff : read? s = some i ↔ i.SpelledBy s := by
  rw [read?, Option.map_eq_some_iff, SpelledBy, ← readPositive?_eq_some_iff]
  constructor
  · rintro ⟨n, hn, rfl⟩
    exact hn
  · intro h
    exact ⟨i.number, h, rfl⟩

theorem read?_trimmed (s : String) : read? (trimmed s) = read? s := by
  simp only [read?, readPositive?, trimmed, String.toList_ofList, trimChars_trimChars]

theorem read?_eq_none (h : ∀ i : InstallationId, ¬ i.SpelledBy s) : read? s = none := by
  cases hread : read? s with
  | none => rfl
  | some i => exact absurd (read?_eq_some_iff.mp hread) (h i)

theorem SpelledBy.given (h : i.SpelledBy s) :
    i.GivenBy (.text s) ∧ i.GivenBy (.number (.integer i.number)) := by
  refine ⟨.text h, ?_⟩
  obtain ⟨n, hn, -, hpos, hlimit⟩ := h
  exact .number (by omega) (by omega)

end InstallationId

/-! ## Payloads -/

namespace Provider

variable {p : Provider} {v : Json} {payload : List UInt8}

theorem positiveId?_eq_some_iff : positiveId? (some w) = some i ↔ i.GivenBy w := by
  constructor
  · intro h
    cases w with
    | number number =>
      cases number with
      | integer n =>
        simp only [positiveId?, InstallationId.ofInt?] at h
        split at h
        · rename_i hfits
          split at h
          · rename_i hpos
            cases h
            rw [fitsInt64, Bool.and_eq_true, decide_eq_true_eq, decide_eq_true_eq] at hfits
            exact .number hpos hfits.2
          · cases h
        · cases h
      | real => cases h
    | text s => exact .text (InstallationId.read?_eq_some_iff.mp h)
    | _ => cases h
  · rintro (⟨hpos, hlimit⟩ | h)
    · have hfits : fitsInt64 i.number = true := by
        rw [fitsInt64, Bool.and_eq_true, decide_eq_true_eq, decide_eq_true_eq, minInt64]
        exact ⟨by omega, hlimit⟩
      rw [positiveId?, if_pos hfits]
      exact InstallationId.ofInt?_number hpos
    · exact InstallationId.read?_eq_some_iff.mpr h

/-- The value that a payload has in the place of the installation. -/
inductive Holds : Provider → Json → Json → Prop
  | installation {v w : Json} (h : v.at? ["installation", "id"] = some w) : Holds .github v w
  | project {v w : Json} (h : v.at? ["project_id"] = some w) : Holds .gitlab v w
  | fallback {v w : Json}
    (hnone : ∀ u i, v.at? ["project_id"] = some u → ¬ InstallationId.GivenBy i u)
    (h : v.at? ["project", "id"] = some w) : Holds .gitlab v w

theorem positiveId?_at_iff {path : List String} :
    positiveId? (v.at? path) = some i ↔ ∃ w, v.at? path = some w ∧ i.GivenBy w := by
  cases hw : v.at? path with
  | none => exact iff_of_false nofun nofun
  | some w => simp [positiveId?_eq_some_iff]

theorem installationOf_eq_some_iff :
    p.installationOf v = some i ↔ ∃ w, p.Holds v w ∧ i.GivenBy w := by
  cases p with
  | github =>
    rw [installationOf, positiveId?_at_iff]
    constructor
    · rintro ⟨w, hw, hid⟩
      exact ⟨w, .installation hw, hid⟩
    · rintro ⟨w, ⟨hw⟩, hid⟩
      exact ⟨w, hw, hid⟩
  | gitlab =>
    have hnone : positiveId? (v.at? ["project_id"]) = none ↔
        ∀ u i, v.at? ["project_id"] = some u → ¬ InstallationId.GivenBy i u := by
      rw [Option.eq_none_iff_forall_ne_some]
      simp only [ne_eq, positiveId?_at_iff, not_exists, not_and]
      exact forall_comm
    rw [installationOf, Option.or_eq_some_iff, hnone, positiveId?_at_iff, positiveId?_at_iff]
    constructor
    · rintro (⟨w, hw, hid⟩ | ⟨hproject, w, hw, hid⟩)
      · exact ⟨w, .project hw, hid⟩
      · exact ⟨w, .fallback hproject hw, hid⟩
    · rintro ⟨w, hw | hw | ⟨hproject, hw⟩, hid⟩
      · exact Or.inl ⟨w, hw, hid⟩
      · exact Or.inr ⟨hproject, w, hw, hid⟩

theorem installationId?_eq_some_iff :
    p.installationId? payload = some i ↔
      ∃ v w, parse? payload = some v ∧ p.Holds v w ∧ i.GivenBy w := by
  rw [installationId?, Option.bind_eq_some_iff]
  constructor
  · rintro ⟨v, hv, hid⟩
    obtain ⟨w, hw, hgiven⟩ := installationOf_eq_some_iff.mp hid
    exact ⟨v, w, hv, hw, hgiven⟩
  · rintro ⟨v, w, hv, hw, hgiven⟩
    exact ⟨v, hv, installationOf_eq_some_iff.mpr ⟨w, hw, hgiven⟩⟩

end Provider

/-! ## The callback -/

namespace Setup

/-- What a redemption comes to for the callback. -/
def redeemed : Except StoreError Promotion → Except SetupError InstallationMapping
  | .ok (.completed mapping) => .ok mapping
  | .ok .expired => .error .expiredState
  | .error .notFound => .error .unknownState
  | .error e => .error (.store e)

variable {σ : Type} [Store σ] {state : Option String} {st : SetupState} {now : Timestamp}

theorem complete_spelled (hstate : state.bind SetupState.ofText? = some st)
    (h : i.SpelledBy s) (store : σ) :
    complete state (some s) now store =
      (Store.promoteIntent st i now store).map redeemed id := by
  have hid : (some s).bind InstallationId.read? = some i := InstallationId.read?_eq_some_iff.mpr h
  simp only [complete, hstate, hid]
  rcases Store.promoteIntent st i now store with ⟨cause | promotion, next⟩
  · cases cause <;> rfl
  · cases promotion <;> rfl

theorem complete_unspelled (hstate : state.bind SetupState.ofText? = some st)
    (h : ∀ i : InstallationId, ¬ i.SpelledBy s) (store : σ) :
    complete state (some s) now store = (.error .invalidInstallationId, store) := by
  have hid : (some s).bind InstallationId.read? = none := InstallationId.read?_eq_none h
  simp only [complete, hstate, hid]

end Setup

namespace Operator

open EventRelay.Http

def installationNames : List String := ["installation_id", "installationId", "project_id"]

def Names (q : Query) (s : String) : Prop :=
  ∃ before name after, installationNames = before ++ name :: after ∧
    (∀ other ∈ before, parameter q other = "") ∧ q.value? name = some s ∧ trimmed s ≠ ""

variable {σ : Type} [Store σ] {q : Query} {request : Request}

theorem installationParameter?_of_names (h : Names q s) :
    installationParameter? q = some (trimmed s) := by
  obtain ⟨before, name, after, hnames, hbefore, hvalue, hs⟩ := h
  have hblank : firstNonBlank (before.map (parameter q)) = "" := by
    rw [firstNonBlank_eq_empty_iff, List.forall_mem_map]
    intro other hother
    rw [hbefore other hother]
    rfl
  have hparameter : parameter q name = trimmed s := by rw [parameter, hvalue, Option.getD_some]
  have hfirst : firstNonBlank (installationNames.map (parameter q)) = trimmed s := by
    rw [hnames, List.map_append, List.map_cons, firstNonBlank_append, if_pos hblank, hparameter,
      firstNonBlank, trimmed_trimmed, if_neg hs]
  show nonBlank? (firstNonBlank (installationNames.map (parameter q))) = _
  rw [hfirst, nonBlank?, trimmed_trimmed, if_neg hs]

theorem callback_names (h : Names request.query s) (now : Timestamp) (store : σ) :
    callback now request store =
      (Setup.complete (request.query.value? "state") (some s) now store).map toldMapping id := by
  rw [callback_told, installationParameter?_of_names h]
  simp only [Setup.complete, Option.bind_some, InstallationId.read?_trimmed]

/-- A text is taken for an identifier exactly when it spells it, and so is the value in a payload.
Completing a setup redeems the state for the identifier that its text spells, which is the one that
a delivery with this text or this number comes from; any other text is refused without the store.
The callback completes with the text that it names. -/
theorem installation_read_alike :
    (∀ (s : String) (i : InstallationId), InstallationId.read? s = some i ↔ i.SpelledBy s) ∧
    (∀ (p : Provider) (payload : List UInt8) (i : InstallationId),
      p.installationId? payload = some i ↔
        ∃ v w, parse? payload = some v ∧ p.Holds v w ∧ i.GivenBy w) ∧
    (∀ {σ : Type} [Store σ] (store : σ) (now : Timestamp) (state : Option String)
      (st : SetupState) (s : String), state.bind SetupState.ofText? = some st →
      (∀ i : InstallationId, i.SpelledBy s →
        Setup.complete state (some s) now store =
          (Store.promoteIntent st i now store).map Setup.redeemed id ∧
        ∀ (p : Provider) (payload : List UInt8) (v w : Json), parse? payload = some v →
          p.Holds v w → w = .text s ∨ w = .number (.integer i.number) →
          p.installationId? payload = some i) ∧
      ((∀ i : InstallationId, ¬ i.SpelledBy s) →
        Setup.complete state (some s) now store = (.error .invalidInstallationId, store))) ∧
    ∀ {σ : Type} [Store σ] (store : σ) (now : Timestamp) (request : Request) (s : String),
      Names request.query s →
      callback now request store =
        (Setup.complete (request.query.value? "state") (some s) now store).map toldMapping id := by
  refine ⟨fun _ _ => InstallationId.read?_eq_some_iff,
    fun _ _ _ => Provider.installationId?_eq_some_iff, ?_,
    fun store now request s hnames => callback_names hnames now store⟩
  intro σ _ store now state st s hstate
  constructor
  · intro i hspelled
    refine ⟨Setup.complete_spelled hstate hspelled store, ?_⟩
    intro p payload v w hv hw hvalue
    apply Provider.installationId?_eq_some_iff.mpr
    refine ⟨v, w, hv, hw, ?_⟩
    rcases hvalue with rfl | rfl
    · exact hspelled.given.1
    · exact hspelled.given.2
  · intro hnone
    exact Setup.complete_unspelled hstate hnone store

def paddedCallback : Request where
  method := "GET"
  path := "/setup/callback"
  query := [("state", "st"), ("installation_id", " "), ("installationId", " +007 ")]
  headers := []
  body := []

def waitingProfile : TenantProfile := { credentials := ⟨"http://dash", "t", "k"⟩ }

def waiting : MemoryStore := { intents := [⟨⟨"st"⟩, waitingProfile, .latest⟩] }

def renumbered : Json :=
  .object [("project", .object [("id", .number (.integer 7))]),
    ("project_id", .number (.integer 0))]

theorem padded_callback_mapped :
    (callback .epoch paddedCallback waiting).2.mapping? ⟨7⟩ = some ⟨⟨7⟩, waitingProfile, true⟩ ∧
      Provider.gitlab.installationId? renumbered.octets = some ⟨7⟩ := by
  obtain ⟨-, -, hcomplete, hcallback⟩ := installation_read_alike
  have htrim : trimChars " +007 ".toList = ['+', '0', '0', '7'] := by decide
  have hspelled : InstallationId.SpelledBy ⟨7⟩ " +007 " := by
    refine ⟨7, rfl, ?_, by decide, by decide⟩
    rw [htrim]
    exact .plus ⟨nofun, List.all_eq_true.mp rfl, rfl⟩
  have hnames : Names paddedCallback.query " +007 " :=
    ⟨["installation_id"], "installationId", ["project_id"], rfl, by decide, rfl, by decide⟩
  have hstate : (paddedCallback.query.value? "state").bind SetupState.ofText? = some ⟨"st"⟩ := by
    decide
  have hseven : FitsNumber 7 := ⟨by decide, by decide⟩
  have hfits : FitsNumber 0 := ⟨by decide, by decide⟩
  have hparsed : parse? renumbered.octets = some renumbered :=
    parse?_octets (by simp [renumbered, maxDepth, Fits, FitsMembers, hseven, hfits])
  have hzero : ∀ u i, renumbered.at? ["project_id"] = some u → ¬ InstallationId.GivenBy i u := by
    rintro u i hu hgiven
    cases hu
    have hnone : Provider.positiveId? (some (.number (.integer 0))) = none := by decide
    rw [Provider.positiveId?_eq_some_iff.mpr hgiven] at hnone
    cases hnone
  obtain ⟨hmapped, hfound⟩ := (hcomplete waiting .epoch _ _ _ hstate).1 ⟨7⟩ hspelled
  constructor
  · rw [hcallback waiting .epoch paddedCallback _ hnames, hmapped]
    decide
  · exact hfound .gitlab _ _ _ hparsed (.fallback hzero rfl) (Or.inr rfl)

end Operator

end EventRelay
