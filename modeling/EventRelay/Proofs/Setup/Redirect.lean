import EventRelay.Proofs.Setup.Failure
import EventRelay.Proofs.Store.Rows
import EventRelay.Proofs.Text.Hex
import EventRelay.Proofs.Text.Parts

/-!
# Where a setup goes next

An address has a place, the segments of its query and a fragment. Adding a
parameter adds one segment behind the others and leaves the rest as it is,
wherever the marks of the address stand. The parameter that a setup adds is
the token under which the store has its intent.
-/

set_option autoImplicit false

namespace EventRelay

open EventRelay.Text

namespace Redirect

/-- The parts of an address. Nothing between two marks of a query is no segment. -/
structure Address where
  place : List Char
  segments : List (List Char)
  fragment : Option (List Char)
  deriving DecidableEq

def segments (query : List Char) : List (List Char) :=
  (splitOn '&' query).filter (· ≠ [])

namespace Address

def ofBase (base : List Char) (fragment : Option (List Char)) : Address :=
  ⟨(splitFirst '?' base).1, Redirect.segments ((splitFirst '?' base).2.getD []), fragment⟩

def ofChars (url : List Char) : Address := ofBase (splitFirst '#' url).1 (splitFirst '#' url).2

def read (url : String) : Address := ofChars url.toList

def withSegment (segment : List Char) (a : Address) : Address :=
  { a with segments := a.segments ++ [segment] }

end Address

theorem segments_append (front back : List Char) :
    segments (front ++ '&' :: back) = segments front ++ segments back := by
  rw [segments, splitOn_append, List.filter_append]
  rfl

theorem segments_of_not_mem {segment : List Char} (hne : segment ≠ []) (h : '&' ∉ segment) :
    segments segment = [segment] := by
  rw [segments, splitOn_of_not_mem h]
  simp [hne]

/-- What stands between a query and a new segment leaves the segments of the query as they are. -/
theorem segments_separated {query segment : List Char} (hne : segment ≠ []) (h : '&' ∉ segment) :
    segments (query ++ (if query.isEmpty ∨ query.getLast? = some '&' then [] else ['&']) ++
      segment) = segments query ++ [segment] := by
  split
  · rename_i hlast
    rw [List.append_nil]
    rcases hlast with hempty | hlast
    · rw [List.isEmpty_iff.mp hempty, List.nil_append, segments_of_not_mem hne h]
      rfl
    · obtain ⟨front, rfl⟩ := List.getLast?_eq_some_iff.mp hlast
      rw [List.append_assoc, List.singleton_append, segments_append, segments_append,
        segments_of_not_mem hne h]
      rw [show segments [] = [] from rfl, List.append_nil]
  · rw [List.append_assoc, List.singleton_append, segments_append, segments_of_not_mem hne h]

theorem ofBase_eq {base place : List Char} {query : Option (List Char)}
    (h : splitFirst '?' base = (place, query)) (fragment : Option (List Char)) :
    Address.ofBase base fragment = ⟨place, segments (query.getD []), fragment⟩ := by
  rw [Address.ofBase, h]

/-- A new segment goes to the end of the query, or is all of the query where there was none. -/
theorem ofBase_separated (base : List Char) (fragment : Option (List Char)) {segment : List Char}
    (hne : segment ≠ []) (h : '&' ∉ segment) :
    Address.ofBase (base ++ separator base ++ segment) fragment =
      (Address.ofBase base fragment).withSegment segment := by
  rcases hbase : splitFirst '?' base with ⟨place, _ | query⟩
  · obtain ⟨rfl, hplace⟩ := splitFirst_eq_none_iff.mp hbase
    have hnew : splitFirst '?' (base ++ separator base ++ segment) = (base, some segment) := by
      refine splitFirst_eq_some_iff.mpr ⟨?_, hplace⟩
      rw [separator, hbase, List.append_assoc]
      rfl
    rw [ofBase_eq hnew, ofBase_eq hbase, Address.withSegment]
    simp only [Option.getD_some, Option.getD_none, segments_of_not_mem hne h]
    rfl
  · obtain ⟨rfl, hplace⟩ := splitFirst_eq_some_iff.mp hbase
    have hnew : splitFirst '?' (place ++ '?' :: query ++ separator (place ++ '?' :: query) ++
        segment) = (place, some (query ++
          (if query.isEmpty ∨ query.getLast? = some '&' then [] else ['&']) ++ segment)) := by
      refine splitFirst_eq_some_iff.mpr ⟨?_, hplace⟩
      rw [separator, hbase]
      simp only [List.append_assoc, List.cons_append]
    rw [ofBase_eq hnew, ofBase_eq hbase, Address.withSegment]
    simp only [Option.getD_some, segments_separated hne h]

theorem not_mem_separator (base : List Char) : '#' ∉ separator base := by
  unfold separator
  split
  · decide
  · split <;> decide

theorem ofChars_addParameter {name value : List Char} (hhash : '#' ∉ name ++ '=' :: value)
    (hand : '&' ∉ name ++ '=' :: value) (url : List Char) :
    Address.ofChars (addParameterChars name value url) =
      (Address.ofChars url).withSegment (name ++ '=' :: value) := by
  have hne : name ++ '=' :: value ≠ [] := by simp
  rcases hurl : splitFirst '#' url with ⟨base, fragment⟩
  have hbase : '#' ∉ base := by
    cases fragment with
    | none => exact (splitFirst_eq_none_iff.mp hurl).2
    | some f => exact (splitFirst_eq_some_iff.mp hurl).2
  have hnew : splitFirst '#' (addParameterChars name value url) =
      (base ++ separator base ++ (name ++ '=' :: value), fragment) := by
    have hfront : '#' ∉ base ++ separator base ++ (name ++ '=' :: value) := by
      simp only [List.mem_append, not_or] at hhash ⊢
      exact ⟨⟨hbase, not_mem_separator base⟩, hhash⟩
    cases fragment with
    | none =>
      refine splitFirst_eq_none_iff.mpr ⟨?_, hfront⟩
      simp [addParameterChars, hurl]
    | some f =>
      refine splitFirst_eq_some_iff.mpr ⟨?_, hfront⟩
      simp [addParameterChars, hurl]
  rw [Address.ofChars, Address.ofChars, hnew, hurl]
  exact ofBase_separated base fragment hne hand

theorem read_addParameter {name value : String} (hhash : '#' ∉ name.toList ++ '=' :: value.toList)
    (hand : '&' ∉ name.toList ++ '=' :: value.toList) (url : String) :
    Address.read (addParameter name value url) =
      (Address.read url).withSegment (name.toList ++ '=' :: value.toList) := by
  rw [Address.read, addParameter, String.toList_ofList]
  exact ofChars_addParameter hhash hand url.toList

end Redirect

namespace SetupSettings

def target (settings : SetupSettings) : String :=
  match settings.installUrl with
  | some url => if trimmed url = "" then settings.callbackPath else trimmed url
  | none => settings.callbackPath

theorem redirectUrl_eq (settings : SetupSettings) (state : SetupState) :
    settings.redirectUrl state = Redirect.addParameter "state" state.token settings.target := by
  unfold redirectUrl target
  cases settings.installUrl with
  | none => rfl
  | some url => by_cases h : trimmed url = "" <;> simp [nonBlank?, h]

end SetupSettings

def SetupState.segment (state : SetupState) : List Char := ("state=" ++ state.token).toList

/-- The digits of a token are none of the marks of an address, so they stay within their segment. -/
theorem SetupState.ofOctets_plain (octets : Vector UInt8 16) {mark : Char}
    (hdigit : mark ∉ "0123456789abcdef".toList) (hname : mark ∉ "state=".toList) :
    mark ∉ (ofOctets octets).segment := by
  rw [segment, String.toList_append, List.mem_append, not_or]
  refine ⟨hname, fun htoken => hdigit ?_⟩
  rw [ofOctets, Hex.text, String.toList_ofList] at htoken
  exact Hex.lower_of_mem_encode htoken

theorem SetupSettings.read_redirectUrl (settings : SetupSettings) (octets : Vector UInt8 16) :
    Redirect.Address.read (settings.redirectUrl (.ofOctets octets)) =
      (Redirect.Address.read settings.target).withSegment (SetupState.ofOctets octets).segment := by
  have hsegment : "state".toList ++ '=' :: (SetupState.ofOctets octets).token.toList =
      (SetupState.ofOctets octets).segment := by
    rw [SetupState.segment, String.toList_append]
    rfl
  have hhash : '#' ∉ (SetupState.ofOctets octets).segment :=
    SetupState.ofOctets_plain octets (by decide) (by decide)
  have hand : '&' ∉ (SetupState.ofOctets octets).segment :=
    SetupState.ofOctets_plain octets (by decide) (by decide)
  rw [← hsegment] at hhash hand
  rw [settings.redirectUrl_eq, Redirect.read_addParameter hhash hand, hsegment]

/-! ## Stores that keep their intents -/

namespace Store

/-- From one store to the next an intent is kept under its state, which was free, and what is kept
under other states is the same. -/
structure Keeps {σ : Type} [Store σ] (i : SetupIntent) (s s' : σ) : Prop where
  free : getIntent i.state s = .error .notFound
  kept : ∃ j, getIntent i.state s' = .ok j ∧ j.state = i.state ∧
    (i.profile.Proper → j.profile = i.profile)
  others : ∀ other, other ≠ i.state → getIntent other s' = getIntent other s

/-- Creating an intent keeps it, and is refused only where its state is not free. -/
class Keeping (σ : Type) [Store σ] : Prop where
  createIntent_free {i : SetupIntent} {s : σ} :
    getIntent i.state s = .error .notFound → (createIntent i s).1 = .ok ()
  createIntent_keeps {i : SetupIntent} {s s' : σ} : i.state.Proper →
    createIntent i s = (.ok (), s') → Keeps i s s'

end Store

open Store

namespace MemoryStore

theorem intent?_created {i : SetupIntent} {s s' : MemoryStore}
    (h : s.createIntent i = (.ok (), s')) : s.intent? i.state = none ∧
      ∀ state, s'.intent? state = if state = i.state then some i else s.intent? state := by
  unfold createIntent at h
  cases hi : s.intent? i.state with
  | some j =>
    rw [hi] at h
    cases h
  | none =>
    rw [hi] at h
    cases h
    refine ⟨rfl, fun state => ?_⟩
    by_cases hs : state = i.state
    · rw [if_pos hs, hs, intent?, List.find?_append, show s.intents.find? _ = none from hi]
      simp
    · rw [if_neg hs, intent?, List.find?_append, List.find?_singleton,
        if_neg (by simpa using Ne.symm hs), Option.or_none]
      rfl

instance : Keeping MemoryStore where
  createIntent_free {i s} hfree := by
    change orNotFound (s.intent? i.state) = _ at hfree
    show (s.createIntent i).1 = _
    unfold createIntent
    cases hi : s.intent? i.state with
    | none => rfl
    | some j =>
      rw [hi] at hfree
      cases hfree
  createIntent_keeps {i s s'} _ h := by
    obtain ⟨hfree, hall⟩ := intent?_created h
    refine ⟨congrArg orNotFound hfree, ⟨i, ?_, rfl, fun _ => rfl⟩, fun other hother => ?_⟩
    · exact congrArg orNotFound ((hall i.state).trans (if_pos rfl))
    · exact congrArg orNotFound ((hall other).trans (if_neg hother))

end MemoryStore

namespace RowStore

theorem intentRow?_created {i : SetupIntent} {s s' : RowStore}
    (h : s.createIntent i = (.ok (), s')) : s.intentRow? i.state = none ∧
      ∀ state, s'.intentRow? state =
        if state = i.state then some (.ofIntent i) else s.intentRow? state := by
  unfold createIntent at h
  cases hi : s.intentRow? i.state with
  | some row =>
    rw [hi] at h
    cases h
  | none =>
    rw [hi] at h
    cases h
    refine ⟨rfl, fun state => ?_⟩
    by_cases hs : state = i.state
    · rw [if_pos hs, hs, intentRow?, List.find?_append, show s.intents.find? _ = none from hi]
      simp [IntentRow.ofIntent]
    · have htoken : i.state.token ≠ state.token := mt SetupState.token_inj.mp (Ne.symm hs)
      rw [if_neg hs, intentRow?, List.find?_append, List.find?_singleton,
        if_neg (by simpa [IntentRow.ofIntent] using htoken), Option.or_none]
      rfl

/-- A row that is there may be unreadable, but it is never reported as absent. -/
theorem getIntent_notFound_iff {state : SetupState} {s : RowStore} :
    s.getIntent state = .error .notFound ↔ s.intentRow? state = none := by
  unfold getIntent
  cases s.intentRow? state with
  | none => simp
  | some row =>
    simp only [IntentRow.intent]
    split <;> simp

theorem intent_ofIntent_state {i : SetupIntent} (h : i.state.Proper) :
    ∃ j, (IntentRow.ofIntent i).intent = .ok j ∧ j.state = i.state ∧
      (i.profile.Proper → j.profile = i.profile) := by
  have hstate : SetupState.ofText? i.state.token = some i.state := h
  refine ⟨⟨i.state, (ProfileRow.ofProfile i.profile).profile, i.expiresAt.wholeSecond⟩, ?_, rfl,
    ProfileRow.profile_ofProfile⟩
  simp only [IntentRow.intent, IntentRow.ofIntent, hstate, Timestamp.ofSeconds?_seconds]

instance : Keeping RowStore where
  createIntent_free {i s} hfree := by
    have hrow := getIntent_notFound_iff.mp hfree
    show (s.createIntent i).1 = _
    rw [createIntent, hrow]
  createIntent_keeps {i s s'} hproper h := by
    obtain ⟨hfree, hall⟩ := intentRow?_created h
    obtain ⟨j, hj, hstate, hprofile⟩ := intent_ofIntent_state hproper
    refine ⟨getIntent_notFound_iff.mpr hfree, ⟨j, ?_, hstate, hprofile⟩, fun other hother => ?_⟩
    · show s'.getIntent i.state = _
      rw [getIntent, hall, if_pos rfl]
      exact hj
    · show s'.getIntent other = s.getIntent other
      rw [getIntent, hall, if_neg hother, getIntent]

end RowStore

instance : Keeping UnavailableStore where
  createIntent_free h := nomatch h
  createIntent_keeps _ h := nomatch h

namespace Setup

/-- How a setup is started: exactly for complete credentials and a free token, which then is the
key of its intent in the store and the last parameter of the address, after all that the target
has. -/
structure CarriesState (settings : SetupSettings) (request : TenantProfile)
    (octets : Vector UInt8 16) (now : Timestamp) {σ : Type} [Store σ] (s : σ) : Prop where
  accepted : (settings.normalProfile request).credentials.isComplete = true →
    getIntent (.ofOctets octets) s = .error .notFound →
    ∃ started, (start settings request (.ofOctets octets) now s).1 = .ok started
  carried : ∀ started s', start settings request (.ofOctets octets) now s = (.ok started, s') →
    Keeps (settings.intent request started.state now) s s' ∧
      Redirect.Address.read started.redirectUrl =
        (Redirect.Address.read settings.target).withSegment started.state.segment

theorem start_accepted {σ : Type} [Store σ] [Keeping σ] {settings : SetupSettings}
    {request : TenantProfile} {fresh : SetupState} {s : σ}
    (hcomplete : (settings.normalProfile request).credentials.isComplete = true)
    (hfree : getIntent fresh s = .error .notFound) (now : Timestamp) :
    ∃ started, (start settings request fresh now s).1 = .ok started := by
  have hcreate : (createIntent (settings.intent request fresh now) s).1 = .ok () :=
    Keeping.createIntent_free hfree
  rcases hstore : createIntent (settings.intent request fresh now) s with ⟨answer, s'⟩
  rw [hstore] at hcreate
  rw [SetupSettings.intent] at hstore
  simp only [start, hcomplete, if_true, hstore, show answer = .ok () from hcreate]
  exact ⟨_, rfl⟩

theorem carriesState {σ : Type} [Store σ] [Keeping σ] (settings : SetupSettings)
    (request : TenantProfile) (octets : Vector UInt8 16) (now : Timestamp) (s : σ) :
    CarriesState settings request octets now s where
  accepted hcomplete hfree := start_accepted hcomplete hfree now
  carried started s' h := by
    have houtcome := start_outcome settings request (.ofOctets octets) now s
    rw [h] at houtcome
    obtain ⟨rfl, -⟩ := start_ok h
    cases houtcome with
    | started hcreate =>
      exact ⟨Keeping.createIntent_keeps (SetupState.ofOctets_proper octets) hcreate,
        settings.read_redirectUrl octets⟩

/-- Whatever the install page or the callback is, the address that a setup leads to has its place,
its fragment and all of its parameters, and then the token under which the intent is kept. -/
theorem redirect_carries_state (settings : SetupSettings) (request : TenantProfile)
    (octets : Vector UInt8 16) (now : Timestamp) :
    (∀ s : MemoryStore, CarriesState settings request octets now s) ∧
    (∀ s : RowStore, CarriesState settings request octets now s) ∧
    ∀ s : UnavailableStore, CarriesState settings request octets now s :=
  ⟨carriesState settings request octets now, carriesState settings request octets now,
    carriesState settings request octets now⟩

example :
    SetupSettings.redirectUrl { installUrl := some " https://h/p?a=1&&b?c#top?x&y " } ⟨"5f"⟩ =
        "https://h/p?a=1&&b?c&state=5f#top?x&y" ∧
      Redirect.Address.read "https://h/p?a=1&&b?c&state=5f#top?x&y" =
        ⟨"https://h/p".toList, ["a=1".toList, "b?c".toList, "state=5f".toList],
          some "top?x&y".toList⟩ := by
  decide

end Setup

end EventRelay
