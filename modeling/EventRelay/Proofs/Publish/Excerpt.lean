import EventRelay.Publish.Delivery

/-!
# Excerpts of replies

The way down from the limit stops at the last boundary within it, and the
boundaries of a text are where its characters end. So what is left of a text
is the longest of its starts that fit, and what is kept of a reply that turns
an event down is the longest start of its trimmed text.
-/

set_option autoImplicit false

namespace EventRelay

open EventRelay.Text

namespace Utf8

/-- The longest start of a text that has at most so many octets. -/
structure LongestStart (limit : Nat) (cs front : List Char) : Prop where
  start : front <+: cs
  fits : (encode front).length ≤ limit
  boundary : isBoundary (encode cs) (encode front).length = true
  longest : ∀ other, other <+: cs → (encode other).length ≤ limit → other <+: front
  next : front = cs ∨ ∃ c rest, cs = front ++ c :: rest ∧ limit < (encode (front ++ [c])).length

variable {limit : Nat} {cs front front' : List Char}

theorem eq_of_start (h : front <+: cs) (hlength : (encode cs).length ≤ (encode front).length) :
    front = cs := by
  obtain ⟨back, rfl⟩ := h
  cases back with
  | nil => exact (List.append_nil front).symm
  | cons c back =>
    obtain ⟨b, bs, hc, -, -⟩ := encodeChar_octets c
    rw [encode_append, List.length_append, encode_cons, hc, List.cons_append,
      List.length_cons] at hlength
    omega

theorem isBoundary_start (h : front <+: cs) :
    isBoundary (encode cs) (encode front).length = true := by
  obtain ⟨back, rfl⟩ := h
  exact (isBoundary_encode_iff _ _).mpr ⟨front, back, rfl, rfl⟩

theorem LongestStart.unique (h : LongestStart limit cs front) (h' : LongestStart limit cs front') :
    front = front' :=
  (h'.longest front h.start h.fits).eq_of_length_le (h.longest front' h'.start h'.fits).length_le

/-- Every text can be cut, without a way below its first octet and without an end inside one of
its characters, and what is left is the longest start that fits. -/
theorem exists_longestStart (limit : Nat) (cs : List Char) :
    ∃ front, truncate? limit cs = some front ∧ LongestStart limit cs front := by
  obtain ⟨front, back, hcs, hcut, hfits, hlast⟩ := exists_truncate limit cs
  have hstart : front <+: cs := ⟨back, hcs.symm⟩
  have hlongest : ∀ other, other <+: cs → (encode other).length ≤ limit → other <+: front := by
    intro other hother hlimit
    -- Of two starts of a text one is a start of the other. If the cut came first, the other would
    -- end at a boundary between the cut and the limit.
    rcases List.prefix_or_prefix_of_prefix hother hstart with h | h
    · exact h
    · have hlength : (encode other).length ≤ (encode front).length := by
        apply Nat.le_of_not_lt
        intro hbeyond
        have hnone := hlast _ hbeyond hlimit
        exact absurd (isBoundary_start hother) (Bool.eq_false_iff.mp hnone)
      obtain rfl := eq_of_start h hlength
      exact List.prefix_refl front
  refine ⟨front, hcut, hstart, hfits, isBoundary_start hstart, hlongest, ?_⟩
  cases back with
  | nil => exact Or.inl (hcs.trans (List.append_nil front)).symm
  | cons c rest =>
    refine Or.inr ⟨c, rest, hcs, Nat.lt_of_not_le fun hlimit => ?_⟩
    have hnext : front ++ [c] <+: cs := ⟨rest, by rw [hcs, List.append_assoc]; rfl⟩
    have hlength := (hlongest _ hnext hlimit).length_le
    rw [List.length_append, List.length_singleton] at hlength
    omega

theorem truncate_longestStart (limit : Nat) (cs : List Char) :
    LongestStart limit cs (truncate limit cs) := by
  obtain ⟨front, hcut, hfront⟩ := exists_longestStart limit cs
  simpa only [truncate, hcut, Option.get_some] using hfront

theorem longestStart_iff : LongestStart limit cs front ↔ front = truncate limit cs := by
  constructor
  · exact fun h => h.unique (truncate_longestStart limit cs)
  · rintro rfl
    exact truncate_longestStart limit cs

end Utf8

namespace Publish

open EventRelay.Utf8

theorem keptReply_eq_iff {reply : List UInt8} {kept : String} :
    keptReply reply = kept ↔
      LongestStart maxRejectedOctets (trimChars (decodeLossy reply)) kept.toList := by
  rw [longestStart_iff, keptReply, ← String.toList_inj, String.toList_ofList]
  exact eq_comm

theorem verdict_rejected_iff {outcome : Outcome} {status : Nat} {kept : String} :
    verdict outcome = .error (.rejected status kept) ↔
      ∃ reply, outcome = .answered status reply ∧ 300 ≤ status ∧
        LongestStart maxRejectedOctets (trimChars (decodeLossy reply)) kept.toList := by
  cases outcome with
  | failed reason => simp [verdict]
  | answered status' reply =>
    simp only [verdict, Outcome.answered.injEq, ← keptReply_eq_iff]
    split
    · rename_i hstatus
      refine iff_of_false nofun ?_
      rintro ⟨_, ⟨rfl, rfl⟩, hrejected, -⟩
      omega
    · rename_i hstatus
      constructor
      · intro h
        cases h
        exact ⟨reply, ⟨rfl, rfl⟩, Nat.le_of_not_lt hstatus, rfl⟩
      · rintro ⟨_, ⟨rfl, rfl⟩, -, rfl⟩
        rfl

theorem publish_rejected_iff {ω : Type} {network : Network ω} {c : PublishCredentials}
    {body : List UInt8} {w w' : ω} {status : Nat} {kept : String} :
    publish network c body w = (.error (.rejected status kept), w') ↔
      c.isComplete = true ∧ ∃ r reply, request c body = .ok r ∧
        network r w = (.answered status reply, w') ∧ 300 ≤ status ∧
        LongestStart 512 (trimChars (decodeLossy reply)) kept.toList := by
  rw [publish]
  by_cases hcomplete : c.isComplete = true
  · rw [if_pos hcomplete]
    cases hrequest : request c body with
    | error reason => simp
    | ok r =>
      rcases hnetwork : network r w with ⟨outcome, next⟩
      simp only [hnetwork, Prod.mk.injEq, verdict_rejected_iff, hcomplete, true_and,
        Except.ok.injEq]
      constructor
      · rintro ⟨⟨reply, rfl, hstatus, hkept⟩, rfl⟩
        exact ⟨r, reply, rfl, hnetwork, hstatus, hkept⟩
      · rintro ⟨_, reply, rfl, hanswer, hstatus, hkept⟩
        obtain ⟨rfl, rfl⟩ := Prod.mk.inj (hnetwork.symm.trans hanswer)
        exact ⟨⟨reply, rfl, hstatus, hkept⟩, rfl⟩
  · rw [if_neg hcomplete]
    refine iff_of_false (fun h => ?_) fun h => hcomplete h.1
    cases (Prod.mk.inj h).1

/-- A text is always cut to the longest start that fits, whatever its characters and the limit; and
an event is turned down with a status from 300 on and with the longest start of the trimmed reply
that has at most 512 octets. -/
theorem excerpt_longest :
    (∀ limit cs, ∃ front, truncate? limit cs = some front ∧ LongestStart limit cs front) ∧
    ∀ (ω : Type) (network : Network ω) (c : PublishCredentials) (body : List UInt8) (w w' : ω)
      (status : Nat) (kept : String),
      publish network c body w = (.error (.rejected status kept), w') ↔
        c.isComplete = true ∧ ∃ r reply, request c body = .ok r ∧
          network r w = (.answered status reply, w') ∧ 300 ≤ status ∧
          LongestStart 512 (trimChars (decodeLossy reply)) kept.toList := by
  constructor
  · exact exists_longestStart
  · intro ω network c body w w' status kept
    exact publish_rejected_iff

end Publish

end EventRelay
