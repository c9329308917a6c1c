import PairChat.Proofs.History

/-!
# Making chats: when it is refused

An account does not get another chat with a handle as long as it lists a room that the handle's
account holds open.  Its own record plays no part in that: a room stays listed after the account
left it.

* `reply_create_held`: a counterparty who is held cannot be asked again.
* `create_refused_iff`: **when making a chat is refused, after every history.**
-/

namespace PairChat.Store

open PairChat.Action Account

variable {s : Store} {t : Tables} {server me handle : String} {clock next : Nat}

/-- The account of a handle is found where it is registered. -/
theorem counterpartyIn_of_user? (h : t.Coherent server clock next) (purpose : Purpose)
    (hv : (t.user? (UserId.qualify handle server)).isSome) :
    counterpartyIn server handle purpose t = .ok (UserId.qualify handle server) := by
  obtain ⟨handle', hh, hq⟩ := h.exists_handle hv
  obtain rfl := UserId.qualify_injective hq
  exact counterpartyIn_eq_ok_iff.mpr ⟨hh, h.valid.isEncodable_of_user? hv, hv, rfl⟩

section Reply
variable (h : s.Sound server) (hu : (s.live.user? me).isSome)
  (hv : (s.live.user? (UserId.qualify handle server)).isSome)
include h hu hv

theorem reply_create_held (hheld : s.live.IsHeld me (UserId.qualify handle server)) :
    (Call.perform (some me) (.create handle)).reply server s = .error .chatExists := by
  have hc := counterpartyIn_of_user? h.live.toCoherent .chat hv
  have hme := h.live.toCoherent.isName hu
  have ho := outcome_create_held hme h.live hc hheld
  exact reply_perform (.create handle) (outcome_bind_pure _ ho)

/-- A chat is made with another account that is not held. -/
theorem outcome_create_free (hne : me ≠ UserId.qualify handle server)
    (hfree : ¬ s.live.IsHeld me (UserId.qualify handle server)) :
    (Lifecycle.create (acting server (some me)).provider handle).outcome s =
      (.ok (.text (roomName server s.nextRoom)),
        (s.madeRoom server me (UserId.qualify handle server)).listed me
          (roomName server s.nextRoom)) := by
  have hc := counterpartyIn_of_user? h.live.toCoherent .chat hv
  have hme := h.live.toCoherent.isName hu
  obtain ⟨u, hu⟩ := Option.isSome_iff_exists.mp hu
  obtain ⟨v, hv⟩ := Option.isSome_iff_exists.mp hv
  exact outcome_create_made hme h.live hc hfree hu hv hne

/-- Where the counterparty is not held, a chat is made, or its second record is refused. -/
theorem reply_create_free (hfree : ¬ s.live.IsHeld me (UserId.qualify handle server)) :
    (Call.perform (some me) (.create handle)).reply server s =
      if me = UserId.qualify handle server then .error .constraint
      else .ok (.answered (.chat (.text (roomName server s.nextRoom)))) := by
  have hc := counterpartyIn_of_user? h.live.toCoherent .chat hv
  have hme := h.live.toCoherent.isName hu
  split_ifs with he
  · obtain ⟨u, hu⟩ := Option.isSome_iff_exists.mp hu
    have ho := outcome_create_begun hme h.live hc hfree hu he
    exact reply_perform (.create handle) (outcome_bind_pure _ ho)
  · have ho := outcome_create_free h hu hv he hfree
    exact reply_perform (.create handle) (outcome_bind_pure _ ho)

end Reply

/-- The account of a listed room has joined it or left it. -/
theorem isHeld_iff_exists (h : t.Sound server clock next) {user : String} : t.IsHeld me user ↔
    ∃ room ∈ t.listing me, (t.Stands room me .joined ∨ t.Stands room me .left) ∧
      t.IsActive room user := by
  constructor
  · rintro ⟨room, hl, ha⟩
    obtain ⟨m, hm, hne⟩ := h.listing_record me room hl
    have hsome : (t.member? room me).isSome := by rw [hm]; rfl
    have hs : t.Stands room me .joined ∨ t.Stands room me .left := by
      rcases h.toCoherent.stands hsome with hw | hw
      · obtain ⟨m', hm', hw⟩ := hw
        obtain rfl := Option.some.inj (hm.symm.trans hm')
        exact absurd hw hne
      · exact hw
    exact ⟨room, hl, hs, ha⟩
  · rintro ⟨room, hl, -, ha⟩
    exact ⟨room, hl, ha⟩

/-- **Making a chat is refused, after every history, exactly where the account lists a room that the
counterparty has joined or is invited to.** The account itself has joined that room or left it. -/
theorem create_refused_iff (server : String) (first number : Nat) (calls : List Call)
    (me handle : String) (hu : (((empty first number).after server calls).live.user? me).isSome)
    (hv : (((empty first number).after server calls).live.user?
      (UserId.qualify handle server)).isSome) :
    let s := (empty first number).after server calls
    (Call.perform (some me) (.create handle)).reply server s = .error .chatExists ↔
      ∃ room ∈ s.live.listing me, (s.live.Stands room me .joined ∨ s.live.Stands room me .left) ∧
        s.live.IsActive room (UserId.qualify handle server) := by
  intro s
  have h : s.Sound server := sound_after server first number calls
  rw [← isHeld_iff_exists h.live]
  constructor
  · intro hr
    by_contra hfree
    rw [reply_create_free h hu hv hfree] at hr
    split_ifs at hr
    cases hr
  · exact reply_create_held h hu hv

/-- Alice has invited Bob and cannot invite him again. -/
theorem create_refused_twice :
    let s := (empty 0 1).after "localhost" [.register "alice" none, .register "bob" none,
      .perform (some "@alice:localhost") (.create "bob")]
    (s.live.user? "@alice:localhost").isSome ∧ (s.live.user? "@bob:localhost").isSome ∧
      (Call.perform (some "@alice:localhost") (.create "bob")).reply "localhost" s =
        .error .chatExists :=
  ⟨by decide +kernel, by decide +kernel,
    (create_refused_iff "localhost" 0 1 _ _ _ (by decide +kernel) (by decide +kernel)).mpr
      ⟨"!room1:localhost", by decide +kernel, by decide +kernel, by decide +kernel⟩⟩

/-- Alice has left her only chat with Bob, and still cannot invite him again. -/
theorem create_refused_after_leaving :
    let s := (empty 0 1).after "localhost" [.register "alice" none, .register "bob" none,
      .perform (some "@alice:localhost") (.create "bob"),
      .perform (some "@alice:localhost") (.decline "!room1:localhost")]
    ((s.live.user? "@alice:localhost").isSome ∧ (s.live.user? "@bob:localhost").isSome) ∧
      (Call.perform (some "@alice:localhost") (.create "bob")).reply "localhost" s =
        .error .chatExists ∧
      ¬ ∃ room, s.live.IsActive room "@alice:localhost" ∧
        s.live.IsActive room "@bob:localhost" := by
  refine ⟨by decide +kernel, reply_create_held (sound_after _ 0 1 _) (by decide +kernel)
    (by decide +kernel) (by decide +kernel), ?_⟩
  rintro ⟨room, ha, -⟩
  have hleft : ∀ m ∈ ((empty 0 1).after "localhost" [.register "alice" none, .register "bob" none,
      .perform (some "@alice:localhost") (.create "bob"),
      .perform (some "@alice:localhost") (.decline "!room1:localhost")]).live.members,
      m.userId = "@alice:localhost" → m.membership = Membership.left.wire := by decide +kernel
  rcases ha with ⟨m, hm, hw⟩ | ⟨m, hm, hw⟩ <;>
    obtain ⟨hmem, -, huser⟩ := Tables.of_member?_eq_some hm <;>
    cases Membership.wire_injective (hw.symm.trans (hleft m hmem huser))

end PairChat.Store
