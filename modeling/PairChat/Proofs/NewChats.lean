import PairChat.Proofs.Creation
import PairChat.Proofs.Ownership

/-!
# New chats: what the records say about making one

Whether a chat is made is decided by what the account lists (`Creation`).  Here it is told from the
records alone.  A room that the account has joined together with somebody is listed, so it counts;
a room that the account has no record in is not, so it does not.

* `Invites`: a room was made by an account for another one, and nothing else was changed.
* `rooms_prefix_after`: rooms stay, so a name that is free now was never in use.
* `create_exact`: **when a chat is refused and when it is made, after every history.**
-/

namespace PairChat.Store

open PairChat.Action Account

/-- **The account has made a room with this name and invited the user to it.** -/
structure Invites (me user room : String) (s s' : Store) : Prop where
  users : s'.live.users = s.live.users
  rooms : s'.live.rooms = s.live.rooms ++ [⟨room, me, true, s.clock⟩]
  /-- Only the invitation carries the direct flag. -/
  members : s'.live.members = s.live.members ++
    [⟨room, me, Membership.joined.wire, (s.live.user? me).bind (·.displayName), none, s.clock⟩,
      ⟨room, user, Membership.invited.wire, (s.live.user? user).bind (·.displayName), some true,
        s.clock⟩]
  /-- The registry of the account, if it had one, is its listing under its own name, -/
  registry : ∀ d, s.live.document? me registryType = some d →
    d.content = Registry.toContent .text [(me, s.live.listing me)]
  /-- and now the room stands at its end. -/
  registered : s'.live.document? me registryType = some ⟨me, registryType,
    Registry.toContent .text [(me, s.live.listing me ++ [room])]⟩
  documents : ∀ v type, (v, type) ≠ (me, registryType) →
    s'.live.document? v type = s.live.document? v type
  /-- Both writes are committed. -/
  saved : s'.saved = s'.live

variable {s s' : Store} {t : Tables} {server me user room handle : String} {clock next : Nat}

/-! ### Names that were never in use -/

/-- **Rooms stay.** -/
theorem rooms_prefix_after (h : s.Sound server) (calls : List Call) :
    s.live.rooms <+: (s.after server calls).live.rooms := by
  induction calls generalizing s with
  | nil => exact List.prefix_refl _
  | cons c calls ih =>
    have hstep := ((effect_call h.live c).confined h.live).rooms
    exact hstep.trans (ih (h.next c))

/-- The name of the next room was never the name of a room. -/
theorem ne_roomName_before (h : s.Sound server) {calls pre : List Call} (hpre : pre <+: calls)
    {row : RoomRow} (hrow : row ∈ (s.after server pre).live.rooms) :
    row.id ≠ roomName server (s.after server calls).nextRoom := by
  obtain ⟨post, rfl⟩ := hpre
  have hkept := rooms_prefix_after (h.after pre) post
  rw [← after_append] at hkept
  have hlive := (h.after (pre ++ post)).live
  exact hlive.toCoherent.ne_roomName_next (hkept.subset hrow)

/-! ### Records and listings -/

/-- A room that the account has joined and the user holds open is listed. -/
theorem isHeld_of_joined (h : t.Sound server clock next) (hne : me ≠ user)
    (hj : t.Stands room me .joined) (ha : t.IsActive room user) : t.IsHeld me user := by
  obtain ⟨m, hm, hw⟩ := hj
  have hother : t.HasOther room me := ⟨user, hne.symm, ha.isSome⟩
  exact ⟨room, h.joined_listed room me m hm hw hother, ha⟩

/-- An account lists no room that it has no record in. -/
theorem not_isHeld_of_no_record (h : t.Sound server clock next)
    (hno : ¬ ∃ room, (t.member? room me).isSome ∧ t.IsActive room user) : ¬ t.IsHeld me user := by
  rintro ⟨room, hl, ha⟩
  obtain ⟨m, hm, -⟩ := h.listing_record me room hl
  exact hno ⟨room, by rw [hm]; rfl, ha⟩

/-! ### The room that is made -/

/-- A new room is listed nowhere. -/
theorem roomName_next_not_listed (h : t.Sound server clock next) (user : String) :
    roomName server next ∉ t.listing user := by
  intro hl
  obtain ⟨m, hm, -⟩ := h.listing_record user _ hl
  rw [h.member?_next] at hm
  cases hm

theorem document?_withListed (h : room ∉ t.listing me) (v type : String) :
    (t.withListed me room).document? v type =
      if (v, type) = (me, registryType) then some ⟨me, registryType,
        Registry.toContent .text [(me, t.listing me ++ [room])]⟩
      else t.document? v type := by
  rw [Tables.withListed, if_neg h, Tables.document?_withDocument]

theorem invites_made (h : s.live.Sound server s.clock s.nextRoom) (me user : String) :
    Invites me user (roomName server s.nextRoom) s
      ((s.madeRoom server me user).listed me (roomName server s.nextRoom)) := by
  have hfree := roomName_next_not_listed h me
  have hdocument : ∀ v type, ((s.madeRoom server me user).listed me
      (roomName server s.nextRoom)).live.document? v type =
        if (v, type) = (me, registryType) then some ⟨me, registryType, Registry.toContent .text
          [(me, s.live.listing me ++ [roomName server s.nextRoom])]⟩
        else s.live.document? v type := by
    intro v type
    rw [live_listed]
    exact document?_withListed (t := (s.madeRoom server me user).live) hfree v type
  refine ⟨?_, ?_, ?_, ?_, ?_, ?_, ?_⟩
  · rw [live_listed, Tables.users_withListed]
    rfl
  · rw [live_listed, Tables.rooms_withListed]
    rfl
  · rw [live_listed, Tables.members_withListed]
    rfl
  · intro d hd
    obtain ⟨rooms, -, hc⟩ := h.hasListing me d hd
    rw [Tables.listing_of_document? hd hc, hc]
  · rw [hdocument, if_pos rfl]
  · intro v type hne
    rw [hdocument, if_neg hne]
  · exact saved_listed rfl

/-- **Making a chat with another account, after every history.** It is refused where the account has
joined a room that the other holds open, and then nothing changes.  Where the account has no record
in any room that the other holds open, it succeeds: a room with a name that was never in use is
there, the other is invited to it, and the account lists it. -/
theorem create_exact (server : String) (first number : Nat) (calls : List Call)
    (me handle : String) (hu : (((empty first number).after server calls).live.user? me).isSome)
    (hv : (((empty first number).after server calls).live.user?
      (UserId.qualify handle server)).isSome) (hne : me ≠ UserId.qualify handle server) :
    let s := (empty first number).after server calls
    let other := UserId.qualify handle server
    let create := Call.perform (some me) (.create handle)
    ((∃ room, s.live.Stands room me .joined ∧ s.live.IsActive room other) →
      create.reply server s = .error .chatExists ∧ create.next server s = s) ∧
    ((¬ ∃ room, (s.live.member? room me).isSome ∧ s.live.IsActive room other) →
      ∃ room, create.reply server s = .ok (.answered (.chat (.text room))) ∧
        (∀ pre, pre <+: calls → ∀ row ∈ ((empty first number).after server pre).live.rooms,
          row.id ≠ room) ∧
        Invites me other room s (create.next server s)) := by
  intro s other create
  have hempty := sound_empty server first number
  have h : s.Sound server := hempty.after calls
  constructor
  · rintro ⟨room, hj, ha⟩
    have hc := counterpartyIn_of_user? h.live.toCoherent .chat hv
    have hheld := isHeld_of_joined h.live hne hj ha
    have ho := outcome_create_held (h.live.toCoherent.isName hu) h.live hc hheld
    have hop := outcome_bind_pure Answer.chat ho
    exact ⟨reply_perform (.create handle) hop, next_perform (.create handle) hop⟩
  · intro hno
    have ho := outcome_create_free h hu hv hne (not_isHeld_of_no_record h.live hno)
    have hop := outcome_bind_pure Answer.chat ho
    refine ⟨roomName server s.nextRoom, reply_perform (.create handle) hop,
      fun pre hpre row hrow => ne_roomName_before hempty hpre hrow, ?_⟩
    rw [next_perform (.create handle) hop]
    exact invites_made h.live me other

/-- Alice has invited Bob, who has not answered; Carol, who knows neither, may invite them both. -/
theorem create_exact_invited :
    let s := (empty 0 1).after "localhost" [.register "alice" none, .register "bob" none,
      .register "carol" none, .perform (some "@alice:localhost") (.create "bob")]
    (s.live.user? "@alice:localhost").isSome ∧ (s.live.user? "@bob:localhost").isSome ∧
      (s.live.user? "@carol:localhost").isSome ∧
      (Call.perform (some "@alice:localhost") (.create "bob")).reply "localhost" s =
        .error .chatExists ∧
      ∃ room, (Call.perform (some "@carol:localhost") (.create "bob")).reply "localhost" s =
          .ok (.answered (.chat (.text room))) ∧
        Invites "@carol:localhost" "@bob:localhost" room s
          ((Call.perform (some "@carol:localhost") (.create "bob")).next "localhost" s) := by
  refine ⟨by decide +kernel, by decide +kernel, by decide +kernel, ?_, ?_⟩
  · have hrefused := (create_exact "localhost" 0 1 [.register "alice" none, .register "bob" none,
      .register "carol" none, .perform (some "@alice:localhost") (.create "bob")]
      "@alice:localhost" "bob" (by decide +kernel) (by decide +kernel) (by decide +kernel)).1
    exact (hrefused ⟨"!room1:localhost", by decide +kernel, by decide +kernel⟩).1
  · have hmade := (create_exact "localhost" 0 1 [.register "alice" none, .register "bob" none,
      .register "carol" none, .perform (some "@alice:localhost") (.create "bob")]
      "@carol:localhost" "bob" (by decide +kernel) (by decide +kernel) (by decide +kernel)).2
    obtain ⟨room, hr, -, hi⟩ := hmade (by
      rintro ⟨room, hm, -⟩
      -- Carol has no record at all
      have hnone : ∀ m ∈ ((empty 0 1).after "localhost" [.register "alice" none,
          .register "bob" none, .register "carol" none,
          .perform (some "@alice:localhost") (.create "bob")]).live.members,
          m.userId ≠ "@carol:localhost" := by decide +kernel
      obtain ⟨m, hm⟩ := Option.isSome_iff_exists.mp hm
      obtain ⟨hmem, -, huser⟩ := Tables.of_member?_eq_some hm
      exact hnone m hmem huser)
    exact ⟨room, hr, hi⟩

end PairChat.Store
