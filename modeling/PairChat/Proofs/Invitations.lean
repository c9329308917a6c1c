import PairChat.Proofs.History

/-!
# The list of invitations

What an account is shown when it lists its invitations.

* `Tables.IsInvitationList` describes the list: one entry for each room that the account is invited
  to, in the order in which the rooms were made, with the handle and the name of the inviter.
* The registry of the account plays no part in it.  It names no room that the account is only
  invited to, so the records decide alone; and each invitation carries the flag that they are asked
  for (`flagged_invited`).
* `invitations_exact`: **no history loses an invitation.**
-/

namespace PairChat.Store

open PairChat.Action Account

namespace Tables

/-- **The invitations of an account.** -/
structure IsInvitationList (server : String) (t : Tables) (me : String) (all : List Invitation) :
    Prop where
  /-- There is one entry for each room that the account is invited to, in the order of the rooms, -/
  rooms : all.map (·.chatId) = (t.invitedRooms me).map (·.id)
  /-- which is the order in which the rooms were made. -/
  dated : t.rooms.Pairwise fun a b => a.createdAt < b.createdAt
  /-- No room has two entries. -/
  nodup : (all.map (·.chatId)).Nodup
  /-- An entry shows the maker of the room, with the handle and the name of their account. -/
  inviter : ∀ x ∈ all, ∃ row ∈ t.rooms, row.id = x.chatId ∧ row.creator ≠ me ∧
    UserId.qualify x.inviter.handle server = row.creator ∧
    (t.user? row.creator).bind (·.displayName) = some x.inviter.name

end Tables

variable {s : Store} {t : Tables} {server me room : String} {clock next : Nat}

/-- The rooms of the invitations are those in which the record of the account is one. -/
theorem mem_chatIds_iff {all : List Invitation} (hv : t.Valid)
    (hl : t.IsInvitationList server me all) :
    room ∈ all.map (·.chatId) ↔ t.Stands room me .invited := by
  rw [hl.rooms, List.mem_map]
  constructor
  · rintro ⟨row, hrow, rfl⟩
    exact of_decide_eq_true (List.mem_filter.mp hrow).2
  · intro hs
    obtain ⟨row, hrow, rfl⟩ := Tables.room?_isSome_iff.mp (hv.room?_isSome_of_member? hs.isSome)
    exact ⟨row, List.mem_filter.mpr ⟨hrow, decide_eq_true hs⟩, rfl⟩

theorem nodup_invitedRooms (hv : t.Valid) : ((t.invitedRooms me).map (·.id)).Nodup :=
  (List.filter_sublist.map _).nodup hv.rooms_nodup

/-- Nobody is invited to a room of their own, so the other member of the room is its maker. -/
theorem otherContact_invited (h : t.Coherent server clock next) {row : RoomRow}
    (hrow : row ∈ t.rooms) (hs : t.Stands row.id me .invited) : row.creator ≠ me ∧
      ∃ c, Lifecycle.otherContact (.text me) (membersIn row.id t) = .ok c ∧
        UserId.qualify c.handle server = row.creator ∧
        (t.user? row.creator).bind (·.displayName) = some c.name := by
  obtain ⟨m, hm, hne⟩ := h.maker_record row hrow
  have hmaker : row.creator ≠ me := by
    rintro rfl
    obtain ⟨m', hm', hw⟩ := hs
    obtain rfl := Option.some.inj (hm.symm.trans hm')
    exact hne hw
  have hsome : (t.member? row.id row.creator).isSome := by rw [hm]; rfl
  obtain ⟨handle, name, hq, hname, hc⟩ := otherContact_of_other h hs.isSome hmaker hsome
  exact ⟨hmaker, ⟨handle, name⟩, hc, hq, hname⟩

/-- **An account is answered with its invitations**, and nothing changes. -/
theorem invitations_answered (hme : IsName me) (h : s.live.Sound server clock next) :
    ∃ all, (Lifecycle.invitations (acting server (some me)).provider).outcome s = (.ok all, s) ∧
      s.live.IsInvitationList server me all := by
  obtain ⟨all, hall, hids, hinviter⟩ := exists_mapM_eq_ok Invitation.chatId RoomRow.id
    (fun x => ∃ row ∈ s.live.rooms, row.id = x.chatId ∧ row.creator ≠ me ∧
      UserId.qualify x.inviter.handle server = row.creator ∧
      (s.live.user? row.creator).bind (·.displayName) = some x.inviter.name)
    (f := fun row => (Lifecycle.otherContact (.text me) (membersIn row.id s.live)).map fun c =>
      ⟨chatId row.id, c⟩)
    (s.live.invitedRooms me) (fun row hrow => by
      obtain ⟨hrow, hs⟩ := List.mem_filter.mp hrow
      obtain ⟨hmaker, c, hc, hu⟩ :=
        otherContact_invited h.toCoherent hrow (of_decide_eq_true hs)
      exact ⟨⟨chatId row.id, c⟩, by rw [hc]; rfl, rfl, row, hrow, rfl, hmaker, hu⟩)
  refine ⟨all, ?_, hids, h.rooms_sorted, hids ▸ nodup_invitedRooms h.valid, hinviter⟩
  rw [outcome_invitations hme h, flagged_invited h.toCoherent, List.mapM_map]
  exact congrArg (·, s) hall

/-- **Listing the invitations of an account, after every history.** It always succeeds and changes
nothing, and the rooms that it shows are all those in which the record of the account is an
invitation, whoever made them and whatever else the account has registered. -/
theorem invitations_exact (server : String) (first number : Nat) (calls : List Call) (me : String)
    (hu : (((empty first number).after server calls).live.user? me).isSome) :
    let s := (empty first number).after server calls
    let list := Call.perform (some me) .invitations
    list.next server s = s ∧ ∃ all, list.reply server s = .ok (.answered (.invitations all)) ∧
      s.live.IsInvitationList server me all ∧
      ∀ room, room ∈ all.map (·.chatId) ↔ s.live.Stands room me .invited := by
  intro s list
  have h : s.live.Sound server s.clock s.nextRoom := (sound_after server first number calls).live
  obtain ⟨all, ho, hl⟩ := invitations_answered (h.toCoherent.isName hu) h
  have hop := outcome_bind_pure Answer.invitations ho
  exact ⟨next_perform .invitations hop, all, reply_perform .invitations hop, hl,
    fun room => mem_chatIds_iff h.valid hl⟩

/-- Bob has accepted Carol's chat and still sees the invitations of Alice and Dave. -/
theorem invitations_exact_registered :
    let s := (empty 0 1).after "localhost" [.register "alice" none, .register "bob" none,
      .register "carol" none, .register "dave" (some "D."),
      .perform (some "@carol:localhost") (.create "bob"),
      .perform (some "@alice:localhost") (.create "bob"),
      .perform (some "@bob:localhost") (.accept "!room1:localhost"),
      .perform (some "@dave:localhost") (.create "bob")]
    (s.live.user? "@bob:localhost").isSome ∧ s.live.listing "@bob:localhost" ≠ [] ∧
      ∃ all, (Call.perform (some "@bob:localhost") .invitations).reply "localhost" s =
        .ok (.answered (.invitations all)) ∧
      "!room2:localhost" ∈ all.map (·.chatId) ∧ "!room3:localhost" ∈ all.map (·.chatId) := by
  intro s
  have hbob : (s.live.user? "@bob:localhost").isSome ∧ s.live.listing "@bob:localhost" ≠ [] ∧
      s.live.Stands "!room2:localhost" "@bob:localhost" .invited ∧
      s.live.Stands "!room3:localhost" "@bob:localhost" .invited := by decide +kernel
  obtain ⟨hu, hlisting, halice, hdave⟩ := hbob
  obtain ⟨-, all, hr, -, hall⟩ := invitations_exact "localhost" 0 1 [.register "alice" none,
    .register "bob" none, .register "carol" none, .register "dave" (some "D."),
    .perform (some "@carol:localhost") (.create "bob"),
    .perform (some "@alice:localhost") (.create "bob"),
    .perform (some "@bob:localhost") (.accept "!room1:localhost"),
    .perform (some "@dave:localhost") (.create "bob")] "@bob:localhost" hu
  exact ⟨hu, hlisting, all, hr, (hall _).mpr halice, (hall _).mpr hdave⟩

end PairChat.Store
