import PairChat.Proofs.Acting

/-!
# The listing of an account

Accounts of a store list rooms in their registries under their own names only.  `Tables.listing` is
that list, `Tables.withListed` the tables with a room more on it.

* `ofContent_toContent`: what is written as a registry is read as the same registry.
* `Tables.HasListing`: the registry of an account, if it was ever written, holds one entry, its
  own.  Then the registry is the listing (`registryIn_eq`), and both ways of recording a room put it
  at the end of the listing, where it does not stand there yet (`registered_addJoined`,
  `registered_addCreated`).
-/

namespace PairChat

namespace Registry

/-- **A registry survives being written.** -/
theorem ofContent_toContent (reg : Registry String) :
    ofContent (reg.toContent .text) = .ok (some reg) := by
  induction reg with
  | nil => rfl
  | cons e reg ih =>
    have htexts : e.2.filterMap (Value.text? ∘ Value.text) = e.2 := List.filterMap_some
    simp only [ofContent, toContent, Value.object, List.map_cons, List.map_map, List.filterMap_cons,
      List.filterMap_map, Except.ok.injEq, Option.some.injEq] at ih ⊢
    rw [ih, htexts]

theorem roomsOf_singleton (user : String) (rooms : List String) :
    roomsOf [(user, rooms)] user = rooms := by
  simp [roomsOf]

end Registry

namespace Store

open Account

namespace Tables

variable {t : Tables}

/-- The rooms that the registry of an account lists under its own name. -/
def listing (t : Tables) (user : String) : List String :=
  match registryIn user t with
  | .ok (some reg) => reg.roomsOf user
  | _ => []

/-- The tables with a room more in the listing of an account. -/
def withListed (t : Tables) (user room : String) : Tables :=
  if room ∈ t.listing user then t
  else t.withDocument ⟨user, registryType,
    Registry.toContent .text [(user, t.listing user ++ [room])]⟩

/-- The registry of an account holds no entry but its own. -/
def HasListing (t : Tables) (user : String) : Prop :=
  ∀ d, t.document? user registryType = some d →
    ∃ rooms, rooms ≠ [] ∧ d.content = Registry.toContent .text [(user, rooms)]

@[simp] theorem listing_withUser (row : UserRow) (user : String) :
    (t.withUser row).listing user = t.listing user := rfl

@[simp] theorem listing_withRoom (room : RoomRow) (rs : List MemberRow) (user : String) :
    (t.withRoom room rs).listing user = t.listing user := rfl

@[simp] theorem listing_withRecord (row : MemberRow) (user : String) :
    (t.withRecord row).listing user = t.listing user := rfl

theorem registryIn_of_document? {user : String} {d : DocumentRow} {reg : Registry String}
    (hd : t.document? user registryType = some d) (hc : d.content = reg.toContent .text) :
    registryIn user t = .ok (some reg) := by
  have hr : readable d.content = .ok (reg.toContent .text) := by
    rw [hc]
    rfl
  rw [registryIn, document_eq, hd]
  simp only [hr]
  exact Registry.ofContent_toContent reg

theorem listing_of_document? {user : String} {d : DocumentRow} {rooms : List String}
    (hd : t.document? user registryType = some d)
    (hc : d.content = Registry.toContent .text [(user, rooms)]) : t.listing user = rooms := by
  rw [listing, registryIn_of_document? hd hc]
  exact Registry.roomsOf_singleton user rooms

theorem registryIn_of_no_document {user : String} (h : t.document? user registryType = none) :
    registryIn user t = .ok none := by
  rw [registryIn, document_eq, h]
  rfl

/-- The registry as it is read, and the listing in it. -/
theorem registryIn_eq {user : String} (h : t.HasListing user) :
    (registryIn user t = .ok none ∧ t.listing user = []) ∨
      (registryIn user t = .ok (some [(user, t.listing user)]) ∧ t.listing user ≠ []) := by
  rcases hd : t.document? user registryType with _ | d
  · have hr := registryIn_of_no_document hd
    exact Or.inl ⟨hr, by rw [listing, hr]⟩
  · obtain ⟨rooms, hne, hc⟩ := h d hd
    have hl := listing_of_document? hd hc
    refine Or.inr ⟨?_, ?_⟩
    · rw [hl]
      exact registryIn_of_document? hd hc
    · rw [hl]
      exact hne

theorem listing_withDocument_of_ne {row : DocumentRow} {user : String}
    (h : (row.userId, row.type) ≠ (user, registryType)) :
    (t.withDocument row).listing user = t.listing user := by
  have hr : registryIn user (t.withDocument row) = registryIn user t := by
    rw [registryIn, registryIn, document_eq, document_eq, document?_withDocument,
      if_neg fun e => h e.symm]
  rw [listing, listing, hr]

theorem listing_withListed (user room v : String) : (t.withListed user room).listing v =
    if v = user ∧ room ∉ t.listing user then t.listing user ++ [room] else t.listing v := by
  unfold withListed
  by_cases hroom : room ∈ t.listing user
  · rw [if_pos hroom, if_neg fun h => h.2 hroom]
  · rw [if_neg hroom]
    by_cases hv : v = user
    · subst hv
      rw [if_pos ⟨rfl, hroom⟩]
      exact listing_of_document? (document?_withDocument_self ⟨v, registryType,
        Registry.toContent .text [(v, t.listing v ++ [room])]⟩) rfl
    · rw [if_neg fun h => hv h.1]
      refine listing_withDocument_of_ne fun e => hv ?_
      exact ((Prod.mk.inj e).1).symm

theorem mem_listing_withListed {user room v r : String} :
    r ∈ (t.withListed user room).listing v ↔ r ∈ t.listing v ∨ (v = user ∧ r = room) := by
  rw [listing_withListed]
  split_ifs with h
  · obtain ⟨rfl, -⟩ := h
    simp
  · constructor
    · exact Or.inl
    · rintro (hr | ⟨rfl, rfl⟩)
      · exact hr
      · by_contra hr
        exact h ⟨rfl, hr⟩

@[simp] theorem member?_withListed (user room r v : String) :
    (t.withListed user room).member? r v = t.member? r v := by
  unfold withListed
  split_ifs <;> rfl

@[simp] theorem rooms_withListed (user room : String) :
    (t.withListed user room).rooms = t.rooms := by
  unfold withListed
  split_ifs <;> rfl

/-- Listing a room keeps every registry to its own entry. -/
theorem HasListing.withListed {user room v : String} (h : t.HasListing v) :
    (t.withListed user room).HasListing v := by
  intro d hd
  unfold Tables.withListed at hd
  split_ifs at hd with hroom
  · exact h d hd
  · rw [document?_withDocument] at hd
    split_ifs at hd with hk
    · obtain ⟨rfl, -⟩ := Prod.mk.inj hk
      obtain rfl := Option.some.inj hd
      exact ⟨_, by simp, rfl⟩
    · exact h d hd

end Tables

/-! ### Recording a room -/

variable {s : Store} {me room : String}

/-- The store after an account listed a room, where it did not list it before. -/
def listed (s : Store) (me room : String) : Store :=
  if room ∈ s.live.listing me then s else s.wrote (s.live.withListed me room)

@[simp] theorem live_listed : (s.listed me room).live = s.live.withListed me room := by
  unfold listed
  split_ifs with h
  · rw [Tables.withListed, if_pos h]
  · rfl

@[simp] theorem nextRoom_listed : (s.listed me room).nextRoom = s.nextRoom := by
  unfold listed
  split_ifs <;> rfl

theorem clock_le_listed : s.clock ≤ (s.listed me room).clock := by
  unfold listed
  split_ifs <;> simp

theorem saved_listed (h : s.saved = s.live) :
    (s.listed me room).saved = (s.listed me room).live := by
  unfold listed
  split_ifs
  · exact h
  · rfl

section Record
variable {reg : Option (Registry String)} (h : s.live.HasListing me)
  (hreg : registryIn me s.live = .ok reg)
include h hreg

theorem registered_addJoined :
    s.registered me ((reg.getD []).addJoined me room) = s.listed me room := by
  have ha : (reg.getD []).addJoined me room = if room ∈ s.live.listing me then (reg.getD [], false)
      else ([(me, s.live.listing me ++ [room])], true) := by
    rcases Tables.registryIn_eq h with ⟨hr, hl⟩ | ⟨hr, -⟩ <;>
      obtain rfl := Except.ok.inj (hreg.symm.trans hr)
    · simp [hl, Registry.addJoined, Registry.roomsOf, Registry.put]
    · simp [Registry.addJoined, Registry.roomsOf, Registry.put]
  rw [ha]
  by_cases hroom : room ∈ s.live.listing me
  · rw [if_pos hroom, listed, if_pos hroom]
    rfl
  · rw [if_neg hroom, listed, if_neg hroom, Tables.withListed, if_neg hroom]
    rfl

/-- In a registry with one entry, a room that was made is recorded as one that was joined. -/
theorem registered_addCreated :
    s.registered me ((reg.getD []).addCreated me room) = s.listed me room := by
  have ha : (reg.getD []).addCreated me room = (reg.getD []).addJoined me room := by
    rcases Tables.registryIn_eq h with ⟨hr, -⟩ | ⟨hr, -⟩ <;>
      obtain rfl := Except.ok.inj (hreg.symm.trans hr) <;>
      simp [Registry.addCreated, Registry.withdraw, Registry.isListedElsewhere]
  rw [ha, registered_addJoined h hreg]

theorem roomsOf_registry : (reg.getD []).roomsOf me = s.live.listing me := by
  rcases Tables.registryIn_eq h with ⟨hr, hl⟩ | ⟨hr, -⟩ <;>
    obtain rfl := Except.ok.inj (hreg.symm.trans hr)
  · rw [hl]
    rfl
  · exact Registry.roomsOf_singleton me _

end Record

theorem Tables.HasListing.exists_registry {t : Tables} (h : t.HasListing me) :
    ∃ reg, registryIn me t = .ok reg := by
  rcases Tables.registryIn_eq h with ⟨hr, -⟩ | ⟨hr, -⟩
  · exact ⟨_, hr⟩
  · exact ⟨_, hr⟩

end Store

end PairChat
