import PairChat.MemberEvent
import PairChat.Proofs.Rows
import Mathlib.Data.List.Induction

/-!
# Latest events: what decides about a member

`latest? user events` is the last well-formed event about a user.  `members events` has one record
for each user whose latest event is a record, and that is the record (`mem_members_iff`); so lists
with the same latest events leave the same records (`mem_members_congr`), and nothing else in a list
has any influence on which records there are.
-/

namespace PairChat

theorem Value.text?_eq_some_iff {v : Value} {s : String} : v.text? = some s ↔ v = .text s := by
  constructor
  · intro h
    unfold Value.text? at h
    split at h
    · rw [Option.some.inj h]
    · cases h
  · rintro rfl
    rfl

namespace MemberEvent

/-! ### Events about a user -/

/-- The user that an event is about. -/
def user? : MemberEvent → Option String
  | .record member => some member.userId
  | .removal user => some user
  | .unrelated => none

/-- The record that an event leaves. -/
def member? : MemberEvent → Option Member
  | .record member => some member
  | .removal _ | .unrelated => none

/-- The well-formed event about a user that a value is. -/
def about? (user : String) (event : Value) : Option MemberEvent :=
  (ofValue? event).filter fun e => e.user? == some user

/-- **The last well-formed event about a user.** -/
def latest? (user : String) (events : List Value) : Option MemberEvent :=
  events.reverse.findSome? (about? user)

variable {user : String} {events events' : List Value}

@[simp] theorem latest?_nil : latest? user [] = none := rfl

theorem latest?_snoc (event : Value) :
    latest? user (events ++ [event]) = (about? user event).or (latest? user events) := by
  unfold latest?
  rw [List.reverse_append, List.reverse_singleton, List.singleton_append, List.findSome?_cons]
  cases about? user event <;> rfl

/-! ### The records -/

/-- The record of a user. -/
def recordOf? (user : String) (members : List Member) : Option Member :=
  members.find? (·.userId = user)

theorem recordOf?_putMember (member : Member) (members : List Member) :
    recordOf? user (putMember member members) =
      if member.userId = user then some member else recordOf? user members := by
  unfold recordOf?
  induction members with
  | nil =>
    by_cases hu : member.userId = user <;> simp [putMember, hu]
  | cons m ms ih =>
    by_cases hm : m.userId = member.userId
    · by_cases hu : member.userId = user <;> simp [putMember, hm, hu]
    · simp only [putMember, if_neg hm, List.find?_cons]
      by_cases hu : m.userId = user
      · have hne : member.userId ≠ user := fun h => hm (hu.trans h.symm)
        simp [hu, hne]
      · simp [hu, ih]

theorem recordOf?_filter (other : String) (members : List Member) :
    recordOf? user (members.filter (·.userId ≠ other)) =
      if other = user then none else recordOf? user members := by
  unfold recordOf?
  rw [List.find?_filter]
  split_ifs with h
  · simp [h]
  · congr 1
    funext m
    by_cases hm : m.userId = user
    · simp [hm, Ne.symm h]
    · simp [hm]

/-- An event decides about the record of its own user only. -/
theorem recordOf?_step (members : List Member) (event : Value) :
    recordOf? user (step members event) =
      match about? user event with
      | some e => e.member?
      | none => recordOf? user members := by
  unfold step about?
  rcases hv : ofValue? event with _ | ⟨member⟩ | ⟨other⟩ | _
  · rfl
  · by_cases hu : member.userId = user <;>
      simp [recordOf?_putMember, Option.filter, user?, hu, member?]
  · show recordOf? user (members.filter (·.userId ≠ other)) = _
    rw [recordOf?_filter]
    by_cases hu : other = user <;> simp [Option.filter, user?, member?, hu]
  · rfl

/-- **The record of a user is that of the latest event about the user.** -/
theorem recordOf?_members (user : String) (events : List Value) :
    recordOf? user (members events) = (latest? user events).bind member? := by
  induction events using List.reverseRecOn with
  | nil => rfl
  | append_singleton events event ih =>
    have hfold : members (events ++ [event]) = step (members events) event := by
      unfold members
      rw [List.foldl_append]
      rfl
    rw [hfold, recordOf?_step, latest?_snoc, ih]
    rcases about? user event with _ | e <;> rfl

/-! ### One record for each user -/

theorem userIds_putMember (member : Member) (members : List Member) :
    (putMember member members).map (·.userId) =
      if member.userId ∈ members.map (·.userId) then members.map (·.userId)
      else members.map (·.userId) ++ [member.userId] := by
  induction members with
  | nil => rfl
  | cons m ms ih =>
    by_cases hm : m.userId = member.userId
    · simp [putMember, hm]
    · simp only [putMember, if_neg hm, List.map_cons, ih, List.mem_cons, Ne.symm hm, false_or]
      split_ifs <;> rfl

theorem nodup_step {members : List Member} (h : (members.map (·.userId)).Nodup) (event : Value) :
    ((step members event).map (·.userId)).Nodup := by
  unfold step
  rcases ofValue? event with _ | ⟨member⟩ | ⟨user⟩ | _
  · exact h
  · show ((putMember member members).map (·.userId)).Nodup
    rw [userIds_putMember]
    split_ifs with hm
    · exact h
    · rw [← List.concat_eq_append]
      exact h.concat hm
  · exact h.sublist (List.filter_sublist.map _)
  · exact h

theorem nodup_members (events : List Value) : ((members events).map (·.userId)).Nodup := by
  induction events using List.reverseRecOn with
  | nil => exact List.nodup_nil
  | append_singleton events event ih =>
    unfold members at ih ⊢
    rw [List.foldl_append]
    exact nodup_step ih event

theorem recordOf?_eq_some_iff {members : List Member} (h : (members.map (·.userId)).Nodup)
    {m : Member} : recordOf? user members = some m ↔ m ∈ members ∧ m.userId = user :=
  Store.find?_eq_some_iff_of_nodup (by simp) h

/-- **A record is left if it is that of the latest event about its user.** -/
theorem mem_members_iff {m : Member} :
    m ∈ members events ↔ latest? m.userId events = some (.record m) := by
  have hmem : m ∈ members events ↔ recordOf? m.userId (members events) = some m := by
    rw [recordOf?_eq_some_iff (nodup_members events), and_iff_left rfl]
  rw [hmem, recordOf?_members, Option.bind_eq_some_iff]
  constructor
  · rintro ⟨e, he, hm⟩
    cases e with
    | record member =>
      obtain rfl : member = m := Option.some.inj hm
      exact he
    | removal _ => cases hm
    | unrelated => cases hm
  · intro he
    exact ⟨_, he, rfl⟩

/-! ### Lists with the same latest events -/

section Same
variable (h : ∀ user, latest? user events = latest? user events')
include h

theorem mem_members_congr (m : Member) : m ∈ members events ↔ m ∈ members events' := by
  rw [mem_members_iff, mem_members_iff, h]

theorem recordOf?_members_congr (user : String) :
    recordOf? user (members events) = recordOf? user (members events') := by
  rw [recordOf?_members, recordOf?_members, h]

end Same

end MemberEvent

end PairChat
