import PairChat.Lifecycle
import PairChat.Proofs.NotedCalls

/-!
# Creation checks: when a chat is made, at any provider

Making a chat with a handle asks the provider for a number of things in turn, and it makes the chat
if none of them stands against it.  The provider may answer as it likes and may fail at every call.

* `Readings`: what the reading calls answer, each made in the state that the ones before it left.
* `Readings.checks`: the checks in their order, each with the failure that it ends in.
* `create_checked`: **the first check that does not pass decides**, and nothing is written; if all
  of them pass, the chat is made.
-/

namespace PairChat.Lifecycle

open PairChat.Action Resolver

variable {σ α β : Type}

/-! ### Checks -/

/-- The failure that a result is. -/
def failure? : Except Failure α → Option Failure
  | .error e => some e
  | .ok _ => none

/-- The failure that a result is, or that its answer amounts to. -/
def refusal? (r : Except Failure α) (isWanted : α → Bool) (e : Failure) : Option Failure :=
  match r with
  | .error e => some e
  | .ok x => if isWanted x then none else some e

/-- Does an answer show the account as a member who has joined or is invited? -/
def shows (user : String) : Except Failure (Option (List Member)) → Bool
  | .ok members => holds user members
  | .error _ => false

/-- What the reading calls answer and leave, made one after the other. -/
structure Readings (σ : Type) where
  found : Except Failure Bool × σ
  account : Except Failure Value × σ
  rooms : Except Failure (List Room) × σ
  registry : Except Failure (Option (Registry String)) × σ
  /-- The rooms that the registry lists under the account. -/
  listed : List Room
  /-- The member records of the listed rooms, in order. -/
  members : List (Except Failure (Option (List Member))) × σ

/-- The rooms that a registry lists under an account. -/
def listedRooms (account : Except Failure Value) (rooms : Except Failure (List Room))
    (registry : Except Failure (Option (Registry String))) : List Room :=
  match account, rooms, registry with
  | .ok (.text me), .ok all, .ok reg => all.filter fun x => x.id ∈ (reg.getD []).roomsOf me
  | _, _, _ => []

/-- The reading calls of a provider about an account. -/
def readings (p : Provider σ) (user : String) (s : σ) : Readings σ :=
  let found := (p.userExists user).outcome s
  let account := p.account.outcome found.2
  let rooms := p.rooms.outcome account.2
  let registry := p.registry?.outcome rooms.2
  let listed := listedRooms account.1 rooms.1 registry.1
  let read := fun x : Room => p.members? x.id
  { found, account, rooms, registry, listed,
    members := (log read registry.2 listed, after read registry.2 listed) }

namespace Readings

/-- **The checks before a chat is made**, in their order. -/
def checks (r : Readings σ) (handle user : String) : List (Option Failure) :=
  [(Handle.fault? handle).map .badHandle,
    refusal? r.found.1 id (.unknownHandle .chat),
    refusal? r.account.1 (fun me => !me.isEmpty) (.noAccount .owner),
    failure? r.rooms.1, failure? r.registry.1] ++
  r.members.1.map failure? ++
  [if r.members.1.any (shows user) then some .chatExists else none]

/-- All that has to be the case for a chat to be made. -/
structure Permits (r : Readings σ) (handle user : String) : Prop where
  handle : Handle.fault? handle = none
  found : r.found.1 = .ok true
  account : ∃ me, r.account.1 = .ok me ∧ ¬ me.isEmpty
  rooms : ∃ all, r.rooms.1 = .ok all
  registry : ∃ reg, r.registry.1 = .ok reg
  members : ∀ m ∈ r.members.1, ∃ members, m = .ok members ∧ ∀ x ∈ members.getD [],
    x.userId = user → x.membership ≠ .joined ∧ x.membership ≠ .invited

end Readings

theorem failure?_eq_none_iff {r : Except Failure α} : failure? r = none ↔ ∃ x, r = .ok x := by
  rcases r with e | x
  · simp [failure?]
  · simp [failure?]

theorem refusal?_eq_none_iff {r : Except Failure α} {isWanted : α → Bool} {e : Failure} :
    refusal? r isWanted e = none ↔ ∃ x, r = .ok x ∧ isWanted x := by
  rcases r with e | x <;> simp [refusal?]

theorem holds_eq_false_iff {user : String} {members : Option (List Member)} :
    holds user members = false ↔ ∀ x ∈ members.getD [],
      x.userId = user → x.membership ≠ .joined ∧ x.membership ≠ .invited := by
  have hactive : ∀ m : Membership, m.isActive = false ↔ m ≠ .joined ∧ m ≠ .invited := by
    intro m
    cases m <;> decide
  simp only [holds, List.any_eq_false, Bool.and_eq_true, beq_iff_eq, not_and, Bool.not_eq_true,
    hactive]

/-- **No check stands against the chat exactly where all that has to be the case is.** -/
theorem Readings.findSome?_checks_eq_none_iff (r : Readings σ) (handle user : String) :
    (r.checks handle user).findSome? id = none ↔ r.Permits handle user := by
  have hexists : (if r.members.1.any (shows user) then some Failure.chatExists else none) = none ↔
      ∀ m ∈ r.members.1, shows user m = false := by
    simp only [ite_eq_right_iff, reduceCtorEq, imp_false, List.any_eq_true, not_exists, not_and,
      Bool.not_eq_true]
  rw [List.findSome?_eq_none_iff]
  simp only [checks, List.forall_mem_append, List.forall_mem_cons, List.forall_mem_map,
    List.not_mem_nil, false_implies, implies_true, and_true, id_eq, failure?_eq_none_iff,
    refusal?_eq_none_iff, Option.map_eq_none_iff, hexists]
  constructor
  · rintro ⟨⟨⟨hhandle, ⟨_, hfound, rfl⟩, ⟨me, haccount, hme⟩, hrooms, hregistry⟩, hread⟩, hnone⟩
    refine ⟨hhandle, hfound, ⟨me, haccount, by simpa using hme⟩, hrooms, hregistry, ?_⟩
    intro m hm
    obtain ⟨members, rfl⟩ := hread m hm
    exact ⟨members, rfl, holds_eq_false_iff.mp (hnone _ hm)⟩
  · rintro ⟨hhandle, hfound, ⟨me, haccount, hme⟩, hrooms, hregistry, hmembers⟩
    refine ⟨⟨⟨hhandle, ⟨true, hfound, rfl⟩, ⟨me, haccount, by simpa using hme⟩, hrooms, hregistry⟩,
      fun m hm => ?_⟩, fun m hm => ?_⟩
    · obtain ⟨members, rfl, -⟩ := hmembers m hm
      exact ⟨members, rfl⟩
    · obtain ⟨members, rfl, hgone⟩ := hmembers m hm
      exact holds_eq_false_iff.mpr hgone

/-! ### What the parts ask for -/

section Noted
variable (p : Provider σ) {s t : σ} {server handle : String} (calls : List ProviderCall)

theorem outcome_counterparty_noted (hserver : p.homeServer.outcome s = (.ok (.text server), t))
    (hhandle : Handle.fault? handle = none) (purpose : Purpose) :
    let user := UserId.qualify handle server
    let found := (p.userExists user).outcome t
    (counterparty p.noted handle purpose).outcome (s, calls) =
      ((do if ← found.1 then return user else .error (.unknownHandle purpose)), found.2,
        calls ++ [.userExists user]) := by
  intro user found
  have hcheck : Handle.check handle = .ok handle := by rw [Handle.check, hhandle]
  have hserver' : p.noted.homeServer.outcome (s, calls) = (.ok (.text server), t, calls) := by
    show ((p.homeServer.outcome s).1, (p.homeServer.outcome s).2, calls) = _
    rw [hserver]
  have hfound : (p.noted.userExists user).outcome (t, calls) =
      (found.1, found.2, calls ++ [.userExists user]) := rfl
  have hspelled : (Value.text server).spelled = .ok server := rfl
  rw [counterparty, hcheck, outcome_bind_ok (outcome_lift _ _), outcome_bind_ok hserver', hspelled,
    outcome_bind_ok (outcome_lift _ _), outcome_bind, hfound]
  rcases found.1 with e | _ | _ <;> rfl

theorem outcome_counterparty_noted_error {fault : HandleFault}
    (hhandle : Handle.fault? handle = some fault) (purpose : Purpose) (s : σ) :
    (counterparty p.noted handle purpose).outcome (s, calls) =
      (.error (.badHandle fault), s, calls) := by
  have hcheck : Handle.check handle = .error (.badHandle fault) := by rw [Handle.check, hhandle]
  rw [counterparty, hcheck]
  rfl

theorem outcome_owner_noted (s : σ) : (owner p.noted).outcome (s, calls) =
    ((p.account.outcome s).1 >>= knownOwner, (p.account.outcome s).2, calls ++ [.account]) := by
  have haccount : p.noted.account.outcome (s, calls) =
      ((p.account.outcome s).1, (p.account.outcome s).2, calls ++ [.account]) := rfl
  rw [owner, outcome_bind, haccount]
  rcases (p.account.outcome s).1 with e | me <;> rfl

section Owner
variable {me : String} (hme : (Value.text me).isEmpty = false) (user : String)
include hme

/-- What is left of the search for a chat once the account is known. -/
theorem hasChat_eq : hasChat p user (.text me) = do
    let fetched ← fetch p
    let held ← forEach (fetched.1.filter fun x => (fetched.2.roomsOf me).contains x.id) fun x => do
      return holds user (← p.members? x.id)
    return held.any id := by
  rw [hasChat, if_neg (by simp), pure_bind]
  beta_reduce
  rw [knownOwner_eq_ok hme]
  rfl

/-- The search for a chat, once the account is known. -/
theorem outcome_hasChat_noted (s : σ)
    (haccount : (readings p user s).account.1 = .ok (.text me)) :
    let r := readings p user s
    (hasChat p.noted user (.text me)).outcome (r.account.2, calls) =
      ((do
        let _ ← r.rooms.1
        let _ ← r.registry.1
        return (← r.members.1.mapM (Except.map (holds user))).any id), r.members.2,
        calls ++ ([.rooms, .registry] ++ r.listed.map fun x => .members x.id)) := by
  intro r
  have hfetch : (fetch p.noted).outcome (r.account.2, calls) =
      ((do return (← r.rooms.1, (← r.registry.1).getD [])), r.registry.2,
        calls ++ [.rooms, .registry]) := outcome_fetch_noted p r.account.2 calls
  have hlisted : r.listed = listedRooms (.ok (.text me)) r.rooms.1 r.registry.1 :=
    congrArg (listedRooms · r.rooms.1 r.registry.1) haccount
  have hmembers : r.members = (log (fun x : Room => p.members? x.id) r.registry.2 r.listed,
    after (fun x : Room => p.members? x.id) r.registry.2 r.listed) := rfl
  rw [hasChat_eq _ hme, hmembers, hlisted]
  rcases hrooms : r.rooms.1 with e | all <;> rw [hrooms] at hfetch
  · exact outcome_bind_error hfetch
  · rcases hregistry : r.registry.1 with e | reg <;> rw [hregistry] at hfetch
    · exact outcome_bind_error hfetch
    · have hfilter : (all.filter fun x => ((reg.getD []).roomsOf me).contains x.id) =
          listedRooms (.ok (.text me)) (.ok all) (.ok reg) :=
        List.filter_congr fun x _ => by
          rw [Bool.eq_iff_iff, List.contains_iff_mem, decide_eq_true_iff]
      have heach := outcome_forEach_note (fun x : Room => .members x.id)
        (fun x : Room => p.members? x.id) (holds user)
        (listedRooms (.ok (.text me)) (.ok all) (.ok reg)) r.registry.2
        (calls ++ [.rooms, .registry])
      rw [outcome_bind_ok hfetch]
      dsimp only
      rw [hfilter, ← List.append_assoc]
      exact outcome_bind_pure (fun held : List Bool => held.any id) heach

end Owner

end Noted

/-! ### The decision -/

section Results
variable {results : List (Except Failure α)} (f : α → β)

theorem mapM_of_failure {e : Failure} (h : (results.map failure?).findSome? id = some e) :
    results.mapM (Except.map f) = .error e := by
  rw [List.findSome?_map, List.findSome?_eq_some_iff] at h
  obtain ⟨before, r, after, rfl, hr, hbefore⟩ := h
  refine mapM_eq_error_of_append ?_ after before fun x hx => ?_
  · rcases r with e' | x <;> cases hr
    rfl
  · obtain ⟨x, rfl⟩ := failure?_eq_none_iff.mp (hbefore x hx)
    exact ⟨f x, rfl⟩

theorem exists_mapM_of_no_failure (h : (results.map failure?).findSome? id = none) :
    ∃ xs : List α, results = xs.map .ok ∧ results.mapM (Except.map f) = .ok (xs.map f) := by
  induction results with
  | nil => exact ⟨[], rfl, rfl⟩
  | cons r results ih =>
    rw [List.map_cons, List.findSome?_cons] at h
    rcases r with e | x
    · cases h
    · obtain ⟨xs, rfl, hxs⟩ := ih h
      refine ⟨x :: xs, rfl, ?_⟩
      rw [List.mapM_cons, hxs]
      rfl

end Results

/-- **What a check decides.** If it does not pass, its failure is the outcome, and nothing was
written; otherwise the chat is made, and this is the only call that writes. -/
inductive Decided (p : Provider σ) (user : String) (t : σ) (calls : List ProviderCall) :
    Option Failure → Except Failure Value × σ × List ProviderCall → Prop
  | refused {e : Failure} {u : σ} {reads : List ProviderCall}
    (hreads : ∀ c ∈ reads, c.isWrite = false) :
    Decided p user t calls (some e) (.error e, u, calls ++ reads)
  | made {reads : List ProviderCall} (hreads : ∀ c ∈ reads, c.isWrite = false) :
    Decided p user t calls none (((p.create user).outcome t).1, ((p.create user).outcome t).2,
      calls ++ reads ++ [.create user])

/-- Reading calls come before the decision. -/
theorem Decided.prepend {p : Provider σ} {user : String} {t : σ}
    {calls reads : List ProviderCall} {check : Option Failure}
    {o : Except Failure Value × σ × List ProviderCall}
    (h : Decided p user t (calls ++ reads) check o) (hreads : ∀ c ∈ reads, c.isWrite = false) :
    Decided p user t calls check o := by
  have hall : ∀ {more : List ProviderCall}, (∀ c ∈ more, c.isWrite = false) →
      ∀ c ∈ reads ++ more, c.isWrite = false :=
    fun hmore => List.forall_mem_append.mpr ⟨hreads, hmore⟩
  cases h with
  | refused hmore =>
    rw [List.append_assoc]
    exact .refused (hall hmore)
  | made hmore =>
    rw [List.append_assoc calls]
    exact .made (hall hmore)

section Decision
variable (p : Provider σ) (user : String) (calls : List ProviderCall) (s : σ)

/-- The search for a chat decides, once the account is known. -/
theorem decided_search {me : String} (hme : (Value.text me).isEmpty = false)
    (haccount : (readings p user s).account.1 = .ok (.text me)) :
    let r := readings p user s
    Decided p user r.members.2 calls
      (([failure? r.rooms.1, failure? r.registry.1] ++ r.members.1.map failure? ++
        [if r.members.1.any (shows user) then some Failure.chatExists else none]).findSome? id)
      ((do
        if ← hasChat p.noted user (.text me) then throw Failure.chatExists
        p.noted.create user : Action _ Value).outcome (r.account.2, calls)) := by
  intro r
  have hreads : ∀ c ∈ [.rooms, .registry] ++ r.listed.map fun x => ProviderCall.members x.id,
      c.isWrite = false := by
    simp [ProviderCall.isWrite]
  have hsearch : (hasChat p.noted user (.text me)).outcome (r.account.2, calls) = _ :=
    outcome_hasChat_noted p calls hme user s haccount
  rcases hrooms : r.rooms.1 with e | all <;> rw [hrooms] at hsearch
  · rw [outcome_bind_error hsearch]
    exact .refused hreads
  · rcases hregistry : r.registry.1 with e | reg <;> rw [hregistry] at hsearch
    · rw [outcome_bind_error hsearch]
      exact .refused hreads
    · have hcheck : ∀ l c, ([none, none] ++ l ++ [c] : List (Option Failure)).findSome? id =
          (l.findSome? id).or c := by
        simp
      refine (congrArg (Decided p user _ calls · _) (hcheck _ _)).mpr ?_
      rcases hfirst : (r.members.1.map failure?).findSome? id with _ | e
      · obtain ⟨xs, hxs, hmap⟩ := exists_mapM_of_no_failure (holds user) hfirst
        have hheld : ((xs.map (holds user)).any id) = r.members.1.any (shows user) := by
          rw [hxs, List.any_map, List.any_map]
          rfl
        rw [hmap] at hsearch
        rw [outcome_bind_ok hsearch, ← hheld]
        rcases (xs.map (holds user)).any id with _ | _
        · exact .made hreads
        · exact .refused hreads
      · rw [mapM_of_failure (holds user) hfirst] at hsearch
        rw [outcome_bind_error hsearch]
        exact .refused hreads

/-- The account decides, once the counterparty is found. -/
theorem decided_owner (htext : ∀ me, (readings p user s).account.1 = .ok me →
      me = .null ∨ ∃ id, me = .text id) :
    let r := readings p user s
    Decided p user r.members.2 calls
      (([refusal? r.account.1 (fun me => !me.isEmpty) (.noAccount .owner), failure? r.rooms.1,
        failure? r.registry.1] ++ r.members.1.map failure? ++
        [if r.members.1.any (shows user) then some Failure.chatExists else none]).findSome? id)
      ((do
        let me ← owner p.noted
        if ← hasChat p.noted user me then throw Failure.chatExists
        p.noted.create user : Action _ Value).outcome (r.found.2, calls)) := by
  intro r
  have howner : (owner p.noted).outcome (r.found.2, calls) =
    (r.account.1 >>= knownOwner, r.account.2, calls ++ [.account]) :=
      outcome_owner_noted p calls r.found.2
  have hreads : ∀ c ∈ [ProviderCall.account], c.isWrite = false := by simp [ProviderCall.isWrite]
  rcases haccount : r.account.1 with e | me <;> rw [haccount] at howner
  · rw [outcome_bind_error howner]
    exact .refused hreads
  · rcases hempty : me.isEmpty with _ | _
    · obtain rfl | ⟨id, rfl⟩ := htext me haccount
      · cases hempty
      · have hcheck : refusal? (.ok (Value.text id)) (fun me => !me.isEmpty)
            (.noAccount .owner) = none := by
          rw [refusal?, hempty]
          rfl
        rw [outcome_bind_ok (howner.trans (congrArg (·, _) (knownOwner_eq_ok hempty))), hcheck]
        exact (decided_search p user (calls ++ [.account]) s hempty haccount).prepend hreads
    · have hcheck : refusal? (.ok me) (fun me => !me.isEmpty) (.noAccount .owner) =
          some (.noAccount .owner) := by
        rw [refusal?, hempty]
        rfl
      rw [outcome_bind_error (howner.trans (congrArg (·, _) (knownOwner_eq_error hempty))), hcheck]
      exact .refused hreads

end Decision

/-- **The first check that does not pass decides.** Nothing is written then, and a text that is no
handle is refused before any call.  If all checks pass, the only call that writes makes the chat.

The home server has to be a text, and the account a text or missing. -/
theorem create_checked (p : Provider σ) {s t : σ} {server : String} (handle : String)
    (calls : List ProviderCall) (hserver : p.homeServer.outcome s = (.ok (.text server), t))
    (htext : ∀ s me, (p.account.outcome s).1 = .ok me → me = .null ∨ ∃ id, me = .text id) :
    let user := UserId.qualify handle server
    let r := readings p user t
    let check := (r.checks handle user).findSome? id
    let o := (create p.noted handle).outcome (s, calls)
    (create p handle).outcome s = (o.1, o.2.1) ∧
      (check = none ↔ r.Permits handle user) ∧
      (Handle.fault? handle ≠ none → o.2 = (s, calls)) ∧
      Decided p user r.members.2 calls check o := by
  intro user r check o
  refine ⟨outcome_of_noted (paired_create (like_noted p) handle) s calls,
    r.findSome?_checks_eq_none_iff handle user, ?_⟩
  have hcheck : check = ([(Handle.fault? handle).map Failure.badHandle,
    refusal? r.found.1 id (.unknownHandle .chat)] ++ _).findSome? id := rfl
  rcases hhandle : Handle.fault? handle with _ | fault <;> rw [hhandle] at hcheck
  · refine ⟨fun h => absurd rfl h, ?_⟩
    have hfind : (counterparty p.noted handle .chat).outcome (s, calls) =
        ((do if ← r.found.1 then return user else .error (.unknownHandle .chat)), r.found.2,
          calls ++ [.userExists user]) :=
      outcome_counterparty_noted p calls hserver hhandle .chat
    have hreads : ∀ c ∈ [ProviderCall.userExists user], c.isWrite = false := by
      simp [ProviderCall.isWrite]
    rcases hfound : r.found.1 with e | found | found <;> rw [hfound] at hfind hcheck
    · rw [hcheck, show o = _ from outcome_bind_error hfind]
      exact .refused hreads
    · rw [hcheck, show o = _ from outcome_bind_error hfind]
      exact .refused hreads
    · rw [hcheck, show o = _ from outcome_bind_ok hfind]
      have howner := decided_owner p user (calls ++ [.userExists user]) t fun me => htext _ me
      exact howner.prepend hreads
  · have ho : o = (.error (.badHandle fault), s, calls ++ []) := by
      rw [List.append_nil]
      exact outcome_bind_error (outcome_counterparty_noted_error p calls hhandle .chat s)
    rw [ho, hcheck]
    exact ⟨fun _ => by rw [List.append_nil], .refused (by simp)⟩

/-- Alice lists two rooms. Bob is in the first one, and the members of the second one cannot be
read. -/
def halfRead : Script where
  account := .text "@alice:localhost"
  users := ["@bob:localhost"]
  rooms := [⟨"!read:localhost", .joined, []⟩, ⟨"!closed:localhost", .joined, []⟩]
  registry := some [("@alice:localhost", ["!closed:localhost", "!read:localhost"])]
  members := fun _ => some [⟨"@bob:localhost", .joined, none, none⟩]
  rejects := fun call => if call = .members "!closed:localhost" then
    some (.ofTexts 403 "M_FORBIDDEN" "No") else none

/-- That Bob is in one of the rooms counts for less than that the other one cannot be read. -/
theorem create_checked_halfRead :
    halfRead.provider.homeServer.outcome [] = (.ok (.text "localhost"), []) ∧
      (∀ s me, (halfRead.provider.account.outcome s).1 = .ok me →
        me = .null ∨ ∃ id, me = .text id) ∧
      ∃ u reads, (create halfRead.provider.noted "bob").outcome ([], []) =
        (.error (.rejected (.ofTexts 403 "M_FORBIDDEN" "No")), u, reads) ∧
          ∀ c ∈ reads, c.isWrite = false := by
  have hserver : halfRead.provider.homeServer.outcome [] = (.ok (.text "localhost"), []) := rfl
  have htext : ∀ s me, (halfRead.provider.account.outcome s).1 = .ok me →
      me = .null ∨ ∃ id, me = .text id := by
    intro s me h
    exact .inr ⟨"@alice:localhost", (Except.ok.inj h).symm⟩
  refine ⟨hserver, htext, ?_⟩
  obtain ⟨-, -, -, hdecided⟩ := create_checked halfRead.provider "bob" [] hserver htext
  have hcheck : ((readings halfRead.provider "@bob:localhost" []).checks "bob"
      "@bob:localhost").findSome? id = some (.rejected (.ofTexts 403 "M_FORBIDDEN" "No")) := by
    decide +kernel
  generalize (create halfRead.provider.noted "bob").outcome ([], []) = o at hdecided ⊢
  rw [show UserId.qualify "bob" "localhost" = "@bob:localhost" from rfl, hcheck] at hdecided
  cases hdecided with
  | refused hreads => exact ⟨_, _, rfl, hreads⟩

end PairChat.Lifecycle
