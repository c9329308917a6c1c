import PairChat.Handle
import Mathlib.Tactic.SplitIfs

/-!
# Identifiers: handles on a home server

A handle that is accepted has neither of the separators in it, so it is read back from the
identifier that was built from it (`UserId.handle_qualify`), and on one home server different
handles have different identifiers (`UserId.qualify_injective`).

An identifier is taken apart at its first `@` and at its first `:`.  The parts give it back if and
only if it begins with the one and has a text behind the other (`UserId.IsQualified`), whatever else
stands in it; with the parts of what is built from a handle and a home server this is
`UserId.round_trips`.
-/

namespace PairChat

theorem Handle.not_mem_of_fault?_eq_none {handle : String} (h : Handle.fault? handle = none)
    {c : Char} (hc : c = '@' ∨ c = ':') : c ∉ handle.toList := by
  unfold Handle.fault? at h
  split_ifs at h with hb hr
  intro hm
  refine hr (List.any_eq_true.mpr ⟨c, hm, ?_⟩)
  rcases hc with rfl | rfl <;> rfl

theorem Handle.fault?_of_check {handle : String} (h : Handle.check handle = .ok handle) :
    Handle.fault? handle = none := by
  unfold Handle.check at h
  split at h
  · cases h
  · assumption

theorem Handle.ne_empty {handle : String} (h : Handle.fault? handle = none) : handle ≠ "" := by
  rintro rfl
  cases h

namespace UserId

theorem toList_qualify (handle server : String) :
    (qualify handle server).toList = '@' :: (handle.toList ++ ':' :: server.toList) := by
  simp [qualify, String.toList_append]

/-- The name of a home server is at the end of an identifier on it. -/
theorem isEncodable_of_qualify {handle server : String}
    (h : Text.isEncodable (qualify handle server)) : Text.isEncodable server := by
  rw [Text.isEncodable, toList_qualify, ← List.cons_append, List.append_cons] at h
  exact Text.isWhole_of_append h

/-! ### The parts of an identifier -/

section Parts
variable {user : String} {name server : List Char}
  (huser : user.toList = '@' :: (name ++ ':' :: server)) (hname : ':' ∉ name)
include huser hname

theorem handle_of_toList : UserId.handle user = String.ofList name := by
  have ha : afterFirst? '@' ([] ++ '@' :: (name ++ ':' :: server)) = _ :=
    afterFirst?_append List.not_mem_nil _
  have hb := beforeFirst_append hname server
  rw [List.nil_append] at ha
  unfold UserId.handle
  rw [huser, ha]
  simp only [hb]

theorem server?_of_toList (hserver : server ≠ []) :
    server? user = some (String.ofList server) := by
  have hbefore : ':' ∉ '@' :: name := by simpa using hname
  have ha := afterFirst?_append hbefore server
  obtain ⟨c, cs, rfl⟩ := List.exists_cons_of_ne_nil hserver
  unfold server?
  rw [huser, ← List.cons_append, ha]

end Parts

theorem not_mem_handle (user : String) : ':' ∉ (UserId.handle user).toList := by
  unfold UserId.handle
  split
  · simp
  · intro hmem
    rw [String.toList_ofList] at hmem
    simpa using List.all_eq_true.mp List.all_takeWhile _ hmem

theorem ne_empty_of_server? {user server : String} (h : server? user = some server) :
    server ≠ "" := by
  rintro rfl
  unfold server? at h
  split at h
  · cases h
  · cases h
  · next rest hrest _ =>
    rw [Option.some.injEq] at h
    exact hrest (by simpa using congrArg String.toList h)

/-! ### There and back -/

/-- **A handle is read back from its identifier.** -/
theorem handle_qualify {handle : String} (server : String) (h : Handle.fault? handle = none) :
    UserId.handle (qualify handle server) = handle := by
  have hname := Handle.not_mem_of_fault?_eq_none h (Or.inr rfl)
  rw [handle_of_toList (toList_qualify handle server) hname, String.ofList_toList]

theorem server?_qualify {handle server : String} (h : Handle.fault? handle = none)
    (hserver : server ≠ "") : server? (qualify handle server) = some server := by
  have hname := Handle.not_mem_of_fault?_eq_none h (Or.inr rfl)
  have hne : server.toList ≠ [] := fun e => hserver (String.toList_eq_nil_iff.mp e)
  rw [server?_of_toList (toList_qualify handle server) hname hne, String.ofList_toList]

theorem qualify_injective {h h' server : String} (e : qualify h server = qualify h' server) :
    h = h' := by
  have hl := congrArg String.toList e
  rw [toList_qualify, toList_qualify, List.cons.injEq, List.append_cancel_right_eq] at hl
  exact String.toList_inj.mp hl.2

theorem qualify_ne_empty (handle server : String) : qualify handle server ≠ "" := by
  intro e
  have hl := congrArg String.toList e
  rw [toList_qualify] at hl
  cases hl

/-- Handles that are accepted have different identifiers, also on different home servers. -/
theorem qualify_inj {h h' server server' : String} (hh : Handle.fault? h = none)
    (hh' : Handle.fault? h' = none) :
    qualify h server = qualify h' server' ↔ h = h' ∧ server = server' := by
  constructor
  · intro e
    have heq : h = h' := by rw [← handle_qualify server hh, e, handle_qualify server' hh']
    subst heq
    have hl := congrArg String.toList e
    rw [toList_qualify, toList_qualify, List.cons.injEq, List.append_cancel_left_eq,
      List.cons.injEq] at hl
    exact ⟨rfl, String.toList_inj.mp hl.2.2⟩
  · rintro ⟨rfl, rfl⟩
    rfl

/-- The identifier begins with an `@`, and there is a text behind its first `:`. -/
structure IsQualified (user : String) : Prop where
  sigil : user.toList.head? = some '@'
  server : ∃ before after, user.toList = before ++ ':' :: after ∧ ':' ∉ before ∧ after ≠ []

theorem IsQualified.exists_parts {user : String} (h : IsQualified user) :
    ∃ name server, user.toList = '@' :: (name ++ ':' :: server) ∧ ':' ∉ name ∧ server ≠ [] := by
  obtain ⟨before, server, huser, hbefore, hserver⟩ := h.server
  have hsigil := h.sigil
  rw [huser] at hsigil
  cases before with
  | nil => cases hsigil
  | cons c name =>
    obtain rfl : c = '@' := by simpa using hsigil
    exact ⟨name, server, huser, fun hmem => hbefore (List.mem_cons_of_mem _ hmem), hserver⟩

/-- **An identifier is its handle on its home server if and only if it is qualified.** -/
theorem isQualified_iff {user : String} :
    IsQualified user ↔
      ∃ server, server? user = some server ∧ qualify (UserId.handle user) server = user := by
  constructor
  · intro h
    obtain ⟨name, server, huser, hname, hserver⟩ := h.exists_parts
    refine ⟨String.ofList server, server?_of_toList huser hname hserver, ?_⟩
    rw [handle_of_toList huser hname]
    apply String.toList_inj.mp
    rw [toList_qualify, huser, String.toList_ofList, String.toList_ofList]
  · rintro ⟨server, hserver, e⟩
    have hl := congrArg String.toList e
    rw [toList_qualify] at hl
    refine ⟨by rw [← hl]; rfl, '@' :: (UserId.handle user).toList, server.toList, hl.symm, ?_, ?_⟩
    · simpa using not_mem_handle user
    · exact fun hnil => ne_empty_of_server? hserver (String.toList_eq_nil_iff.mp hnil)

/-- **Identifiers and their parts determine each other.** Of a handle that is accepted and any home
server that has a name, the identifier gives both back, so no two pairs share one; and the parts of
an identifier give it back if and only if it is qualified. -/
theorem round_trips :
    (∀ handle server, Handle.check handle = .ok handle → server ≠ "" →
      UserId.handle (qualify handle server) = handle ∧
        server? (qualify handle server) = some server) ∧
    (∀ h h' server server', Handle.check h = .ok h → Handle.check h' = .ok h' →
      (qualify h server = qualify h' server' ↔ h = h' ∧ server = server')) ∧
    ∀ user, IsQualified user ↔
      ∃ server, server? user = some server ∧ qualify (UserId.handle user) server = user := by
  refine ⟨fun handle server hcheck hserver => ?_, fun h h' server server' hh hh' => ?_,
    fun _ => isQualified_iff⟩
  · have hfault := Handle.fault?_of_check hcheck
    exact ⟨handle_qualify server hfault, server?_qualify hfault hserver⟩
  · exact qualify_inj (Handle.fault?_of_check hh) (Handle.fault?_of_check hh')

/-- Separators in the name of the home server, and a second `@`, do no harm. -/
theorem round_trips_socket :
    Handle.check "alice" = .ok "alice" ∧ "x@localhost:8448" ≠ "" ∧
      UserId.handle "@alice:x@localhost:8448" = "alice" ∧
      server? "@alice:x@localhost:8448" = some "x@localhost:8448" ∧
      Handle.check "bob" = .ok "bob" ∧
      qualify "alice" "x@localhost:8448" ≠ qualify "bob" "x@localhost:8448" ∧
      IsQualified "@a@b:c:d" ∧
      ∃ server, server? "@a@b:c:d" = some server ∧
        qualify (UserId.handle "@a@b:c:d") server = "@a@b:c:d" := by
  have halice : Handle.check "alice" = .ok "alice" := rfl
  have hbob : Handle.check "bob" = .ok "bob" := rfl
  have hq : IsQualified "@a@b:c:d" :=
    ⟨by decide, "@a@b".toList, "c:d".toList, by decide, by decide, by decide⟩
  obtain ⟨hread, hinj, hparts⟩ := round_trips
  obtain ⟨hhandle, hserver⟩ := hread "alice" "x@localhost:8448" halice (by decide)
  refine ⟨halice, by decide, hhandle, hserver, hbob, fun e => ?_, hq, (hparts _).mp hq⟩
  exact absurd ((hinj _ _ _ _ halice hbob).mp e).1 (by decide)

end UserId

end PairChat
