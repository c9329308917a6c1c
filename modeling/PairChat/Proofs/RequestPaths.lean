import PairChat.Proofs.Encodings
import PairChat.Web.Account
import Mathlib.Data.List.TakeWhile
import Mathlib.Tactic.SplitIfs

/-!
# What a path asks for

The path of an endpoint has fixed words and one segment for each identifier.  The segment holds no
slash, so the words stay where they are whatever the identifier is (`Endpoint.segments_path`), and
the endpoint can be read off the segments (`Endpoint.ofWords?_words`): different endpoints have
different paths.

A homeserver is not asked for the path itself but for an address with it, in which segments of dots
are resolved.  An identifier of dots takes itself away, or the word before it as well
(`Endpoint.settled`), and what is left still says which endpoint it is, unless nothing is left.
-/

namespace PairChat.Web

open Account (registryType blockListType)

/-! ### Segments -/

/-- The segments of a path: the texts between its slashes. -/
def segments (path : String) : List String := (path.toList.splitOn '/').map String.ofList

/-- The path of segments. -/
def pathOf (ss : List String) : String :=
  String.ofList (['/'].intercalate (ss.map String.toList))

theorem map_toList_segments (path : String) :
    (segments path).map String.toList = path.toList.splitOn '/' := by
  have hid : String.toList ∘ String.ofList = id := funext fun _ => String.toList_ofList
  rw [segments, List.map_map, hid, List.map_id]

theorem pathOf_segments (path : String) : pathOf (segments path) = path := by
  rw [pathOf, map_toList_segments, List.intercalate_splitOn, String.ofList_toList]

theorem segments_of_not_mem {s : String} (h : '/' ∉ s.toList) : segments s = [s] := by
  rw [segments, List.splitOn_eq_singleton h, List.map_singleton, String.ofList_toList]

theorem segments_encode (s : String) : segments (Percent.encode s) = [Percent.encode s] :=
  segments_of_not_mem (Percent.not_mem_encode s).1

theorem segments_append_slash (s t : String) :
    segments (s ++ "/" ++ t) = segments s ++ segments t := by
  have hlist : (s ++ "/" ++ t).toList = s.toList ++ '/' :: t.toList := by simp
  rw [segments, hlist, List.splitOn_append_cons_self, List.map_append]
  rfl

theorem segments_behind (before id : String) :
    segments (before ++ "/" ++ Percent.encode id) = segments before ++ [Percent.encode id] := by
  rw [segments_append_slash, segments_encode]

theorem segments_between (before id after : String) :
    segments (before ++ "/" ++ Percent.encode id ++ ("/" ++ after)) =
      segments before ++ [Percent.encode id] ++ segments after := by
  rw [← String.append_assoc, segments_append_slash, segments_behind]

/-! ### The segments of an endpoint -/

namespace Endpoint

/-- The words that an endpoint is asked for with, and its identifiers among them. -/
def words : Endpoint → List String
  | .whoami => ["account", "whoami"]
  | .profile user => ["profile", Percent.encode user]
  | .createRoom => ["createRoom"]
  | .join room => ["join", Percent.encode room]
  | .leave room => ["rooms", Percent.encode room, "leave"]
  | .members room => ["rooms", Percent.encode room, "members"]
  | .sync => ["sync"]
  | .document user type => ["user", Percent.encode user, "account_data"] ++ segments type

/-- **The segments of a path are its words**, behind the empty one at its root. No identifier takes
more than its own. -/
theorem segments_path (e : Endpoint) : segments e.path = "" :: e.words := by
  cases e with
  | whoami => rfl
  | profile user => exact segments_behind "/profile" user
  | createRoom => rfl
  | join room => exact segments_behind "/join" room
  | leave room => exact segments_between "/rooms" room "leave"
  | members room => exact segments_between "/rooms" room "members"
  | sync => rfl
  | document user type =>
    have hpath : (document user type).path =
        "/user" ++ "/" ++ Percent.encode user ++ ("/" ++ "account_data") ++ "/" ++ type := by
      rw [path, ← String.toList_inj]
      simp
    rw [hpath, segments_append_slash, segments_between]
    rfl

/-- What a segment was written for. -/
def readSegment (s : String) : String := String.ofList (Percent.read s.toList)

theorem readSegment_encode (s : String) : readSegment (Percent.encode s) = s := by
  rw [readSegment, Percent.read_encode, String.ofList_toList]

/-- The endpoint that is asked for with words. -/
def ofWords? : List String → Option Endpoint
  | ["account", "whoami"] => some .whoami
  | ["profile", user] => some (.profile (readSegment user))
  | ["createRoom"] => some .createRoom
  | ["join", room] => some (.join (readSegment room))
  | ["rooms", room, "leave"] => some (.leave (readSegment room))
  | ["rooms", room, "members"] => some (.members (readSegment room))
  | ["sync"] => some .sync
  | "user" :: user :: "account_data" :: type =>
    some (.document (readSegment user) (pathOf type))
  | _ => none

/-- **The endpoint is read off its words.** -/
theorem ofWords?_words (e : Endpoint) : ofWords? e.words = some e := by
  cases e with
  | whoami | createRoom | sync => rfl
  | profile id | join id | leave id | members id =>
    simp only [words, ofWords?, readSegment_encode]
  | document user type =>
    simp only [words, List.cons_append, List.nil_append, ofWords?, readSegment_encode,
      pathOf_segments]

theorem path_inj {e e' : Endpoint} : e.path = e'.path ↔ e = e' := by
  constructor
  · intro h
    have hwords : "" :: e.words = "" :: e'.words := by
      rw [← segments_path, ← segments_path, h]
    have hread := ofWords?_words e
    rw [List.tail_eq_of_cons_eq hwords, ofWords?_words e'] at hread
    exact (Option.some.inj hread).symm
  · rintro rfl
    rfl

/-- The same kind of request about another identifier. -/
def about (id : String) : Endpoint → Endpoint
  | .profile _ => .profile id
  | .join _ => .join id
  | .leave _ => .leave id
  | .members _ => .members id
  | .document _ type => .document id type
  | e => e

theorem about_of_mem {e : Endpoint} {id : String} (h : id ∈ e.ids) : e.about id = e := by
  cases e <;> simp_all [ids, about]

/-- **An identifier has one segment to itself**, and the others do not depend on it. -/
theorem exists_segments_about {e : Endpoint} {id : String} (h : id ∈ e.ids) :
    ∃ before after, ∀ other,
      segments (e.about other).path = before ++ Percent.encode other :: after := by
  simp only [segments_path]
  cases e with
  | whoami | createRoom | sync => cases h
  | profile _ => exact ⟨["", "profile"], [], fun _ => rfl⟩
  | join _ => exact ⟨["", "join"], [], fun _ => rfl⟩
  | leave _ => exact ⟨["", "rooms"], ["leave"], fun _ => rfl⟩
  | members _ => exact ⟨["", "rooms"], ["members"], fun _ => rfl⟩
  | document _ type => exact ⟨["", "user"], "account_data" :: segments type, fun _ => rfl⟩

end Endpoint

/-! ### Segments that are resolved -/

theorem splitAtEach_eq (c : Char) (cs : List Char) : splitAtEach c cs = cs.splitOn c := by
  induction cs with
  | nil => rfl
  | cons d ds ih =>
    rw [splitAtEach, List.splitOn_cons_eq_if_modifyHead, ih]
    obtain ⟨s, ss, h⟩ := List.exists_cons_of_ne_nil (List.splitOn_ne_nil c ds)
    by_cases hd : d = c
    · rw [if_pos hd, if_pos (beq_iff_eq.mpr hd)]
    · rw [if_neg hd, if_neg (by simpa using hd), h]
      rfl

theorem joinSegments_eq (ss : List (List Char)) : joinSegments ss = ['/'].intercalate ss := by
  induction ss with
  | nil => rfl
  | cons s ss ih =>
    cases ss with
    | nil => simp [joinSegments]
    | cons t ts =>
      rw [joinSegments, ih, List.intercalate_cons_cons, List.append_assoc, List.singleton_append]
      exact List.cons_ne_nil t ts

/-- Segments behind others, as a path that begins with a slash. -/
theorem intercalate_append {ss : List (List Char)} (hss : ss ≠ []) (ts : List (List Char)) :
    ['/'].intercalate (ss ++ ts) = ['/'].intercalate ss ++ ['/'].intercalate ([] :: ts) := by
  induction ss with
  | nil => exact absurd rfl hss
  | cons s ss ih =>
    cases ss with
    | nil => cases ts <;> simp
    | cons t rest =>
      rw [List.cons_append, List.cons_append, List.intercalate_cons_cons, ← List.cons_append,
        ih (List.cons_ne_nil t rest), List.intercalate_cons_cons]
      simp only [List.append_assoc]

/-! ### What is left of an endpoint -/

namespace Endpoint

/-- Is the endpoint one that an account asks for? Of the documents these are two. -/
def isAsked : Endpoint → Bool
  | .document _ type => type == registryType || type == blockListType
  | _ => true

/-- What is left of a word and of the identifier behind it. -/
def settle (word id : String) : List String :=
  if id = "." then [word] else if id = ".." then [] else [word, Percent.encode id]

/-- The words that are left of an endpoint. -/
def settled : Endpoint → List String
  | .whoami => ["account", "whoami"]
  | .profile user => settle "profile" user
  | .createRoom => ["createRoom"]
  | .join room => settle "join" room
  | .leave room => settle "rooms" room ++ ["leave"]
  | .members room => settle "rooms" room ++ ["members"]
  | .sync => ["sync"]
  | .document user type => settle "user" user ++ ["account_data", type]

/-- Is nothing left of the endpoint? -/
def isRoot : Endpoint → Bool
  | .profile id | .join id => id == ".."
  | _ => false

theorem type_of_isAsked {user type : String} (hasked : (document user type).isAsked) :
    type = registryType ∨ type = blockListType := by
  simpa [isAsked] using hasked

theorem segments_of_isAsked {user type : String} (hasked : (document user type).isAsked) :
    segments type = [type] := by
  obtain rfl | rfl := type_of_isAsked hasked <;> decide

theorem addSegment_of_ne {s : String} (hone : s ≠ ".") (htwo : s ≠ "..")
    (path : List (List Char)) : addSegment path s.toList = s.toList :: path := by
  have hone' : s.toList ≠ ['.'] := fun e => hone (String.toList_inj.mp e)
  have htwo' : s.toList ≠ ['.', '.'] := fun e => htwo (String.toList_inj.mp e)
  rw [addSegment, if_neg hone', if_neg htwo']

theorem foldl_addSegment_of_ne {ws : List String} (h : ∀ w ∈ ws, w ≠ "." ∧ w ≠ "..")
    (path : List (List Char)) :
    (ws.map String.toList).foldl addSegment path = (ws.map String.toList).reverse ++ path := by
  induction ws generalizing path with
  | nil => rfl
  | cons w ws ih =>
    obtain ⟨⟨hone, htwo⟩, hws⟩ := List.forall_mem_cons.mp h
    rw [List.map_cons, List.foldl_cons, addSegment_of_ne hone htwo, ih hws, List.reverse_cons,
      List.append_assoc, List.singleton_append]

/-- An identifier behind a word. -/
theorem addSegment_settle {word : String} (hword : word ≠ "") (id : String)
    (path : List (List Char)) :
    addSegment (word.toList :: path) (Percent.encode id).toList =
      ((settle word id).map String.toList).reverse ++ path := by
  unfold settle
  split_ifs with hone htwo
  · subst hone
    rfl
  · -- the word is taken away, since it is not the root
    subst htwo
    have hne : word.toList :: path ≠ [[]] := fun e =>
      hword (String.toList_eq_nil_iff.mp (List.cons.inj e).1)
    exact if_neg hne
  · have hone' : Percent.encode id ≠ "." := fun e => hone (Percent.encode_inj.mp e)
    have htwo' : Percent.encode id ≠ ".." := fun e => htwo (Percent.encode_inj.mp e)
    rw [addSegment_of_ne hone' htwo']
    rfl

theorem foldl_addSegment_settle {word : String} {ws : List String}
    (hword : word ≠ "" ∧ word ≠ "." ∧ word ≠ "..") (hws : ∀ w ∈ ws, w ≠ "." ∧ w ≠ "..")
    (id : String) (path : List (List Char)) :
    ((word :: Percent.encode id :: ws).map String.toList).foldl addSegment path =
      ((settle word id ++ ws).map String.toList).reverse ++ path := by
  obtain ⟨hempty, hone, htwo⟩ := hword
  rw [List.map_cons, List.map_cons, List.foldl_cons, List.foldl_cons, addSegment_of_ne hone htwo,
    addSegment_settle hempty, foldl_addSegment_of_ne hws, List.map_append, List.reverse_append,
    List.append_assoc]

/-- **What is left of the words of an endpoint**, behind whatever is left of the segments before
them. -/
theorem foldl_addSegment_words {e : Endpoint} (hasked : e.isAsked) (path : List (List Char)) :
    (e.words.map String.toList).foldl addSegment path =
      (e.settled.map String.toList).reverse ++ path := by
  cases e with
  | whoami | createRoom | sync => exact foldl_addSegment_of_ne (by decide) path
  | profile id | join id =>
    rw [settled, ← List.append_nil (settle _ id)]
    exact foldl_addSegment_settle (by decide) (List.forall_mem_nil _) id path
  | leave id | members id => exact foldl_addSegment_settle (by decide) (by decide) id path
  | document user type =>
    have htype : ∀ w ∈ ["account_data", type], w ≠ "." ∧ w ≠ ".." := by
      obtain rfl | rfl := type_of_isAsked hasked <;> decide
    rw [words, segments_of_isAsked hasked]
    exact foldl_addSegment_settle (by decide) htype user path

/-! ### The endpoint of what is left -/

/-- The endpoint of which words are left. Where an identifier took itself away, a word stands in a
place that only an identifier has otherwise. -/
def ofSettled? : List String → Option Endpoint
  | [] => none
  | ["profile"] => some (.profile ".")
  | ["join"] => some (.join ".")
  | ["rooms", "leave"] => some (.leave ".")
  | ["rooms", "members"] => some (.members ".")
  | ["user", "account_data", type] => some (.document "." type)
  | ["leave"] => some (.leave "..")
  | ["members"] => some (.members "..")
  | ["account_data", type] => some (.document ".." type)
  | ws => ofWords? ws

/-- **The endpoint is read off what is left of it**, if anything is. -/
theorem ofSettled?_settled {e : Endpoint} (hasked : e.isAsked) :
    ofSettled? e.settled = if e.isRoot then none else some e := by
  cases e with
  | whoami | createRoom | sync => rfl
  | profile id | join id | leave id | members id =>
    obtain rfl | hone := eq_or_ne id "."
    · rfl
    obtain rfl | htwo := eq_or_ne id ".."
    · rfl
    simp [settled, settle, hone, htwo, isRoot, ofSettled?, ofWords?, readSegment_encode]
  | document user type =>
    obtain rfl | hone := eq_or_ne user "."
    · rfl
    obtain rfl | htwo := eq_or_ne user ".."
    · rfl
    have htype : pathOf [type] = type := by
      rw [← segments_of_isAsked hasked, pathOf_segments]
    simp [settled, settle, hone, htwo, isRoot, ofSettled?, ofWords?, readSegment_encode, htype]

theorem eq_or_isRoot_of_settled {e e' : Endpoint} (hasked : e.isAsked) (hasked' : e'.isAsked)
    (h : e.settled = e'.settled) : e = e' ∨ e.isRoot ∧ e'.isRoot := by
  have hread := ofSettled?_settled hasked
  rw [h, ofSettled?_settled hasked'] at hread
  split_ifs at hread with hroot' hroot
  · exact Or.inr ⟨hroot, hroot'⟩
  · exact Or.inl (Option.some.inj hread).symm

theorem not_mem_settle {word id w : String} (hword : '/' ∉ word.toList) (h : w ∈ settle word id) :
    '/' ∉ w.toList := by
  have hmem : w = word ∨ w = Percent.encode id := by
    unfold settle at h
    split_ifs at h <;> simp_all
  obtain rfl | rfl := hmem
  · exact hword
  · exact (Percent.not_mem_encode id).1

theorem not_mem_settled {e : Endpoint} (hasked : e.isAsked) : ∀ w ∈ e.settled, '/' ∉ w.toList := by
  cases e with
  | whoami | createRoom | sync => decide
  | profile id | join id => exact fun w hw => not_mem_settle (by decide) hw
  | leave id | members id =>
    exact List.forall_mem_append.mpr ⟨fun w hw => not_mem_settle (by decide) hw, by decide⟩
  | document user type =>
    refine List.forall_mem_append.mpr ⟨fun w hw => not_mem_settle (by decide) hw, ?_⟩
    obtain rfl | rfl := type_of_isAsked hasked <;> decide

end Endpoint

/-! ### Addresses -/

theorem beforeFirst_of_not_mem {c : Char} {cs : List Char} (h : c ∉ cs) :
    beforeFirst c cs = cs := by
  refine List.takeWhile_eq_self_iff.mpr fun d hd => ?_
  simpa using fun e : d = c => h (e ▸ hd)

namespace Location

theorem exists_base_eq (l : Location) : ∃ before, l.base = before ++ ['/'] := by
  unfold base
  dsimp only
  split_ifs with h
  · exact List.getLast?_eq_some_iff.mp (beq_iff_eq.mp h)
  · exact ⟨_, rfl⟩

/-- What is sent of a path. -/
def sent (l : Location) (path : List Char) : List Char :=
  if l.hasScheme || l.hasAuthority then resolveDots path else path

/-- An address is the base of the location and what is asked for, taken apart at the first question
mark. -/
theorem of_under {l : Location} {resource : List Char} {address : Address}
    (h : l.under resource = .ok address) :
    address.path = l.sent (beforeFirst '?' (l.base ++ resource.dropWhile (· == '/'))) ∧
      address.query = afterFirst? '?' (l.base ++ resource.dropWhile (· == '/')) := by
  unfold under at h
  extract_lets whole path query resolved text at h
  split at h
  · cases h
  · obtain rfl := Except.ok.inj h
    refine ⟨rfl, ?_⟩
    change query = afterFirst? '?' whole
    unfold query afterFirst?
    cases whole.dropWhile (· != '?') <;> rfl

/-- **Nothing of what is asked for is lost in the address** but what is resolved, whatever path and
query the location has itself. -/
theorem exists_resolveDots_eq {l : Location} {resource resource' : List Char} {address : Address}
    (hmark : '?' ∉ resource.dropWhile (· == '/')) (hmark' : '?' ∉ resource'.dropWhile (· == '/'))
    (h : l.under resource = .ok address) (h' : l.under resource' = .ok address) :
    ∃ before, resolveDots (before ++ '/' :: resource.dropWhile (· == '/')) =
      resolveDots (before ++ '/' :: resource'.dropWhile (· == '/')) := by
  obtain ⟨before, hbase⟩ := l.exists_base_eq
  obtain ⟨hpath, hquery⟩ := of_under h
  obtain ⟨hpath', hquery'⟩ := of_under h'
  generalize resource.dropWhile (· == '/') = cs at *
  generalize resource'.dropWhile (· == '/') = ds at *
  rw [hbase, List.append_assoc, List.singleton_append] at hpath hquery hpath' hquery'
  refine ⟨before, ?_⟩
  by_cases hmem : '?' ∈ before
  · -- what is asked for stands in the query
    obtain ⟨pre, post, rfl, hpre⟩ := List.eq_append_cons_of_mem hmem
    rw [List.append_assoc, List.cons_append, afterFirst?_append hpre] at hquery hquery'
    have e : post ++ '/' :: cs = post ++ '/' :: ds := Option.some.inj (hquery.symm.trans hquery')
    rw [(List.cons.inj (List.append_cancel_left e)).2]
  · have hnot {es : List Char} (hes : '?' ∉ es) : '?' ∉ before ++ '/' :: es := by
      simp [hmem, hes]
    rw [beforeFirst_of_not_mem (hnot hmark)] at hpath
    rw [beforeFirst_of_not_mem (hnot hmark')] at hpath'
    have e := hpath.symm.trans hpath'
    unfold sent at e
    split_ifs at e
    · exact e
    · rw [e]

end Location

namespace Endpoint

theorem not_mem_path {e : Endpoint} (hasked : e.isAsked) : '?' ∉ e.path.toList := by
  cases e with
  | whoami | createRoom | sync => decide
  | profile id | join id | leave id | members id => simp [path, (Percent.not_mem_encode id).2.1]
  | document user type =>
    have htype : '?' ∉ type.toList := by
      obtain rfl | rfl := type_of_isAsked hasked <;> decide
    simp [path, (Percent.not_mem_encode user).2.1, htype]

theorem dropWhile_path (e : Endpoint) :
    (protocolPath ++ e.path).toList.dropWhile (· == '/') =
      "_matrix/client/v3".toList ++ e.path.toList := by
  rw [String.toList_append]
  rfl

theorem not_mem_dropWhile_path {e : Endpoint} (hasked : e.isAsked) :
    '?' ∉ (protocolPath ++ e.path).toList.dropWhile (· == '/') := by
  rw [dropWhile_path, List.mem_append, not_or]
  exact ⟨by decide, not_mem_path hasked⟩

theorem splitOn_dropWhile_path (e : Endpoint) :
    ((protocolPath ++ e.path).toList.dropWhile (· == '/')).splitOn '/' =
      (["_matrix", "client", "v3"] ++ e.words).map String.toList := by
  obtain ⟨cs, hcs⟩ : ∃ cs, e.path.toList = '/' :: cs := by
    cases e <;> simp [path]
  have hwords := map_toList_segments e.path
  rw [segments_path, hcs, ← List.nil_append ('/' :: cs), List.splitOn_append_cons_self] at hwords
  have hbehind : cs.splitOn '/' = e.words.map String.toList := (List.cons.inj hwords).2.symm
  rw [dropWhile_path, hcs, List.splitOn_append_cons_self, hbehind, List.map_append]
  rfl

/-- The path that is sent for an endpoint: what is left of the segments before it, and what is left
of its words. -/
theorem exists_resolveDots_path (before : List Char) :
    ∃ ss ≠ [], ∀ e : Endpoint, e.isAsked →
      resolveDots (before ++ '/' :: (protocolPath ++ e.path).toList.dropWhile (· == '/')) =
        ['/'].intercalate (ss ++ e.settled.map String.toList) := by
  let ss := (before.splitOn '/').foldl addSegment []
  have hprotocol : (["_matrix", "client", "v3"].map String.toList).foldl addSegment ss = _ :=
    foldl_addSegment_of_ne (by decide) ss
  refine ⟨ss.reverse ++ ["_matrix", "client", "v3"].map String.toList, by simp,
    fun e hasked => ?_⟩
  rw [resolveDots, joinSegments_eq, splitAtEach_eq, List.splitOn_append_cons_self,
    List.foldl_append, splitOn_dropWhile_path, List.map_append, List.foldl_append, hprotocol,
    foldl_addSegment_words hasked, List.reverse_append, List.reverse_append, List.reverse_reverse,
    List.reverse_reverse]

theorem splitOn_settled {e : Endpoint} (hasked : e.isAsked) :
    (['/'].intercalate ([] :: e.settled.map String.toList)).splitOn '/' =
      [] :: e.settled.map String.toList := by
  refine List.splitOn_intercalate '/' ?_ (List.cons_ne_nil _ _)
  exact List.forall_mem_cons.mpr
    ⟨List.not_mem_nil, List.forall_mem_map.mpr (not_mem_settled hasked)⟩

/-- **Different endpoints have different addresses** under one location, unless nothing is left of
both. -/
theorem eq_or_isRoot_of_under {l : Location} {e e' : Endpoint} {address : Address}
    (hasked : e.isAsked) (hasked' : e'.isAsked)
    (h : l.under (protocolPath ++ e.path).toList = .ok address)
    (h' : l.under (protocolPath ++ e'.path).toList = .ok address) :
    e = e' ∨ e.isRoot ∧ e'.isRoot := by
  obtain ⟨before, hsent⟩ := Location.exists_resolveDots_eq (not_mem_dropWhile_path hasked)
    (not_mem_dropWhile_path hasked') h h'
  obtain ⟨ss, hss, hpath⟩ := exists_resolveDots_path before
  rw [hpath e hasked, hpath e' hasked', intercalate_append hss, intercalate_append hss] at hsent
  -- behind the same segments the rest is split again into what is left of each
  have hsegments := splitOn_settled hasked
  rw [List.append_cancel_left hsent, splitOn_settled hasked'] at hsegments
  have hsettled : e.settled = e'.settled :=
    (List.map_inj_right fun _ _ => String.toList_inj.mp).mp (List.cons.inj hsegments).2.symm
  exact eq_or_isRoot_of_settled hasked hasked' hsettled

/-- **A path says what is asked for, and about whom.** Different endpoints have different paths.  An
identifier has one segment of the path to itself, which ends where the identifier does and is read
as the identifier, whatever this is.  Different endpoints have different addresses as well, though
dots are resolved there, unless nothing is left of both. -/
theorem paths_exact :
    (∀ e e' : Endpoint, e.path = e'.path ↔ e = e') ∧
    (∀ e : Endpoint, ∀ id ∈ e.ids, e.about id = e ∧
      (∃ before after, ∀ other,
        segments (e.about other).path = before ++ Percent.encode other :: after) ∧
      ('/' ∉ (Percent.encode id).toList ∧ '?' ∉ (Percent.encode id).toList ∧
        '#' ∉ (Percent.encode id).toList) ∧
      Percent.read (Percent.encode id).toList = id.toList) ∧
    ∀ (l : Location) (e e' : Endpoint) (address : Address), e.isAsked → e'.isAsked →
      l.under (protocolPath ++ e.path).toList = .ok address →
      l.under (protocolPath ++ e'.path).toList = .ok address → e = e' ∨ e.isRoot ∧ e'.isRoot :=
  ⟨fun _ _ => path_inj, fun _ id hid => ⟨about_of_mem hid, exists_segments_about hid,
    Percent.not_mem_encode id, Percent.read_encode id⟩,
    fun _ _ _ _ hasked hasked' h h' => eq_or_isRoot_of_under hasked hasked' h h'⟩

/-- An identifier with slashes, dots, a question mark, a hash and what looks like an escape, at a
location with a path of its own. -/
theorem paths_exact_slashes :
    let id := "!a/../b?c#%2F"
    let e := Endpoint.leave id
    let e' := Endpoint.leave (String.ofList (Percent.read "%21a%2F..%2Fb%3Fc%23%252F".toList))
    let l : Location := ⟨true, true, [], "/base".toList, none⟩
    let address : Address :=
      ⟨"/base/_matrix/client/v3/rooms/%21a%2F..%2Fb%3Fc%23%252F/leave".toList, none, true⟩
    id ∈ e.ids ∧ e.about id = e ∧
      (∃ before after, ∀ other,
        segments (e.about other).path = before ++ Percent.encode other :: after) ∧
      ('/' ∉ (Percent.encode id).toList ∧ '?' ∉ (Percent.encode id).toList ∧
        '#' ∉ (Percent.encode id).toList) ∧
      Percent.read (Percent.encode id).toList = id.toList ∧
      e.isAsked ∧ e'.isAsked ∧ l.under (protocolPath ++ e.path).toList = .ok address ∧
      l.under (protocolPath ++ e'.path).toList = .ok address ∧ e = e' := by
  intro id e e' l address
  have hid : id ∈ e.ids := List.mem_singleton_self id
  have h : l.under (protocolPath ++ e.path).toList = .ok address := by decide +kernel
  have h' : l.under (protocolPath ++ e'.path).toList = .ok address := by decide +kernel
  obtain ⟨-, hsegment, haddress⟩ := paths_exact
  obtain ⟨habout, hsegments, hplain, hread⟩ := hsegment e id hid
  have hsame := (haddress l e e' address rfl rfl h h').resolve_right fun hroot => nomatch hroot.1
  exact ⟨hid, habout, hsegments, hplain, hread, rfl, rfl, h, h', hsame⟩

/-- Nothing is left of two endpoints, which are asked for in different ways. -/
example :
    let l : Location := ⟨true, true, [], "/base".toList, none⟩
    l.under (protocolPath ++ (profile "..").path).toList =
      l.under (protocolPath ++ (join "..").path).toList := by
  decide +kernel

end Endpoint

end PairChat.Web
