import PairChat.Files.Tree
import Mathlib.Tactic.SplitIfs

/-!
# Trees: what is found after a file was put

A file that is put where no directory is stands in the way of no path that led somewhere.

* `Tree.node?_put`: what is at a place then.
* `Tree.follow_put`: a path leads where it led before.  One that led nowhere may now fail at the
  file, where it failed before because nothing was there.
* `Tree.lookUp_put`: so what a path leads to is the same, unless it leads to the file.
* `Tree.exists?_eq_true_iff`, `Tree.filePlace_eq_ok`: what looking up a path and the place of a file
  say about the tree.

Making directories takes nothing away (`Tree.node?_makeDirectories`), and what was made, or what
stood in the way, need not be tried again (`Tree.makePath_again`).
-/

namespace PairChat.Files.Tree

variable {t : Tree} {place q : List String} {node : Node} {cwd p : Path}

theorem lookup_cons_eq (r : List String) (n : Node) :
    List.lookup q ((r, n) :: t) = if q = r then some n else t.lookup q := by
  by_cases hq : q = r
  · subst hq
    rw [List.lookup_cons_self, if_pos rfl]
  · rw [List.lookup_cons, beq_false_of_ne hq, if_neg hq]

theorem lookup_put : (put place node t).lookup q =
    if q = place then some node else t.lookup q := by
  induction t with
  | nil => exact lookup_cons_eq place node
  | cons e t ih =>
    obtain ⟨r, n⟩ := e
    unfold put
    by_cases hr : r = place
    · subst hr
      rw [if_pos rfl, lookup_cons_eq, lookup_cons_eq]
      split_ifs <;> rfl
    · rw [if_neg hr, lookup_cons_eq, lookup_cons_eq, ih]
      by_cases hqr : q = r
      · subst hqr
        rw [if_pos rfl, if_neg hr, if_pos rfl]
      · rw [if_neg hqr, if_neg hqr]

theorem node?_put (hplace : place ≠ []) :
    (put place node t).node? q = if q = place then some node else t.node? q := by
  unfold node?
  by_cases hq : q = []
  · subst hq
    rw [if_pos rfl, if_neg fun e => hplace e.symm, if_pos rfl]
  · rw [if_neg hq, if_neg hq, lookup_put]

theorem node?_put_self (hplace : place ≠ []) : (put place node t).node? place = some node := by
  rw [node?_put hplace, if_pos rfl]

/-- What is at a place already need not be put there. -/
theorem put_eq_self (h : t.lookup place = some node) : put place node t = t := by
  induction t with
  | nil => cases h
  | cons e t ih =>
    obtain ⟨r, n⟩ := e
    unfold put
    by_cases hr : r = place
    · subst hr
      rw [lookup_cons_eq, if_pos rfl] at h
      rw [if_pos rfl, Option.some.inj h]
    · rw [lookup_cons_eq, if_neg fun e => hr e.symm] at h
      rw [if_neg hr, ih h]

/-! ### Following paths -/

/-- The place of a name in a directory. -/
theorem follow_concat {start : List String} (names : List String) {name : String}
    (hname : name ≠ "..") : t.follow start (names ++ [name]) = .ok q →
      ∃ d, t.follow start names = .ok d ∧ t.node? d = some .directory ∧ q = d ++ [name] := by
  induction names generalizing start with
  | nil =>
    intro h
    rw [List.nil_append, follow] at h
    split at h
    · next hd =>
      split_ifs at h
      rw [follow] at h
      obtain rfl := Except.ok.inj h
      exact ⟨start, rfl, hd, by rw [Path.enter, if_neg hname]⟩
    · cases h
    · cases h
  | cons n names ih =>
    intro h
    rw [List.cons_append, follow] at h
    rw [follow]
    split at h
    · split_ifs at h with hlong
      rw [if_neg hlong]
      exact ih h
    · cases h
    · cases h

section Put
variable (hold : t.node? place ≠ some .directory)
include hold

/-- The root is a directory, so no file is put in its place. -/
theorem ne_root_of_node? : place ≠ [] := by
  rintro rfl
  exact hold rfl

variable (hnode : node ≠ .directory)
include hnode

/-- **A path leads where it led before.** -/
theorem follow_put (start names : List String) :
    (put place node t).follow start names = t.follow start names ∨
      (t.follow start names = .error .missing ∧
        (put place node t).follow start names = .error .notDirectory) := by
  have hroot := ne_root_of_node? hold
  induction names generalizing start with
  | nil => exact Or.inl rfl
  | cons n names ih =>
    unfold follow
    rw [node?_put hroot]
    by_cases hs : start = place
    · subst hs
      rw [if_pos rfl]
      rcases hd : t.node? start with _ | old
      · cases node with
        | directory => exact absurd rfl hnode
        | file s => exact Or.inr ⟨rfl, rfl⟩
        | store tables => exact Or.inr ⟨rfl, rfl⟩
      · cases old with
        | directory => exact absurd hd hold
        | file s => cases node <;> first | exact absurd rfl hnode | exact Or.inl rfl
        | store tables => cases node <;> first | exact absurd rfl hnode | exact Or.inl rfl
    · rw [if_neg hs]
      split
      · split_ifs
        · exact Or.inl rfl
        · exact ih _
      · exact Or.inl rfl
      · exact Or.inl rfl

theorem placeOf_put (h : t.placeOf cwd p = .ok q) : (put place node t).placeOf cwd p = .ok q := by
  unfold placeOf at h ⊢
  split_ifs at h ⊢
  rcases follow_put hold hnode [] (cwd.join p).names with hf | ⟨hf, -⟩
  · rw [hf, h]
  · rw [h] at hf
    cases hf

/-- **What a path leads to is the same, unless it leads to the file.** -/
theorem lookUp_put (h : t.placeOf cwd p ≠ .ok place) :
    (put place node t).lookUp cwd p = t.lookUp cwd p := by
  have hroot := ne_root_of_node? hold
  unfold lookUp
  split_ifs
  · rfl
  · rcases hq : t.placeOf cwd p with fault | q
    · unfold placeOf at hq ⊢
      split_ifs at hq ⊢
      · cases hq
        rfl
      · rcases follow_put hold hnode [] (cwd.join p).names with hf | ⟨hf, hf'⟩
        · rw [hf, hq]
          cases fault <;> rfl
        · rw [hf] at hq
          cases hq
          rw [hf']
    · have hne : q ≠ place := fun e => h (e ▸ hq)
      rw [placeOf_put hold hnode hq]
      simp only [node?_put hroot, if_neg hne]

end Put

/-! ### Reading and writing files -/

/-- A path that leads to something can be looked up. -/
theorem exists?_eq_true_iff : t.exists? cwd p = .ok true ↔
    p.fault? = none ∧ ∃ q, t.placeOf cwd p = .ok q ∧ (t.node? q).isSome := by
  unfold exists? lookUp
  constructor
  · intro h
    split_ifs at h with hf
    · cases h
    · rw [Option.not_isSome_iff_eq_none] at hf
      rcases hq : t.placeOf cwd p with fault | q <;> rw [hq] at h
      · cases fault <;> cases h
      · exact ⟨hf, q, rfl, Except.ok.inj h⟩
  · rintro ⟨hf, q, hq, hs⟩
    rw [hf, hq, if_neg (by simp)]
    exact congrArg Except.ok hs

theorem filePlace_eq_ok {q : List String} (h : t.filePlace cwd p = .ok q) :
    p.fault? = none ∧ t.placeOf cwd p = .ok q ∧ t.node? q ≠ some .directory := by
  unfold filePlace at h
  rcases hf : p.fault? with _ | f <;> rw [hf] at h
  · rcases hq : t.placeOf cwd p with fault | q' <;> rw [hq] at h
    · cases h
    · by_cases hd : t.node? q' = some .directory
      · simp [isDirectoryAt, hd] at h
      · simp only [isDirectoryAt, beq_eq_false_iff_ne.mpr hd, Bool.false_eq_true, if_false] at h
        obtain rfl := Except.ok.inj h
        exact ⟨rfl, rfl, hd⟩
  · cases h

theorem filePlace_of_placeOf {q : List String} (hf : p.fault? = none)
    (hq : t.placeOf cwd p = .ok q) (hd : t.node? q ≠ some .directory) :
    t.filePlace cwd p = .ok q := by
  have hd' : t.isDirectoryAt q = false := by simpa [isDirectoryAt] using hd
  simp only [filePlace, hf, hq, hd', Bool.false_eq_true, if_false]

/-- A file that was written is in its place. -/
theorem filePlace_put {text : String} (h : t.filePlace cwd p = .ok place) :
    (put place (.file text) t).filePlace cwd p = .ok place ∧
      (put place (.file text) t).node? place = some (.file text) := by
  obtain ⟨hf, hp, hold⟩ := filePlace_eq_ok h
  have hself : (put place (.file text) t).node? place = some (.file text) :=
    node?_put_self (ne_root_of_node? hold)
  exact ⟨filePlace_of_placeOf hf (placeOf_put hold (by simp) hp) (by simp [hself]), hself⟩

/-- The text of another file is the same after a file was put. -/
theorem text_put (hold : t.node? place ≠ some .directory) (hnode : node ≠ .directory)
    (hne : t.placeOf cwd p ≠ .ok place) {s : String} (h : t.text cwd p = .ok s) :
    (put place node t).text cwd p = .ok s := by
  unfold text at h ⊢
  rcases hq : t.filePlace cwd p with e | q <;> rw [hq] at h
  · cases h
  · obtain ⟨hf, hp, hd⟩ := filePlace_eq_ok hq
    have hqp : q ≠ place := fun e => hne (e ▸ hp)
    have hn : (put place node t).node? q = t.node? q := by
      rw [node?_put (ne_root_of_node? hold), if_neg hqp]
    have hd' : (put place node t).node? q ≠ some .directory := hn.symm ▸ hd
    rw [filePlace_of_placeOf hf (placeOf_put hold hnode hp) hd']
    refine Eq.trans ?_ h
    simp only [bind, Except.bind, hn]

/-! ### Making directories -/

section Directories
variable {path n : String} {start names ns : List String}

theorem makeDirectories_long (hlong : Path.isLongName n = true) :
    makeDirectories path start (n :: ns) t = (.error (.file .tooLong path), t) := by
  simp [makeDirectories, hlong]

theorem makeDirectories_found (hlong : Path.isLongName n = false)
    (hn : t.node? (Path.enter start n) = some .directory) :
    makeDirectories path start (n :: ns) t = makeDirectories path (Path.enter start n) ns t := by
  simp [makeDirectories, hlong, hn]

theorem makeDirectories_made (hlong : Path.isLongName n = false)
    (hn : t.node? (Path.enter start n) = none) :
    makeDirectories path start (n :: ns) t =
      makeDirectories path (Path.enter start n) ns (put (Path.enter start n) .directory t) := by
  simp [makeDirectories, hlong, hn]

/-- A file is in the way. -/
theorem makeDirectories_blocked (path : String) (ns : List String)
    (hlong : Path.isLongName n = false) (hn : t.node? (Path.enter start n) = some node)
    (hnode : node ≠ .directory) : ∃ e, makeDirectories path start (n :: ns) t = (.error e, t) := by
  refine ⟨.file (if ns.isEmpty then .exists else .notDirectory) path, ?_⟩
  cases node with
  | directory => exact absurd rfl hnode
  | file s => simp [makeDirectories, hlong, hn]
  | store tables => simp [makeDirectories, hlong, hn]

theorem ne_root_of_missing (hn : t.node? q = none) : q ≠ [] := by
  rintro rfl
  cases hn

/-- **Nothing is taken away by making directories.** -/
theorem node?_makeDirectories (h : t.node? q = some node) :
    (makeDirectories path start names t).2.node? q = some node := by
  induction names generalizing start t with
  | nil => exact h
  | cons n ns ih =>
    rcases hlong : Path.isLongName n
    · rcases hn : t.node? (Path.enter start n) with _ | old
      · have hq : q ≠ Path.enter start n := by
          rintro rfl
          cases h.symm.trans hn
        rw [makeDirectories_made hlong hn]
        exact ih (by rw [node?_put (ne_root_of_missing hn), if_neg hq, h])
      · by_cases hold : old = .directory
        · rw [makeDirectories_found hlong (hold ▸ hn)]
          exact ih h
        · obtain ⟨e, he⟩ := makeDirectories_blocked path ns hlong hn hold
          rw [he]
          exact h
    · rw [makeDirectories_long hlong]
      exact h

/-- Directories that were made, and what stood in their way, stay as they are. -/
theorem makeDirectories_again : makeDirectories path start names
    (makeDirectories path start names t).2 = makeDirectories path start names t := by
  induction names generalizing start t with
  | nil => rfl
  | cons n ns ih =>
    rcases hlong : Path.isLongName n
    · rcases hn : t.node? (Path.enter start n) with _ | old
      · -- the first directory is made now and found the second time
        have hmade : (put (Path.enter start n) .directory t).node? (Path.enter start n) =
            some .directory := node?_put_self (ne_root_of_missing hn)
        rw [makeDirectories_made hlong hn, makeDirectories_found hlong
          (node?_makeDirectories hmade)]
        exact ih
      · by_cases hold : old = .directory
        · rw [hold] at hn
          rw [makeDirectories_found hlong hn, makeDirectories_found hlong
            (node?_makeDirectories hn)]
          exact ih
        · obtain ⟨e, he⟩ := makeDirectories_blocked path ns hlong hn hold
          rw [he, he]
    · rw [makeDirectories_long hlong, makeDirectories_long hlong]

/-- A file is put in the place of no directory, so all directories of a path are still there. -/
theorem makeDirectories_put (hold : t.node? place ≠ some .directory)
    (h : makeDirectories path start names t = (.ok (), t)) :
    makeDirectories path start names (put place node t) = (.ok (), put place node t) := by
  induction names generalizing start with
  | nil => rfl
  | cons n ns ih =>
    rcases hlong : Path.isLongName n
    · rcases hn : t.node? (Path.enter start n) with _ | old
      · -- a directory that was missing would not leave the tree as it is
        rw [makeDirectories_made hlong hn] at h
        have hmade : (put (Path.enter start n) .directory t).node? (Path.enter start n) =
            some .directory := node?_put_self (ne_root_of_missing hn)
        have hkept := congrArg (fun r => r.2.node? (Path.enter start n)) h
        rw [node?_makeDirectories hmade, hn] at hkept
        cases hkept
      · by_cases hdir : old = .directory
        · rw [hdir] at hn
          have hne : Path.enter start n ≠ place := fun e => hold (e ▸ hn)
          rw [makeDirectories_found hlong hn] at h
          rw [makeDirectories_found hlong]
          · exact ih h
          · rw [node?_put (ne_root_of_node? hold), if_neg hne, hn]
        · obtain ⟨e, he⟩ := makeDirectories_blocked path ns hlong hn hdir
          rw [he] at h
          cases h
    · rw [makeDirectories_long hlong] at h
      cases h

end Directories

/-- **Making the directories of a path again changes nothing and ends in the same way.** -/
theorem makePath_again {r : Except Failure Unit} {t' : Tree} (h : t.makePath cwd p = (r, t')) :
    t'.makePath cwd p = (r, t') := by
  have hagain : (t.makePath cwd p).2.makePath cwd p = t.makePath cwd p := by
    unfold makePath
    rcases p.fault? with _ | f
    · dsimp only
      split_ifs
      · rfl
      · exact makeDirectories_again
    · rfl
  rwa [h] at hagain

theorem makePath_put (hold : t.node? place ≠ some .directory)
    (h : t.makePath cwd p = (.ok (), t)) :
    (put place node t).makePath cwd p = (.ok (), put place node t) := by
  unfold makePath at h ⊢
  rcases hf : p.fault? with _ | f <;> rw [hf] at h
  · dsimp only at h ⊢
    split_ifs at h ⊢
    · cases h
    · exact makeDirectories_put hold h
  · cases h

end PairChat.Files.Tree
