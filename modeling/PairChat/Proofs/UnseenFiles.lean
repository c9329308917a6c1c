import PairChat.Proofs.Opening
import PairChat.Proofs.TwoRuns
import Mathlib.Data.List.Induction

/-!
# Unseen files: trees that differ where nobody looks

Two trees are the same but for some places, and no directory is at these places (`Tree.SameBut`).
Where a path leads does not depend on the tree (`Tree.eq_resolveNames_of_placeOf`), so what it leads
to is the same in both trees if it does not lead to one of these places (`SameBut.lookUp_eq`).  A
path may still lead nowhere for another reason, if it leads through one.

* `SameBut.put`, `SameBut.makePath`: the trees stay the same but for these places if anything is
  made elsewhere.
* `Store.Directory.paired_openOrMake`: **a store is opened or made alike on both**, if no file of it
  is at one of these places.
-/

namespace PairChat

open PairChat.Action
open Files (Path Tree Node)
open Files.Path (resolveNames)

/-! ### Where paths lead -/

namespace Files.Path

theorem resolveNames_concat (names : List String) {name : String} (h : name ≠ "..") :
    resolveNames (names ++ [name]) = resolveNames names ++ [name] := by
  unfold resolveNames
  rw [List.foldl_append]
  exact if_neg h

/-- Double dots are gone. -/
theorem not_mem_resolveNames (names : List String) : ".." ∉ resolveNames names := by
  induction names using List.reverseRecOn with
  | nil => exact List.not_mem_nil
  | append_singleton names name ih =>
    by_cases hname : name = ".."
    · subst hname
      unfold resolveNames
      rw [List.foldl_append]
      exact fun h => ih ((List.dropLast_sublist _).subset h)
    · rw [resolveNames_concat names hname, List.mem_append, not_or]
      exact ⟨ih, fun h => hname (List.mem_singleton.mp h).symm⟩

/-- Names without double dots are resolved. -/
theorem resolveNames_of_not_mem {names : List String} (h : ".." ∉ names) :
    resolveNames names = names := by
  induction names using List.reverseRecOn with
  | nil => rfl
  | append_singleton names name ih =>
    rw [List.mem_append, not_or] at h
    have hname : name ≠ ".." := fun e => h.2 (List.mem_singleton.mpr e.symm)
    rw [resolveNames_concat names hname, ih h.1]

end Files.Path

namespace Files.Tree

variable {t t' : Tree} {P : List String → Prop} {cwd p : Path} {place q start names : List String}
  {node : Node}

theorem eq_foldl_of_follow (h : t.follow start names = .ok q) :
    q = names.foldl Path.enter start := by
  induction names generalizing start with
  | nil => exact (Except.ok.inj h).symm
  | cons n names ih =>
    unfold follow at h
    split at h
    · split_ifs at h
      exact ih h
    · cases h
    · cases h

/-- No path leads through what is no directory. -/
theorem exists_follow_eq_error (n : String) (names : List String)
    (hd : t.node? start ≠ some .directory) :
    ∃ f, t.follow start (n :: names) = .error f ∧ f ≠ .tooLong := by
  unfold follow
  split
  · next hnode => exact absurd hnode hd
  · exact ⟨.notDirectory, rfl, nofun⟩
  · exact ⟨.missing, rfl, nofun⟩

/-- **Where a path leads does not depend on the tree**, if it leads anywhere. -/
theorem eq_resolveNames_of_placeOf (h : t.placeOf cwd p = .ok q) :
    q = resolveNames (cwd.join p).names := by
  unfold placeOf at h
  split_ifs at h
  exact eq_foldl_of_follow h

/-! ### Trees that are the same but for some places -/

/-- The trees are the same but for some places, and no directory is there. -/
structure SameBut (P : List String → Prop) (t t' : Tree) : Prop where
  elsewhere : ∀ q, ¬ P q → t.node? q = t'.node? q
  noDirectory : ∀ q, P q → t.node? q ≠ some .directory ∧ t'.node? q ≠ some .directory

/-- A file that is put makes a difference at its place only. -/
theorem sameBut_put (hold : t.node? place ≠ some .directory) (hnode : node ≠ .directory) :
    SameBut (· = place) t (put place node t) where
  elsewhere q hq := by rw [node?_put (ne_root_of_node? hold), if_neg hq]
  noDirectory q hq := by
    rw [hq, node?_put_self (ne_root_of_node? hold)]
    exact ⟨hold, by simpa using hnode⟩

/-- The two lead to the same place, or they fail alike; but one may lead nowhere where the other is
in the way of something. -/
inductive LeadAlike : Except FileFault (List String) → Except FileFault (List String) → Prop
  | same (r) : LeadAlike r r
  | nowhere {f f' : FileFault} (hf : f ≠ .tooLong) (hf' : f' ≠ .tooLong) :
      LeadAlike (.error f) (.error f')

namespace SameBut

variable (h : SameBut P t t')
include h

theorem leadAlike_follow (start names : List String) :
    LeadAlike (t.follow start names) (t'.follow start names) := by
  induction names generalizing start with
  | nil => exact .same _
  | cons n names ih =>
    by_cases hp : P start
    · obtain ⟨hd, hd'⟩ := h.noDirectory start hp
      obtain ⟨f, hfollow, hf⟩ := exists_follow_eq_error n names hd
      obtain ⟨f', hfollow', hf'⟩ := exists_follow_eq_error n names hd'
      rw [hfollow, hfollow']
      exact .nowhere hf hf'
    · unfold follow
      rw [h.elsewhere start hp]
      split
      · split_ifs
        · exact .same _
        · exact ih _
      · exact .same _
      · exact .same _

theorem leadAlike_placeOf (cwd p : Path) : LeadAlike (t.placeOf cwd p) (t'.placeOf cwd p) := by
  unfold placeOf
  split_ifs
  · exact .same _
  · exact h.leadAlike_follow _ _

omit h in
/-- Nothing is found where a path leads nowhere. -/
theorem lookUp_eq_none {f : FileFault} (hplace : t.placeOf cwd p = .error f) (hf : f ≠ .tooLong) :
    t.lookUp cwd p = .ok none := by
  unfold lookUp
  rw [hplace]
  cases f with
  | tooLong => exact absurd rfl hf
  | _ => simp

/-- **What a path leads to is the same in both trees**, unless it is one of the places. -/
theorem lookUp_eq (hp : ¬ P (resolveNames (cwd.join p).names)) :
    t.lookUp cwd p = t'.lookUp cwd p := by
  rcases hq : t.placeOf cwd p with f | q <;> rcases hq' : t'.placeOf cwd p with f' | q' <;>
    have hlead := hq ▸ hq' ▸ h.leadAlike_placeOf cwd p <;> cases hlead
  · unfold lookUp
    rw [hq, hq']
    cases f <;> rfl
  · next hf hf' => rw [lookUp_eq_none hq hf, lookUp_eq_none hq' hf']
  · unfold lookUp
    simp only [hq, hq', h.elsewhere q (eq_resolveNames_of_placeOf hq ▸ hp)]

theorem exists?_eq (hp : ¬ P (resolveNames (cwd.join p).names)) :
    t.exists? cwd p = t'.exists? cwd p := by
  unfold exists?
  rw [h.lookUp_eq hp]

theorem isDirectory_eq (hp : ¬ P (resolveNames (cwd.join p).names)) :
    t.isDirectory cwd p = t'.isDirectory cwd p := by
  unfold isDirectory
  rw [h.lookUp_eq hp]

/-- The text of something that is there is the same. -/
theorem text_eq (hp : ¬ P (resolveNames (cwd.join p).names)) (hs : t.exists? cwd p = .ok true) :
    t.text cwd p = t'.text cwd p := by
  obtain ⟨hfault, q, hq, -⟩ := exists?_eq_true_iff.mp hs
  obtain ⟨-, q', hq', -⟩ := exists?_eq_true_iff.mp (h.exists?_eq hp ▸ hs)
  obtain rfl : q' = q :=
    (eq_resolveNames_of_placeOf hq').trans (eq_resolveNames_of_placeOf hq).symm
  have hnode : t.node? q' = t'.node? q' := h.elsewhere q' (eq_resolveNames_of_placeOf hq ▸ hp)
  have hdir : t.isDirectoryAt q' = t'.isDirectoryAt q' := by
    rw [isDirectoryAt, isDirectoryAt, hnode]
  have hfile : t.filePlace cwd p = t'.filePlace cwd p := by
    simp only [filePlace, hfault, hq, hq', hdir]
  unfold text
  rw [hfile]
  rcases hr : t'.filePlace cwd p with e | r
  · rfl
  · obtain ⟨-, hr, -⟩ := filePlace_eq_ok hr
    obtain rfl := Except.ok.inj (hr.symm.trans hq')
    simp only [bind, Except.bind, hnode]

/-- **A path that leads through none of the places leads where it leads in the other tree.** -/
theorem follow_eq (hn : ∀ before rest, names = before ++ rest → rest ≠ [] →
    ¬ P (before.foldl Path.enter start)) : t.follow start names = t'.follow start names := by
  induction names generalizing start with
  | nil => rfl
  | cons n names ih =>
    unfold follow
    rw [h.elsewhere start (hn [] _ rfl (by simp))]
    split
    · split_ifs
      · rfl
      · exact ih fun before rest he hrest => hn (n :: before) rest (by rw [he]; rfl) hrest
    · rfl
    · rfl

/-! ### Making something elsewhere -/

theorem put (hplace : ¬ P place) (hroot : place ≠ []) :
    SameBut P (Tree.put place node t) (Tree.put place node t') := by
  refine ⟨fun q hq => ?_, fun q hq => ?_⟩ <;> rw [node?_put hroot, node?_put hroot]
  · rw [h.elsewhere q hq]
  · have hne : q ≠ place := fun e => hplace (e ▸ hq)
    rw [if_neg hne, if_neg hne]
    exact h.noDirectory q hq

omit h in
theorem makeDirectories {path : String} (h : SameBut P t t')
    (hn : ∀ before rest, names = before ++ rest → ¬ P (before.foldl Path.enter start)) :
    (Tree.makeDirectories path start names t).1 = (Tree.makeDirectories path start names t').1 ∧
      SameBut P (Tree.makeDirectories path start names t).2
        (Tree.makeDirectories path start names t').2 := by
  induction names generalizing start t t' with
  | nil => exact ⟨rfl, h⟩
  | cons n names ih =>
    have hnext : ∀ before rest, names = before ++ rest →
        ¬ P (before.foldl Path.enter (Path.enter start n)) := fun before rest he =>
      hn (n :: before) rest (by rw [he]; rfl)
    have hnode := h.elsewhere (Path.enter start n) (hnext [] names rfl)
    rcases hlong : Path.isLongName n
    · rcases ht : t'.node? (Path.enter start n) with _ | old <;> rw [ht] at hnode
      · rw [makeDirectories_made hlong hnode, makeDirectories_made hlong ht]
        exact ih (h.put (hnext [] names rfl) (ne_root_of_missing ht)) hnext
      · cases old with
        | directory =>
          rw [makeDirectories_found hlong hnode, makeDirectories_found hlong ht]
          exact ih h hnext
        | _ =>
          simp only [Tree.makeDirectories, hlong, hnode, ht, Bool.false_eq_true, if_false, true_and]
          exact h
    · rw [makeDirectories_long hlong, makeDirectories_long hlong]
      exact ⟨rfl, h⟩

theorem makePath (hp : ∀ before rest, (cwd.join p).names = before ++ rest →
    ¬ P (resolveNames before)) :
    (t.makePath cwd p).1 = (t'.makePath cwd p).1 ∧
      SameBut P (t.makePath cwd p).2 (t'.makePath cwd p).2 := by
  unfold Tree.makePath
  rcases p.fault? with _ | f
  · dsimp only
    split_ifs
    · exact ⟨rfl, h⟩
    · exact h.makeDirectories hp
  · exact ⟨rfl, h⟩

theorem filePlace_eq (hp : ∀ before rest, (cwd.join p).names = before ++ rest →
    ¬ P (resolveNames before)) : t.filePlace cwd p = t'.filePlace cwd p := by
  have hplace : t.placeOf cwd p = t'.placeOf cwd p := by
    unfold placeOf
    split_ifs
    · rfl
    · exact h.follow_eq fun before rest he _ => hp before rest he
  unfold filePlace
  rcases p.fault? with _ | f
  · dsimp only
    rw [hplace]
    rcases hq : t'.placeOf cwd p with f | q
    · rfl
    · have hnode := h.elsewhere q (eq_resolveNames_of_placeOf hq ▸ hp _ [] (by simp))
      have hdir : t.isDirectoryAt q = t'.isDirectoryAt q := by
        rw [isDirectoryAt, isDirectoryAt, hnode]
      simp only [hdir]
  · rfl

end SameBut

end Files.Tree

/-! ### Stores -/

variable {ν : Type} {P : List String → Prop} {cwd p : Path}

/-- The hosts see relative paths from the same directory, and their trees are the same but for some
places. -/
structure Host.SameFiles (cwd : Path) (P : List String → Prop) (h h' : Host ν) : Prop where
  directory : h.directory = cwd
  directory' : h'.directory = cwd
  tree : Tree.SameBut P h.tree h'.tree

namespace Host

theorem paired_exists? (hp : ¬ P (resolveNames (cwd.join p).names)) :
    Paired (SameFiles cwd P) Eq (exists? p : Action (Host ν) Bool) (exists? p) := by
  intro h h' hs
  rw [outcome_exists?, outcome_exists?, hs.directory, hs.directory', hs.tree.exists?_eq hp]
  exact ⟨matched_refl _, hs⟩

section Through
variable (hp : ∀ before rest, (cwd.join p).names = before ++ rest → ¬ P (resolveNames before))
include hp

theorem paired_makePath :
    Paired (SameFiles cwd P) Eq (makePath p : Action (Host ν) Unit) (makePath p) := by
  intro h h' hs
  obtain ⟨hr, ht⟩ := hs.tree.makePath hp
  rw [outcome_makePath_of (by rw [hs.directory]), outcome_makePath_of (by rw [hs.directory'])]
  exact ⟨hr ▸ matched_refl _, hs.directory, hs.directory', ht⟩

theorem paired_writeFile (text : String) :
    Paired (SameFiles cwd P) Eq (writeFile p text : Action (Host ν) Unit) (writeFile p text) := by
  intro h h' hs
  have hplace := hs.tree.filePlace_eq hp
  rcases hq : h'.tree.filePlace cwd p with e | place <;> rw [hq] at hplace
  · rw [outcome_writeFile_error (by rw [hs.directory, hplace]),
      outcome_writeFile_error (by rw [hs.directory', hq])]
    exact ⟨.error e, hs⟩
  · obtain ⟨-, hlead, hold⟩ := Tree.filePlace_eq_ok hq
    rw [outcome_writeFile (by rw [hs.directory, hplace]),
      outcome_writeFile (by rw [hs.directory', hq])]
    refine ⟨.ok rfl, hs.directory, hs.directory', hs.tree.put ?_ (Tree.ne_root_of_node? hold)⟩
    exact Tree.eq_resolveNames_of_placeOf hlead ▸ hp _ [] (by simp)

end Through

end Host

namespace Store.Directory

theorem resolveNames_child (cwd p : Path) {name : String} (h : name ≠ "..") :
    resolveNames (cwd.join (p.child name)).names = resolveNames (cwd.join p).names ++ [name] := by
  rw [names_join_child, Path.resolveNames_concat _ h]

theorem homeServerAt_eq {t t' : Tree} (h : Tree.SameBut P t t')
    (hp : ¬ P (resolveNames (cwd.join (configFile p)).names)) :
    homeServerAt t cwd p = homeServerAt t' cwd p := by
  unfold homeServerAt
  rcases hb : t.exists? cwd (configFile p) with e | _ | _ <;> rw [h.exists?_eq hp] at hb <;> rw [hb]
  · rfl
  · rfl
  · rw [h.text_eq hp (by rw [h.exists?_eq hp, hb])]

theorem paired_loadHomeServer (hp : ¬ P (resolveNames (cwd.join (configFile p)).names)) :
    Paired (Host.SameFiles cwd P) Eq (loadHomeServer p : Action (Host ν) Value)
      (loadHomeServer p) := by
  intro h h' hs
  rw [outcome_loadHomeServer, outcome_loadHomeServer, hs.directory, hs.directory',
    homeServerAt_eq hs.tree hp]
  exact ⟨matched_refl _, hs⟩

theorem paired_openTables (hp : ¬ P (resolveNames (cwd.join (tablesFile p)).names)) :
    Paired (Host.SameFiles cwd P) Eq (openTables p : Action (Host ν) (List String))
      (openTables p) := by
  intro h h' hs
  have hlead := hs.tree.leadAlike_placeOf cwd (tablesFile p)
  unfold openTables
  rw [outcome_bind_ok (outcome_getState h), outcome_bind_ok (outcome_getState h'), hs.directory,
    hs.directory']
  generalize hr : h.tree.placeOf cwd (tablesFile p) = r at hlead
  generalize hr' : h'.tree.placeOf cwd (tablesFile p) = r' at hlead
  cases hlead with
  | nowhere => exact ⟨.error _, hs⟩
  | same r =>
    rcases r with f | place
    · exact ⟨.error _, hs⟩
    have hplace : ¬ P place := Tree.eq_resolveNames_of_placeOf hr ▸ hp
    have hroot : place ≠ [] := by
      obtain ⟨d, -, -, rfl⟩ := placeOf_child (by decide) hr
      simp
    dsimp only
    split_ifs
    · exact ⟨.error _, hs⟩
    · rw [hs.tree.elsewhere place hplace]
      rcases openedAs (h'.tree.node? place) with e | node
      · exact ⟨.error e, hs⟩
      · exact ⟨.ok rfl, rfl, rfl, hs.tree.put hplace hroot⟩

/-- No file of the store at the path is at one of the places. -/
structure IsApart (P : List String → Prop) (cwd p : Path) : Prop where
  path : ¬ P (resolveNames (cwd.join p).names)
  document : ¬ P (resolveNames (cwd.join (configFile p)).names)
  tables : ¬ P (resolveNames (cwd.join (tablesFile p)).names)

variable (hp : IsApart P cwd p)
include hp

theorem paired_load : Paired (Host.SameFiles cwd P) Eq (load p : Action (Host ν) Opened) (load p) :=
  (paired_loadHomeServer hp.document).bind_eq fun _ =>
    (paired_openTables hp.tables).bind_eq fun _ => paired_pure rfl

theorem paired_make (homeServer : Value)
    (hthrough : ∀ before rest, (cwd.join p).names = before ++ rest → ¬ P (resolveNames before)) :
    Paired (Host.SameFiles cwd P) Eq (make p homeServer : Action (Host ν) Opened)
      (make p homeServer) := by
  have hdocument : ∀ before rest, (cwd.join (configFile p)).names = before ++ rest →
      ¬ P (resolveNames before) := by
    intro before rest he
    rw [configFile, names_join_child] at he
    rcases List.append_eq_append_iff.mp he with ⟨_ | ⟨name, more⟩, hb, hm⟩ | ⟨more, hb, -⟩
    · exact hthrough before [] (by simp [hb])
    · obtain ⟨rfl, hnil⟩ := List.cons.inj hm
      obtain ⟨rfl, -⟩ := List.append_eq_nil_iff.mp hnil.symm
      rw [hb, ← names_join_child]
      exact hp.document
    · exact hthrough before more hb
  have hsave : ∀ v, Paired (Host.SameFiles cwd P) Eq
      (saveHomeServer p v : Action (Host ν) Unit) (saveHomeServer p v) := by
    intro v
    unfold saveHomeServer Yaml.save
    split_ifs
    · exact Host.paired_writeFile hdocument _
    · exact (Host.paired_writeFile hdocument _).bind_eq fun _ => paired_throw _
  refine (Host.paired_makePath hthrough).bind_eq fun _ => (hsave _).bind_eq fun _ => ?_
  exact (paired_openTables hp.tables).bind_eq fun _ => paired_pure rfl

/-- **A store is opened or made alike**, if no file of it is at one of the places. If it may have to
be made, its path must not lead through one either. -/
theorem paired_openOrMake (createIfMissing : Bool) (homeServer : Value)
    (hthrough : createIfMissing = true →
      ∀ before rest, (cwd.join p).names = before ++ rest → ¬ P (resolveNames before)) :
    Paired (Host.SameFiles cwd P) Eq (openOrMake p createIfMissing homeServer :
      Action (Host ν) Opened) (openOrMake p createIfMissing homeServer) := by
  refine (Host.paired_exists? hp.path).bind_eq fun found => ?_
  split_ifs with hfound hcreate
  · exact paired_load hp
  · exact paired_make hp homeServer (hthrough hcreate)
  · exact paired_throw _

end Store.Directory

end PairChat
