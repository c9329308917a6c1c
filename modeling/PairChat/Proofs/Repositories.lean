import PairChat.Proofs.ExplicitChoice
import PairChat.Proofs.LookUps
import Mathlib.Data.List.Infix

/-!
# Repositories: where a new store belongs, and where it is looked for

The root of the repository around a path is searched for upwards, name by name, up to the root of
the tree (`Discovery.rootAbove`).

* `Discovery.repositoryRoot_of_canLookUp`: **the search comes to the innermost directory with a
  repository**, and to nothing if there is none (`Tree.IsNearest`).
* `Discovery.repositoryRoot_kept`: making a directory for a store leaves the repository around a
  path as it is.
* `Discovery.new_stores_found`: so a store that is made where a new one belongs is found from there,
  and from every directory of the same repository that has none of its own.
-/

namespace PairChat

open PairChat.Action
open Files (Path Tree)

/-! ### Innermost directories -/

namespace Files.Tree

variable {t t' : Tree} {cwd : Path} {name n : String} {names place root root' start : List String}
  {r r' : Option Path}

/-- **The innermost directory on the way along some names where something with the name stands.** -/
structure IsInnermost (t : Tree) (name : String) (names root : List String) : Prop where
  above : root <+: names
  stands : (t.node? (root ++ [name])).isSome
  deepest : ∀ place, place <+: names → (t.node? (place ++ [name])).isSome → place <+: root

theorem isInnermost_iff : t.IsInnermost name names root ↔ root <+: names ∧
    (t.node? (root ++ [name])).isSome ∧
    ∀ place ∈ names.inits, (t.node? (place ++ [name])).isSome → place <+: root := by
  simp only [List.mem_inits]
  exact ⟨fun hr => ⟨hr.above, hr.stands, hr.deepest⟩, fun ⟨ha, hs, hd⟩ => ⟨ha, hs, hd⟩⟩

instance : Decidable (t.IsInnermost name names root) := decidable_of_iff' _ isInnermost_iff

theorem IsInnermost.unique (hr : t.IsInnermost name names root)
    (hr' : t.IsInnermost name names root') : root = root' :=
  (hr'.deepest root hr.above hr.stands).eq_of_length_le
    (hr.deepest root' hr'.above hr'.stands).length_le

/-- **What a search upwards comes to**: the innermost directory, if there is one. -/
inductive IsNearest (t : Tree) (name : String) (names : List String) : Option Path → Prop
  | found {root : List String} (hr : t.IsInnermost name names root) :
      IsNearest t name names (some ⟨"/", root⟩)
  | nothing (hr : ∀ place, place <+: names → t.node? (place ++ [name]) = none) :
      IsNearest t name names none

theorem IsNearest.eq_some_iff (hr : t.IsNearest name names r) :
    r = some ⟨"/", root⟩ ↔ t.IsInnermost name names root := by
  cases hr with
  | found hr => simpa using ⟨fun e => e ▸ hr, hr.unique⟩
  | nothing hr =>
    refine iff_of_false nofun fun hroot => ?_
    have hstands := hroot.stands
    rw [hr root hroot.above] at hstands
    cases hstands

theorem IsNearest.eq_none_iff (hr : t.IsNearest name names r) :
    r = none ↔ ∀ place, place <+: names → t.node? (place ++ [name]) = none := by
  cases hr with
  | found hr =>
    refine iff_of_false nofun fun hnone => ?_
    have hstands := hr.stands
    rw [hnone _ hr.above] at hstands
    cases hstands
  | nothing hr => exact iff_of_true rfl hr

theorem IsNearest.unique (hr : t.IsNearest name names r) (hr' : t.IsNearest name names r') :
    r = r' := by
  cases hr' with
  | found hr' => exact hr.eq_some_iff.mpr hr'
  | nothing hr' => exact hr.eq_none_iff.mpr hr'

theorem IsNearest.congr (hr : t.IsNearest name names r)
    (hsame : ∀ place, t'.node? (place ++ [name]) = t.node? (place ++ [name])) :
    t'.IsNearest name names r := by
  cases hr with
  | found hr =>
    refine .found ⟨hr.above, by rw [hsame]; exact hr.stands, fun place hplace hstands => ?_⟩
    rw [hsame] at hstands
    exact hr.deepest place hplace hstands
  | nothing hr => exact .nothing fun place hplace => by rw [hsame, hr place hplace]

theorem IsNearest.here (h : (t.node? (names ++ [name])).isSome) :
    t.IsNearest name names (some ⟨"/", names⟩) :=
  .found ⟨List.prefix_rfl, h, fun _ hplace _ => hplace⟩

/-- Where nothing stands in a directory, the search goes on in the one above it. -/
theorem IsNearest.concat (hn : t.node? (names ++ [n] ++ [name]) = none)
    (hr : t.IsNearest name names r) : t.IsNearest name (names ++ [n]) r := by
  cases hr with
  | found hr =>
    refine .found ⟨hr.above.trans (List.prefix_append _ _), hr.stands, fun place hplace hs => ?_⟩
    rcases List.prefix_concat_iff.mp hplace with rfl | hplace
    · rw [hn] at hs
      cases hs
    · exact hr.deepest place hplace hs
  | nothing hr =>
    refine .nothing fun place hplace => ?_
    rcases List.prefix_concat_iff.mp hplace with rfl | hplace
    · exact hn
    · exact hr place hplace

/-! ### A directory that is made -/

/-- In a directory that is there, nothing but one more directory is made. -/
theorem node?_of_makeDirectories {path : String} (hdots : ".." ∉ names ++ [name])
    (hd : ∀ before rest, names = before ++ rest → t.node? (start ++ before) = some .directory)
    (h : makeDirectories path start (names ++ [name]) t = (.ok (), t')) (q : List String) :
    t'.node? q = if q = start ++ names ++ [name] then some .directory else t.node? q := by
  induction names generalizing start with
  | nil =>
    have hname : name ≠ ".." := fun e => hdots (List.mem_singleton.mpr e.symm)
    have henter : Path.enter start name = start ++ [name] := if_neg hname
    rw [List.append_nil, ← henter]
    rw [List.nil_append] at h
    rcases hlong : Path.isLongName name
    · rcases hn : t.node? (Path.enter start name) with _ | old
      · rw [makeDirectories_made hlong hn] at h
        obtain rfl := (Prod.mk.inj h).2
        exact node?_put (ne_root_of_missing hn)
      · by_cases hdir : old = .directory
        · rw [hdir] at hn
          rw [makeDirectories_found hlong hn] at h
          obtain rfl := (Prod.mk.inj h).2
          split_ifs with hq
          · rw [hq, hn]
          · rfl
        · obtain ⟨e, he⟩ := makeDirectories_blocked path [] hlong hn hdir
          rw [he] at h
          cases h
    · rw [makeDirectories_long hlong] at h
      cases h
  | cons n names ih =>
    rw [List.cons_append, List.mem_cons, not_or] at hdots
    have henter : Path.enter start n = start ++ [n] := if_neg (Ne.symm hdots.1)
    have hnext : t.node? (Path.enter start n) = some .directory := henter ▸ hd [n] names rfl
    rcases hlong : Path.isLongName n
    · rw [List.cons_append, makeDirectories_found hlong hnext, henter] at h
      have hrest := ih hdots.2 (fun before rest he => by
        have hbefore := hd (n :: before) rest (by rw [he]; rfl)
        rwa [List.append_cons] at hbefore) h
      rwa [← List.append_cons] at hrest
    · rw [List.cons_append, makeDirectories_long hlong] at h
      cases h

theorem node?_of_makePath (hg : t.IsGrounded) (hdots : ".." ∉ place ++ [name])
    (hd : t.node? place = some .directory)
    (h : t.makePath cwd ⟨"/", place ++ [name]⟩ = (.ok (), t')) (q : List String) :
    t'.node? q = if q = place ++ [name] then some .directory else t.node? q := by
  have habove : ∀ before rest, place = before ++ rest →
      t.node? ([] ++ before) = some .directory :=
    fun before rest he => hg.directory_of_isPrefix hd ⟨rest, he.symm⟩
  unfold makePath at h
  rw [join_root] at h
  rcases hf : Path.fault? ⟨"/", place ++ [name]⟩ with _ | f <;> rw [hf] at h
  · dsimp only at h
    split_ifs at h
    · cases h
    · have hnode := node?_of_makeDirectories hdots habove h q
      rwa [List.nil_append] at hnode
  · cases h

theorem IsGrounded.of_made (hg : t.IsGrounded) (hd : t.node? place = some .directory)
    (hmade : ∀ q, t'.node? q = if q = place ++ [name] then some .directory else t.node? q) :
    t'.IsGrounded := by
  intro q n hq
  have hdirectory : t.node? q = some .directory := by
    rw [hmade] at hq
    split_ifs at hq with he
    · rw [(List.append_inj' he rfl).1, hd]
    · exact hg q n hq
  rw [hmade, hdirectory, ite_self]

/-- Every entry of the tree stands in a directory. -/
theorem isGrounded_of_forall (h : ∀ e ∈ t, t.node? e.1.dropLast = some .directory) :
    t.IsGrounded := by
  intro place name hs
  obtain ⟨node, hnode⟩ := Option.isSome_iff_exists.mp hs
  rw [node?, if_neg (by simp)] at hnode
  obtain ⟨before, after, rfl, -⟩ := List.lookup_eq_some_iff.mp hnode
  have hmem := h (place ++ [name], node) (by simp)
  rwa [List.dropLast_concat] at hmem

end Files.Tree

/-! ### Hosts -/

variable {ν : Type} {h h' : Host ν} {p place : Path} {s : Option Path} {r : Option Path} {t : Tree}
  {names : List String}

/-- **Everything on the host stands in a directory**, and the current directory is written from the
root and without double dots. -/
structure Host.IsGrounded (h : Host ν) : Prop where
  tree : h.tree.IsGrounded
  directory : h.directory.resolve h.directory = h.directory

theorem Files.Path.exists_of_resolve_eq {cwd p : Path} (h : cwd.resolve p = p) :
    ∃ names, ".." ∉ names ∧ p = ⟨"/", names⟩ :=
  ⟨_, not_mem_resolveNames _, h.symm⟩

theorem Files.Path.resolve_root (cwd : Path) {names : List String} (hdots : ".." ∉ names) :
    cwd.resolve ⟨"/", names⟩ = ⟨"/", names⟩ := by
  rw [resolve, Tree.join_root, resolveNames_of_not_mem hdots]

namespace Discovery

/-! ### Searching upwards -/

/-- **The search comes to the innermost directory with a repository.** -/
theorem rootAbove_isNearest {rest : List String} (hlength : rest.length = names.length)
    (hlook : ∀ place, place <+: names → h.tree.exists? h.directory ⟨"/", place ++ [".git"]⟩ =
      .ok (h.tree.node? (place ++ [".git"])).isSome) :
    ∃ r, rootAbove h names rest = .ok r ∧ h.tree.IsNearest ".git" names r := by
  have hhere := hlook names List.prefix_rfl
  induction names using List.reverseRecOn generalizing rest with
  | nil =>
    obtain rfl := List.eq_nil_of_length_eq_zero hlength
    rw [rootAbove_nil, Path.child, hhere]
    rcases hgit : h.tree.node? ([] ++ [".git"]) with _ | node
    · refine ⟨none, rfl, .nothing fun place hplace => ?_⟩
      rw [List.prefix_nil.mp hplace, hgit]
    · exact ⟨_, rfl, .here (by rw [hgit]; rfl)⟩
  | append_singleton names n ih =>
    rw [List.length_append] at hlength
    obtain ⟨m, rest, rfl⟩ := List.exists_cons_of_length_eq_add_one hlength
    rw [rootAbove_cons, Path.child, hhere, List.dropLast_concat]
    rcases hgit : h.tree.node? (names ++ [n] ++ [".git"]) with _ | node
    · -- the search goes on in the directory above
      have habove : ∀ place, place <+: names →
          h.tree.exists? h.directory ⟨"/", place ++ [".git"]⟩ =
            .ok (h.tree.node? (place ++ [".git"])).isSome :=
        fun place hplace => hlook place (hplace.trans (List.prefix_append _ _))
      obtain ⟨r, hr, hnearest⟩ :=
        ih (Nat.succ.inj hlength) habove (habove names List.prefix_rfl)
      exact ⟨r, hr, hnearest.concat hgit⟩
    · exact ⟨_, rfl, .here (by rw [hgit]; rfl)⟩

/-- A path that cannot be handed to the system has no repository around it that could be found. -/
theorem repositoryRoot_of_fault {e : Failure} (he : p.fault? = some e) :
    (repositoryRoot p).outcome h = (.error e, h) := by
  rw [outcome_repositoryRoot, Path.resolved, he]
  rfl

theorem rootAbove_eq_error {rest : List String} {e : Failure}
    (he : h.tree.exists? h.directory (Path.child ⟨"/", names⟩ ".git") = .error e) :
    rootAbove h names rest = .error e := by
  cases rest with
  | nil => rw [rootAbove_nil, he]; rfl
  | cons m rest => rw [rootAbove_cons, he]; rfl

/-- Nor has one that is too long. -/
theorem repositoryRoot_of_tooLong (hp : p.fault? = none)
    (hq : ((h.directory.resolve p).child ".git").fault? = none)
    (hlong : h.tree.placeOf h.directory ((h.directory.resolve p).child ".git") =
      .error .tooLong) :
    (repositoryRoot p).outcome h =
      (.error (.file .tooLong ((h.directory.resolve p).child ".git").toText), h) := by
  rw [outcome_repositoryRoot, Path.resolved, hp]
  exact Prod.ext (rootAbove_eq_error (Tree.exists?_of_tooLong hq hlong)) rfl

/-- **The repository around a path is the innermost one**, if the path can be looked up. -/
theorem repositoryRoot_of_canLookUp (hg : h.tree.IsGrounded) (hp : p.fault? = none)
    (hl : h.tree.CanLookUp h.directory ((h.directory.resolve p).child ".git")) :
    ∃ r, (repositoryRoot p).outcome h = (.ok r, h) ∧
      h.tree.IsNearest ".git" (h.directory.resolve p).names r := by
  have hdots : ".." ∉ (h.directory.resolve p).names := Path.not_mem_resolveNames _
  have hlook : ∀ place, place <+: (h.directory.resolve p).names →
      h.tree.exists? h.directory ⟨"/", place ++ [".git"]⟩ =
        .ok (h.tree.node? (place ++ [".git"])).isSome := by
    rintro place ⟨rest, hrest⟩
    have hdots' : ".." ∉ place ++ rest ++ [".git"] := by rw [hrest]; simp [hdots]
    refine Tree.exists?_above hg hdots' (by decide) ?_
    rw [hrest]
    exact hl
  obtain ⟨r, hr, hnearest⟩ := rootAbove_isNearest rfl hlook
  refine ⟨r, ?_, hnearest⟩
  rw [outcome_repositoryRoot, Path.resolved, hp]
  exact Prod.ext hr rfl

/-- Where a search has come to something, the path can be looked up. -/
theorem canLookUp_of_repositoryRoot (hdots : ".." ∉ names)
    (hr : (repositoryRoot ⟨"/", names⟩).outcome h = (.ok r, h)) :
    Path.fault? ⟨"/", names⟩ = none ∧ h.tree.CanLookUp h.directory ⟨"/", names ++ [".git"]⟩ := by
  rw [outcome_repositoryRoot] at hr
  obtain ⟨q, hq, hr⟩ := exists_of_bind_eq_ok (Prod.mk.inj hr).1
  rw [Path.resolved, Path.resolve_root _ hdots] at hq
  rcases hf : Path.fault? ⟨"/", names⟩ with _ | f <;> rw [hf] at hq
  · obtain rfl := Except.ok.inj hq
    have hgit : Path.fault? ⟨"/", names ++ [".git"]⟩ = none :=
      Path.fault?_root_concat hf (by decide)
    refine ⟨rfl, hgit, fun hlong => ?_⟩
    rw [rootAbove_eq_error (Tree.exists?_of_tooLong hgit hlong)] at hr
    cases hr
  · cases hq

/-- The innermost repository is what a search that has come to something has come to. -/
theorem isNearest_of_repositoryRoot (hg : h.tree.IsGrounded) (hdots : ".." ∉ names)
    (hr : (repositoryRoot ⟨"/", names⟩).outcome h = (.ok r, h)) :
    h.tree.IsNearest ".git" names r := by
  obtain ⟨hf, hl⟩ := canLookUp_of_repositoryRoot hdots hr
  have hresolve := Path.resolve_root h.directory hdots
  obtain ⟨r', hr', hnearest⟩ := repositoryRoot_of_canLookUp hg hf (by rw [hresolve]; exact hl)
  rw [hresolve] at hnearest
  obtain rfl := Except.ok.inj (Prod.mk.inj (hr.symm.trans hr')).1
  exact hnearest

/-- **The repository around a path stays as it is if nothing named as one is made**, as long as the
path is not refused now that more of it is there. -/
theorem repositoryRoot_kept {found : Bool} (hg : h.tree.IsGrounded) (hdots : ".." ∉ names)
    (hr : (repositoryRoot ⟨"/", names⟩).outcome h = (.ok r, h)) (ht : t.IsGrounded)
    (hsame : ∀ place, t.node? (place ++ [".git"]) = h.tree.node? (place ++ [".git"]))
    (hnear : t.isDirectory h.directory ⟨"/", names ++ [directoryName]⟩ = .ok found) :
    (repositoryRoot ⟨"/", names⟩).outcome { h with tree := t } =
      (.ok r, { h with tree := t }) := by
  obtain ⟨hf, hl⟩ := canLookUp_of_repositoryRoot hdots hr
  rw [Tree.canLookUp_root_iff] at hl
  have hnames : t.follow [] names ≠ .error .tooLong := by
    intro htoo
    have hfault : Path.fault? ⟨"/", names ++ [directoryName]⟩ = none :=
      Path.fault?_root_concat hf (by decide)
    have hplace : t.placeOf h.directory ⟨"/", names ++ [directoryName]⟩ = .error .tooLong := by
      rw [Tree.placeOf, Tree.join_root, Tree.follow_eq_tooLong_of_append htoo, ite_self]
    rw [Tree.isDirectory_of_tooLong hfault hplace] at hnear
    cases hnear
  have hl' : t.CanLookUp h.directory ⟨"/", names ++ [".git"]⟩ := by
    rw [Tree.canLookUp_root_iff, ne_eq, Tree.follow_concat_eq_tooLong_iff (by decide)]
    exact ⟨hl.1, hl.2.1, hnames⟩
  have hresolve := Path.resolve_root h.directory hdots
  have hkept := repositoryRoot_of_canLookUp (h := { h with tree := t }) ht hf
    (by rw [hresolve]; exact hl')
  obtain ⟨r', hr', hnearest⟩ := hkept
  rw [hresolve] at hnearest
  rw [hr', hnearest.unique ((isNearest_of_repositoryRoot hg hdots hr).congr hsame)]

/-! ### Looking for a store -/

/-- A search begins at a path that is written from the root and without double dots, and it begins
there whatever is on the host. -/
theorem start_eq_ok {here : Path} {g : Host ν} (hh : h.IsGrounded)
    (hs : (start s).outcome h = (.ok here, g)) :
    (∃ names, ".." ∉ names ∧ here = ⟨"/", names⟩) ∧
      ∀ t, (start s).outcome { h with tree := t } = (.ok here, { h with tree := t }) := by
  rcases s with _ | p
  · obtain rfl := Except.ok.inj (Prod.mk.inj hs).1
    exact ⟨Path.exists_of_resolve_eq hh.directory, fun _ => rfl⟩
  · have hp : h.directory.resolved p = .ok here := (Prod.mk.inj hs).1
    refine ⟨?_, fun t => Prod.ext hp rfl⟩
    unfold Path.resolved at hp
    split at hp
    · cases hp
    · obtain rfl := Except.ok.inj hp
      exact ⟨_, Path.not_mem_resolveNames _, rfl⟩

section LocalDirectory
variable {here root : Path} (hs : (start s).outcome h = (.ok here, h))
include hs

theorem outcome_localDirectory_of_error {e : Failure}
    (hn : h.tree.isDirectory h.directory (here.child directoryName) = .error e) :
    (localDirectory s).outcome h = (.error e, h) := by
  have hlook : (Host.isDirectory (here.child directoryName)).outcome h = (.error e, h) :=
    Prod.ext hn rfl
  rw [localDirectory, outcome_bind_ok hs, outcome_bind_error hlook]

theorem outcome_localDirectory_of_near
    (hn : h.tree.isDirectory h.directory (here.child directoryName) = .ok true) :
    (localDirectory s).outcome h = (.ok (some (here.child directoryName)), h) := by
  have hlook : (Host.isDirectory (here.child directoryName)).outcome h = (.ok true, h) :=
    Prod.ext hn rfl
  rw [localDirectory, outcome_bind_ok hs, outcome_bind_ok hlook]
  rfl

theorem outcome_localDirectory_of_root
    (hn : h.tree.isDirectory h.directory (here.child directoryName) = .ok false)
    (hr : (repositoryRoot here).outcome h = (.ok (some root), h))
    (hd : h.tree.isDirectory h.directory (root.child directoryName) = .ok true) :
    (localDirectory s).outcome h = (.ok (some (root.child directoryName)), h) := by
  have hlook : (Host.isDirectory (here.child directoryName)).outcome h = (.ok false, h) :=
    Prod.ext hn rfl
  have hfar : (Host.isDirectory (root.child directoryName)).outcome h = (.ok true, h) :=
    Prod.ext hd rfl
  rw [localDirectory, outcome_bind_ok hs, outcome_bind_ok hlook]
  simp only [Bool.false_eq_true, if_false]
  rw [outcome_bind_ok hr, outcome_bind_ok hfar]
  rfl

theorem exists_of_newDirectory {place : Path} (hp : (newDirectory s).outcome h = (.ok place, h)) :
    ∃ r, (repositoryRoot here).outcome h = (.ok r, h) ∧
      place = (r.getD here).child directoryName := by
  rw [newDirectory, outcome_bind_ok hs] at hp
  obtain ⟨r, hr, hp⟩ := (isRead_repositoryRoot here).exists_of_outcome_bind hp
  exact ⟨r, hr, (Except.ok.inj (Prod.mk.inj hp).1).symm⟩

end LocalDirectory

/-- A new store at the root of a repository is no repository. -/
theorem kept_of_makePath (hg : h.tree.IsGrounded) (hdots : ".." ∉ names)
    (hd : h.tree.node? names = some .directory)
    (hmake : h.tree.makePath h.directory ⟨"/", names ++ [directoryName]⟩ = (.ok (), t)) :
    t.IsGrounded ∧ ∀ place, t.node? (place ++ [".git"]) = h.tree.node? (place ++ [".git"]) := by
  have hmade := Tree.node?_of_makePath hg (by simpa [directoryName] using hdots) hd hmake
  refine ⟨hg.of_made hd hmade, fun place => ?_⟩
  rw [hmade, if_neg]
  exact fun e => absurd (List.append_inj' e rfl).2 (by decide)

/-- What `localDirectory` finds in a repository where a store was made. -/
theorem outcome_localDirectory_of_made {here root : Path} {d : Option Path}
    (hs : (start d).outcome { h with tree := t } = (.ok here, { h with tree := t }))
    (hr : ∀ found, t.isDirectory h.directory (here.child directoryName) = .ok found →
      (repositoryRoot here).outcome { h with tree := t } =
        (.ok (some root), { h with tree := t }))
    (hmake : h.tree.makePath h.directory (root.child directoryName) = (.ok (), t)) :
    (localDirectory d).outcome { h with tree := t } =
      ((t.isDirectory h.directory (here.child directoryName)).map fun found =>
        some (if found then here.child directoryName else root.child directoryName),
        { h with tree := t }) := by
  rcases hnear : t.isDirectory h.directory (here.child directoryName) with e | _ | _
  · exact outcome_localDirectory_of_error hs hnear
  · exact outcome_localDirectory_of_root hs hnear (hr _ hnear) (Tree.isDirectory_of_makePath hmake)
  · exact outcome_localDirectory_of_near hs hnear

/-- **Searches upwards come to the innermost repository, and new stores are found.** A search fails
only if its path is refused, for what it holds or as too long.  A store that is made where a new one
belongs is found from there, unless there is one in the directory itself, and from every path with
the same repository around it where there is none. -/
theorem new_stores_found (hh : h.IsGrounded) :
    (∀ p : Path,
      let q := h.directory.resolve p
      (∀ e, p.fault? = some e → (repositoryRoot p).outcome h = (.error e, h)) ∧
      (p.fault? = none → (q.child ".git").fault? = none →
        h.tree.placeOf h.directory (q.child ".git") = .error .tooLong →
        (repositoryRoot p).outcome h = (.error (.file .tooLong (q.child ".git").toText), h)) ∧
      (p.fault? = none → h.tree.CanLookUp h.directory (q.child ".git") →
        ∃ r, (repositoryRoot p).outcome h = (.ok r, h) ∧ h.tree.IsNearest ".git" q.names r ∧
          (∀ root, r = some root → h.tree.node? root.names = some .directory) ∧
          (r = none ↔ ∀ place, place <+: q.names → h.tree.node? (place ++ [".git"]) = none))) ∧
    ∀ (s : Option Path) (here place : Path) (t : Tree),
      (start s).outcome h = (.ok here, h) → (newDirectory s).outcome h = (.ok place, h) →
      h.tree.makePath h.directory place = (.ok (), t) →
      let h' : Host ν := { h with tree := t }
      let near := here.child directoryName
      (localDirectory s).outcome h' =
        ((t.isDirectory h.directory near).map fun found => some (if found then near else place),
          h') ∧
      ∀ root d there, (repositoryRoot here).outcome h = (.ok (some root), h) →
        (start (some d)).outcome h' = (.ok there, h') →
        (repositoryRoot there).outcome h' = (.ok (some root), h') →
        t.isDirectory h.directory (there.child directoryName) = .ok false →
        (localDirectory (some d)).outcome h' = (.ok (some place), h') := by
  constructor
  · intro p
    refine ⟨fun e => repositoryRoot_of_fault, repositoryRoot_of_tooLong, fun hp hl => ?_⟩
    obtain ⟨r, hr, hnearest⟩ := repositoryRoot_of_canLookUp hh.tree hp hl
    refine ⟨r, hr, hnearest, ?_, hnearest.eq_none_iff⟩
    rintro root rfl
    cases hnearest with
    | found hroot => exact hh.tree _ _ hroot.stands
  · intro s here place t hs hp hmake
    obtain ⟨⟨names, hdots, rfl⟩, hstart⟩ := start_eq_ok hh hs
    obtain ⟨r, hr, rfl⟩ := exists_of_newDirectory hs hp
    have hnearest := isNearest_of_repositoryRoot hh.tree hdots hr
    cases hnearest with
    | nothing hnone =>
      have hfound := Tree.isDirectory_of_makePath hmake
      constructor
      · rw [outcome_localDirectory_of_near (hstart t) hfound]
        simp only [Option.getD_none] at hfound
        simp only [hfound]
        rfl
      · intro root d there hroot
        cases hr.symm.trans hroot
    | found hroot =>
      obtain ⟨rest, hrest⟩ := hroot.above
      have hdots' : ".." ∉ _ := fun hm => hdots (hrest ▸ List.mem_append_left rest hm)
      obtain ⟨ht, hsame⟩ :=
        kept_of_makePath hh.tree hdots' (hh.tree _ _ hroot.stands) hmake
      constructor
      · exact outcome_localDirectory_of_made (hstart t)
          (fun found => repositoryRoot_kept hh.tree hdots hr ht hsame) hmake
      · intro root d there hroot' hd hrd hnear
        obtain rfl := Option.some.inj (Except.ok.inj (Prod.mk.inj (hr.symm.trans hroot')).1)
        rw [outcome_localDirectory_of_made hd (fun _ _ => hrd) hmake, hnear]
        rfl

/-- A host with a repository. -/
def gitHost : Host Unit where
  tree := [(["work"], .directory), (["work", ".git"], .directory), (["work", "src"], .directory)]
  directory := ⟨"/", ["work", "src"]⟩
  server := ()

theorem isGrounded_gitHost : gitHost.IsGrounded where
  tree := Tree.isGrounded_of_forall (by decide)
  directory := rfl

/-- A new store of the repository is found from its directories. -/
theorem new_stores_found_git :
    let store : Path := ⟨"/", ["work", ".directchats"]⟩
    let h' : Host Unit := { gitHost with tree := gitHost.tree.put store.names .directory }
    gitHost.IsGrounded ∧
      (repositoryRoot ⟨"", ["lib"]⟩).outcome gitHost = (.ok (some ⟨"/", ["work"]⟩), gitHost) ∧
      (newDirectory none).outcome gitHost = (.ok store, gitHost) ∧
      gitHost.tree.makePath gitHost.directory store = (.ok (), h'.tree) ∧
      (localDirectory none).outcome h' = (.ok (some store), h') ∧
      (localDirectory (some ⟨"", ["lib"]⟩)).outcome h' = (.ok (some store), h') := by
  intro store h'
  obtain ⟨hroots, hfinds⟩ := new_stores_found isGrounded_gitHost
  have hlook : gitHost.tree.CanLookUp gitHost.directory
      ⟨"/", ["work", "src", "lib", ".git"]⟩ := by
    constructor <;> decide +kernel
  have hwork : gitHost.tree.IsInnermost ".git" ["work", "src", "lib"] ["work"] :=
    by decide
  have hnew : (newDirectory none).outcome gitHost = (.ok store, gitHost) := rfl
  have hmake : gitHost.tree.makePath gitHost.directory store = (.ok (), h'.tree) := by
    decide +kernel
  obtain ⟨r, hr, hnearest, -, -⟩ := (hroots ⟨"", ["lib"]⟩).2.2 (by decide +kernel) hlook
  obtain ⟨hfound, hfar⟩ := hfinds none gitHost.directory store h'.tree rfl hnew hmake
  have hthere : (repositoryRoot ⟨"/", ["work", "src", "lib"]⟩).outcome h' =
      (.ok (some ⟨"/", ["work"]⟩), h') := Prod.ext (by decide +kernel) rfl
  refine ⟨isGrounded_gitHost, ?_, hnew, hmake, hfound.trans ?_, ?_⟩
  · rw [hr, hnearest.eq_some_iff.mpr hwork]
  · rfl
  · exact hfar ⟨"/", ["work"]⟩ ⟨"", ["lib"]⟩ ⟨"/", ["work", "src", "lib"]⟩ rfl rfl hthere rfl

/-- A path with a null character is refused, although there is a repository around it. -/
theorem refused_start :
    let p := Path.ofText "a\x00b"
    gitHost.IsGrounded ∧
      gitHost.tree.IsInnermost ".git" (gitHost.directory.resolve p).names ["work"] ∧
      (repositoryRoot p).outcome gitHost = (.error (.shape .value), gitHost) := by
  intro p
  refine ⟨isGrounded_gitHost, by decide, ?_⟩
  exact (isRead_repositoryRoot p).outcome_eq (by decide +kernel)

end Discovery

end PairChat
